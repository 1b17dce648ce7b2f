import Mathlib.Tactic.ByContra
import SourceOutline.Proofs.Document.Replace
import SourceOutline.Proofs.Document.Reopen

/-!
# What a change tells about the text

A change gives a range of characters and the number of characters that took their place. It describes
an edit when that is all that one needs besides the text afterwards (`Change.Describes`).

Every line carries the break behind it, but for the last one. So at the end of a document the break in
front of the range is the one that comes or goes with the range, and no change counts that break. Main
statement: a change describes its edit exactly when no break in front of the range comes or goes
(`replace_describes_iff`).
-/

namespace SourceOutline

/-- Whether the text after an edit is the one before, with the range that the change reports put in
the place of the old one. -/
def Change.Describes (change : Change) (before after : Text) : Prop :=
  after = before.take change.position.toNat ++
    (after.drop change.position.toNat).take change.newLength.toNat ++
    before.drop (change.position + change.oldLength).toNat

/-- Whether a text grows by as much as the change reports. -/
def Change.CountsGrowth (change : Change) (before after : Text) : Prop :=
  (after.length : Int) - before.length = change.newLength - change.oldLength

instance (change : Change) (before after : Text) : Decidable (change.Describes before after) :=
  inferInstanceAs (Decidable (after = _))

instance (change : Change) (before after : Text) : Decidable (change.CountsGrowth before after) :=
  inferInstanceAs (Decidable (_ = (_ : Int)))

namespace Document

variable {d : Document} {lines above old new below : List Text} {start stop : Int}

/-- Lines as one text, with a break between them. -/
def joined (lines : List Text) : Text := Text.joinWith ['\n'] lines

/-- Lines as one text, with a break behind each. -/
def ended (lines : List Text) : Text := lines.flatMap fun line => line ++ ['\n']

theorem length_ended (lines : List Text) : (ended lines).length = width lines := by
  unfold ended width
  induction lines with
  | nil => rfl
  | cons line rest ih =>
      rw [List.flatMap_cons, List.length_append, ih, List.length_append, List.length_singleton]
      rfl

theorem joined_append (hbelow : below ≠ []) (above : List Text) :
    joined (above ++ below) = ended above ++ joined below := by
  induction above with
  | nil => rfl
  | cons line rest ih =>
      obtain ⟨next, others, hnext⟩ := List.exists_cons_of_ne_nil
        (List.append_ne_nil_of_right_ne_nil rest hbelow)
      unfold joined Text.joinWith ended at ih ⊢
      rw [List.cons_append, hnext, List.intercalate_cons_cons, ← hnext, ih, List.flatMap_cons,
        List.append_assoc, List.append_assoc, List.append_assoc]

theorem length_joined (hlines : lines ≠ []) : (joined lines).length + 1 = width lines := by
  have hended := joined_append (List.cons_ne_nil [] []) lines
  have hbreak : joined (lines ++ [[]]) = joined lines ++ ['\n'] :=
    joinWith_append_empty hlines ['\n']
  rw [hbreak] at hended
  have hlength := congrArg List.length hended
  rw [List.length_append, List.length_append, length_ended] at hlength
  simpa [joined, Text.joinWith] using hlength

theorem spanLength_nil (followed : Bool) : spanLength [] followed = 0 := rfl

theorem spanLength_followed (lines : List Text) : spanLength lines true = (ended lines).length := by
  rw [length_ended]
  unfold spanLength
  cases lines with
  | nil => rfl
  | cons line rest => simp

theorem spanLength_last (hlines : lines ≠ []) : spanLength lines false = (joined lines).length := by
  have hlength := length_joined hlines
  unfold spanLength
  rw [if_neg (by simpa using hlines), if_neg Bool.false_ne_true]
  omega

/-! ## The parts of an edit -/

/-- An edit with the lines in front of it, those that it takes out and those behind it. -/
structure Edited (d : Document) (start stop : Int) (new above old below : List Text) : Prop where
  before : d.lines = above ++ old ++ below
  after : (d.replace start stop new).1.lines = orEmptyLine (above ++ new ++ below)
  start_eq : start = above.length
  stop_eq : stop = above.length + old.length
  position : (d.replace start stop new).2.position = width above
  oldLength : (d.replace start stop new).2.oldLength = spanLength old (!below.isEmpty)
  newLength : (d.replace start stop new).2.newLength = spanLength new (!below.isEmpty)
  lineDelta : (d.replace start stop new).2.lineDelta = new.length - old.length

theorem exists_edited (fits : d.Fits start stop) (new : List Text) :
    ∃ above old below, d.Edited start stop new above old below := by
  obtain ⟨first, last, rfl, rfl, hle, hlast⟩ := fits.exists_nat
  have hold : cutOut d.lines first last = (d.lines.take last).drop first := by
    unfold cutOut
    rw [Lines.cutAt_ofNat hlast, Lines.cutAt_ofNat (Nat.le_trans hle hlast)]
  have hcount : ((d.lines.take last).drop first).length = last - first := by
    rw [List.length_drop, List.length_take, Nat.min_eq_left hlast]
  have habove : (d.lines.take first).length = first := by
    rw [List.length_take, Nat.min_eq_left (Nat.le_trans hle hlast)]
  have hbelow : decide (last < d.lines.length) = !(d.lines.drop last).isEmpty := by
    rw [Bool.eq_iff_iff, decide_eq_true_iff, Bool.not_eq_true', List.isEmpty_eq_false_iff, Ne,
      List.drop_eq_nil_iff, Nat.not_le]
  refine ⟨d.lines.take first, (d.lines.take last).drop first, d.lines.drop last, ?_⟩
  constructor
  case before =>
    rw [show d.lines.take first = (d.lines.take last).take first by
      rw [List.take_take, Nat.min_eq_left hle], List.take_append_drop, List.take_append_drop]
  case after => rw [replace_lines, splice_ofNat hle hlast]
  case start_eq => omega
  case stop_eq => omega
  case position =>
    show d.offset first 0 = _
    unfold offset
    rw [Lines.cutAt_ofNat (Nat.le_trans hle hlast), Int.add_zero]
  case oldLength =>
    show spanLength (cutOut d.lines first last) (decide _) = _
    rw [hold, hcount, ← hbelow]
    congr 2
    rw [eq_iff_iff]
    omega
  case newLength =>
    show spanLength new (decide ((first : Int) + new.length <
      (orEmptyLine (splice d.lines first last new)).length)) = _
    -- without new lines the length is zero, also where an emptied document gets a line
    cases new with
    | nil => rw [spanLength_nil, spanLength_nil]
    | cons line rest =>
        rw [splice_ofNat hle hlast, orEmptyLine_of_ne_nil (by simp), List.length_append,
          List.length_append, habove, ← hbelow, List.length_drop]
        congr 2
        rw [eq_iff_iff]
        omega
  case lineDelta =>
    show (d.changeOf first last new).lineDelta = _
    rw [changeOf_lineDelta hle hlast, hcount]
    omega

/-! ## Edits that are described -/

/-- Whether the break in front of the edited lines stays: other lines follow, no line is in front,
or lines come where lines go. -/
def KeepsBreak (d : Document) (start stop : Int) (new : List Text) : Prop :=
  stop < d.lineCount ∨ start = 0 ∨ (start < stop ↔ new ≠ [])

theorem Edited.keepsBreak_iff (h : d.Edited start stop new above old below) :
    d.KeepsBreak start stop new ↔ below ≠ [] ∨ above = [] ∨ (old ≠ [] ↔ new ≠ []) := by
  have hcount := congrArg List.length h.before
  have hstart := h.start_eq
  have hstop := h.stop_eq
  rw [List.length_append, List.length_append] at hcount
  have hbelow : stop < d.lineCount ↔ below ≠ [] := by
    rw [← List.length_pos_iff, lineCount]
    omega
  have habove : start = 0 ↔ above = [] := by
    rw [← List.length_eq_zero_iff]
    omega
  have hold : start < stop ↔ old ≠ [] := by
    rw [← List.length_pos_iff]
    omega
  rw [KeepsBreak, hbelow, habove, hold]

/-- A change that reports what stands between two texts before and afterwards describes the edit. -/
theorem describes_of_parts (change : Change) (front taken put back : Text)
    (hposition : change.position = front.length) (hold : change.oldLength = taken.length)
    (hnew : change.newLength = put.length) :
    change.Describes (front ++ taken ++ back) (front ++ put ++ back) ∧
      change.CountsGrowth (front ++ taken ++ back) (front ++ put ++ back) := by
  constructor
  · unfold Change.Describes
    rw [hposition, hold, hnew, ← Int.natCast_add, Int.toNat_natCast, Int.toNat_natCast,
      Int.toNat_natCast, ← List.length_append, List.drop_left, List.append_assoc front,
      List.append_assoc front, List.take_left, List.drop_left, List.take_left, List.append_assoc]
  · unfold Change.CountsGrowth
    rw [hold, hnew]
    simp only [List.length_append]
    omega

/-- In front of other lines, all lines of an edit have their breaks behind them. -/
theorem Edited.describes_within (h : d.Edited start stop new above old below) (hbelow : below ≠ []) :
    (d.replace start stop new).2.Describes (joined d.lines)
        (joined (d.replace start stop new).1.lines) ∧
      (d.replace start stop new).2.CountsGrowth (joined d.lines)
        (joined (d.replace start stop new).1.lines) := by
  have hfollowed : (!below.isEmpty) = true := by simpa using hbelow
  have hposition := h.position
  have hold := h.oldLength
  have hnew := h.newLength
  rw [← length_ended] at hposition
  rw [hfollowed, spanLength_followed] at hold hnew
  have hbefore : joined d.lines = ended above ++ ended old ++ joined below := by
    rw [h.before, joined_append hbelow]
    simp [ended]
  have hafter : joined (d.replace start stop new).1.lines =
      ended above ++ ended new ++ joined below := by
    rw [h.after, orEmptyLine_of_ne_nil (by simp [hbelow]), joined_append hbelow]
    simp [ended]
  rw [hbefore, hafter]
  exact describes_of_parts _ _ _ _ _ hposition hold hnew

/-- At the end of a document, an edit that keeps the break in front of it is described. -/
theorem Edited.describes_end (h : d.Edited start stop new above old []) (hlines : d.lines ≠ [])
    (hkept : above = [] ∨ (old ≠ [] ↔ new ≠ [])) :
    (d.replace start stop new).2.Describes (joined d.lines)
        (joined (d.replace start stop new).1.lines) ∧
      (d.replace start stop new).2.CountsGrowth (joined d.lines)
        (joined (d.replace start stop new).1.lines) := by
  obtain ⟨hbefore, hafter, -, -, hposition, hold, hnew, -⟩ := h
  rw [List.append_nil] at hbefore hafter
  rw [hafter]
  rw [hbefore] at hlines ⊢
  by_cases hout : old = []
  · have hin : new = [] := by
      rcases hkept with rfl | hiff
      · exact absurd hout (by simpa using hlines)
      · by_contra hin
        exact hiff.mpr hin hout
    subst hout hin
    rw [List.append_nil] at hlines ⊢
    have hwidth := length_joined hlines
    rw [orEmptyLine_of_ne_nil hlines]
    -- nothing is taken out or put in, and the place of that is behind the end of the text
    unfold Change.Describes Change.CountsGrowth
    rw [hposition, hold, hnew, spanLength_nil, Int.add_zero, Int.toNat_natCast]
    constructor
    · rw [List.take_of_length_le (by omega), List.drop_eq_nil_of_le (by omega)]
      simp
    · omega
  · by_cases hin : new = []
    · have habove : above = [] := by
        rcases hkept with habove | hiff
        · exact habove
        · exact absurd hin (hiff.mp hout)
      subst hin habove
      have hend := describes_of_parts (d.replace start stop []).2 [] (joined old) [] []
        hposition (hold.trans (spanLength_last hout)) hnew
      rw [show joined (orEmptyLine ([] ++ [])) = [] from rfl]
      simpa using hend
    · have hend := describes_of_parts (d.replace start stop new).2 (ended above)
        (joined old) (joined new) [] (by rw [hposition, length_ended])
        (hold.trans (spanLength_last hout)) (hnew.trans (spanLength_last hin))
      rw [orEmptyLine_of_ne_nil (by simp [hin]), joined_append hin, joined_append hout]
      simpa using hend

theorem not_describes_of_length {change : Change} {before after : Text} {position taken put : Nat}
    (hposition : change.position = position) (hold : change.oldLength = taken)
    (hnew : change.newLength = put)
    (hlength : after.length ≠ min position before.length + min put (after.length - position) +
      (before.length - (position + taken))) :
    ¬change.Describes before after := by
  intro hdescribes
  have hlengths := congrArg List.length hdescribes
  rw [hposition, hold, hnew, ← Int.natCast_add] at hlengths
  simp only [Int.toNat_natCast, List.length_append, List.length_take, List.length_drop] at hlengths
  exact hlength hlengths

/-- At the end of a document, the break in front of an edit that comes or goes is not counted. -/
theorem Edited.not_describes_end (h : d.Edited start stop new above old []) (habove : above ≠ [])
    (hmoved : ¬(old ≠ [] ↔ new ≠ [])) :
    ¬(d.replace start stop new).2.Describes (joined d.lines)
        (joined (d.replace start stop new).1.lines) ∧
      ¬(d.replace start stop new).2.CountsGrowth (joined d.lines)
        (joined (d.replace start stop new).1.lines) := by
  obtain ⟨hbefore, hafter, -, -, hposition, hold, hnew, -⟩ := h
  rw [List.append_nil] at hbefore hafter
  rw [hafter, hbefore]
  have hwidth := length_joined habove
  have hended := length_ended above
  by_cases hout : old = []
  · -- lines are put behind the last one, whose break is new
    have hin : new ≠ [] := by
      rintro rfl
      exact hmoved (by simp [hout])
    subst hout
    have hnew := hnew.trans (spanLength_last hin)
    rw [List.append_nil, orEmptyLine_of_ne_nil (by simp [hin]), joined_append hin]
    constructor
    · refine not_describes_of_length hposition hold hnew ?_
      rw [List.length_append]
      omega
    · unfold Change.CountsGrowth
      rw [hold, hnew, spanLength_nil, List.length_append]
      omega
  · -- the last lines are taken out, and the break in front of them goes, too
    have hin : new = [] := by
      by_contra hin
      exact hmoved (by simp [hout, hin])
    subst hin
    have hold := hold.trans (spanLength_last hout)
    rw [List.append_nil, orEmptyLine_of_ne_nil habove, joined_append hout]
    constructor
    · refine not_describes_of_length hposition hold hnew ?_
      rw [List.length_append]
      omega
    · unfold Change.CountsGrowth
      rw [hold, hnew, spanLength_nil, List.length_append]
      omega

/-- Only when a document is emptied, the change does not know of the empty line that it gets. -/
theorem Edited.lineCount_iff (h : d.Edited start stop new above old below)
    (hlines : d.lines ≠ []) :
    (d.replace start stop new).1.lineCount - d.lineCount =
        (d.replace start stop new).2.lineDelta ↔
      ¬(start = 0 ∧ stop = d.lineCount ∧ new = []) := by
  have hbefore := congrArg List.length h.before
  have hpositive := List.length_pos_iff.mpr hlines
  have hstart := h.start_eq
  have hstop := h.stop_eq
  rw [List.length_append, List.length_append] at hbefore
  rw [h.lineDelta]
  unfold lineCount
  rw [h.after]
  by_cases hempty : above ++ new ++ below = []
  · have hafter : (orEmptyLine (above ++ new ++ below)).length = 1 := by
      rw [hempty]
      rfl
    rw [hafter]
    simp only [List.append_eq_nil_iff] at hempty
    obtain ⟨⟨rfl, rfl⟩, rfl⟩ := hempty
    simp only [List.length_nil] at *
    constructor
    · intro hcount
      omega
    · intro hnot
      exact absurd ⟨by omega, by omega, trivial⟩ hnot
  · rw [orEmptyLine_of_ne_nil hempty, List.length_append, List.length_append]
    constructor
    · rintro - ⟨hfirst, hlast, rfl⟩
      have habove : above = [] := List.length_eq_zero_iff.mp (by omega)
      have hbelow : below = [] := List.length_eq_zero_iff.mp (by omega)
      rw [habove, hbelow] at hempty
      exact hempty rfl
    · intro _
      omega

/-- **What a change tells of an edit.** The text before, the range that is reported and the text
afterwards agree exactly when the edit keeps the break in front of it; so do the numbers of
characters. The numbers of lines agree unless the document is emptied. -/
theorem replace_describes_iff (hlines : d.lines ≠ []) (fits : d.Fits start stop)
    (new : List Text) :
    let after := (d.replace start stop new).1
    let change := (d.replace start stop new).2
    (change.Describes (joined d.lines) (joined after.lines) ↔ d.KeepsBreak start stop new) ∧
      (change.CountsGrowth (joined d.lines) (joined after.lines) ↔
        d.KeepsBreak start stop new) ∧
      (after.lineCount - d.lineCount = change.lineDelta ↔
        ¬(start = 0 ∧ stop = d.lineCount ∧ new = [])) := by
  obtain ⟨above, old, below, h⟩ := exists_edited fits new
  intro after change
  rw [h.keepsBreak_iff]
  by_cases hbelow : below = []
  · subst hbelow
    rw [or_iff_right (fun hne => hne rfl)]
    by_cases hkept : above = [] ∨ (old ≠ [] ↔ new ≠ [])
    · obtain ⟨hdescribes, hgrowth⟩ := h.describes_end hlines hkept
      exact ⟨iff_of_true hdescribes hkept, iff_of_true hgrowth hkept, h.lineCount_iff hlines⟩
    · obtain ⟨habove, hmoved⟩ := not_or.mp hkept
      obtain ⟨hdescribes, hgrowth⟩ := h.not_describes_end habove hmoved
      exact ⟨iff_of_false hdescribes hkept, iff_of_false hgrowth hkept, h.lineCount_iff hlines⟩
  · obtain ⟨hdescribes, hgrowth⟩ := h.describes_within hbelow
    exact ⟨iff_of_true hdescribes (Or.inl hbelow), iff_of_true hgrowth (Or.inl hbelow),
      h.lineCount_iff hlines⟩

/-- A line in the middle that is replaced by two. -/
theorem replace_describes_iff_middle :
    let d : Document := { lines := ["a".toList, "bb".toList, "c".toList] }
    d.lines ≠ [] ∧ d.Fits 1 2 ∧ d.KeepsBreak 1 2 ["x".toList, "y".toList] ∧
      (d.replace 1 2 ["x".toList, "y".toList]).2.Describes (joined d.lines)
        (joined (d.replace 1 2 ["x".toList, "y".toList]).1.lines) := by
  refine ⟨by decide, by decide, Or.inl (by decide), ?_⟩
  exact (@replace_describes_iff { lines := ["a".toList, "bb".toList, "c".toList] } 1 2 (by decide)
    (by decide) ["x".toList, "y".toList]).1.mpr (Or.inl (by decide))

/-- The last line is deleted: the change reports one character of the two that are gone, behind the
end of the text. -/
theorem deleteLines_not_describes :
    let d : Document := { lines := ["a".toList, "b".toList] }
    d.Fits 1 2 ∧
      ¬(d.deleteLines 1 2).2.Describes (joined d.lines) (joined (d.deleteLines 1 2).1.lines) ∧
      ¬(d.deleteLines 1 2).2.CountsGrowth (joined d.lines)
        (joined (d.deleteLines 1 2).1.lines) := by
  decide

end Document

end SourceOutline
