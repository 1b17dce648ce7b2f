import SourceOutline.Proofs.Document.Replace
import SourceOutline.Proofs.Text.Unbroken

/-!
# Writing and reading a document

A document can be stored when its lines are unbroken, its line break is one of the three there are,
and its last line is not empty unless a break follows it or it is the only line. Reading back what
such a document is written as gives the same lines again (`Storable.reopen`), and every document
that is read from a text can be stored (`storable_ofText`).
-/

namespace SourceOutline

namespace Document

def lineBreaks : List Text := [['\n'], ['\r'], ['\r', '\n']]

/-- Whether lines can be written without a break behind the last one and be told from those without
it. -/
def EndsOpen (lines : List Text) : Prop := lines.length = 1 ∨ lines.getLast? ≠ some []

/-- Whether a document can be written and read back. -/
structure Storable (d : Document) : Prop where
  lines_ne_nil : d.lines ≠ []
  unbroken : ∀ line ∈ d.lines, Text.Unbroken line
  lineBreak_mem : d.lineBreak ∈ lineBreaks
  endsOpen : d.endsWithBreak = false → EndsOpen d.lines

variable {d : Document} {text line lineBreak rest : Text} {lines : List Text}

theorem EndsOpen.getLast?_ne (h : EndsOpen lines) (hne : lines ≠ [[]]) :
    lines.getLast? ≠ some [] := by
  rcases h with hlength | hvisible
  · obtain ⟨only, rfl⟩ := List.length_eq_one_iff.mp hlength
    intro hnil
    cases hnil
    exact hne rfl
  · exact hvisible

theorem Storable.setPoint (h : d.Storable) (point : Point) : (d.setPoint point).Storable :=
  ⟨h.lines_ne_nil, h.unbroken, h.lineBreak_mem, h.endsOpen⟩

/-! ## Splitting joined lines -/

/-- An unbroken text in front of a split text makes its first line longer. -/
theorem foldr_cons_unbroken (h : line.Unbroken) (s : LineSplit) :
    ∃ atLineFeed, line.foldr LineSplit.cons s =
        { first := line ++ s.first, others := s.others, atLineFeed } ∧
      (s.atLineFeed = false → atLineFeed = false) := by
  induction line with
  | nil => exact ⟨s.atLineFeed, rfl, id⟩
  | cons c line ih =>
      rw [Text.unbroken_cons] at h
      obtain ⟨hc, hline⟩ := h
      obtain ⟨atLineFeed, hfold, -⟩ := ih hline
      unfold isLineBreak at hc
      rw [Bool.or_eq_false_iff] at hc
      refine ⟨false, ?_, fun _ => rfl⟩
      rw [List.foldr_cons, hfold, LineSplit.cons, if_neg (by simp [hc.1]), if_neg (by simp [hc.2])]
      rfl

/-- A line break in front of a split text puts an empty line there. A carriage return by itself must
not meet a line feed. -/
theorem foldr_cons_lineBreak (h : lineBreak ∈ lineBreaks) (s : LineSplit)
    (hs : lineBreak = ['\r'] → s.atLineFeed = false) :
    ∃ atLineFeed, lineBreak.foldr LineSplit.cons s =
        { others := s.first :: s.others, atLineFeed } ∧
      (lineBreak = ['\r'] → atLineFeed = false) := by
  unfold lineBreaks at h
  simp only [List.mem_cons, List.not_mem_nil, or_false] at h
  rcases h with rfl | rfl | rfl
  · exact ⟨true, rfl, fun h => by cases h⟩
  · refine ⟨false, ?_, fun _ => rfl⟩
    show (if s.atLineFeed then { s with atLineFeed := false }
      else ({ others := s.first :: s.others } : LineSplit)) = _
    rw [hs rfl, if_neg (by simp)]
  · exact ⟨false, rfl, fun _ => rfl⟩

/-- **Splitting a text into lines undoes joining them.** -/
theorem splitLines_joinWith (hbreak : lineBreak ∈ lineBreaks) (hlines : lines ≠ [])
    (unbroken : ∀ line ∈ lines, Text.Unbroken line) :
    splitLines (Text.joinWith lineBreak lines) = lines := by
  -- whether a line feed stands in front matters to a carriage return only
  have hfold : ∀ line rest, (∀ other ∈ line :: rest, Text.Unbroken other) →
      ∃ atLineFeed, (Text.joinWith lineBreak (line :: rest)).foldr LineSplit.cons {} =
          { first := line, others := rest, atLineFeed } ∧
        (lineBreak = ['\r'] → atLineFeed = false) := by
    intro line rest hall
    induction rest generalizing line with
    | nil =>
        obtain ⟨atLineFeed, hsplit, hfeed⟩ := foldr_cons_unbroken (hall line List.mem_cons_self) {}
        refine ⟨atLineFeed, ?_, fun _ => hfeed rfl⟩
        unfold Text.joinWith
        rw [List.intercalate_singleton, hsplit, List.append_nil]
    | cons next rest ih =>
        obtain ⟨feedBelow, hbelow, hquiet⟩ := ih next fun other hother =>
          hall other (List.mem_cons_of_mem line hother)
        obtain ⟨_, hmiddle, hquiet⟩ := foldr_cons_lineBreak hbreak
          { first := next, others := rest, atLineFeed := feedBelow } hquiet
        obtain ⟨atLineFeed, hsplit, hfeed⟩ := foldr_cons_unbroken (hall line List.mem_cons_self)
          (lineBreak.foldr LineSplit.cons
            ((Text.joinWith lineBreak (next :: rest)).foldr LineSplit.cons {}))
        rw [hbelow, hmiddle] at hfeed hsplit
        refine ⟨atLineFeed, ?_, fun h => hfeed (hquiet h)⟩
        unfold Text.joinWith at hbelow ⊢
        rw [List.intercalate_cons_cons, List.foldr_append, List.foldr_append, hbelow, hmiddle,
          hsplit, List.append_nil]
  cases lines with
  | nil => exact absurd rfl hlines
  | cons line rest =>
      obtain ⟨_, hsplit, -⟩ := hfold line rest unbroken
      unfold splitLines
      dsimp only
      rw [hsplit]

/-! ## The first line break -/

theorem firstBreak?_append_of_unbroken (h : line.Unbroken) (rest : Text) :
    firstBreak? (line ++ rest) = firstBreak? rest := by
  induction line with
  | nil => rfl
  | cons c line ih =>
      rw [Text.unbroken_cons] at h
      obtain ⟨hc, hline⟩ := h
      unfold isLineBreak at hc
      simp only [Bool.or_eq_false_iff, beq_eq_false_iff_ne] at hc
      obtain ⟨hfeed, hreturn⟩ := hc
      rw [List.cons_append, firstBreak?, ih hline]
      · exact fun _ h _ => hreturn h
      · exact hreturn
      · exact hfeed

theorem firstBreak?_lineBreak_append (h : lineBreak ∈ lineBreaks)
    (hrest : lineBreak = ['\r'] → rest.head? ≠ some '\n') :
    firstBreak? (lineBreak ++ rest) = some lineBreak := by
  unfold lineBreaks at h
  simp only [List.mem_cons, List.not_mem_nil, or_false] at h
  rcases h with rfl | rfl | rfl
  · rfl
  · cases rest with
    | nil => rfl
    | cons c rest =>
        have hc : c ≠ '\n' := by
          rintro rfl
          exact hrest rfl rfl
        rw [List.cons_append, List.nil_append, firstBreak?]
        intro other hother
        cases hother
        exact hc rfl
  · rfl

/-- Behind a carriage return stands the next line, or the carriage return behind that one. -/
theorem head?_intercalate_return (h : line.Unbroken) (lines : List Text) :
    (List.intercalate ['\r'] (line :: lines)).head? ≠ some '\n' := by
  cases lines with
  | nil =>
      rw [List.intercalate_singleton]
      cases line with
      | nil => exact fun h => by cases h
      | cons c line =>
          rintro hhead
          cases hhead
          cases (Text.unbroken_cons.mp h).1
  | cons other rest =>
      rw [List.intercalate_cons_cons]
      cases line with
      | nil => exact fun h => by cases h
      | cons c line =>
          rintro hhead
          cases hhead
          cases (Text.unbroken_cons.mp h).1

theorem mem_lineBreaks_of_firstBreak? (h : firstBreak? text = some lineBreak) :
    lineBreak ∈ lineBreaks := by
  induction text with
  | nil => cases h
  | cons c text ih =>
      unfold firstBreak? at h
      split at h
      · cases h
      · cases h
        simp [lineBreaks]
      · cases h
        simp [lineBreaks]
      · cases h
        simp [lineBreaks]
      · rename_i heq
        cases heq
        exact ih h

/-! ## Reading -/

theorem splitLines_unbroken (text : Text) : ∀ line ∈ splitLines text, Text.Unbroken line := by
  have hfold : (text.foldr LineSplit.cons {}).first.Unbroken ∧
      ∀ line ∈ (text.foldr LineSplit.cons {}).others, Text.Unbroken line := by
    induction text with
    | nil => exact ⟨Text.unbroken_nil, fun _ h => by cases h⟩
    | cons c text ih =>
        obtain ⟨hfirst, hothers⟩ := ih
        rw [List.foldr_cons]
        generalize text.foldr LineSplit.cons {} = s at hfirst hothers ⊢
        have hall : ∀ line ∈ s.first :: s.others, Text.Unbroken line :=
          List.forall_mem_cons.mpr ⟨hfirst, hothers⟩
        unfold LineSplit.cons
        split
        · exact ⟨Text.unbroken_nil, hall⟩
        · split
          · split
            · exact ⟨hfirst, hothers⟩
            · exact ⟨Text.unbroken_nil, hall⟩
          · rename_i hfeed hreturn
            refine ⟨Text.unbroken_cons.mpr ⟨?_, hfirst⟩, hothers⟩
            unfold isLineBreak
            rw [Bool.eq_false_iff.mpr hfeed, Bool.eq_false_iff.mpr hreturn]
            rfl
  exact List.forall_mem_cons.mpr hfold

theorem mem_orEmptyLine (h : line ∈ orEmptyLine lines) : line = [] ∨ line ∈ lines := by
  unfold orEmptyLine at h
  split at h
  · exact Or.inl (List.mem_singleton.mp h)
  · exact Or.inr h

/-- **Every document that is read can be stored.** -/
theorem storable_ofText (text : Text) (language : Option Language) (name : Option Text) :
    (ofText text language name).Storable where
  lines_ne_nil := orEmptyLine_ne_nil
  unbroken := by
    intro line hline
    rcases mem_orEmptyLine hline with rfl | hline
    · exact Text.unbroken_nil
    · refine splitLines_unbroken text line ?_
      split at hline
      · exact (List.dropLast_sublist _).subset hline
      · exact hline
  lineBreak_mem := by
    show (firstBreak? text).getD ['\n'] ∈ lineBreaks
    cases hbreak : firstBreak? text with
    | none => exact List.mem_cons_self
    | some lineBreak => exact mem_lineBreaks_of_firstBreak? hbreak
  endsOpen := by
    intro hends
    have hne : splitLines text ≠ [] := List.cons_ne_nil _ _
    have hpos := List.length_pos_iff.mpr hne
    have hends : (decide (1 < (splitLines text).length) && (splitLines text).getLast? == some [])
      = false := hends
    show EndsOpen (orEmptyLine (if (decide (1 < (splitLines text).length) &&
      (splitLines text).getLast? == some []) = true then (splitLines text).dropLast
      else splitLines text))
    rw [hends, if_neg (by simp), orEmptyLine_of_ne_nil hne]
    rw [Bool.and_eq_false_iff, decide_eq_false_iff_not, beq_eq_false_iff_ne] at hends
    rcases hends with hlength | hlast
    · exact Or.inl (by omega)
    · exact Or.inr hlast

theorem pointInside_ofText (text : Text) (language : Option Language) (name : Option Text) :
    (ofText text language name).PointInside := by
  have hpos := List.length_pos_iff.mpr (storable_ofText text language name).lines_ne_nil
  exact pointInside_iff.mpr ⟨0, 0, _, rfl, List.getElem?_eq_getElem hpos, Nat.zero_le _⟩

/-! ## Reading what was written -/

/-- A line break behind the last line is an empty line behind it. -/
theorem joinWith_append_empty (hlines : lines ≠ []) (lineBreak : Text) :
    Text.joinWith lineBreak (lines ++ [[]]) = Text.joinWith lineBreak lines ++ lineBreak := by
  unfold Text.joinWith
  induction lines with
  | nil => exact absurd rfl hlines
  | cons line rest ih =>
      cases rest with
      | nil =>
          rw [List.singleton_append, List.intercalate_cons_cons, List.intercalate_singleton,
            List.intercalate_singleton, List.append_nil]
      | cons next rest =>
          have hnext := ih (List.cons_ne_nil next rest)
          rw [List.cons_append] at hnext
          rw [List.cons_append, List.cons_append, List.intercalate_cons_cons, hnext,
            List.intercalate_cons_cons, List.append_assoc (line ++ lineBreak)]

def writtenLines (d : Document) : List Text :=
  d.lines ++ if d.endsWithBreak then [[]] else []

theorem text_eq (h : d.lines ≠ []) : d.text = Text.joinWith d.lineBreak d.writtenLines := by
  unfold Document.text writtenLines
  dsimp only
  cases d.endsWithBreak with
  | false => rw [if_neg (by simp), if_neg (by simp), List.append_nil]
  | true => rw [if_pos rfl, if_pos rfl, joinWith_append_empty h]

theorem Storable.writtenLines_unbroken (h : d.Storable) :
    ∀ line ∈ d.writtenLines, Text.Unbroken line := by
  intro line hline
  rcases List.mem_append.mp hline with hline | hline
  · exact h.unbroken line hline
  · split at hline
    · rw [List.mem_singleton] at hline
      rw [hline]
      exact Text.unbroken_nil
    · cases hline

theorem Storable.splitLines_text (h : d.Storable) : splitLines d.text = d.writtenLines := by
  rw [text_eq h.lines_ne_nil]
  refine splitLines_joinWith h.lineBreak_mem ?_ h.writtenLines_unbroken
  intro hnil
  exact h.lines_ne_nil (List.append_eq_nil_iff.mp hnil).1

/-- Whether a break follows the last line can be seen from the lines of the text. -/
theorem Storable.ends_eq (h : d.Storable) :
    (decide (1 < d.writtenLines.length) && d.writtenLines.getLast? == some []) =
      d.endsWithBreak := by
  have hpos := List.length_pos_iff.mpr h.lines_ne_nil
  unfold writtenLines
  cases hends : d.endsWithBreak with
  | true =>
      rw [if_pos rfl, List.getLast?_concat, List.length_append, List.length_singleton,
        decide_eq_true (by omega)]
      rfl
  | false =>
      rw [if_neg (by simp), List.append_nil, Bool.and_eq_false_iff, decide_eq_false_iff_not,
        beq_eq_false_iff_ne]
      rcases h.endsOpen hends with hlength | hlast
      · exact Or.inl (by omega)
      · exact Or.inr hlast

/-- The first line break of a text that has one. -/
theorem Storable.firstBreak?_text (h : d.Storable) (hbreak : ∃ c ∈ d.text, isLineBreak c = true) :
    firstBreak? d.text = some d.lineBreak := by
  have hunbroken := h.writtenLines_unbroken
  rw [text_eq h.lines_ne_nil] at hbreak ⊢
  unfold Text.joinWith at hbreak ⊢
  cases hlines : d.writtenLines with
  | nil =>
      rw [hlines] at hbreak
      obtain ⟨c, hc, -⟩ := hbreak
      cases hc
  | cons line rest =>
      rw [hlines] at hbreak hunbroken
      cases rest with
      | nil =>
          obtain ⟨c, hc, hc'⟩ := hbreak
          rw [List.intercalate_singleton] at hc
          rw [hunbroken line List.mem_cons_self c hc] at hc'
          cases hc'
      | cons next rest =>
          rw [List.intercalate_cons_cons, List.append_assoc,
            firstBreak?_append_of_unbroken (hunbroken line List.mem_cons_self)]
          refine firstBreak?_lineBreak_append h.lineBreak_mem ?_
          intro hreturn
          rw [hreturn]
          exact head?_intercalate_return
            (hunbroken next (List.mem_cons_of_mem line List.mem_cons_self)) rest

/-- **What a document is written as is read back as the same lines.** -/
theorem Storable.reopen (h : d.Storable) (language : Option Language) (name : Option Text) :
    (ofText d.text language name).lines = d.lines ∧
      (ofText d.text language name).endsWithBreak = d.endsWithBreak ∧
      ((∃ c ∈ d.text, isLineBreak c = true) →
        (ofText d.text language name).lineBreak = d.lineBreak) := by
  refine ⟨?_, ?_, ?_⟩
  · unfold ofText
    dsimp only
    rw [h.splitLines_text, h.ends_eq]
    unfold writtenLines
    cases d.endsWithBreak with
    | true =>
        rw [if_pos rfl, if_pos rfl, List.dropLast_concat, orEmptyLine_of_ne_nil h.lines_ne_nil]
    | false =>
        rw [if_neg (by simp), if_neg (by simp), List.append_nil,
          orEmptyLine_of_ne_nil h.lines_ne_nil]
  · unfold ofText
    dsimp only
    rw [h.splitLines_text, h.ends_eq]
  · intro hbreak
    unfold ofText
    dsimp only
    rw [h.firstBreak?_text hbreak, Option.getD_some]

end Document

end SourceOutline
