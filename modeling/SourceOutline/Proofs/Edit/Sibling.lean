import SourceOutline.Proofs.Edit.Spot

/-!
# Blank lines in front of inserted headings

Under the automatic policy a blank line goes in front of an inserted heading when the closest
sibling above it has one. The search for the sibling starts above the lines that the insertion takes
(`siblingHasBlank_iff`), so of a heading that is split it does not see the part that stays. Main
statement: the insertion follows the sibling in the new document, unless that part is a heading that
is not deeper and the search has come to something else above it (`run_insertHeading_blank_iff`).
-/

namespace SourceOutline

namespace Convention

variable {conv : Convention} {lines lines' : List Text} {line above : Text} {level other : Int}
  {i m first : Nat}

/-! ## Siblings above a line -/

/-- Whether line `i` is the closest sibling above line `m` of a heading on some level: the nearest
heading that is not deeper is on that level. -/
structure Sibling (conv : Convention) (lines : List Text) (level : Int) (i m : Nat) : Prop where
  heading : conv.headingLevel? lines i = some level
  above : i < m
  deeper : ∀ k, i < k → k < m → ∀ other, conv.headingLevel? lines k = some other → level < other

/-- Whether the closest sibling above a line has a blank line right above it. -/
def SetOff (conv : Convention) (lines : List Text) (level : Int) (m : Nat) : Prop :=
  ∃ i above, conv.Sibling lines level (i + 1) m ∧ lines[i]? = some above ∧
    above.isBlankText = true

theorem setOff_congr (h : ∀ i < m, lines'[i]? = lines[i]?) :
    conv.SetOff lines' level m ↔ conv.SetOff lines level m := by
  have hlevel : ∀ i < m, conv.headingLevel? lines' i = conv.headingLevel? lines i := by
    intro i hi
    unfold headingLevel?
    rw [h i hi]
  constructor
  · rintro ⟨i, above, ⟨hheading, hi, hdeeper⟩, habove, hblank⟩
    refine ⟨i, above, ⟨hlevel _ hi ▸ hheading, hi, ?_⟩, h i (by omega) ▸ habove, hblank⟩
    intro k hik hk
    exact hlevel k hk ▸ hdeeper k hik hk
  · rintro ⟨i, above, ⟨hheading, hi, hdeeper⟩, habove, hblank⟩
    refine ⟨i, above, ⟨(hlevel _ hi).trans hheading, hi, ?_⟩, (h i (by omega)).trans habove, hblank⟩
    intro k hik hk
    exact (hlevel k hk).symm ▸ hdeeper k hik hk

/-- Deeper headings and other lines do not matter. -/
theorem setOff_iff_of_deeper (hle : first ≤ m) (h : ∀ k, first ≤ k → k < m →
    ∀ other, conv.headingLevel? lines k = some other → level < other) :
    conv.SetOff lines level m ↔ conv.SetOff lines level first := by
  constructor
  · rintro ⟨i, above, ⟨hheading, hi, hdeeper⟩, habove⟩
    have hlt : i + 1 < first := by
      by_contra hge
      have := h (i + 1) (by omega) hi level hheading
      omega
    exact ⟨i, above, ⟨hheading, hlt, fun k hik hk => hdeeper k hik (by omega)⟩, habove⟩
  · rintro ⟨i, above, ⟨hheading, hi, hdeeper⟩, habove⟩
    refine ⟨i, above, ⟨hheading, by omega, fun k hik hk => ?_⟩, habove⟩
    rcases Nat.lt_or_ge k first with hlt | hge
    · exact hdeeper k hik hlt
    · exact h k hge hk

/-- The search ends at a heading that is not deeper: the sibling, or the parent. -/
theorem setOff_succ_iff (h : conv.headingLevel? lines m = some other) (hle : other ≤ level) :
    conv.SetOff lines level (m + 1) ↔ other = level ∧
      ∃ i above, m = i + 1 ∧ lines[i]? = some above ∧ above.isBlankText = true := by
  constructor
  · rintro ⟨i, above, ⟨hheading, hi, hdeeper⟩, habove, hblank⟩
    rcases Nat.eq_or_lt_of_le (Nat.le_of_lt_succ hi) with rfl | hlt
    · rw [h] at hheading
      cases hheading
      exact ⟨rfl, i, above, rfl, habove, hblank⟩
    · have := hdeeper m hlt (Nat.lt_succ_self m) other h
      omega
  · rintro ⟨rfl, i, above, rfl, habove, hblank⟩
    exact ⟨i, above, ⟨h, Nat.lt_succ_self _, fun k hik hk => by omega⟩, habove, hblank⟩

/-- **What the search upwards finds.** -/
theorem siblingHasBlank_iff (hm : m ≤ lines.length) :
    Document.siblingHasBlank conv level (lines.take m).reverse = true ↔
      conv.SetOff lines level m := by
  induction m with
  | zero =>
      rw [List.take_zero]
      refine iff_of_false (by simp [Document.siblingHasBlank]) ?_
      rintro ⟨i, above, hsibling, -⟩
      exact Nat.not_lt_zero _ hsibling.above
  | succ m ih =>
      have hget : lines[m]? = some lines[m] := List.getElem?_eq_getElem (by omega)
      have hread : conv.headingLevel? lines m = _ := headingLevel?_of_get hget
      rw [List.take_add_one, hget, Option.toList_some, List.reverse_append, List.reverse_singleton,
        List.singleton_append, Document.siblingHasBlank]
      -- a line that is passed over
      have hskip : (∀ other, conv.headingLevel? lines m = some other → level < other) →
          (Document.siblingHasBlank conv level (lines.take m).reverse = true ↔
            conv.SetOff lines level (m + 1)) := by
        intro hdeeper
        rw [ih (by omega), setOff_iff_of_deeper (Nat.le_succ m)]
        intro k hmk hk
        obtain rfl : k = m := by omega
        exact hdeeper
      cases hlevel : conv.level? lines[m] with
      | none =>
          rw [hlevel] at hread
          refine hskip fun other hother => ?_
          rw [hread] at hother
          cases hother
      | some other =>
          rw [hlevel] at hread
          dsimp only
          split
          · rename_i hlt
            refine hskip fun found hfound => ?_
            rw [hread] at hfound
            cases hfound
            exact hlt
          rename_i hnot
          rw [setOff_succ_iff hread (Int.not_lt.mp hnot)]
          split
          · rename_i hlt
            exact iff_of_false Bool.false_ne_true fun h => by omega
          · rename_i hge
            rw [List.head?_reverse, and_iff_right (show other = level by omega)]
            cases m with
            | zero => simp
            | succ m =>
                rw [List.getLast?_take, if_neg (Nat.succ_ne_zero m), Nat.add_sub_cancel,
                  List.getElem?_eq_getElem (by omega)]
                simp [List.getElem?_eq_getElem (show m < lines.length by omega)]

end Convention

/-! ## Siblings of an inserted heading -/

namespace Document

variable {d d' : Document} {conv : Convention} {n c k first last : Nat} {line opening : Text}
  {respectContent blank : Bool} {spot : InsertionSpot} {level own : Int}

/-- The level of the part that stays of a heading that is split. -/
def InsertionSpot.keptLevel? (conv : Convention) (spot : InsertionSpot) : Option Int :=
  spot.kept.head?.bind conv.level?

/-- **When the automatic policy asks for a blank line.** -/
theorem needsBlankLine_iff {lines : List Text} {above? : Option Text}
    (hpolicy : conv.config.blankLinePolicy = .auto) (hfirst : first ≤ lines.length) :
    needsBlankLine conv lines first above? level = true ↔
      (∃ above, above? = some above ∧ above.isBlankText = false) ∧
        conv.SetOff lines level first := by
  unfold needsBlankLine
  rw [hpolicy]
  cases above? with
  | none => simp
  | some above =>
      dsimp only
      rw [Int.toNat_natCast]
      cases hblank : above.isBlankText with
      | true => simp [hblank]
      | false => simpa [hblank] using Convention.siblingHasBlank_iff hfirst

/-- A heading that stays keeps something visible right above the new heading. -/
theorem SpotFor.lineAbove_visible (h : d.SpotFor conv n c line respectContent spot)
    (hown : spot.keptLevel? conv = some own) (lines : List Text) :
    ∃ above, lineAbove? lines spot = some above ∧ above.isBlankText = false := by
  unfold InsertionSpot.keptLevel? at hown
  unfold lineAbove?
  rcases h.kept_cases with hkept | hkept | ⟨closed, hclosed, hkept⟩
  · rw [hkept] at hown
    cases hown
  · rw [hkept] at hown ⊢
    refine ⟨_, rfl, Text.visible_of_trimEnd fun hnil => ?_⟩
    rw [List.head?_cons, Option.bind_some, keptOf, hnil, Convention.level?_nil] at hown
    cases hown
  · rw [hkept]
    exact ⟨_, rfl, isClosedLine_visible hclosed⟩

/-- Between the lines above the taken ones and the new heading there is at most one heading, the one
that stays. -/
theorem HeadingInserted.headingLevel?_between
    (h : d.HeadingInserted d' spot first last blank opening)
    (hspot : d.SpotFor conv n c line respectContent spot) (hlow : first ≤ k)
    (hhigh : k < first + spot.kept.length + blank.toNat)
    (hown : conv.headingLevel? d'.lines k = some own) :
    k = first ∧ spot.keptLevel? conv = some own := by
  rcases Nat.lt_or_ge k (first + spot.kept.length) with hkept | hblank
  · obtain ⟨j, rfl⟩ := Nat.exists_eq_add_of_le hlow
    unfold Convention.headingLevel? at hown
    rw [h.getElem?_kept (by omega)] at hown
    cases j with
    | zero => exact ⟨rfl, by rwa [← List.head?_eq_getElem?] at hown⟩
    | succ j =>
        -- what else is kept is a closed line
        rcases hspot.kept_cases with hnil | hone | ⟨closed, hclosed, htwo⟩
        · rw [hnil] at hown
          cases hown
        · rw [hone] at hown
          cases hown
        · rw [htwo] at hown
          have hj : j = 0 := by
            rw [htwo, List.length_cons, List.length_singleton] at hkept
            omega
          rw [hj] at hown
          have hopen := (Convention.level?_eq_some.mp hown).2.1
          rw [hclosed] at hopen
          cases hopen
  · rw [Convention.headingLevel?_of_get (h.getElem?_between hblank hhigh),
      Convention.level?_nil] at hown
    cases hown

/-- **The closest sibling above an inserted heading** is a heading that stays of a split one, if it
is not deeper, else it stands above the lines that the insertion takes. -/
theorem HeadingInserted.setOff_iff (h : d.HeadingInserted d' spot first last blank opening)
    (hspot : d.SpotFor conv n c line respectContent spot) (level : Int) :
    (∀ own, spot.keptLevel? conv = some own → own ≤ level →
      (conv.SetOff d'.lines level (first + spot.kept.length + blank.toNat) ↔ own = level ∧
        ∃ i above, first = i + 1 ∧ d.lines[i]? = some above ∧ above.isBlankText = true)) ∧
    ((∀ own, spot.keptLevel? conv = some own → level < own) →
      (conv.SetOff d'.lines level (first + spot.kept.length + blank.toNat) ↔
        conv.SetOff d.lines level first)) := by
  constructor
  · intro own hown hle
    obtain ⟨piece, hpiece, hlevel⟩ := Option.bind_eq_some_iff.mp hown
    have hget : conv.headingLevel? d'.lines first = some own :=
      (Convention.headingLevel?_of_get (h.getElem?_first hpiece)).trans hlevel
    have hkept : 0 < spot.kept.length := List.length_pos_iff.mpr fun hnil => by
      rw [hnil] at hpiece
      cases hpiece
    rw [Convention.setOff_iff_of_deeper
        (show first + 1 ≤ first + spot.kept.length + blank.toNat by omega),
      Convention.setOff_succ_iff hget hle]
    · refine and_congr_right fun _ => exists_congr fun i => exists_congr fun above => ?_
      refine and_congr_right fun hi => ?_
      rw [h.getElem?_above (by omega)]
    · intro k hlow hhigh other hother
      have := (h.headingLevel?_between hspot (by omega) hhigh hother).1
      omega
  · intro hdeeper
    rw [Convention.setOff_iff_of_deeper
        (show first ≤ first + spot.kept.length + blank.toNat by omega),
      Convention.setOff_congr fun i hi => h.getElem?_above hi]
    intro k hlow hhigh other hother
    exact hdeeper other (h.headingLevel?_between hspot hlow hhigh hother).2

end Document

namespace Session

open Document

variable {s : Session} {config : Config} {conv : Convention} {n c : Nat} {line : Text}

/-- **When an insertion sets its heading off with a blank line.** Under the automatic policy that
is so when there is something to be set off from and the closest sibling above the lines that are
taken is set off itself. That is as the closest sibling in the new document has it, unless a heading
is split whose first part is not deeper than the new heading and would have had it otherwise. -/
theorem run_insertHeading_blank_iff (valid : config.Valid)
    (hconv : s.document.convention config = .ok conv) (hpolicy : config.blankLinePolicy = .auto)
    (hpoint : s.document.point = { line := n, column := c })
    (hline : s.document.lines[n]? = some line) (hcolumn : c ≤ line.length) {level? : Option Int}
    {respectContent : Bool}
    (hran : (s.run config (.insertHeading level? respectContent)).2 = .ok (.flag true)) :
    let d := s.document
    let d' := (s.run config (.insertHeading level? respectContent)).1.document
    let level := d.insertLevel conv level?
    let spot := d.insertSpot conv n line respectContent
    let separable := ∃ above, lineAbove? d.lines spot = some above ∧ above.isBlankText = false
    ∃ (first last new : Nat) (blank : Bool) (opening : Text),
      spot.start = first ∧ spot.stop = last ∧
      d.HeadingInserted d' spot first last blank opening ∧ d'.point.line = new ∧
      (blank = true ↔ separable ∧ conv.SetOff d.lines level first) ∧
      ((blank = true ↔ separable ∧ conv.SetOff d'.lines level new) ↔
        ∀ own, spot.keptLevel? conv = some own → own ≤ level →
          (conv.SetOff d.lines level first ↔ own = level ∧
            ∃ i above, first = i + 1 ∧ d.lines[i]? = some above ∧ above.isBlankText = true)) := by
  intro d d' level spot separable
  obtain ⟨-, first, last, run, hstart, hstop, -, hinserted⟩ :=
    run_insertHeading valid hconv hpoint hline hcolumn hran
  have hspot := spotFor_insertSpot hpoint hline hcolumn conv respectContent
  have hblank : needsBlankLine conv d.lines spot.start (lineAbove? d.lines spot) level = true ↔
      separable ∧ conv.SetOff d.lines level first := by
    rw [hstart]
    refine needsBlankLine_iff ?_ ?_
    · rw [(convention_eq_ok hconv).2]
      exact hpolicy
    · exact Nat.le_trans (Nat.le_of_add_right_le hinserted.kept_le) hinserted.last_le
  refine ⟨first, last, _, _, _, hstart, hstop, hinserted, congrArg Point.line hinserted.point,
    hblank, ?_⟩
  rw [hblank]
  obtain ⟨hshallow, hdeep⟩ := hinserted.setOff_iff hspot level
  by_cases hcovered : ∃ own, spot.keptLevel? conv = some own ∧ own ≤ level
  · obtain ⟨own, hown, hle⟩ := hcovered
    have hseparable : separable := hspot.lineAbove_visible hown d.lines
    rw [hshallow own hown hle, and_iff_right hseparable, and_iff_right hseparable]
    constructor
    · intro hsame other hother _
      rw [hown] at hother
      cases hother
      exact hsame
    · exact fun hall => hall own hown hle
  · have hdeeper : ∀ own, spot.keptLevel? conv = some own → level < own := by
      intro own hown
      by_contra hle
      exact hcovered ⟨own, hown, Int.not_lt.mp hle⟩
    rw [hdeep hdeeper]
    refine iff_of_true Iff.rfl fun own hown hle => ?_
    exact absurd ⟨own, hown, hle⟩ hcovered

/-- Below a sibling that is set off, a line is split and the new heading is set off, too. -/
theorem run_insertHeading_blank_iff_body :
    let s := (create (Document.ofText "/// A\na\n\n/// B\nbc".toList
      (Language.named? "c".toList) none)).setPoint { line := 4, column := 1 }
    let conv : Convention := ⟨['/'], {}⟩
    let d' := (s.run {} (.insertHeading none false)).1.document
    Config.Valid {} ∧ s.document.convention {} = .ok conv ∧
      ({} : Config).blankLinePolicy = .auto ∧
      s.document.point = { line := (4 : Nat), column := (1 : Nat) } ∧
      s.document.lines[4]? = some "bc".toList ∧ 1 ≤ "bc".toList.length ∧
      (s.run {} (.insertHeading none false)).2 = .ok (.flag true) ∧
      d'.lines.drop 4 = ["b".toList, [], "/// c".toList] ∧ conv.SetOff d'.lines 1 6 := by
  intro s conv d'
  have valid : Config.Valid {} := Settings.valid_of_check (s := .defaults) rfl
  have hconv : s.document.convention {} = .ok conv := rfl
  have hpoint : s.document.point = { line := (4 : Nat), column := (1 : Nat) } := by decide
  have hline : s.document.lines[4]? = some "bc".toList := rfl
  have hran : (s.run {} (.insertHeading none false)).2 = .ok (.flag true) := by decide
  have hlines : d'.lines.drop 4 = ["b".toList, [], "/// c".toList] := by decide
  have hnumber : d'.point.line = (6 : Nat) := by decide
  have hplain : (s.document.insertSpot conv 4 "bc".toList false).keptLevel? conv = none := by
    decide
  obtain ⟨first, last, new, blank, opening, hstart, -, hinserted, hnew, -, hfollows⟩ :=
    run_insertHeading_blank_iff valid hconv rfl hpoint hline (by decide) hran
  have hfirst : (4 : Int) = first := hstart
  have hblank : blank = true := by
    have hplace : first + 1 + blank.toNat = 6 :=
      Int.ofNat.inj ((congrArg Point.line hinserted.point).symm.trans hnumber)
    cases blank with
    | true => rfl
    | false =>
        rw [Bool.toNat_false] at hplace
        omega
  have hsetOff := ((hfollows.mpr fun own hown => by rw [hplain] at hown; cases hown).mp hblank).2
  rw [Int.ofNat.inj (hnew.symm.trans hnumber)] at hsetOff
  exact ⟨valid, hconv, rfl, hpoint, hline, by decide, hran, hlines, hsetOff⟩

/-- A heading that is set off is split in two. Its first part is now the closest sibling of the new
heading, which is not set off. -/
theorem run_insertHeading_misses_sibling :
    let s := (create (Document.ofText "/// A\na\n\n/// BC".toList
      (Language.named? "c".toList) none)).setPoint { line := 3, column := 5 }
    let conv : Convention := ⟨['/'], {}⟩
    let d' := (s.run {} (.insertHeading none false)).1.document
    Config.Valid {} ∧ s.document.convention {} = .ok conv ∧
      ({} : Config).blankLinePolicy = .auto ∧ s.document.PointInside ∧
      (s.run {} (.insertHeading none false)).2 = .ok (.flag true) ∧
      d'.lines = ["/// A".toList, "a".toList, [], "/// B".toList, "/// C".toList] ∧
      d'.point.line = (4 : Nat) ∧ Text.isBlankText "/// B".toList = false ∧
      conv.SetOff d'.lines 1 4 := by
  intro s conv d'
  have valid : Config.Valid {} := Settings.valid_of_check (s := .defaults) rfl
  have hlines : d'.lines = ["/// A".toList, "a".toList, [], "/// B".toList, "/// C".toList] := by
    decide
  refine ⟨valid, rfl, rfl, by decide, by decide, hlines, by decide, by decide, 2, [], ?_, ?_, rfl⟩
  · rw [hlines]
    exact ⟨by decide, by decide, fun k hlow hhigh => by omega⟩
  · rw [hlines]
    rfl

end Session

end SourceOutline
