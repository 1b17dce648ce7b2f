import SourceOutline.Proofs.Edit.Spot

/-!
# Parents and inserted headings

A heading that is inserted behind a subtree, on the level of the subtree's root or deeper, comes
between a heading and its parent nowhere: what follows the subtree opens with a heading that is not
deeper than the root. Main statement: every heading keeps its parent, and a heading on the level of
the root gets the parent of the root (`run_insertHeading_parent_iff`).
-/

namespace SourceOutline

namespace Document

variable {d d' : Document} {conv : Convention} {i k q r stop : Nat} {opening : Text}
  {blank : Bool} {level : Int}

/-! ## Levels around a heading that has been put between two lines -/

section Between

variable (h : d.HeadingInserted d' { start := stop, stop := stop } stop stop blank opening)
include h

theorem HeadingInserted.placeIn_eq :
    d.placeIn d' i = if i < stop then i else i + blank.toNat + 1 := by
  split
  · exact h.placeIn_above (by assumption)
  · have hplace := h.placeIn_below (i := i) (by omega)
    dsimp only at hplace
    rw [List.length_nil] at hplace
    omega

theorem HeadingInserted.headingLevel?_placeIn :
    conv.headingLevel? d'.lines (d.placeIn d' i) = conv.headingLevel? d.lines i := by
  unfold Convention.headingLevel?
  rw [h.getElem?_placeIn (by omega)]

/-- A heading is one from before or the one that has been inserted. -/
theorem HeadingInserted.exists_place {own : Int} (hown : conv.headingLevel? d'.lines k = some own) :
    (∃ i, k = d.placeIn d' i) ∨ k = stop + blank.toNat := by
  rcases Nat.lt_or_ge k stop with habove | hbehind
  · exact Or.inl ⟨k, by rw [h.placeIn_eq, if_pos habove]⟩
  rcases Nat.lt_or_ge (stop + blank.toNat) k with hbelow | hle
  · refine Or.inl ⟨k - blank.toNat - 1, ?_⟩
    rw [h.placeIn_eq, if_neg (by omega)]
    omega
  rcases Nat.eq_or_lt_of_le hle with rfl | hlt
  · exact Or.inr rfl
  · have hempty := h.getElem?_between hbehind hlt
    rw [Convention.headingLevel?_of_get hempty, Convention.level?_nil] at hown
    cases hown

theorem HeadingInserted.placeIn_lt_iff : d.placeIn d' i < d.placeIn d' k ↔ i < k := by
  rw [h.placeIn_eq, h.placeIn_eq]
  split <;> split <;> omega

theorem HeadingInserted.placeIn_lt_new_iff : d.placeIn d' i < stop + blank.toNat ↔ i < stop := by
  rw [h.placeIn_eq]
  split <;> omega

theorem HeadingInserted.new_lt_placeIn_iff : stop + blank.toNat < d.placeIn d' i ↔ stop ≤ i := by
  rw [h.placeIn_eq]
  split <;> omega

/-- **No heading gets another parent**, if the one behind the new heading is not deeper. -/
theorem HeadingInserted.parent_iff
    (hbehind : ∀ own, conv.headingLevel? d'.lines (stop + blank.toNat) = some own →
      stop < d.lines.length →
        ∃ other, conv.headingLevel? d.lines stop = some other ∧ other ≤ own) :
    conv.Parent d'.lines q (d.placeIn d' k) ↔
      ∃ p, q = d.placeIn d' p ∧ conv.Parent d.lines p k := by
  -- from the new heading to one below it no heading is less deep
  have hbarrier : ∀ own lower, conv.headingLevel? d'.lines (stop + blank.toNat) = some own →
      conv.headingLevel? d.lines k = some lower → stop ≤ k →
      (stop < k → ∀ other, conv.headingLevel? d.lines stop = some other → lower ≤ other) →
      lower ≤ own := by
    intro own lower hown hlower hk hbetween
    have hlength := Convention.lt_length_of_headingLevel? hlower
    obtain ⟨other, hother, hle⟩ := hbehind own hown (by omega)
    rcases Nat.eq_or_lt_of_le hk with rfl | hlt
    · rw [hother] at hlower
      cases hlower
      exact hle
    · exact Int.le_trans (hbetween hlt other hother) hle
  constructor
  · rintro ⟨upper, lower, hupper, hlower, hqk, hlt, hbetween⟩
    rw [h.headingLevel?_placeIn] at hlower
    have hbetween : ∀ i, q < d.placeIn d' i → i < k →
        ∀ other, conv.headingLevel? d.lines i = some other → lower ≤ other := by
      intro i hqi hik other hother
      refine hbetween _ hqi (h.placeIn_lt_iff.mpr hik) other ?_
      rw [h.headingLevel?_placeIn]
      exact hother
    rcases h.exists_place hupper with ⟨p, rfl⟩ | rfl
    · rw [h.headingLevel?_placeIn] at hupper
      exact ⟨p, rfl, upper, lower, hupper, hlower, h.placeIn_lt_iff.mp hqk, hlt,
        fun i hpi => hbetween i (h.placeIn_lt_iff.mpr hpi)⟩
    · have hle := hbarrier upper lower hupper hlower (h.new_lt_placeIn_iff.mp hqk)
        (hbetween stop (h.new_lt_placeIn_iff.mpr (Nat.le_refl stop)))
      exact absurd hlt (Int.not_lt.mpr hle)
  · rintro ⟨p, rfl, upper, lower, hupper, hlower, hpk, hlt, hbetween⟩
    refine ⟨upper, lower, by rwa [h.headingLevel?_placeIn], by rwa [h.headingLevel?_placeIn],
      h.placeIn_lt_iff.mpr hpk, hlt, ?_⟩
    intro j hpj hjk other hother
    rcases h.exists_place hother with ⟨i, rfl⟩ | rfl
    · rw [h.headingLevel?_placeIn] at hother
      exact hbetween i (h.placeIn_lt_iff.mp hpj) (h.placeIn_lt_iff.mp hjk) other hother
    · exact hbarrier other lower hother hlower (h.new_lt_placeIn_iff.mp hjk)
        (hbetween stop (h.placeIn_lt_new_iff.mp hpj))

/-- **A heading behind a subtree gets the parent of the root**, if it is on the same level. -/
theorem HeadingInserted.parent_new_iff (hsub : conv.Subtree d.lines r stop level)
    (hnew : conv.headingLevel? d'.lines (stop + blank.toNat) = some level) :
    conv.Parent d'.lines q (stop + blank.toNat) ↔
      ∃ p, q = d.placeIn d' p ∧ conv.Parent d.lines p r := by
  constructor
  · rintro ⟨upper, lower, hupper, hlower, hqn, hlt, hbetween⟩
    rw [hnew] at hlower
    cases hlower
    rcases h.exists_place hupper with ⟨p, rfl⟩ | rfl
    · have hp := h.placeIn_lt_new_iff.mp hqn
      rw [h.headingLevel?_placeIn] at hupper
      have hpr : p < r := by
        by_contra hrp
        have := hsub.level_le (Nat.not_lt.mp hrp) hp hupper
        omega
      refine ⟨p, rfl, upper, level, hupper, hsub.heading, hpr, hlt, ?_⟩
      intro i hpi hir other hother
      have hi : i < stop := Nat.lt_trans hir hsub.lt_stop
      refine hbetween _ (h.placeIn_lt_iff.mpr hpi) (h.placeIn_lt_new_iff.mpr hi) other ?_
      rw [h.headingLevel?_placeIn]
      exact hother
    · exact absurd hqn (Nat.lt_irrefl _)
  · rintro ⟨p, rfl, upper, lower, hupper, hlower, hpr, hlt, hbetween⟩
    rw [hsub.heading] at hlower
    cases hlower
    have hp : p < stop := Nat.lt_trans hpr hsub.lt_stop
    refine ⟨upper, level, by rwa [h.headingLevel?_placeIn], hnew, h.placeIn_lt_new_iff.mpr hp,
      hlt, ?_⟩
    intro j hpj hjn other hother
    rcases h.exists_place hother with ⟨i, rfl⟩ | rfl
    · rw [h.headingLevel?_placeIn] at hother
      rcases Nat.lt_or_ge i r with hir | hri
      · exact hbetween i (h.placeIn_lt_iff.mp hpj) hir other hother
      · exact hsub.level_le hri (h.placeIn_lt_new_iff.mp hjn) hother
    · exact absurd hjn (Nat.lt_irrefl _)

end Between

/-! ## The level of the new heading -/

theorem insertLevel_none {root : Heading}
    (hroot : conv.enclosing? d.lines d.point.line = some root) :
    d.insertLevel conv none = root.level := by
  unfold insertLevel
  rw [hroot]
  rfl

theorem level_le_insertLevel {root : Heading} {level? : Option Int}
    (hroot : conv.enclosing? d.lines d.point.line = some root)
    (hlevel : ∀ level ∈ level?, root.level ≤ level) :
    root.level ≤ d.insertLevel conv level? := by
  cases level? with
  | none => exact Int.le_of_eq (insertLevel_none hroot).symm
  | some level => exact hlevel level rfl

end Document

namespace Session

open Document

variable {s : Session} {config : Config} {conv : Convention}

/-- What inserting a heading behind the enclosing subtree does when it gets somewhere. -/
theorem run_insertHeading_behind (valid : config.Valid) (inside : s.document.PointInside)
    (hconv : s.document.convention config = .ok conv) {level? : Option Int}
    (hran : (s.run config (.insertHeading level? true)).2 = .ok (.flag true)) :
    let level := s.document.insertLevel conv level?
    let stop := s.document.behindSubtree conv
    1 ≤ level ∧ ∃ run blank, writeRun s.room conv.mark (level + config.baseLevel - 1) = .ok run ∧
      s.document.HeadingInserted (s.run config (.insertHeading level? true)).1.document
        { start := stop, stop := stop } stop stop blank
        (s.document.insertIndentation conv ++ run) := by
  obtain ⟨n, c, line, hpoint, hline, hcolumn⟩ := pointInside_iff.mp inside
  obtain ⟨hpos, first, last, run, hfirst, hlast, hwrite, hinserted⟩ :=
    run_insertHeading valid hconv hpoint hline hcolumn hran
  obtain rfl := Int.ofNat.inj hfirst
  obtain rfl := Int.ofNat.inj hlast
  exact ⟨hpos, run, _, hwrite, hinserted⟩

/-- The heading that is inserted behind the enclosing subtree is read on the level that it has been
put together for. -/
theorem headingLevel?_inserted (valid : config.Valid)
    (hconv : s.document.convention config = .ok conv) {reference : Heading}
    (hreference : conv.enclosing? s.document.lines s.document.point.line = some reference)
    {level : Int} {run : Text} (hlevel : 1 ≤ level)
    (hwrite : writeRun s.room conv.mark (level + config.baseLevel - 1) = .ok run) {d' : Document}
    {stop : Nat} {blank : Bool} (hinserted : s.document.HeadingInserted d'
      { start := stop, stop := stop } stop stop blank (s.document.insertIndentation conv ++ run)) :
    conv.headingLevel? d'.lines (stop + blank.toNat) = some level := by
  obtain ⟨r, line, -, -, hfrom⟩ := Convention.enclosing?_eq_some hreference
  obtain ⟨mark, hmark, -, -, hparts⟩ := hfrom.exists_written
  obtain ⟨hclosed, hread⟩ := readHeading?_inserted hmark hparts.visible
    (congrArg Config.baseLevel (convention_eq_ok hconv).2) valid.baseLevel_pos
    (fun _ => isIndenting_of_mem_insertIndentation) hlevel hwrite []
  -- there is no label behind the run
  have hopen : conv.isClosed (s.document.insertIndentation conv ++ run ++ [' ']) = false := by
    rw [Bool.eq_false_iff]
    intro h
    exact absurd (List.prefix_nil.mp (hclosed.mp h).2) (by decide)
  obtain ⟨heading, hheading, -, hown, -⟩ := hread hopen 0 none
  have hget := hinserted.getElem?_new
  dsimp only at hget
  rw [List.length_nil, Nat.add_zero] at hget
  rw [Convention.headingLevel?_of_get hget]
  exact hown ▸ (Convention.readFrom_of_readHeading? hheading).level_eq

/-- **A heading inserted behind the enclosing subtree leaves every heading its parent**, if it is
not on a smaller level than the root, and on the level of the root it gets the parent of the
root. -/
theorem run_insertHeading_parent_iff (valid : config.Valid) (inside : s.document.PointInside)
    (hconv : s.document.convention config = .ok conv) {level? : Option Int}
    (hlevel : ∀ level ∈ level?, ∀ heading ∈ conv.enclosing? s.document.lines s.document.point.line,
      heading.level ≤ level) :
    let d := s.document
    let ran := s.run config (.insertHeading level? true)
    let d' := ran.1.document
    d'.convention config = .ok conv ∧
    (∀ k, d'.lines[d.placeIn d' k]? = d.lines[k]?) ∧
    (∀ k q, conv.Parent d'.lines q (d.placeIn d' k) ↔
      ∃ p, q = d.placeIn d' p ∧ conv.Parent d.lines p k) ∧
    (ran.2 = .ok (.flag true) → level? = none →
      ∀ heading ∈ conv.enclosing? d.lines d.point.line, ∃ new : Nat, d'.point.line = new ∧
        conv.headingLevel? d'.lines new = some heading.level ∧
        ∀ q, conv.Parent d'.lines q new ↔
          ∃ p, q = d.placeIn d' p ∧ conv.Parent d.lines p heading.line.toNat) := by
  intro d ran d'
  by_cases hran : ran.2 = .ok (.flag true)
  · obtain ⟨hpos, run, blank, hwrite, hinserted⟩ :=
      run_insertHeading_behind valid inside hconv hran
    have hread : ∀ root ∈ conv.enclosing? d.lines d.point.line,
        conv.headingLevel? d'.lines (d.behindSubtree conv + blank.toNat) =
          some (d.insertLevel conv level?) :=
      fun root hroot => headingLevel?_inserted valid hconv hroot hpos hwrite hinserted
    refine ⟨(convention_congr hinserted.language config).trans hconv,
      fun k => hinserted.getElem?_placeIn (Nat.lt_or_ge k _), fun k q => ?_, ?_⟩
    · refine hinserted.parent_iff fun lower hlower hlt => ?_
      rcases behindSubtree_cases d conv with ⟨-, hend⟩ | ⟨root, r, hroot, -, hsub⟩
      · exact absurd hend (Nat.ne_of_lt hlt)
      · obtain ⟨other, hother, hle⟩ := hsub.stops hlt
        rw [hread root hroot] at hlower
        cases hlower
        exact ⟨other, hother, Int.le_trans hle
          (level_le_insertLevel hroot fun level hgiven => hlevel level hgiven root hroot)⟩
    · rintro - rfl root hroot
      rcases behindSubtree_cases d conv with ⟨hnone, -⟩ | ⟨other, r, hother, hline, hsub⟩
      · rw [hnone] at hroot
        cases hroot
      · rw [hother] at hroot
        cases hroot
        have hnew := hread root hother
        rw [insertLevel_none hother] at hnew
        rw [hline, Int.toNat_natCast]
        exact ⟨_, congrArg Point.line hinserted.point, hnew,
          fun q => hinserted.parent_new_iff hsub hnew⟩
  · -- a command that gets nowhere leaves the document as it is
    have hsame : d' = d := by
      have hedits : (Command.insertHeading level? true).decide?.isSome := rfl
      rcases run_edit_atomic valid inside hedits with ⟨hdone, -⟩ | ⟨-, huntouched⟩
      · exact absurd hdone hran
      · exact huntouched.document
    rw [hsame]
    refine ⟨hconv, fun k => by rw [placeIn_self], fun k q => ?_, fun hdone => absurd hdone hran⟩
    simp only [placeIn_self, exists_eq_left']

/-- Behind the first of two subtrees below the same parent, a deeper heading and one on the level
of their roots. -/
theorem run_insertHeading_parent_iff_between :
    let s := (create (Document.ofText "/// A\n//// B\ntext\n//// C".toList
      (Language.named? "c".toList) none)).setPoint { line := 2 }
    let conv : Convention := ⟨['/'], {}⟩
    let d := s.document
    let deeper := (s.run {} (.insertHeading (some 3) true)).1.document
    let level := (s.run {} (.insertHeading none true)).1.document
    Config.Valid {} ∧ d.PointInside ∧ d.convention {} = .ok conv ∧
      (∀ level ∈ some (3 : Int), ∀ heading ∈ conv.enclosing? d.lines d.point.line,
        heading.level ≤ level) ∧
      deeper.lines[3]? = some "///// ".toList ∧ level.lines[3]? = some "//// ".toList ∧
      (∀ q, conv.Parent deeper.lines q 4 ↔
        ∃ p, q = d.placeIn deeper p ∧ conv.Parent d.lines p 3) ∧
      (s.run {} (.insertHeading none true)).2 = .ok (.flag true) ∧
      ∃ new : Nat, level.point.line = new ∧ conv.headingLevel? level.lines new = some 2 ∧
        ∀ q, conv.Parent level.lines q new ↔
          ∃ p, q = d.placeIn level p ∧ conv.Parent d.lines p 1 := by
  intro s conv d deeper level
  have valid : Config.Valid {} := Settings.valid_of_check (s := .defaults) rfl
  have inside : d.PointInside := by decide
  have hconv : d.convention {} = .ok conv := rfl
  have hreference : conv.enclosing? d.lines d.point.line = some
      { line := 1, indentation := [], run := 4, level := 2, keyword := none, title := "B".toList,
        closed := none } := by decide
  have hlevel : ∀ level ∈ some (3 : Int), ∀ heading ∈ conv.enclosing? d.lines d.point.line,
      heading.level ≤ level := by
    intro level hgiven heading hheading
    rw [hreference] at hheading
    cases hgiven
    cases hheading
    decide
  have hran : (s.run {} (.insertHeading none true)).2 = .ok (.flag true) := by decide
  have hplace : d.placeIn deeper 3 = 4 := by decide
  obtain ⟨-, -, hparent, -⟩ := run_insertHeading_parent_iff valid inside hconv hlevel
  obtain ⟨-, -, -, hnew⟩ := run_insertHeading_parent_iff valid inside hconv
    fun level (hgiven : level ∈ none) => nomatch hgiven
  refine ⟨valid, inside, hconv, hlevel, by decide, by decide, fun q => ?_, hran,
    hnew hran rfl _ hreference⟩
  rw [← hplace]
  exact hparent 3 q

end Session

end SourceOutline
