import SourceOutline.Proofs.Config.Checked
import SourceOutline.Proofs.Fold.Advance

/-!
# Which children are shown

A heading has children when a heading stands in its subtree, that is, when it is the parent of one
(`nested_iff_parent`). Showing them brings those into view that are exactly one level deeper. Main
statement: a heading shows a child if and only if there is one on the next level, which an outline
that skips levels need not have (`showChildren_shows_iff`).
-/

namespace SourceOutline

namespace Convention

variable {conv : Convention} {lines : List Text} {i n stop : Nat} {level other : Int}
  {v shown : FoldView}

/-- A heading with others in its subtree is the parent of the first of them. -/
theorem nested_iff_parent (h : conv.Subtree lines i stop level) :
    conv.Nested lines i stop ↔ ∃ n, conv.Parent lines i n := by
  constructor
  · rintro ⟨n, other, hin, hn, hother⟩
    -- by induction on the line of the heading that is found
    induction n using Nat.strongRecOn generalizing other with
    | ind n ih =>
      by_cases habove : ∃ k own, i < k ∧ k < n ∧ conv.headingLevel? lines k = some own
      · obtain ⟨k, own, hik, hkn, hown⟩ := habove
        exact ih k hkn own hik (by omega) hown
      · refine ⟨n, level, other, h.heading, hother, hin, h.deeper n hin hn other hother, ?_⟩
        intro k hik hkn own hown
        exact absurd ⟨k, own, hik, hkn, hown⟩ habove
  · rintro ⟨n, hparent⟩
    have hn := hparent.lt_stop h
    obtain ⟨-, lower, -, hlower, hin, -⟩ := hparent
    exact ⟨n, lower, hin, hn, hlower⟩

/-- Where children are shown, a heading inside is in view if it is one level deeper. -/
theorem ShowsPhase.isHidden_heading (h : conv.ShowsPhase lines i stop level .children v shown)
    (hin : i < n) (hn : n < stop) (hother : conv.headingLevel? lines n = some other) :
    shown.isHidden n = false ↔ other = level + 1 := by
  rw [← Bool.not_eq_true, FoldView.isHidden_iff, h.inside n (by omega) hn]
  constructor
  · rintro (rfl | hbody | hchild)
    · omega
    · rw [hbody n hin (Nat.le_refl n)] at hother
      cases hother
    · rw [hchild] at hother
      cases hother
      rfl
  · rintro rfl
    exact Or.inr (Or.inr hother)

/-- **A heading shows a child if and only if there is one on the next level.** It has children when it
is the parent of a heading, on whatever level, and of the headings in its subtree those come into
view that are one level deeper. -/
theorem showChildren_shows_iff (h : conv.headingLevel? lines i = some level) (v : FoldView) :
    ∃ (stop : Nat) (shown : FoldView), conv.subtreeEnd lines i = .ok (stop : Int) ∧
      conv.showChildren lines i v = .ok shown ∧
      (conv.hasChildren lines i = .ok true ↔ ∃ n, conv.Parent lines i n) ∧
      (conv.hasChildren lines i = .ok true ↔ conv.Nested lines i stop) ∧
      (∀ (n : Nat) (other : Int), i < n → n < stop → conv.headingLevel? lines n = some other →
        (shown.isHidden n = false ↔ other = level + 1)) ∧
      ((∃ (n : Nat) (other : Int), i < n ∧ n < stop ∧ conv.headingLevel? lines n = some other ∧
          shown.isHidden n = false) ↔
        ∃ n, i < n ∧ n < stop ∧ conv.headingLevel? lines n = some (level + 1)) := by
  obtain ⟨stop, hsub⟩ : ∃ stop, conv.Subtree lines i stop level := ⟨_, subtree_of_heading h⟩
  obtain ⟨shown, hshown, hshows⟩ := exists_showChildren hsub v
  have hnested := hasChildren_eq_true_iff hsub
  refine ⟨stop, shown, hsub.subtreeEnd_eq, hshown, hnested.trans (nested_iff_parent hsub), hnested,
    fun n other hin hn hother => hshows.isHidden_heading hin hn hother, ?_⟩
  constructor
  · rintro ⟨n, other, hin, hn, hother, hvisible⟩
    obtain rfl := (hshows.isHidden_heading hin hn hother).mp hvisible
    exact ⟨n, hin, hn, hother⟩
  · rintro ⟨n, hin, hn, hother⟩
    exact ⟨n, level + 1, hin, hn, hother, (hshows.isHidden_heading hin hn hother).mpr rfl⟩

/-- Of two headings in a subtree, the one that skips a level stays hidden. -/
theorem showChildren_shows_iff_skipped :
    let conv : Convention := ⟨['/'], {}⟩
    let lines := ["/// A".toList, "text".toList, "///// B".toList, "//// C".toList]
    conv.headingLevel? lines 0 = some 1 ∧ conv.hasChildren lines 0 = .ok true ∧
      ∃ shown, conv.showChildren lines 0 {} = .ok shown ∧ shown.isHidden 2 = true ∧
        shown.isHidden 3 = false := by
  intro conv lines
  have hlevel : conv.headingLevel? lines 0 = some 1 := by decide
  obtain ⟨stop, shown, hstop, hshown, -, hnested, hvisible, -⟩ := showChildren_shows_iff hlevel {}
  obtain rfl : stop = 4 := Int.ofNat_inj.mp (Except.ok.inj (hstop.symm.trans rfl))
  have hskipped := hvisible 2 3 (by decide) (by decide) (by decide)
  have hnext := hvisible 3 2 (by decide) (by decide) (by decide)
  exact ⟨hlevel, hnested.mpr ⟨2, 3, by decide, by decide, by decide⟩, shown, hshown,
    Bool.not_eq_false _ |>.mp fun hshows => absurd (hskipped.mp hshows) (by decide),
    hnext.mpr (by decide)⟩

/-- A heading whose only child is two levels deeper has children, and shows none of them. -/
theorem showChildren_shows_none :
    let conv : Convention := ⟨['/'], {}⟩
    let lines := ["/// A".toList, "text".toList, "///// B".toList]
    Config.Valid {} ∧ conv.headingLevel? lines 0 = some 1 ∧ conv.hasChildren lines 0 = .ok true ∧
      conv.subtreeEnd lines 0 = .ok 3 ∧
      ∃ shown, conv.showChildren lines 0 {} = .ok shown ∧
        ¬∃ (n : Nat) (other : Int), 0 < n ∧ n < 3 ∧ conv.headingLevel? lines n = some other ∧
          shown.isHidden n = false := by
  intro conv lines
  have valid : Config.Valid {} := Settings.valid_of_check (s := .defaults) rfl
  refine ⟨valid, by decide, rfl, rfl, { hidden := [2] }, rfl, ?_⟩
  rintro ⟨n, other, hlow, hhigh, hlevel, hvisible⟩
  obtain rfl | rfl : n = 1 ∨ n = 2 := by omega
  · have hplain : conv.headingLevel? lines 1 = none := by decide
    rw [hplain] at hlevel
    cases hlevel
  · exact absurd hvisible (by decide)

end Convention

end SourceOutline
