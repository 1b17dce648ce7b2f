import Mathlib.Logic.Relation
import SourceOutline.Proofs.Subtree

/-!
# Nested subtrees

The end of a subtree is looked for below its heading, and the parent of a heading above it. Both
describe the same forest: subtrees lie apart or inside each other (`Subtree.apart_or_inside`), and a
heading is inside the subtree of another one exactly when it comes to that one from parent to parent
(`Subtree.lt_stop_iff_ancestor`). Main statement: `subtrees_laminar`.
-/

namespace SourceOutline

namespace Convention

variable {conv : Convention} {lines : List Text} {i k p iStop kStop : Nat} {upper lower : Int}

/-- Of two subtrees, the lower one starts behind the upper one, or it is part of it and its heading
is deeper. -/
theorem Subtree.apart_or_inside (hi : conv.Subtree lines i iStop upper)
    (hk : conv.Subtree lines k kStop lower) (hik : i < k) :
    iStop ≤ k ∨ kStop ≤ iStop ∧ upper < lower := by
  rcases Nat.lt_or_ge k iStop with hinside | hapart
  · right
    constructor
    · by_contra hlonger
      -- the heading that ends the upper subtree would be in the lower one
      have hbelow : iStop < kStop := Nat.not_le.mp hlonger
      obtain ⟨other, hother, hle⟩ := hi.stops (Nat.lt_of_lt_of_le hbelow hk.stop_le)
      have hdeeper := hk.deeper iStop hinside hbelow other hother
      have hlevel := hi.deeper k hik hinside lower hk.heading
      omega
    · exact hi.deeper k hik hinside lower hk.heading
  · exact Or.inl hapart

/-! ## Ancestors -/

theorem Parent.le_of_smaller (h : conv.Parent lines p k)
    (hi : conv.headingLevel? lines i = some upper) (hk : conv.headingLevel? lines k = some lower)
    (hik : i < k) (hsmaller : upper < lower) : i ≤ p := by
  obtain ⟨-, own, -, hown, -, -, hbetween⟩ := h
  obtain rfl := Option.some.inj (hk.symm.trans hown)
  by_contra hbelow
  have := hbetween i (Nat.not_le.mp hbelow) hik upper hi
  omega

theorem lt_of_ancestor (h : Relation.TransGen (conv.Parent lines) i k) : i < k := by
  induction h with
  | single hparent =>
      obtain ⟨-, -, -, -, hlt, -⟩ := hparent
      exact hlt
  | tail _ hparent ih =>
      obtain ⟨-, -, -, -, hlt, -⟩ := hparent
      exact Nat.lt_trans ih hlt

theorem Subtree.ancestor_of_lt_stop (hi : conv.Subtree lines i iStop upper)
    (hk : conv.headingLevel? lines k = some lower) (hik : i < k) (hinside : k < iStop) :
    Relation.TransGen (conv.Parent lines) i k := by
  induction k using Nat.strongRecOn generalizing lower with
  | ind k ih =>
    have hdeeper := hi.deeper k hik hinside lower hk
    obtain ⟨p, hparent⟩ := exists_parent hk hik hi.heading hdeeper
    obtain ⟨above, -, habove, -, hpk, -⟩ := id hparent
    rcases Nat.eq_or_lt_of_le (hparent.le_of_smaller hi.heading hk hik hdeeper) with rfl | hip
    · exact .single hparent
    · exact .tail (ih p hpk habove hip (Nat.lt_trans hpk hinside)) hparent

theorem Subtree.lt_stop_of_ancestor (hi : conv.Subtree lines i iStop upper)
    (h : Relation.TransGen (conv.Parent lines) i k) : k < iStop := by
  induction h with
  | single hparent => exact hparent.lt_stop hi
  | @tail p k hpath hparent ih =>
      obtain ⟨above, -, habove, -⟩ := id hparent
      have hp := subtree_of_heading habove
      rcases hi.apart_or_inside hp (lt_of_ancestor hpath) with hapart | ⟨hle, -⟩
      · exact absurd ih (Nat.not_lt.mpr hapart)
      · exact Nat.lt_of_lt_of_le (hparent.lt_stop hp) hle

theorem Subtree.lt_stop_iff_ancestor (hi : conv.Subtree lines i iStop upper)
    (hk : conv.headingLevel? lines k = some lower) (hik : i < k) :
    k < iStop ↔ Relation.TransGen (conv.Parent lines) i k :=
  ⟨hi.ancestor_of_lt_stop hk hik, hi.lt_stop_of_ancestor⟩

/-- **Subtrees are nested as headings descend from each other.** The subtrees of two headings lie
apart, or the lower one is part of the upper one and its heading is deeper. The lower heading is in
the subtree of the upper one exactly when that is one of its ancestors. -/
theorem subtrees_laminar (hi : conv.headingLevel? lines i = some upper)
    (hk : conv.headingLevel? lines k = some lower) (hik : i < k) :
    ∃ iStop kStop : Nat, conv.subtreeEnd lines i = .ok (iStop : Int) ∧
      conv.subtreeEnd lines k = .ok (kStop : Int) ∧
      (iStop ≤ k ∨ kStop ≤ iStop ∧ upper < lower) ∧
      (k < iStop ↔ Relation.TransGen (conv.Parent lines) i k) := by
  have hsub := subtree_of_heading hi
  have hsub' := subtree_of_heading hk
  exact ⟨_, _, hsub.subtreeEnd_eq, hsub'.subtreeEnd_eq, hsub.apart_or_inside hsub' hik,
    hsub.lt_stop_iff_ancestor hk hik⟩

/-- An outline that skips a level and comes back to it: the last heading but one is a child of the
first, like the one above it, whose subtree has ended. -/
theorem subtrees_laminar_skipped :
    let conv : Convention := ⟨['/'], {}⟩
    let lines := ["/// A".toList, "///// B".toList, "text".toList, "//// C".toList, "/// D".toList]
    conv.headingLevel? lines 0 = some 1 ∧ conv.headingLevel? lines 1 = some 3 ∧
      conv.headingLevel? lines 3 = some 2 ∧ conv.subtreeEnd lines 0 = .ok 4 ∧
      conv.subtreeEnd lines 1 = .ok 3 ∧ Relation.TransGen (conv.Parent lines) 0 3 ∧
      ¬Relation.TransGen (conv.Parent lines) 1 3 := by
  intro conv lines
  have hfirst : conv.headingLevel? lines 0 = some 1 := by decide
  have hsecond : conv.headingLevel? lines 1 = some 3 := by decide
  have hlast : conv.headingLevel? lines 3 = some 2 := by decide
  have hend : conv.subtreeEnd lines 0 = .ok ((4 : Nat) : Int) := rfl
  have hend' : conv.subtreeEnd lines 1 = .ok ((3 : Nat) : Int) := rfl
  obtain ⟨stop, -, hstop, -, -, hinside⟩ := subtrees_laminar hfirst hlast (by decide)
  obtain ⟨stop', -, hstop', -, -, hinside'⟩ := subtrees_laminar hsecond hlast (by decide)
  obtain rfl : 4 = stop := Int.ofNat_inj.mp (Except.ok.inj (hend.symm.trans hstop))
  obtain rfl : 3 = stop' := Int.ofNat_inj.mp (Except.ok.inj (hend'.symm.trans hstop'))
  exact ⟨hfirst, hsecond, hlast, hend, hend', hinside.mp (by decide),
    fun h => absurd (hinside'.mpr h) (by decide)⟩

end Convention

end SourceOutline
