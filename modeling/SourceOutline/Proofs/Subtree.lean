import Mathlib.Tactic.ByContra
import SourceOutline.Proofs.Outline

/-!
# Levels and subtrees by line number

A document is seen here as its levels: `Convention.headingLevel?` gives the level of each heading by
its line number, and nothing for the other lines. A `Subtree` is then described without searching
for it: its heading, deeper headings only behind that, and at its end a heading that is not deeper,
or the end of the document.

A heading is *outermost* when no heading above it is on a smaller level. Main statement: every line
behind the first heading has an outermost heading above it, and between the last such heading and
the line there are only deeper ones (`exists_lastOutermost`).
-/

namespace SourceOutline

namespace Convention

variable {conv : Convention} {lines : List Text} {i k n stop : Nat} {level other : Int}

def headingLevel? (conv : Convention) (lines : List Text) (n : Nat) : Option Int :=
  lines[n]?.bind conv.level?

theorem headingLevel?_eq_some :
    conv.headingLevel? lines n = some level ↔
      ∃ line, lines[n]? = some line ∧ conv.level? line = some level :=
  Option.bind_eq_some_iff

theorem headingLevel?_of_get {line : Text} (h : lines[n]? = some line) :
    conv.headingLevel? lines n = conv.level? line := by
  unfold headingLevel?
  rw [h, Option.bind_some]

theorem lt_length_of_headingLevel? (h : conv.headingLevel? lines n = some level) :
    n < lines.length := by
  obtain ⟨line, hline, -⟩ := headingLevel?_eq_some.mp h
  exact (List.getElem?_eq_some_iff.mp hline).1

theorem pairwise_positions (conv : Convention) (lines : List Text) :
    (conv.positions lines).Pairwise (· < ·) :=
  List.pairwise_map.mpr ((Lines.pairwise_numbered 0 lines).filter _)

/-! ## Subtrees -/

/-- Whether the subtree of a heading on line `i` with some level stops in front of line `stop`. -/
structure Subtree (conv : Convention) (lines : List Text) (i stop : Nat) (level : Int) :
    Prop where
  heading : conv.headingLevel? lines i = some level
  lt_stop : i < stop
  stop_le : stop ≤ lines.length
  deeper : ∀ n, i < n → n < stop → ∀ other, conv.headingLevel? lines n = some other →
    level < other
  stops : stop < lines.length → ∃ other, conv.headingLevel? lines stop = some other ∧
    other ≤ level

theorem Subtree.level_le (h : conv.Subtree lines i stop level) (hin : i ≤ n) (hn : n < stop)
    (hother : conv.headingLevel? lines n = some other) : level ≤ other := by
  rcases Nat.eq_or_lt_of_le hin with rfl | hlt
  · rw [h.heading] at hother
    cases hother
    exact Int.le_refl _
  · exact Int.le_of_lt (h.deeper n hlt hn other hother)

theorem endsSubtree_eq_false {line : Text} :
    (!conv.endsSubtree level line) = true ↔
      ∀ other, conv.level? line = some other → level < other := by
  unfold endsSubtree
  cases conv.level? line with
  | none => simp
  | some other => simp

theorem lt_length_subtreeLines :
    k < (conv.subtreeLines level (lines.drop (i + 1))).length ↔
      i + 1 + k < lines.length ∧ ∀ n, i < n → n ≤ i + 1 + k →
        ∀ other, conv.headingLevel? lines n = some other → level < other := by
  rw [show k < (conv.subtreeLines level (lines.drop (i + 1))).length ↔
    i + 1 + k ≤ i + (conv.subtreeLines level (lines.drop (i + 1))).length by omega, subtreeLines,
    Lines.le_length_takeWhile_drop (by omega)]
  refine and_congr_right fun _ => ⟨fun hpass n hin hn other hother => ?_,
    fun hdeeper n hin hn line hline => endsSubtree_eq_false.mpr fun other hlevel => ?_⟩
  · obtain ⟨line, hline, hlevel⟩ := headingLevel?_eq_some.mp hother
    exact endsSubtree_eq_false.mp (hpass n hin hn line hline) other hlevel
  · exact hdeeper n hin hn other (headingLevel?_eq_some.mpr ⟨line, hline, hlevel⟩)

/-- Every heading has its subtree. -/
theorem subtree_of_heading (h : conv.headingLevel? lines i = some level) :
    conv.Subtree lines i (i + 1 + (conv.subtreeLines level (lines.drop (i + 1))).length) level where
  heading := h
  lt_stop := by omega
  stop_le := by
    have hlt := lt_length_of_headingLevel? h
    have hle := conv.length_subtreeLines_le level (lines.drop (i + 1))
    rw [List.length_drop] at hle
    omega
  deeper := by
    intro n hin hn
    have hinside := lt_length_subtreeLines.mp
      (show n - (i + 1) < (conv.subtreeLines level (lines.drop (i + 1))).length by omega)
    exact hinside.2 n hin (by omega)
  stops := by
    intro hstop
    by_contra hnone
    -- the line behind the subtree would belong to it
    refine Nat.lt_irrefl _ (lt_length_subtreeLines.mpr ⟨hstop, ?_⟩)
    intro n hin hn other hother
    rcases Nat.lt_or_eq_of_le hn with hlt | rfl
    · have hinside := lt_length_subtreeLines.mp
        (show n - (i + 1) < (conv.subtreeLines level (lines.drop (i + 1))).length by omega)
      exact hinside.2 n hin (by omega) other hother
    · by_contra hle
      exact hnone ⟨other, hother, Int.not_lt.mp hle⟩

theorem Subtree.lt_stop_iff (h : conv.Subtree lines i stop level) :
    n < stop ↔ n < lines.length ∧ ∀ k, i < k → k ≤ n →
      ∀ other, conv.headingLevel? lines k = some other → level < other := by
  constructor
  · intro hn
    exact ⟨Nat.lt_of_lt_of_le hn h.stop_le,
      fun k hik hkn other hother => h.deeper k hik (by omega) other hother⟩
  · rintro ⟨hlength, hdeeper⟩
    by_contra hstop
    obtain ⟨other, hother, hle⟩ := h.stops (by omega)
    have := hdeeper stop h.lt_stop (by omega) other hother
    omega

theorem Subtree.stop_unique {stop' : Nat} {level' : Int} (h : conv.Subtree lines i stop level)
    (h' : conv.Subtree lines i stop' level') : stop = stop' := by
  obtain rfl : level = level' := Option.some.inj (h.heading.symm.trans h'.heading)
  have hiff : ∀ n, n < stop ↔ n < stop' := fun n => h.lt_stop_iff.trans h'.lt_stop_iff.symm
  have := hiff stop
  have := hiff stop'
  omega

theorem Subtree.stop_eq (h : conv.Subtree lines i stop level) :
    stop = i + 1 + (conv.subtreeLines level (lines.drop (i + 1))).length :=
  h.stop_unique (subtree_of_heading h.heading)

theorem Subtree.subtreeEnd_eq (h : conv.Subtree lines i stop level) :
    conv.subtreeEnd lines i = .ok (stop : Int) := by
  obtain ⟨line, hline, hlevel⟩ := headingLevel?_eq_some.mp h.heading
  rw [subtreeEnd_ofNat hline hlevel, h.stop_eq]

theorem getElem?_subtreeLines
    (h : k < (conv.subtreeLines level (lines.drop (i + 1))).length) :
    (conv.subtreeLines level (lines.drop (i + 1)))[k]? = lines[i + 1 + k]? :=
  Lines.getElem?_takeWhile_drop h

theorem Subtree.mem_body (h : conv.Subtree lines i stop level) {entry : Int × Text} :
    entry ∈ Lines.numbered ((i : Int) + 1) (conv.subtreeLines level (lines.drop (i + 1))) ↔
      ∃ (n : Nat) (line : Text), i < n ∧ n < stop ∧ lines[n]? = some line ∧
        entry = ((n : Int), line) := by
  have hstop := h.stop_eq
  rw [subtreeLines] at hstop ⊢
  rw [Lines.mem_numbered_takeWhile_drop]
  refine exists_congr fun n => exists_congr fun line => and_congr_right fun hin => ?_
  exact and_congr_left' (by omega)

/-! ## Parents -/

/-- Whether line `p` is the parent of the heading on line `k`: the nearest heading above it on a
smaller level. -/
def Parent (conv : Convention) (lines : List Text) (p k : Nat) : Prop :=
  ∃ upper lower, conv.headingLevel? lines p = some upper ∧
    conv.headingLevel? lines k = some lower ∧ p < k ∧ upper < lower ∧
    ∀ i, p < i → i < k → ∀ other, conv.headingLevel? lines i = some other → lower ≤ other

theorem Parent.unique {p q : Nat} (hp : conv.Parent lines p k) (hq : conv.Parent lines q k) :
    p = q := by
  obtain ⟨upper, lower, hupper, hlower, hpk, hlt, hbetween⟩ := hp
  obtain ⟨upper', lower', hupper', hlower', hqk, hlt', hbetween'⟩ := hq
  obtain rfl : lower = lower' := Option.some.inj (hlower.symm.trans hlower')
  by_contra hne
  rcases Nat.lt_or_gt_of_ne hne with habove | hbelow
  · have := hbetween q habove hqk upper' hupper'
    omega
  · have := hbetween' p hbelow hpk upper hupper
    omega

/-- A heading has a parent when some heading above it is on a smaller level. -/
theorem exists_parent (hlevel : conv.headingLevel? lines k = some level) (hi : i < k)
    (hother : conv.headingLevel? lines i = some other) (hlt : other < level) :
    ∃ p, conv.Parent lines p k := by
  obtain ⟨distance, rfl⟩ := Nat.exists_eq_add_of_lt hi
  -- by induction on how far away that heading is
  induction distance using Nat.strongRecOn generalizing i other with
  | ind distance ih =>
    by_cases hnearer : ∃ j, i < j ∧ j < i + distance + 1 ∧ ∃ own,
        conv.headingLevel? lines j = some own ∧ own < level
    · obtain ⟨j, hij, hj, own, hown, hsmaller⟩ := hnearer
      have hsame : i + distance + 1 = j + (i + distance - j) + 1 := by omega
      rw [hsame] at hlevel hj ⊢
      exact ih (i + distance - j) (by omega) hown hsmaller hlevel hj
    · refine ⟨i, other, level, hother, hlevel, hi, hlt, fun j hij hj own hown => ?_⟩
      by_contra hsmaller
      exact hnearer ⟨j, hij, hj, own, hown, by omega⟩

/-- A heading has no parent when the one above it, which is not less deep, has none. -/
theorem not_parent_of_le {p : Nat} (hother : conv.headingLevel? lines p = some other)
    (hlevel : conv.headingLevel? lines k = some level) (hpk : p < k) (hle : level ≤ other)
    (hnone : ∀ q, ¬conv.Parent lines q p) (hbetween : ∀ i, p < i → i < k → ∀ own,
      conv.headingLevel? lines i = some own → level ≤ own) (q : Nat) :
    ¬conv.Parent lines q k := by
  rintro ⟨upper, lower, hupper, hlower, hqk, hsmaller, -⟩
  obtain rfl := Option.some.inj (hlevel.symm.trans hlower)
  rcases Nat.lt_trichotomy q p with habove | rfl | hbelow
  · obtain ⟨r, hr⟩ := exists_parent hother habove hupper (by omega)
    exact hnone r hr
  · obtain rfl := Option.some.inj (hupper.symm.trans hother)
    omega
  · have := hbetween q hbelow hqk upper hupper
    omega

theorem Parent.lt_stop (h : conv.Parent lines i n) (hsub : conv.Subtree lines i stop level) :
    n < stop := by
  obtain ⟨upper, lower, hupper, hlower, hin, hlt, hbetween⟩ := h
  obtain rfl : upper = level := Option.some.inj (hupper.symm.trans hsub.heading)
  refine hsub.lt_stop_iff.mpr ⟨lt_length_of_headingLevel? hlower, fun k hik hkn own hown => ?_⟩
  rcases Nat.lt_or_eq_of_le hkn with habove | rfl
  · have := hbetween k hik habove own hown
    omega
  · rw [hlower] at hown
    cases hown
    exact hlt

/-! ## Outermost headings -/

/-- Whether a line is a heading that no heading above it is outside of. -/
def Outermost (conv : Convention) (lines : List Text) (n : Nat) : Prop :=
  ∃ level, conv.headingLevel? lines n = some level ∧
    ∀ i < n, ∀ other, conv.headingLevel? lines i = some other → level ≤ other

theorem outermost_iff (h : conv.headingLevel? lines n = some level) :
    conv.Outermost lines n ↔
      ∀ i < n, ∀ other, conv.headingLevel? lines i = some other → level ≤ other := by
  constructor
  · rintro ⟨own, hown, hleast⟩
    rw [h] at hown
    cases hown
    exact hleast
  · intro hleast
    exact ⟨level, h, hleast⟩

/-- Whether line `i` is the last outermost heading above line `n`. No heading in between is on its
level, so all of them are deeper. -/
structure LastOutermost (conv : Convention) (lines : List Text) (i n : Nat) (level : Int) :
    Prop where
  heading : conv.headingLevel? lines i = some level
  above : i < n
  least : ∀ k < n, ∀ other, conv.headingLevel? lines k = some other → level ≤ other
  deeper : ∀ k, i < k → k < n → ∀ other, conv.headingLevel? lines k = some other → level < other

theorem LastOutermost.outermost (h : conv.LastOutermost lines i n level) :
    conv.Outermost lines i :=
  (outermost_iff h.heading).mpr fun k hk => h.least k (Nat.lt_trans hk h.above)

theorem Outermost.last (h : conv.Outermost lines n) :
    ∃ level, conv.LastOutermost lines n (n + 1) level := by
  obtain ⟨level, hlevel, hleast⟩ := h
  refine ⟨level, hlevel, Nat.lt_succ_self n, ?_, fun k hnk hk => by omega⟩
  intro k hk other hother
  rcases Nat.lt_or_eq_of_le (Nat.le_of_lt_succ hk) with hlt | rfl
  · exact hleast k hlt other hother
  · rw [hlevel] at hother
    cases hother
    exact Int.le_refl _

/-- A line that is no outermost heading leaves the last one as it is. -/
theorem LastOutermost.succ (h : conv.LastOutermost lines i n level)
    (hdeeper : ∀ other, conv.headingLevel? lines n = some other → level < other) :
    conv.LastOutermost lines i (n + 1) level where
  heading := h.heading
  above := Nat.lt_succ_of_lt h.above
  least := by
    intro k hk other hother
    rcases Nat.lt_or_eq_of_le (Nat.le_of_lt_succ hk) with hlt | rfl
    · exact h.least k hlt other hother
    · exact Int.le_of_lt (hdeeper other hother)
  deeper := by
    intro k hik hk other hother
    rcases Nat.lt_or_eq_of_le (Nat.le_of_lt_succ hk) with hlt | rfl
    · exact h.deeper k hik hlt other hother
    · exact hdeeper other hother

end Convention

end SourceOutline
