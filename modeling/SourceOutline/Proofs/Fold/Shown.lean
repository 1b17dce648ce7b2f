import SourceOutline.Proofs.Fold.Cycle
import SourceOutline.Proofs.Subtree

/-!
# What a heading shows in each phase

Folding a heading, showing its children and showing its subtree are sequences of hiding and
revealing. Their outcome is described line by line: inside the subtree exactly the lines that belong
to the phase are in view (`InView`), whatever was hidden before, and every other line is hidden or
not as it was (`ShowsPhase`).
-/

namespace SourceOutline

namespace FoldView

theorem mem_foldl_reveal {α : Type} {number : α → Int} {items : List α} {v : FoldView}
    {line : Int} :
    line ∈ (items.foldl (fun v item => v.reveal (number item) (number item)) v).hidden ↔
      line ∈ v.hidden ∧ ∀ item ∈ items, number item ≠ line := by
  induction items generalizing v with
  | nil => simp
  | cons item rest ih =>
      rw [List.foldl_cons, ih, mem_reveal, List.forall_mem_cons, and_assoc]
      refine and_congr_right fun _ => and_congr_left fun _ => ?_
      omega

end FoldView

namespace Convention

variable {conv : Convention} {lines : List Text} {i n stop : Nat} {level : Int} {v : FoldView}

/-- Which lines of the subtree of a heading on line `i` are in view in a phase. -/
def InView (conv : Convention) (lines : List Text) (i : Nat) (level : Int) :
    LocalPhase → Nat → Prop
  | .folded, n => n = i
  | .children, n =>
    n = i ∨ (∀ k, i < k → k ≤ n → conv.headingLevel? lines k = none) ∨
      conv.headingLevel? lines n = some (level + 1)
  | .subtree, _ => True

/-- Whether a view shows the subtree from line `i` to line `stop` in a phase, and everything else as
another view does. -/
structure ShowsPhase (conv : Convention) (lines : List Text) (i stop : Nat) (level : Int)
    (phase : LocalPhase) (v shown : FoldView) : Prop where
  inside : ∀ n : Nat, i ≤ n → n < stop →
    ((n : Int) ∉ shown.hidden ↔ conv.InView lines i level phase n)
  outside : ∀ line : Int, line < i ∨ stop ≤ line → (line ∈ shown.hidden ↔ line ∈ v.hidden)

/-! ## Folding -/

theorem exists_foldSubtree (h : conv.Subtree lines i stop level) (v : FoldView) :
    ∃ folded, conv.foldSubtree lines i v = .ok folded ∧
      ∀ line : Int, line ∈ folded.hidden ↔
        (line ∈ v.hidden ∧ line ≠ i) ∨ (i < line ∧ line < stop) := by
  have hlt := h.lt_stop
  unfold foldSubtree
  rw [h.subtreeEnd_eq, ok_bind]
  refine ⟨_, rfl, fun line => ?_⟩
  split
  · rw [FoldView.mem_hide, FoldView.mem_reveal]
    constructor
    · rintro (⟨hold, hne⟩ | hnew)
      · exact Or.inl ⟨hold, by omega⟩
      · exact Or.inr (by omega)
    · rintro (⟨hold, hne⟩ | hnew)
      · exact Or.inl ⟨hold, by omega⟩
      · exact Or.inr (by omega)
  · rw [FoldView.mem_reveal]
    constructor
    · rintro ⟨hold, hne⟩
      exact Or.inl ⟨hold, by omega⟩
    · rintro (⟨hold, hne⟩ | hnew)
      · exact ⟨hold, by omega⟩
      · omega

theorem exists_folded (h : conv.Subtree lines i stop level) (v : FoldView) :
    ∃ shown, conv.foldSubtree lines i v = .ok shown ∧
      conv.ShowsPhase lines i stop level .folded v shown := by
  obtain ⟨folded, hfolded, hmem⟩ := exists_foldSubtree h v
  refine ⟨folded, hfolded, ?_, ?_⟩
  · intro n hin hn
    rw [hmem]
    constructor
    · intro hshown
      show n = i
      by_contra hne
      exact hshown (Or.inr ⟨by omega, by omega⟩)
    · rintro rfl
      rintro (⟨-, hne⟩ | hbelow)
      · exact hne rfl
      · omega
  · intro line hline
    have hlt : (i : Int) < stop := Int.ofNat_lt.mpr h.lt_stop
    rw [hmem]
    constructor
    · rintro (⟨hold, -⟩ | hinside)
      · exact hold
      · omega
    · intro hold
      exact Or.inl ⟨hold, by omega⟩

/-! ## Showing children -/

/-- The body of a heading ends in front of the first heading of its subtree. -/
theorem Subtree.exists_bodyEnd (h : conv.Subtree lines i stop level)
    {found : Option (Int × Text)}
    (hfound : (Lines.numbered ((i : Int) + 1)
      (conv.subtreeLines level (lines.drop (i + 1)))).find?
        (fun entry => conv.isHeading entry.2) = found) :
    ∃ bodyEnd : Nat, (found = none → (stop : Int) = bodyEnd) ∧
      (∀ entry, found = some entry → entry.1 = bodyEnd) ∧ bodyEnd ≤ stop ∧
      ∀ n, i < n → n < stop →
        (n < bodyEnd ↔ ∀ k, i < k → k ≤ n → conv.headingLevel? lines k = none) := by
  have hstop := h.stop_eq
  have hend := Lines.find?_numbered conv.isHeading ((i : Int) + 1)
    (conv.subtreeLines level (lines.drop (i + 1)))
  have hle := (List.takeWhile_prefix (fun line => !conv.isHeading line)
    (l := conv.subtreeLines level (lines.drop (i + 1)))).length_le
  rw [hfound] at hend
  refine ⟨i + 1 + ((conv.subtreeLines level (lines.drop (i + 1))).takeWhile
    fun line => !conv.isHeading line).length, ?_, ?_, by omega, ?_⟩
  · rintro rfl
    have hend : (i : Int) + 1 + (conv.subtreeLines level (lines.drop (i + 1))).length = _ := hend
    omega
  · rintro entry rfl
    have hend : entry.1 = _ := hend
    omega
  · -- the body is counted from the line below the heading, and its lines as those of the document
    intro n hin hn
    have hlength : n < i + 1 + ((conv.subtreeLines level (lines.drop (i + 1))).takeWhile
        fun line => !conv.isHeading line).length ↔ n - (i + 1) <
          ((conv.subtreeLines level (lines.drop (i + 1))).takeWhile
            fun line => !conv.isHeading line).length := by
      omega
    rw [hlength, Lines.lt_length_takeWhile]
    constructor
    · rintro ⟨-, hall⟩ k hik hkn
      have hget : (conv.subtreeLines level (lines.drop (i + 1)))[k - (i + 1)]? = lines[k]? := by
        rw [getElem?_subtreeLines (by omega), Nat.add_sub_cancel' hik]
      rw [Option.eq_none_iff_forall_not_mem]
      intro other hother
      obtain ⟨line, hline, hlevel⟩ := headingLevel?_eq_some.mp hother
      have hnone := hall (k - (i + 1)) (by omega) line (hget.trans hline)
      rw [isHeading_iff.mpr ⟨other, hlevel⟩] at hnone
      cases hnone
    · intro hnone
      refine ⟨by omega, fun k hk line hline => ?_⟩
      rw [getElem?_subtreeLines (by omega)] at hline
      have hlevel := hnone (i + 1 + k) (by omega) (by omega)
      rw [headingLevel?_of_get hline] at hlevel
      unfold isHeading
      rw [hlevel]
      rfl

theorem Subtree.mem_children (h : conv.Subtree lines i stop level) {entry : Int × Text} :
    entry ∈ (Lines.numbered ((i : Int) + 1) (conv.subtreeLines level (lines.drop (i + 1)))).filter
        (fun entry => (conv.level? entry.2).isSome &&
          conv.level? entry.2 == (some level).map (· + 1)) ↔
      ∃ (n : Nat) (line : Text), i < n ∧ n < stop ∧ lines[n]? = some line ∧
        conv.level? line = some (level + 1) ∧ entry = ((n : Int), line) := by
  rw [List.mem_filter, h.mem_body]
  constructor
  · rintro ⟨⟨n, line, hin, hn, hline, rfl⟩, hchild⟩
    simp only [Bool.and_eq_true, beq_iff_eq, Option.map_some] at hchild
    exact ⟨n, line, hin, hn, hline, hchild.2, rfl⟩
  · rintro ⟨n, line, hin, hn, hline, hlevel, rfl⟩
    refine ⟨⟨n, line, hin, hn, hline, rfl⟩, ?_⟩
    simp [hlevel]

/-- Revealing body and children in a folded subtree. -/
theorem showsPhase_children (h : conv.Subtree lines i stop level) {folded : FoldView}
    (hfolded : conv.ShowsPhase lines i stop level .folded v folded) {bodyEnd : Nat} {bound : Int}
    (hbound : bound = bodyEnd)
    (hbody : ∀ n, i < n → n < stop →
      (n < bodyEnd ↔ ∀ k, i < k → k ≤ n → conv.headingLevel? lines k = none))
    (hle : bodyEnd ≤ stop) :
    conv.ShowsPhase lines i stop level .children v
      (((Lines.numbered ((i : Int) + 1) (conv.subtreeLines level (lines.drop (i + 1)))).filter
          fun entry => (conv.level? entry.2).isSome &&
            conv.level? entry.2 == (some level).map (· + 1)).foldl
        (fun v entry => v.reveal entry.1 entry.1)
        (if (i : Int) < bound - 1 then folded.reveal (i + 1) (bound - 1) else folded)) := by
  subst hbound
  have hbodyShown : ∀ line : Int, line ∈ (if (i : Int) < (bodyEnd : Int) - 1
      then folded.reveal (i + 1) (bodyEnd - 1) else folded).hidden ↔
        line ∈ folded.hidden ∧ ¬(i < line ∧ line < bodyEnd) := by
    intro line
    split
    · rw [FoldView.mem_reveal]
      exact and_congr_right fun _ => by omega
    · constructor
      · intro hold
        exact ⟨hold, by omega⟩
      · exact And.left
  constructor
  · intro n hin hn
    have hheading : (n : Int) ∉ folded.hidden ↔ n = i := hfolded.inside n hin hn
    rw [FoldView.mem_foldl_reveal, hbodyShown]
    -- in view is the heading itself, what stands in its body, and what is revealed as a child
    show _ ↔ n = i ∨ (∀ k, i < k → k ≤ n → conv.headingLevel? lines k = none) ∨
      conv.headingLevel? lines n = some (level + 1)
    constructor
    · intro hshown
      by_contra hhidden
      rw [not_or, not_or] at hhidden
      obtain ⟨hne, hdeep, hchild⟩ := hhidden
      refine hshown ⟨⟨?_, ?_⟩, ?_⟩
      · by_contra hold
        exact hne (hheading.mp hold)
      · rintro ⟨hbelow, hin⟩
        exact hdeep ((hbody n (by omega) hn).mp (by omega))
      · rintro entry hentry hnumber
        obtain ⟨k, line, -, -, hline, hlevel, rfl⟩ := h.mem_children.mp hentry
        obtain rfl : k = n := Int.ofNat_inj.mp hnumber
        exact hchild (headingLevel?_eq_some.mpr ⟨line, hline, hlevel⟩)
    · rintro (rfl | hdeep | hchild) ⟨⟨hhidden, hbehind⟩, hother⟩
      · exact hheading.mpr rfl hhidden
      · by_cases hne : n = i
        · exact hheading.mpr hne hhidden
        · exact hbehind ⟨by omega, Int.ofNat_lt.mpr ((hbody n (by omega) hn).mpr hdeep)⟩
      · obtain ⟨line, hline, hlevel⟩ := headingLevel?_eq_some.mp hchild
        by_cases hne : n = i
        · exact hheading.mpr hne hhidden
        · exact hother (n, line)
            (h.mem_children.mpr ⟨n, line, by omega, hn, hline, hlevel, rfl⟩) rfl
  · intro line hline
    rw [FoldView.mem_foldl_reveal, hbodyShown, ← hfolded.outside line hline, and_assoc]
    refine and_iff_left ⟨by omega, ?_⟩
    rintro entry hentry rfl
    obtain ⟨n, _, hin, hn, -, -, rfl⟩ := h.mem_children.mp hentry
    dsimp only at hline
    omega

theorem exists_showChildren (h : conv.Subtree lines i stop level) (v : FoldView) :
    ∃ shown, conv.showChildren lines i v = .ok shown ∧
      conv.ShowsPhase lines i stop level .children v shown := by
  obtain ⟨line, hline, hlevel⟩ := headingLevel?_eq_some.mp h.heading
  obtain ⟨folded, hfolded, hshows⟩ := exists_folded h v
  obtain ⟨bodyEnd, hnone, hsome, hle, hbody⟩ := h.exists_bodyEnd rfl
  unfold showChildren
  rw [hfolded, ok_bind, h.subtreeEnd_eq, ok_bind, levelAt_ofNat conv hline, ok_bind,
    subtreeBody_ofNat hline hlevel, ok_bind, hlevel]
  refine ⟨_, rfl, showsPhase_children h hshows ?_ hbody hle⟩
  split
  · exact hsome _ ‹_›
  · exact hnone ‹_›

/-! ## All phases -/

theorem exists_showSubtree (h : conv.Subtree lines i stop level) (v : FoldView) :
    ∃ shown, conv.showSubtree lines i v = .ok shown ∧
      conv.ShowsPhase lines i stop level .subtree v shown := by
  unfold showSubtree
  rw [h.subtreeEnd_eq, ok_bind]
  refine ⟨_, rfl, ?_, ?_⟩
  · intro n hin hn
    rw [FoldView.mem_reveal]
    constructor
    · intro _
      trivial
    · rintro - ⟨-, houtside⟩
      omega
  · intro line hline
    rw [FoldView.mem_reveal]
    exact and_iff_left (by omega)

/-- **A heading is brought into a phase whatever was hidden before.** -/
theorem exists_showPhase (h : conv.Subtree lines i stop level) (v : FoldView)
    (phase : LocalPhase) :
    ∃ shown, conv.showPhase lines i v phase = .ok shown ∧
      conv.ShowsPhase lines i stop level phase v shown := by
  cases phase with
  | folded => exact exists_folded h v
  | children => exact exists_showChildren h v
  | subtree => exact exists_showSubtree h v

end Convention

end SourceOutline
