import SourceOutline.Fold.Cycle
import SourceOutline.Proofs.Document.Mark
import SourceOutline.Proofs.Fold.Within
import SourceOutline.Proofs.Outline

/-!
# Cycling hides lines of the document only

Folding a heading hides lines of its subtree, showing brings lines into view, and the views of the
whole document are made of such steps. So every cycle command that gets somewhere leaves a view
within the document, and one that does not has met a document without a comment mark.
-/

namespace SourceOutline

namespace Convention

variable {conv : Convention} {lines : List Text} {line : Text} {n : Nat} {level : Int}
  {v : FoldView}

/-! ## One heading -/

section Heading

variable (hline : lines[n]? = some line) (hlevel : conv.level? line = some level)
include hline hlevel

theorem subtreeBody_ofNat : conv.subtreeBody lines n =
    .ok (Lines.numbered (n + 1) (conv.subtreeLines level (lines.drop (n + 1)))) := by
  have htake := Lines.takeWhile_numbered_lt ((n : Int) + 1) (lines.drop (n + 1))
    (conv.subtreeLines level (lines.drop (n + 1))).length
  have hprefix : conv.subtreeLines level (lines.drop (n + 1)) <+: lines.drop (n + 1) :=
    List.takeWhile_prefix _
  rw [← List.prefix_iff_eq_take.mp hprefix,
    show (n : Int) + 1 + (conv.subtreeLines level (lines.drop (n + 1))).length =
      (n + 1 + (conv.subtreeLines level (lines.drop (n + 1))).length : Nat) by omega] at htake
  unfold subtreeBody
  rw [subtreeEnd_ofNat hline hlevel, ok_bind, Lines.numberedFrom_add_one, ok_bind, htake]
  rfl

theorem hasChildren_ofNat : conv.hasChildren lines n =
    .ok ((conv.subtreeLines level (lines.drop (n + 1))).any conv.isHeading) := by
  unfold hasChildren
  rw [subtreeBody_ofNat hline hlevel, map_ok]
  have hany := List.any_map (l := Lines.numbered ((n : Int) + 1)
    (conv.subtreeLines level (lines.drop (n + 1)))) (f := Prod.snd) (p := conv.isHeading)
  rw [Lines.map_snd_numbered] at hany
  exact congrArg Except.ok hany.symm

theorem foldSubtree_within (hv : v.Within lines.length) :
    ∃ folded, conv.foldSubtree lines n v = .ok folded ∧ folded.Within lines.length := by
  obtain ⟨stop, hstop, hlt, hle⟩ := subtreeEnd_bounds hline hlevel
  unfold foldSubtree
  rw [hstop, ok_bind]
  refine ⟨_, rfl, ?_⟩
  split
  · exact hv.reveal.hide (by omega) (by omega)
  · exact hv.reveal

theorem showChildren_within (hv : v.Within lines.length) :
    ∃ shown, conv.showChildren lines n v = .ok shown ∧ shown.Within lines.length := by
  obtain ⟨folded, hfolded, hwithin⟩ := foldSubtree_within hline hlevel hv
  obtain ⟨stop, hstop, -, -⟩ := subtreeEnd_bounds hline hlevel
  unfold showChildren
  rw [hfolded, ok_bind, hstop, ok_bind, levelAt_ofNat conv hline, ok_bind,
    subtreeBody_ofNat hline hlevel, ok_bind]
  refine ⟨_, rfl, ?_⟩
  refine FoldView.Within.foldl ?_ fun v entry _ hv => hv.reveal
  split
  · split
    · exact hwithin.reveal
    · exact hwithin
  · split
    · exact hwithin.reveal
    · exact hwithin

theorem showSubtree_within (hv : v.Within lines.length) :
    ∃ shown, conv.showSubtree lines n v = .ok shown ∧ shown.Within lines.length := by
  obtain ⟨stop, hstop, -, -⟩ := subtreeEnd_bounds hline hlevel
  unfold showSubtree
  rw [hstop, ok_bind]
  exact ⟨_, rfl, hv.reveal⟩

theorem showPhase_within (hv : v.Within lines.length) (phase : LocalPhase) :
    ∃ shown, conv.showPhase lines n v phase = .ok shown ∧ shown.Within lines.length := by
  cases phase with
  | folded => exact foldSubtree_within hline hlevel hv
  | children => exact showChildren_within hline hlevel hv
  | subtree => exact showSubtree_within hline hlevel hv

theorem exists_nextPhase (v : FoldView) (previous : Option CycleMemory) :
    ∃ phase, conv.nextPhase lines n v previous = .ok phase := by
  have hafter : ∀ phase, ∃ next, nextPhase.phaseAfter conv lines n phase = .ok next := by
    intro phase
    cases phase with
    | folded =>
        unfold nextPhase.phaseAfter
        rw [hasChildren_ofNat hline hlevel]
        exact ⟨_, rfl⟩
    | children => exact ⟨_, rfl⟩
    | subtree => exact ⟨_, rfl⟩
  unfold nextPhase
  split
  · exact hafter _
  · split
    · exact hafter _
    · exact ⟨_, rfl⟩

end Heading

theorem exists_isEmptyHeading (conv : Convention) (lines : List Text) (n : Nat) :
    ∃ isEmpty, conv.isEmptyHeading lines n = .ok isEmpty := by
  unfold isEmptyHeading
  split
  · exact ⟨true, rfl⟩
  · rename_i hnext
    have hlt : n + 1 < lines.length := by omega
    rw [show (n : Int) + 1 = ((n + 1 : Nat) : Int) by omega,
      levelAt_ofNat conv (List.getElem?_eq_getElem hlt)]
    exact ⟨_, rfl⟩

theorem cycleAt_within (hline : lines[n]? = some line) (hv : v.Within lines.length)
    (previous : Option CycleMemory) :
    ∃ cycled, conv.cycleAt lines n v previous = .ok cycled ∧ cycled.view.Within lines.length := by
  unfold cycleAt
  rw [headingAt_ofNat conv hline, ok_bind]
  cases hread : conv.readHeading? n line lines[n + 1]? with
  | none => exact ⟨_, rfl, hv⟩
  | some heading =>
      have hlevel := (readFrom_of_readHeading? hread).level_eq
      obtain ⟨isEmpty, hempty⟩ := conv.exists_isEmptyHeading lines n
      dsimp only
      rw [hempty, ok_bind]
      cases isEmpty with
      | true => exact ⟨_, rfl, hv.reveal⟩
      | false =>
          obtain ⟨phase, hphase⟩ := exists_nextPhase hline hlevel v previous
          obtain ⟨shown, hshown, hwithin⟩ := showPhase_within hline hlevel hv phase
          rw [if_neg (by simp), hphase, ok_bind, hshown, ok_bind]
          exact ⟨_, rfl, hwithin⟩

/-! ## The whole document -/

theorem overview_within (conv : Convention) (lines : List Text) :
    (conv.overview lines).Within lines.length := by
  unfold overview
  refine FoldView.within_empty.foldl fun v number hnumber hv => ?_
  obtain ⟨i, line, rfl, hline, hheading⟩ := mem_positions.mp hnumber
  obtain ⟨level, hlevel⟩ := isHeading_iff.mp hheading
  obtain ⟨folded, hfolded, hwithin⟩ := foldSubtree_within hline hlevel hv
  unfold overview.foldVisible
  split
  · exact hv
  · rw [hfolded]
    exact hwithin

theorem contents_within (conv : Convention) (lines : List Text) :
    (conv.contents lines).Within lines.length := by
  unfold contents
  refine FoldView.within_empty.foldl fun v span hspan hv => ?_
  obtain ⟨hstart, hstop⟩ := List.of_mem_zip hspan
  obtain ⟨i, line, hi, -, -⟩ := mem_positions.mp hstart
  have hbound : span.2 ≤ lines.length := by
    rcases List.mem_append.mp hstop with hposition | hlast
    · obtain ⟨j, other, hj, hget, -⟩ := mem_positions.mp (List.mem_of_mem_drop hposition)
      obtain ⟨hlt, -⟩ := List.getElem?_eq_some_iff.mp hget
      omega
    · rw [List.mem_singleton] at hlast
      omega
  split
  · exact hv.hide (by omega) (by omega)
  · exact hv

theorem cycleAll_within (conv : Convention) (lines : List Text) (previous : Option CycleMemory) :
    (conv.cycleAll lines previous).view.Within lines.length := by
  unfold cycleAll showGlobalPhase
  dsimp only
  split
  · exact overview_within conv lines
  · exact contents_within conv lines
  · exact FoldView.within_empty

end Convention

end SourceOutline
