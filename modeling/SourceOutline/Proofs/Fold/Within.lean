import SourceOutline.Fold.View
import SourceOutline.Proofs.Document.Replace

/-!
# Hidden lines are lines of the document

A view is *within* a document when it hides lines of the document only. Every operation on views
keeps it so: hiding and revealing trivially, and following an edit because the hidden lines move as
the lines of the document do.
-/

namespace SourceOutline

namespace FoldView

/-- Whether all hidden lines are among the first `count`. -/
def Within (v : FoldView) (count : Nat) : Prop := ∀ line ∈ v.hidden, 0 ≤ line ∧ line < count

instance (v : FoldView) (count : Nat) : Decidable (v.Within count) := by
  unfold Within
  infer_instance

variable {v : FoldView} {count : Nat} {start stop : Int}

theorem within_empty : ({} : FoldView).Within count := by
  intro line hline
  cases hline

theorem Within.hide (h : v.Within count) (h₁ : 0 ≤ start) (h₂ : stop < count) :
    (v.hide start stop).Within count := by
  intro line hline
  rcases mem_hide.mp hline with hold | hnew
  · exact h line hold
  · omega

theorem Within.reveal (h : v.Within count) : (v.reveal start stop).Within count := by
  intro line hline
  exact h line (mem_reveal.mp hline).1

theorem Within.foldl {α : Type} {items : List α} {step : FoldView → α → FoldView}
    (h : v.Within count)
    (hstep : ∀ v item, item ∈ items → v.Within count → (step v item).Within count) :
    (items.foldl step v).Within count :=
  List.foldlRecOn (motive := fun v : FoldView => v.Within count) items step h
    fun v hv item hitem => hstep v item hitem hv

/-- **Hidden lines move with the lines of the document.** -/
theorem Within.follow {d : Document} {new : List Text} (h : v.Within d.lineCount)
    (fits : d.Fits start stop) :
    (v.follow (d.changeOf start stop new)).Within (d.replace start stop new).1.lineCount := by
  obtain ⟨first, last, rfl, rfl, hle, hlast⟩ := fits.exists_nat
  obtain ⟨hline, hold, hnew⟩ := Document.changeOf_ofNat hle hlast new
  have hdelta := Document.changeOf_lineDelta hle hlast new
  -- the document has one line too many when it would have none
  have hcount : first + new.length + (d.lines.length - last) ≤
      (d.replace first last new).1.lineCount := by
    show _ ≤ (Document.orEmptyLine (Document.splice d.lines first last new)).length
    rw [Document.splice_ofNat hle hlast]
    have hlength : (d.lines.take first ++ new ++ d.lines.drop last).length =
        first + new.length + (d.lines.length - last) := by
      simp only [List.length_append, List.length_take, List.length_drop]
      omega
    unfold Document.orEmptyLine
    split
    · rename_i hempty
      rw [List.isEmpty_iff.mp hempty, List.length_nil] at hlength
      omega
    · exact Nat.le_of_eq hlength.symm
  unfold FoldView.follow
  split
  · rename_i hzero
    intro line hmem
    obtain ⟨h₁, h₂⟩ := h line hmem
    unfold Document.lineCount at h₂
    omega
  · intro line hmem
    obtain ⟨old, hmem, hfollow⟩ := List.mem_filterMap.mp hmem
    obtain ⟨h₁, h₂⟩ := h old hmem
    unfold Document.lineCount at h₂
    unfold followLine at hfollow
    split at hfollow
    · cases hfollow
      omega
    · split at hfollow
      · cases hfollow
        omega
      · cases hfollow

end FoldView

end SourceOutline
