import Mathlib.Data.List.DropRight
import Mathlib.Tactic.ByContra
import SourceOutline.Text.Basic

/-!
# Trimmed texts

Trimming a text twice is trimming it once. A trimmed text opens with no blank, so a space that is
put in front of it is all that trimming takes away again, and it has no indentation. Trimming the
end of a text stops behind its last visible character.
-/

namespace SourceOutline

namespace Text

variable {t : Text}

theorem trimStart_trimEnd (h : t.trimStart = t) : t.trimEnd.trimStart = t.trimEnd := by
  obtain ⟨rest, hrest⟩ := trimEnd_isPrefix t
  cases hend : t.trimEnd with
  | nil => rfl
  | cons c kept =>
      -- the first character is that of the whole text
      rw [hend, List.cons_append] at hrest
      unfold trimStart at h ⊢
      rw [← hrest, List.dropWhile_eq_self_iff] at h
      rw [List.dropWhile_eq_self_iff]
      intro _
      exact h (by simp)

theorem exists_trimEnd_append (t : Text) :
    ∃ rest, t = t.trimEnd ++ rest ∧ ∀ c ∈ rest, isBlank c = true := by
  refine ⟨(t.reverse.takeWhile isBlank).reverse, ?_, ?_⟩
  · have hsplit := congrArg List.reverse
      (List.takeWhile_append_dropWhile (p := isBlank) (l := t.reverse))
    rw [List.reverse_append, List.reverse_reverse] at hsplit
    exact hsplit.symm
  · intro c hc
    exact List.all_eq_true.mp List.all_takeWhile c (List.mem_reverse.mp hc)

theorem lt_length_trimEnd {i : Nat} {c : Char} (h : t[i]? = some c) (hc : isBlank c = false) :
    i < t.trimEnd.length := by
  obtain ⟨rest, ht, hrest⟩ := exists_trimEnd_append t
  by_contra hlt
  rw [ht, List.getElem?_append_right (by omega)] at h
  rw [hrest c (List.mem_of_getElem? h)] at hc
  cases hc

theorem visible_of_trimEnd (h : t.trimEnd ≠ []) : t.trimEnd.isBlankText = false := by
  rw [Bool.eq_false_iff]
  intro hblank
  refine List.rdropWhile_last_not isBlank t h ?_
  exact (isBlankText_iff _).mp hblank _ (List.getLast_mem h)

theorem trim_trim (t : Text) : t.trim.trim = t.trim := by
  have hstart : t.trimStart.trimStart = t.trimStart := List.dropWhile_idempotent isBlank t
  have hopen : t.trim.trimStart = t.trim := trimStart_trimEnd hstart
  have hclosed : t.trim.trimEnd = t.trim := List.rdropWhile_idempotent isBlank t.trimStart
  show t.trim.trimStart.trimEnd = t.trim
  rw [hopen, hclosed]

section Trimmed

variable (h : t.trim = t)
include h

theorem trimStart_of_trim : t.trimStart = t := by
  have hsuffix : t.trimStart <:+ t := List.dropWhile_suffix isBlank
  refine hsuffix.eq_of_length_le ?_
  have hle := (trimEnd_isPrefix t.trimStart).length_le
  rwa [show t.trimStart.trimEnd = t from h] at hle

theorem trim_cons_space : Text.trim (' ' :: t) = t := by
  have hstart : Text.trimStart (' ' :: t) = t := by
    show t.trimStart = t
    exact trimStart_of_trim h
  unfold trim at h ⊢
  rw [hstart]
  rwa [show t.trimStart = t from trimStart_of_trim h] at h

theorem unindent_of_trim : t.unindent = t := by
  have hstart := trimStart_of_trim h
  unfold trimStart at hstart
  unfold unindent
  rw [List.dropWhile_eq_self_iff] at hstart ⊢
  intro hpos hindenting
  exact hstart hpos (isBlank_of_isIndenting hindenting)

theorem unindent_cons_space : Text.unindent (' ' :: t) = t := by
  show t.unindent = t
  exact unindent_of_trim h

end Trimmed

end Text

end SourceOutline
