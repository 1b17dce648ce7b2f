import SourceOutline.Document

/-!
# Texts without line breaks

A text is *unbroken* when no character of it belongs to a line break. Pieces of an unbroken text are
unbroken, and so is what is put together from unbroken texts. Numbers, stamps and the comment marks
of the known languages are unbroken.
-/

namespace SourceOutline

def isLineBreak (c : Char) : Bool := c == '\n' || c == '\r'

namespace Text

def Unbroken (t : Text) : Prop := ∀ c ∈ t, isLineBreak c = false

instance (t : Text) : Decidable t.Unbroken :=
  decidable_of_iff (t.all fun c => !isLineBreak c) (by simp [Unbroken])

variable {t u : Text}

/-- A text is unbroken when all its characters have a property that line breaks do not have. -/
theorem unbroken_of_forall {p : Char → Bool} (hfeed : p '\n' = false) (hreturn : p '\r' = false)
    (h : ∀ c ∈ t, p c = true) : t.Unbroken := by
  intro c hc
  have hp := h c hc
  cases hbreak : isLineBreak c with
  | false => rfl
  | true =>
      unfold isLineBreak at hbreak
      rw [Bool.or_eq_true, beq_iff_eq, beq_iff_eq] at hbreak
      rcases hbreak with rfl | rfl
      · rw [hfeed] at hp
        cases hp
      · rw [hreturn] at hp
        cases hp

/-! ## Pieces -/

theorem Unbroken.of_subset (h : t.Unbroken) (hsub : u ⊆ t) : u.Unbroken :=
  fun c hc => h c (hsub hc)

theorem Unbroken.take (h : t.Unbroken) (n : Nat) : Unbroken (t.take n) :=
  h.of_subset (List.take_subset n t)

theorem Unbroken.drop (h : t.Unbroken) (n : Nat) : Unbroken (t.drop n) :=
  h.of_subset (List.drop_subset n t)

theorem Unbroken.indentation (h : t.Unbroken) : (indentation t).Unbroken :=
  h.of_subset (List.takeWhile_subset _)

theorem Unbroken.unindent (h : t.Unbroken) : t.unindent.Unbroken :=
  h.of_subset (List.dropWhile_sublist _).subset

theorem Unbroken.trimEnd (h : t.Unbroken) : t.trimEnd.Unbroken :=
  h.of_subset t.trimEnd_isPrefix.subset

theorem Unbroken.trim (h : t.Unbroken) : t.trim.Unbroken := by
  have hstart : t.trimStart.Unbroken := h.of_subset (List.dropWhile_sublist _).subset
  exact hstart.trimEnd

/-! ## Texts that are put together -/

@[simp] theorem unbroken_nil : Unbroken [] := fun _ hc => by cases hc

@[simp] theorem unbroken_append : Unbroken (t ++ u) ↔ t.Unbroken ∧ u.Unbroken := by
  simp only [Unbroken, List.mem_append]
  constructor
  · intro h
    exact ⟨fun c hc => h c (Or.inl hc), fun c hc => h c (Or.inr hc)⟩
  · rintro ⟨ht, hu⟩ c (hc | hc)
    · exact ht c hc
    · exact hu c hc

@[simp] theorem unbroken_cons {c : Char} :
    Unbroken (c :: t) ↔ isLineBreak c = false ∧ t.Unbroken := List.forall_mem_cons

theorem unbroken_joinWith {separator : Text} {pieces : List Text} (hseparator : separator.Unbroken)
    (hpieces : ∀ piece ∈ pieces, piece.Unbroken) : (joinWith separator pieces).Unbroken := by
  unfold joinWith
  induction pieces with
  | nil => exact unbroken_nil
  | cons piece rest ih =>
      have hrest := ih fun other hother => hpieces other (List.mem_cons_of_mem piece hother)
      have hpiece := hpieces piece List.mem_cons_self
      cases rest with
      | nil =>
          rw [List.intercalate_singleton]
          exact hpiece
      | cons next rest =>
          rw [List.intercalate_cons_cons, unbroken_append, unbroken_append]
          exact ⟨⟨hpiece, hseparator⟩, hrest⟩

theorem unbroken_repeatMark {mark : Text} (h : mark.Unbroken) (count : Int) :
    (repeatMark mark count).Unbroken := by
  intro c hc
  obtain ⟨piece, hpiece, hmem⟩ := List.mem_flatten.mp hc
  rw [List.eq_of_mem_replicate hpiece] at hmem
  exact h c hmem

/-! ## Numbers and stamps -/

theorem unbroken_toString (n : Nat) : Unbroken (toString n).toList := by
  refine unbroken_of_forall (p := Char.isDigit) rfl rfl ?_
  intro c hc
  refine Nat.isDigit_of_mem_toDigits (b := 10) (n := n) (by decide) (by decide) ?_
  rw [← Nat.toList_repr]
  exact hc

theorem unbroken_zeroFilled (width n : Nat) : (zeroFilled width n).Unbroken := by
  refine unbroken_append.mpr ⟨?_, unbroken_toString n⟩
  intro c hc
  rw [List.eq_of_mem_replicate hc]
  rfl

end Text

theorem Moment.stamp_unbroken (m : Moment) : m.stamp.Unbroken := by
  have hday : m.dayName.Unbroken := by
    unfold Moment.dayName
    split <;> decide
  have hyear : (Text.ofInt m.year).Unbroken := Text.unbroken_toString m.year
  have hspace : isLineBreak ' ' = false := rfl
  have hdash : isLineBreak '-' = false := rfl
  have hcolon : isLineBreak ':' = false := rfl
  have hopen : isLineBreak '[' = false := rfl
  have hclose : isLineBreak ']' = false := rfl
  simp [Moment.stamp, Moment.dateText, Moment.timeText, Text.unbroken_zeroFilled, *]

/-! ## Comment marks -/

theorem Language.commentChar?_unbroken :
    ∀ language ∈ Language.known, ∀ mark ∈ language.commentChar?, Text.Unbroken mark := by
  decide

theorem Document.mark_unbroken {d : Document} {config : Config} {mark : Text}
    (known : ∀ language ∈ d.language, language ∈ Language.known)
    (h : d.mark config = .ok mark) : mark.Unbroken := by
  unfold Document.mark at h
  split at h
  · rename_i configured hconfigured
    split at h
    · rename_i c rest htrim
      cases h
      -- what trimming leaves does not open with a blank
      have hopen : isBlank c = false := by
        have hstart := List.head?_dropWhile_not isBlank configured
        obtain ⟨behind, hbehind⟩ := (Text.trimStart configured).trimEnd_isPrefix
        rw [show (Text.trimStart configured).trimEnd = c :: rest from htrim] at hbehind
        rw [show configured.dropWhile isBlank = c :: rest ++ behind from hbehind.symm] at hstart
        exact hstart
      refine Text.unbroken_of_forall (p := fun c => !isBlank c) rfl rfl ?_
      intro other hother
      rw [List.mem_singleton] at hother
      rw [hother, hopen]
      rfl
    · cases h
  · split at h
    · rename_i c hc
      cases h
      obtain ⟨language, hlanguage, hmark⟩ := Option.bind_eq_some_iff.mp hc
      exact Language.commentChar?_unbroken language (known language hlanguage) _ hmark
    · cases h

end SourceOutline
