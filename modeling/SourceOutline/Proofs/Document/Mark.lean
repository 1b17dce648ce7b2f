import SourceOutline.Document
import SourceOutline.Proofs.Outcome

/-!
# Comment marks

Under a valid configuration a document has a comment mark unless neither the configuration nor its
language gives one. The mark is a matter of configuration and language only, so it stays the same
when lines are edited.
-/

namespace SourceOutline

theorem Text.trim_ne_nil {t : Text} (h : t.isBlankText = false) : t.trim ≠ [] := by
  intro hnil
  rw [(Text.isBlankText_iff_trim t).mpr hnil] at h
  cases h

namespace Document

variable {d other : Document} {config : Config} {conv : Convention}

theorem convention_eq_ok (h : d.convention config = .ok conv) :
    d.mark config = .ok conv.mark ∧ conv.config = config := by
  obtain ⟨mark, hmark, rfl⟩ := map_eq_ok.mp h
  exact ⟨hmark, rfl⟩

theorem convention_of_mark {mark : Text} (h : d.mark config = .ok mark) :
    d.convention config = .ok { mark, config } := by
  unfold convention
  rw [h, map_ok]

theorem mark_congr (h : other.language = d.language) (config : Config) :
    other.mark config = d.mark config := by
  unfold mark commentChar?
  rw [h]

theorem convention_congr (h : other.language = d.language) (config : Config) :
    other.convention config = d.convention config := by
  unfold convention
  rw [mark_congr h]

/-- The only reason why a document has no mark. -/
theorem mark_eq_error (valid : config.Valid) {fault : Fault} (h : d.mark config = .error fault) :
    ∃ language, fault = .noCommentSyntax language := by
  unfold mark at h
  split at h
  · rename_i configured hconfigured
    have hvisible := Text.trim_ne_nil (valid.commentChar_visible configured hconfigured)
    split at h
    · cases h
    · exact absurd ‹_› hvisible
  · split at h
    · cases h
    · cases h
      exact ⟨_, rfl⟩

theorem convention_eq_error (valid : config.Valid) {fault : Fault}
    (h : d.convention config = .error fault) : ∃ language, fault = .noCommentSyntax language :=
  mark_eq_error valid (map_eq_error.mp h)

theorem mark_of_commentChar (valid : config.Valid) (h : config.commentChar.isSome)
    (d : Document) : ∃ mark, d.mark config = .ok mark := by
  obtain ⟨configured, hconfigured⟩ := Option.isSome_iff_exists.mp h
  cases hmark : d.mark config with
  | ok mark => exact ⟨mark, rfl⟩
  | error fault =>
      obtain ⟨language, rfl⟩ := mark_eq_error valid hmark
      unfold mark at hmark
      rw [hconfigured] at hmark
      dsimp only at hmark
      split at hmark <;> cases hmark

/-- A document that has a mark keeps having one as long as a configured comment character is only
replaced. -/
theorem exists_mark_of_change {config' : Config} (valid : config'.Valid)
    (h : config.commentChar.isSome → config'.commentChar.isSome)
    (hmark : ∃ mark, d.mark config = .ok mark) : ∃ mark, d.mark config' = .ok mark := by
  cases hconfigured : config'.commentChar with
  | some configured => exact mark_of_commentChar valid (by rw [hconfigured]; rfl) d
  | none =>
      obtain ⟨mark, hmark⟩ := hmark
      have hnone : config.commentChar = none := by
        cases hold : config.commentChar with
        | none => rfl
        | some configured =>
            have := h (by rw [hold]; rfl)
            rw [hconfigured] at this
            cases this
      refine ⟨mark, ?_⟩
      unfold Document.mark at hmark ⊢
      rw [hnone] at hmark
      rw [hconfigured]
      exact hmark

end Document

end SourceOutline
