import SourceOutline.Proofs.Session.UpToDate

/-!
# Rendering agrees with rendering from scratch

The decorations of a session are kept up to date edit by edit, and its regions are kept until the
next edit. In a workspace whose documents all have a comment mark, what a session answers is at any
time what its document would be given from scratch.
-/

namespace SourceOutline

namespace Workspace

variable {settings : Settings} {documents : List Document} {viewport : Option Viewport} {room : Int}
  {w : Workspace}

theorem marked_run (h : create settings documents viewport room = .ok w)
    (marked : ∀ d ∈ documents, ∃ mark, d.mark w.config = .ok mark) (acts : List Act) :
    (w.run acts).Sound fun config s => ∃ mark, s.document.mark config = .ok mark := by
  refine (sound_create h fun d hd _ => marked d hd).run
    (obeys_true w acts) ?_ ?_
  · rintro config s act - - ⟨mark, hmark⟩
    exact ⟨mark, (Document.mark_congr (s.language_act config act) config).trans hmark⟩
  · intro config config' s valid hcharacter hmark
    exact Document.exists_mark_of_change (d := s.document) valid hcharacter hmark

/-! ## Answers -/

/-- **After every run, sessions answer as if they had derived everything from their lines and the
present settings.** The run may edit, ask, invalidate and change settings in any order; the
documents have to have a comment mark. -/
theorem run_answers_from_scratch (h : create settings documents viewport room = .ok w)
    (marked : ∀ d ∈ documents, ∃ mark, d.mark w.config = .ok mark) (acts : List Act) :
    (w.run acts).sessions.length = documents.length ∧
    ∀ s ∈ (w.run acts).sessions, ∃ conv decorations,
      s.document.convention (w.run acts).config = .ok conv ∧
      ((conv.headings s.document.lines).mapM fun heading => do
        decorate (w.run acts).config heading (← s.document.line heading.line)) = .ok decorations ∧
      (s.decorations (w.run acts).config).2 = .ok decorations ∧
      (s.regions (w.run acts).config).2 = .ok (conv.regions s.document.lines) := by
  refine ⟨length_sessions_run h acts, ?_⟩
  intro s hs
  have hsound := upToDate_run h acts
  obtain ⟨mark, hmark⟩ := (marked_run h marked acts).sessions s hs
  have hcurrent := (hsound.sessions s hs).current _ (Document.convention_of_mark hmark)
  refine ⟨_, _, Document.convention_of_mark hmark,
    @Convention.mapM_decorate_headings { mark, config := (w.run acts).config } hsound.valid
      s.document.lines, ?_, ?_⟩
  · exact (hcurrent.getDecorations hsound.valid (Document.convention_of_mark hmark)).1
  · exact (hcurrent.getRegions (Document.convention_of_mark hmark)).1

/-- A heading is promoted between two questions, and then the base level is lowered. -/
theorem run_answers_from_scratch_promoted : ∃ w, create .defaults
    [Document.ofText "#### A\ntext\n### B".toList (Language.named? "python".toList) none] none =
      .ok w ∧
    ∀ s ∈ (w.run [.onSession 0 .askDecorations, .onSession 0 (.command (.promote 1)),
        .update [("base_level".toList, .int 2)]]).sessions, ∃ conv decorations,
      s.document.convention { baseLevel := 2 } = .ok conv ∧
      ((conv.headings s.document.lines).mapM fun heading => do
        decorate { baseLevel := 2 } heading (← s.document.line heading.line)) = .ok decorations ∧
      (s.decorations { baseLevel := 2 }).2 = .ok decorations ∧
      (s.regions { baseLevel := 2 }).2 = .ok (conv.regions s.document.lines) := by
  refine ⟨_, rfl, ?_⟩
  refine (@run_answers_from_scratch .defaults _ none _ _ rfl ?_ [.onSession 0 .askDecorations,
    .onSession 0 (.command (.promote 1)), .update [("base_level".toList, .int 2)]]).2
  intro d hd
  rw [List.mem_singleton] at hd
  subst hd
  exact ⟨['#'], rfl⟩

end Workspace

end SourceOutline
