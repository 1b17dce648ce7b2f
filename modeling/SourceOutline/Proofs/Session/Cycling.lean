import SourceOutline.Proofs.Fold.Advance
import SourceOutline.Proofs.Fold.Overview
import SourceOutline.Proofs.Session.Memory

/-!
# Cycling after any history

What a cycle command does is told here from the history alone. For the document, the number of
cycles in a row decides the phase, and the phase decides which lines are hidden
(`run_cycleGlobal_since`). For a heading, the last command and whether the body is hidden decide the
phase, and the phase decides what is in view of the subtree (`run_cycle_since`).
-/

namespace SourceOutline

namespace Session

variable {s start : Session} {config : Config} {conv : Convention} {acts : List SessionAct}

theorem convention_since (marked : start.document.convention config = .ok conv)
    (history : start.since config acts = s) : s.document.convention config = .ok conv := by
  subst history
  exact (Document.convention_congr (language_since start config acts) config).trans marked

/-- **Cycling a heading continues what the last command left, and leaves the rest of the document
alone.** -/
theorem run_cycle_since {i stop : Nat} {level : Int} (fresh : start.memory = none)
    (marked : start.document.convention config = .ok conv)
    (history : start.since config acts = s) (hpoint : s.document.point.line = i)
    (hheading : conv.headingLevel? s.document.lines i = some level)
    (hbody : i + 1 < s.document.lines.length)
    (hplain : conv.headingLevel? s.document.lines (i + 1) = none)
    (hstop : conv.subtreeEnd s.document.lines i = .ok (stop : Int)) :
    ∃ phase : LocalPhase,
      (s.run config .cycle).2 = .ok (.memory (some
        { command := localCycleName, phase := .ofHeading phase, line := some (i : Int) })) ∧
      (s.run config .cycle).1.notices = s.notices ++ [.showing phase] ∧
      Convention.NextPhase (conv.Nested s.document.lines i stop) i s.view
        (start.LeftIn config acts i) phase ∧
      conv.ShowsPhase s.document.lines i stop level phase s.view
        (s.run config .cycle).1.view := by
  have hsub : conv.Subtree s.document.lines i stop level := by
    have hsub := Convention.subtree_of_heading hheading
    rw [hsub.subtreeEnd_eq] at hstop
    rw [← Int.ofNat_inj.mp (Except.ok.inj hstop)]
    exact hsub
  obtain ⟨phase, shown, hcycled, hnext, hshows⟩ :=
    Convention.exists_cycled hsub hbody hplain s.view s.memory
  -- what is remembered of the heading is what the history left it in
  have hleft : (fun before => continuedPhase? s.memory i = some before) =
      start.LeftIn config acts i := by
    subst history
    funext before
    exact propext (continuedPhase?_since fresh acts i before)
  have hresult : s.document.cycleHeading config s.view s.memory = .ok
      { view := shown
        memory := some
          { command := localCycleName, phase := .ofHeading phase, line := some (i : Int) }
        notice := .showing phase } := by
    unfold Document.cycleHeading
    rw [convention_since marked history, ok_bind, hpoint]
    exact hcycled
  rw [run_cycle, hresult]
  rw [hleft] at hnext
  exact ⟨phase, rfl, rfl, hnext, hshows⟩

/-- A folded heading with another one in its subtree opens to its children. -/
theorem run_cycle_since_children : ∃ conv,
    let start := create (Document.ofText "/// A\nbody\n//// B\nmore".toList
      (Language.named? "c".toList) none)
    let s := start.since {} [.command .cycle]
    start.memory = none ∧ start.document.convention {} = .ok conv ∧
      s.document.point.line = (0 : Nat) ∧ conv.headingLevel? s.document.lines 0 = some 1 ∧
      0 + 1 < s.document.lines.length ∧
      conv.headingLevel? s.document.lines (0 + 1) = none ∧
      conv.subtreeEnd s.document.lines (0 : Nat) = .ok (4 : Nat) ∧
      (s.run {} .cycle).1.view.hidden = [3] ∧
      ∃ phase : LocalPhase,
        (s.run {} .cycle).2 = .ok (.memory (some
          { command := localCycleName, phase := .ofHeading phase, line := some (0 : Nat) })) ∧
        (s.run {} .cycle).1.notices = s.notices ++ [.showing phase] ∧
        Convention.NextPhase (conv.Nested s.document.lines 0 4) 0 s.view
          (start.LeftIn {} [.command .cycle] (0 : Nat)) phase ∧
        conv.ShowsPhase s.document.lines 0 4 1 phase s.view (s.run {} .cycle).1.view := by
  refine ⟨_, rfl, rfl, rfl, rfl, by decide, rfl, rfl, by decide, ?_⟩
  exact @run_cycle_since _
    (create (Document.ofText "/// A\nbody\n//// B\nmore".toList (Language.named? "c".toList) none))
    {} _ [.command .cycle] 0 4 1
    rfl rfl rfl rfl rfl (by decide) rfl rfl

end Session

end SourceOutline
