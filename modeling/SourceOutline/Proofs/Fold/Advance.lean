import SourceOutline.Proofs.Fold.Shown

/-!
# Which phase comes next

A heading with headings in its subtree is folded, shows its children, shows its subtree and is folded
again; without them it skips the children (`Advance`). A cycle that continues one goes on from there.
A fresh one folds the heading, but when the line below is hidden already it goes on as from a folded
heading (`NextPhase`).

Main statement: cycling a heading that has a body moves it to the next phase and shows the subtree in
that phase (`exists_cycled`).
-/

namespace SourceOutline

namespace Convention

variable {conv : Convention} {lines : List Text} {i stop : Nat} {level : Int} {v : FoldView}
  {phase : LocalPhase}

/-- Whether a heading stands between line `i` and line `stop`. -/
def Nested (conv : Convention) (lines : List Text) (i stop : Nat) : Prop :=
  ∃ n level, i < n ∧ n < stop ∧ conv.headingLevel? lines n = some level

/-- The steps from phase to phase, for a heading with or without others in its subtree. -/
inductive Advance (nested : Prop) : LocalPhase → LocalPhase → Prop where
  | open_children (h : nested) : Advance nested .folded .children
  | skip_children (h : ¬nested) : Advance nested .folded .subtree
  | open_subtree : Advance nested .children .subtree
  | close : Advance nested .subtree .folded

/-- The phase that a cycle of a heading leads to, given in which phase the command before left the
heading, if it did. -/
structure NextPhase (nested : Prop) (i : Nat) (v : FoldView) (left : LocalPhase → Prop)
    (phase : LocalPhase) : Prop where
  continues : ∀ before, left before → Advance nested before phase
  starts : (∀ before, ¬left before) → ((i : Int) + 1) ∉ v.hidden → phase = .folded
  joins : (∀ before, ¬left before) → ((i : Int) + 1) ∈ v.hidden → Advance nested .folded phase

theorem hasChildren_iff (h : conv.Subtree lines i stop level) :
    (conv.subtreeLines level (lines.drop (i + 1))).any conv.isHeading = true ↔
      conv.Nested lines i stop := by
  have hstop := h.stop_eq
  rw [List.any_eq_true]
  constructor
  · rintro ⟨line, hmem, hheading⟩
    obtain ⟨k, hk⟩ := List.mem_iff_getElem?.mp hmem
    obtain ⟨hlt, -⟩ := List.getElem?_eq_some_iff.mp hk
    obtain ⟨other, hother⟩ := isHeading_iff.mp hheading
    rw [getElem?_subtreeLines hlt] at hk
    exact ⟨i + 1 + k, other, by omega, by omega, headingLevel?_eq_some.mpr ⟨line, hk, hother⟩⟩
  · rintro ⟨n, other, hin, hn, hlevel⟩
    obtain ⟨line, hline, hother⟩ := headingLevel?_eq_some.mp hlevel
    refine ⟨line, List.mem_iff_getElem?.mpr ⟨n - (i + 1), ?_⟩, isHeading_iff.mpr ⟨other, hother⟩⟩
    rw [getElem?_subtreeLines (by omega), Nat.add_sub_cancel' hin]
    exact hline

theorem hasChildren_eq_true_iff (h : conv.Subtree lines i stop level) :
    conv.hasChildren lines i = .ok true ↔ conv.Nested lines i stop := by
  obtain ⟨line, hline, hlevel⟩ := headingLevel?_eq_some.mp h.heading
  rw [hasChildren_ofNat hline hlevel, Except.ok.injEq, hasChildren_iff h]

theorem exists_phaseAfter (h : conv.Subtree lines i stop level) (phase : LocalPhase) :
    ∃ next, nextPhase.phaseAfter conv lines i phase = .ok next ∧
      Advance (conv.Nested lines i stop) phase next := by
  cases phase with
  | folded =>
      obtain ⟨line, hline, hlevel⟩ := headingLevel?_eq_some.mp h.heading
      unfold nextPhase.phaseAfter
      rw [hasChildren_ofNat hline hlevel, map_ok]
      refine ⟨_, rfl, ?_⟩
      by_cases hnested : conv.Nested lines i stop
      · rw [(hasChildren_iff h).mpr hnested]
        exact .open_children hnested
      · rw [Bool.eq_false_iff.mpr fun hany => hnested ((hasChildren_iff h).mp hany)]
        exact .skip_children hnested
  | children => exact ⟨_, rfl, .open_subtree⟩
  | subtree => exact ⟨_, rfl, .close⟩

theorem nextPhase_isNext (h : conv.Subtree lines i stop level) (v : FoldView)
    (previous : Option CycleMemory) :
    ∃ phase, conv.nextPhase lines i v previous = .ok phase ∧
      NextPhase (conv.Nested lines i stop) i v
        (fun before => continuedPhase? previous i = some before) phase := by
  unfold nextPhase
  cases hleft : continuedPhase? previous i with
  | some before =>
      obtain ⟨next, hnext, hadvance⟩ := exists_phaseAfter h before
      refine ⟨next, hnext, ?_, fun hnone => ?_, fun hnone => ?_⟩
      · rintro _ ⟨⟩
        exact hadvance
      · exact absurd rfl (hnone before)
      · exact absurd rfl (hnone before)
  | none =>
      dsimp only
      have hleft : ∀ before : LocalPhase, ¬(none : Option LocalPhase) = some before := by
        intro before h
        cases h
      -- a fresh cycle looks at the line below to see whether the heading is folded
      by_cases hbelow : ((i : Int) + 1) ∈ v.hidden
      · obtain ⟨next, hnext, hadvance⟩ := exists_phaseAfter h .folded
        rw [if_pos (FoldView.isHidden_iff.mpr hbelow)]
        exact ⟨next, hnext, fun before h => absurd h (hleft before),
          fun _ hshown => absurd hbelow hshown, fun _ _ => hadvance⟩
      · rw [if_neg (fun h => hbelow (FoldView.isHidden_iff.mp h))]
        exact ⟨.folded, rfl, fun before h => absurd h (hleft before), fun _ _ => rfl,
          fun _ hhidden => absurd hhidden hbelow⟩

theorem isEmptyHeading_eq_false (hbody : i + 1 < lines.length)
    (hplain : conv.headingLevel? lines (i + 1) = none) :
    conv.isEmptyHeading lines i = .ok false := by
  have hline := List.getElem?_eq_getElem hbody
  unfold isEmptyHeading
  rw [if_neg (by omega), show (i : Int) + 1 = ((i + 1 : Nat) : Int) by omega,
    levelAt_ofNat conv hline, ← headingLevel?_of_get hline, hplain]
  rfl

/-- **Cycling a heading with a body moves it to its next phase.** -/
theorem exists_cycled (h : conv.Subtree lines i stop level) (hbody : i + 1 < lines.length)
    (hplain : conv.headingLevel? lines (i + 1) = none) (v : FoldView)
    (previous : Option CycleMemory) :
    ∃ phase shown, conv.cycleAt lines i v previous = .ok
        { view := shown
          memory := some
            { command := localCycleName, phase := .ofHeading phase, line := some (i : Int) }
          notice := .showing phase } ∧
      NextPhase (conv.Nested lines i stop) i v
        (fun before => continuedPhase? previous i = some before) phase ∧
      conv.ShowsPhase lines i stop level phase v shown := by
  obtain ⟨line, hline, hlevel⟩ := headingLevel?_eq_some.mp h.heading
  obtain ⟨phase, hphase, hnext⟩ := nextPhase_isNext h v previous
  obtain ⟨shown, hshown, hshows⟩ := exists_showPhase h v phase
  obtain ⟨heading, hread⟩ : ∃ heading, conv.readHeading? i line lines[i + 1]? = some heading := by
    refine Option.ne_none_iff_exists'.mp fun hnone => ?_
    rw [readHeading?_eq_none.mp hnone] at hlevel
    cases hlevel
  refine ⟨phase, shown, ?_, hnext, hshows⟩
  unfold cycleAt
  rw [headingAt_ofNat conv hline, ok_bind, hread]
  dsimp only
  rw [isEmptyHeading_eq_false hbody hplain, ok_bind, if_neg Bool.false_ne_true, hphase, ok_bind,
    hshown, ok_bind]
  rfl

end Convention

end SourceOutline
