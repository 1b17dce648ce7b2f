import SourceOutline.Proofs.Edit.Relevelled

/-!
# Promoting what has been demoted

Promoting reads everything again from the lines that demoting has written: the heading, how far it
can go up, and the end of its subtree with the headings inside. Where headings have a run of two at
least, all of these are found where they were. Main statement: promoting then undoes demoting, for a
heading as for a subtree, whenever demoting gets somewhere (`run_restores_iff`).
-/

namespace SourceOutline

/-! ## The lines -/

namespace Convention

variable {conv : Convention} {lines : List Text} {line : Text} {level room delta : Int}
  {last n stop i : Nat}

theorem not_closesBy (hbase : 2 ≤ conv.config.baseLevel) (hdelta : 1 ≤ delta)
    (h : conv.isHeading line = true) : ¬conv.ClosesBy delta line := by
  rintro ⟨hrun, -⟩
  obtain ⟨level, hlevel⟩ := isHeading_iff.mp h
  obtain ⟨-, -, hown, -⟩ := level?_eq_some.mp hlevel
  omega

namespace Subtree

variable (h : conv.Subtree lines n stop level) (hdelta : 1 ≤ delta)
include h hdelta

theorem staysBelow_of_pos (hn : n ≤ i) (hstop : i < stop) (hline : lines[i]? = some line) :
    conv.StaysBelow delta line := by
  obtain ⟨root, -, hroot⟩ := headingLevel?_eq_some.mp h.heading
  have hlevel := level?_pos hroot
  exact h.staysBelow (by omega) hn hstop hline

variable (hbase : 2 ≤ conv.config.baseLevel)
include hbase

/-- Demoted headings are where they were, deeper by what they were demoted by. -/
theorem headingLevel?_shiftedLines (hn : n ≤ i) (hlast : i < last) (hle : last ≤ stop) :
    conv.headingLevel? (conv.shiftedLines delta n last lines) i =
      (conv.headingLevel? lines i).map (· + delta) := by
  unfold headingLevel?
  rw [getElem?_shiftedLines_inside hn hlast]
  cases hline : lines[i]? with
  | none => rfl
  | some line =>
      have hbelow := h.staysBelow_of_pos hdelta hn (Nat.lt_of_lt_of_le hlast hle) hline
      rw [Option.map_some, Option.bind_some, Option.bind_some]
      cases hlevel : conv.level? line with
      | none =>
          have hplain : conv.isHeading line = false := by
            rw [isHeading, hlevel]
            rfl
          rw [shifted_of_not_heading hplain, hlevel]
          rfl
      | some other =>
          have hopen := not_closesBy hbase hdelta (isHeading_iff.mpr ⟨other, hlevel⟩)
          rw [level?_shifted (by omega) hlevel (hbelow other hlevel), if_neg hopen]
          rfl

/-- **A demoted subtree ends where it did.** -/
theorem shiftedLines :
    conv.Subtree (conv.shiftedLines delta n stop lines) n stop (level + delta) where
  heading := by
    rw [h.headingLevel?_shiftedLines hdelta hbase (Nat.le_refl n) h.lt_stop (Nat.le_refl stop),
      h.heading]
    rfl
  lt_stop := h.lt_stop
  stop_le := by
    rw [length_shiftedLines]
    exact h.stop_le
  deeper := by
    intro i hn hi other hother
    rw [h.headingLevel?_shiftedLines hdelta hbase (Nat.le_of_lt hn) hi (Nat.le_refl stop),
      Option.map_eq_some_iff] at hother
    obtain ⟨old, hold, rfl⟩ := hother
    have := h.deeper i hn hi old hold
    omega
  stops := by
    intro hstop
    rw [length_shiftedLines] at hstop
    obtain ⟨other, hother, hle⟩ := h.stops hstop
    refine ⟨other, ?_, by omega⟩
    rw [headingLevel?, getElem?_shiftedLines_outside (Or.inr (Nat.le_refl stop))]
    exact hother

/-- **Shifting back gives the lines that were there.** -/
theorem shiftedLines_shiftedLines (hle : last ≤ stop) :
    conv.shiftedLines (-delta) n last (conv.shiftedLines delta n last lines) = lines := by
  refine List.ext_getElem? fun i => ?_
  by_cases hinside : n ≤ i ∧ i < last
  · rw [getElem?_shiftedLines_inside hinside.1 hinside.2,
      getElem?_shiftedLines_inside hinside.1 hinside.2]
    cases hline : lines[i]? with
    | none => rfl
    | some line =>
        have hbelow := h.staysBelow_of_pos hdelta hinside.1 (by omega) hline
        have hkept := isHeading_shifted (by omega) hbelow (not_closesBy hbase hdelta)
        exact congrArg some (shifted_shifted (by omega) hbelow hkept)
  · rw [getElem?_shiftedLines_outside (by omega), getElem?_shiftedLines_outside (by omega)]

theorem hasRoomIn_neg (hle : last ≤ stop) (hroom : conv.HasRoomIn room delta n last lines) :
    conv.HasRoomIn room (-delta) n last (conv.shiftedLines delta n last lines) := by
  intro i other hn hi hother
  rw [getElem?_shiftedLines_inside hn hi, Option.map_eq_some_iff] at hother
  obtain ⟨line, hline, rfl⟩ := hother
  have hbelow := h.staysBelow_of_pos hdelta hn (by omega) hline
  exact (hroom i line hn hi hline).neg (by omega) hbelow (by omega)

end Subtree

end Convention

/-! ## There and back -/

namespace Session

variable {s : Session} {config : Config} {conv : Convention} {n stop last : Nat} {line : Text}
  {heading : Heading} {count : Int} {there back : Command}

/-- Whether two commands in a row both get somewhere and leave document and hidden lines as they
were. A point behind the end of its line, `line`, ends up at the end. -/
structure Restores (s : Session) (config : Config) (line : Text) (there back : Command) : Prop where
  first : (s.run config there).2 = .ok (.flag true)
  second : ((s.run config there).1.run config back).2 = .ok (.flag true)
  document : ((s.run config there).1.run config back).1.document =
    { s.document with
      point := { s.document.point with column := min s.document.point.column line.length } }
  view : ((s.run config there).1.run config back).1.view = s.view

/-- A command that demotes is undone by one that finds as much to promote. -/
theorem restores_iff_of_shifts (valid : config.Valid) (hbase : 2 ≤ config.baseLevel)
    (h : s.document.AtHeading config conv n line heading)
    (hsub : conv.Subtree s.document.lines n stop heading.level) (hcount : 1 ≤ count)
    (hthere : there.Shifts n stop heading.level last count)
    (hback : ∃ stop', conv.Subtree (conv.shiftedLines count n last s.document.lines) n stop'
      (heading.level + count) ∧ back.Shifts n stop' (heading.level + count) last (-count)) :
    s.Restores config line there back ↔ conv.HasRoomIn s.room count n last s.document.lines := by
  rw [← h.config_eq] at hbase
  obtain ⟨hlt, hle⟩ := hthere.bounds hsub.lt_stop
  have hlevel := hthere.one_le h.readFrom.level_pos
  rcases run_shift valid h hsub hthere with
    ⟨hrefused, -⟩ | ⟨-, hroom, fault, hanswer⟩ | ⟨-, hroom, hshifted⟩
  · omega
  · refine iff_of_false (fun hrestores => ?_) hroom
    rw [hrestores.first] at hanswer
    cases hanswer
  -- the command back finds the heading that the command there has written
  have hheading : conv.isHeading line = true :=
    Convention.isHeading_iff.mpr ⟨_, h.readFrom.level_eq⟩
  have hbelow := hsub.staysBelow_of_pos hcount (Nat.le_refl n) hsub.lt_stop h.get
  have hopen := Convention.not_closesBy hbase hcount hheading
  have hat := hshifted.atHeading h valid hlt hlevel hopen
  obtain ⟨stop', hsub', hback⟩ := hback
  rw [← hshifted.lines_eq] at hsub'
  have hroomBack := hsub.hasRoomIn_neg hcount hbase hle hroom
  rw [← hshifted.lines_eq, ← run_room s config there] at hroomBack
  rcases run_shift valid hat hsub' hback with
    ⟨hrefused, -⟩ | ⟨-, hfull, -⟩ | ⟨-, -, hrestored⟩
  · omega
  · exact absurd hroomBack hfull
  refine iff_of_true ⟨hshifted.answer, hrestored.answer, ?_, ?_⟩ hroom
  · have hlength := Convention.length_shifted (by omega) h.readFrom.level_eq hlevel
    have hline := Convention.shifted_shifted (by omega) hbelow
      (Convention.isHeading_shifted (by omega) hbelow fun _ => hopen)
    have hpoint : ({ line := n, column := min (min s.document.point.column
          (conv.shifted count line).length) line.length } : Point) =
        { s.document.point with column := min s.document.point.column line.length } := by
      rw [Point.mk.injEq]
      exact ⟨h.point.symm, by omega⟩
    rw [hrestored.document, hshifted.document, hline]
    dsimp only
    rw [hsub.shiftedLines_shiftedLines hcount hbase hle, hpoint]
  · exact hrestored.view.trans hshifted.view

/-- **Promoting undoes demoting.** Demoting the heading at point and promoting it again by as much
both get somewhere and leave the document as it was, except for a point behind the end of its line,
when the longer run is not too long to write, and not otherwise. The same goes for its subtree, when
none of the longer runs in it is too long. -/
theorem run_restores_iff (valid : config.Valid) (hbase : 2 ≤ config.baseLevel)
    (h : s.document.AtHeading config conv n line heading)
    (hstop : conv.subtreeEnd s.document.lines n = .ok (stop : Int)) (hcount : 1 ≤ count) :
    (s.Restores config line (.demote count) (.promote count) ↔
      ¬TooLong s.room conv.mark (heading.run + count)) ∧
    (s.Restores config line (.demoteSubtree count) (.promoteSubtree count) ↔
      conv.HasRoomIn s.room count n stop s.document.lines) := by
  have hsub := h.subtree_of_subtreeEnd hstop
  have hlevel := h.readFrom.level_pos
  have hbase' := hbase
  rw [← h.config_eq] at hbase'
  have hraised : -min count (heading.level + count - 1) = -count := by omega
  constructor
  · have hheading : conv.headingLevel? (conv.shiftedLines count n (n + 1) s.document.lines) n =
        some (heading.level + count) := by
      rw [hsub.headingLevel?_shiftedLines hcount hbase' (Nat.le_refl n) (Nat.lt_succ_self n)
        hsub.lt_stop, hsub.heading]
      rfl
    have hback : ∀ stop', (Command.promote count).Shifts n stop' (heading.level + count) (n + 1)
        (-min count (heading.level + count - 1)) := fun _ => .promote hcount
    rw [hraised] at hback
    rw [← hasRoom_iff h, ← hasRoomIn_line h.get]
    exact restores_iff_of_shifts valid hbase h hsub hcount (.demote hcount)
      ⟨_, Convention.subtree_of_heading hheading, hback _⟩
  · have hback : (Command.promoteSubtree count).Shifts n stop (heading.level + count) stop
        (-min count (heading.level + count - 1)) := .promoteSubtree hcount
    rw [hraised] at hback
    exact restores_iff_of_shifts valid hbase h hsub hcount (.demoteSubtree hcount)
      ⟨stop, hsub.shiftedLines hcount hbase', hback⟩

/-- A heading with a deeper one below it, demoted and promoted by two levels. -/
theorem run_restores_iff_subtree :
    let s := create (Document.ofText "/// A\n//// B\ntext\n/// C".toList
      (Language.named? "c".toList) none)
    ∃ conv heading, Config.Valid {} ∧ 2 ≤ ({} : Config).baseLevel ∧
      s.document.AtHeading {} conv 0 "/// A".toList heading ∧
      conv.subtreeEnd s.document.lines 0 = .ok 3 ∧ (1 : Int) ≤ 2 ∧
      s.Restores {} "/// A".toList (.demote 2) (.promote 2) ∧
      s.Restores {} "/// A".toList (.demoteSubtree 2) (.promoteSubtree 2) := by
  intro s
  have valid : Config.Valid {} := Settings.valid_of_check (s := .defaults) rfl
  have hbase : 2 ≤ ({} : Config).baseLevel := by decide
  have h : s.document.AtHeading {} ⟨['/'], {}⟩ 0 "/// A".toList
      { line := 0, indentation := [], run := 3, level := 1, keyword := none,
        title := "A".toList, closed := none } := ⟨rfl, rfl, rfl, by decide⟩
  have hstop : Convention.subtreeEnd ⟨['/'], {}⟩ s.document.lines 0 = .ok 3 := by decide
  have hcount : (1 : Int) ≤ 2 := by decide
  have hroom : Convention.HasRoomIn ⟨['/'], {}⟩ s.room 2 0 3 s.document.lines := by
    intro i line _ hi hline _
    rcases (by omega : i = 0 ∨ i = 1 ∨ i = 2) with rfl | rfl | rfl
    · cases hline
      decide
    · cases hline
      decide
    · cases hline
      decide
  obtain ⟨hone, hall⟩ := run_restores_iff valid hbase h hstop hcount
  exact ⟨_, _, valid, hbase, h, hstop, hcount, hone.mpr (by decide), hall.mpr hroom⟩

/-- Promoting leaves a point at the end of its line that stood behind it before the line was
demoted, and has nothing to undo when the longer run cannot be written. -/
theorem run_promote_moves_point :
    let s := (create (Document.ofText "/// A".toList (Language.named? "c".toList) none)).setPoint
      { line := 0, column := 9 }
    ∃ conv heading, Config.Valid {} ∧ 2 ≤ ({} : Config).baseLevel ∧
      s.document.AtHeading {} conv 0 "/// A".toList heading ∧
      (s.run {} (.demote 1)).2 = .ok (.flag true) ∧
      ((s.run {} (.demote 1)).1.run {} (.promote 1)).2 = .ok (.flag true) ∧
      s.document.point = { line := 0, column := 9 } ∧
      ((s.run {} (.demote 1)).1.run {} (.promote 1)).1.document.point =
        { line := 0, column := 5 } ∧
      (s.run {} (.demote countBound)).2 ≠ .ok (.flag true) := by
  intro s
  have valid : Config.Valid {} := Settings.valid_of_check (s := .defaults) rfl
  exact ⟨⟨['/'], {}⟩,
    { line := 0, indentation := [], run := 3, level := 1, keyword := none, title := "A".toList,
      closed := none },
    valid, by decide, ⟨rfl, rfl, rfl, by decide⟩, by decide, by decide, rfl, by decide,
    by decide⟩

end Session

end SourceOutline
