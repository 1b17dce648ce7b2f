import SourceOutline.Proofs.Edit.Fits
import SourceOutline.Proofs.Fold.Cycle
import SourceOutline.Proofs.Navigation
import SourceOutline.Proofs.Session.UpToDate

/-!
# Point and hidden lines stay inside

A session is *inside* when its point is a place of its document and its hidden lines are lines of
it. Every command keeps a session inside, and so does every edit of lines that are there. A command
that fails on the way had a reason that it may have.
-/

namespace SourceOutline

namespace Session

/-- Whether point and hidden lines of a session are inside its document. -/
structure Inside (s : Session) : Prop where
  point : s.document.PointInside
  view : s.view.Within s.document.lineCount

variable {s s' : Session} {config : Config} {command : Command} {asked : Int}

theorem Inside.congr (h : s.Inside) (hdocument : s'.document = s.document)
    (hview : s'.view = s.view) : s'.Inside where
  point := by
    rw [hdocument]
    exact h.point
  view := by
    rw [hdocument, hview]
    exact h.view

/-- Whether a session is inside after a command, and a fault is one that its document allows. -/
structure Stays (s : Session) (config : Config) (asked : Int)
    (after : Session × Except Fault Answer) : Prop where
  inside : after.1.Inside
  allowed : ∀ fault, after.2 = .error fault → s.document.Allows config s.room asked fault

theorem stays_of_ok {after : Session × Except Fault Answer} {answer : Answer}
    (h : after.1.Inside) (hok : after.2 = .ok answer) : s.Stays config asked after := by
  refine ⟨h, fun fault hfault => ?_⟩
  rw [hok] at hfault
  cases hfault

theorem stays_of_error (h : s.Inside) {fault : Fault}
    (allowed : s.document.Allows config s.room asked fault) : s.Stays config asked (s, .error fault) :=
  ⟨h, fun _ hfault => by cases hfault; exact allowed⟩

/-! ## Edits -/

theorem Inside.edited (h : s.Inside) {start stop : Int} (fits : s.document.Fits start stop)
    (new : List Text) : (s.edited start stop new).Inside where
  point := by
    obtain ⟨-, -, hcolumn, -⟩ := h.point
    exact Document.replace_pointInside hcolumn
  view := h.view.follow fits

/-- After a replacement that fits, point may go where the decision sends it. -/
theorem pointInside_of_fits {d : Document} {start stop : Int} {new : List Text} {point : Point}
    (event : Event) (fits : (Decision.replace start stop new (some point) event).Fits d) :
    ((d.replace start stop new).1.setPoint point).PointInside := by
  obtain ⟨hfits, hnew, hpoint⟩ := fits
  obtain ⟨first, last, rfl, rfl, hle, hlast⟩ := hfits.exists_nat
  obtain ⟨i, line, hget, hline, hnonneg, hcolumn⟩ := hpoint point rfl
  obtain ⟨hi, -⟩ := List.getElem?_eq_some_iff.mp hget
  have hlines := Document.replace_lines_of_fits hle hlast hnew
  have hnext : (d.replace first last new).1.lines[first + i]? = some line := by
    rw [hlines, List.append_assoc, List.getElem?_append_right (by rw [List.length_take]; omega),
      List.length_take, Nat.min_eq_left (by omega), Nat.add_sub_cancel_left,
      List.getElem?_append_left hi]
    exact hget
  have hinside := Document.setPoint_pointInside hnext (c := point.column.toNat) (by omega)
  have hsame : point =
      { line := ((first + i : Nat) : Int), column := (point.column.toNat : Int) } := by
    rcases point with ⟨row, column⟩
    rw [Point.mk.injEq]
    exact ⟨hline, (Int.toNat_of_nonneg hnonneg).symm⟩
  rw [hsame]
  exact hinside

theorem stays_carryOut (h : s.Inside) (fresh : s.UpToDate config) (valid : config.Valid)
    {decision : Except Fault Decision} (hdecided : s.document.Decided config s.room asked decision) :
    s.Stays config asked (s.carryOut config decision) := by
  rcases decision with fault | ⟨notice⟩ | ⟨start, stop, new, point, event⟩
  · exact stays_of_error h hdecided
  · exact stays_of_ok (h.congr rfl rfl) rfl
  · obtain ⟨cache, journal, hedit, -⟩ := fresh.replaceLines valid start stop new
    have hedited := h.edited hdecided.1 new
    unfold Session.carryOut
    dsimp only
    rw [hedit]
    cases point with
    | none => exact stays_of_ok (hedited.congr rfl rfl) rfl
    | some point => exact stays_of_ok ⟨pointInside_of_fits event hdecided, hedited.view⟩ rfl

/-! ## Moving and cycling -/

theorem Inside.setPoint (h : s.Inside) {n c : Nat} {line : Text}
    (hline : s.document.lines[n]? = some line) (hc : c ≤ line.length) :
    (s.setPoint { line := n, column := c }).Inside where
  point := Document.setPoint_pointInside hline hc
  view := h.view

theorem clampLine_eq (h : s.document.lines ≠ []) (number : Int) :
    ∃ (n : Nat) (line : Text), s.clampLine number = n ∧ s.document.lines[n]? = some line := by
  have hpos := List.length_pos_iff.mpr h
  have hlt : (s.clampLine number).toNat < s.document.lines.length := by
    unfold clampLine Document.lineCount
    omega
  refine ⟨(s.clampLine number).toNat, _, ?_, List.getElem?_eq_getElem hlt⟩
  unfold clampLine
  omega

theorem clampPoint_eq (h : s.document.lines ≠ []) (line column : Int) :
    ∃ (n c : Nat) (text : Text), s.clampPoint line column = { line := n, column := c } ∧
      s.document.lines[n]? = some text ∧ c ≤ text.length := by
  obtain ⟨n, text, hn, hget⟩ := clampLine_eq h line
  refine ⟨n, (max 0 (min column text.length)).toNat, text, ?_, hget, by omega⟩
  unfold clampPoint
  dsimp only
  rw [hn, Lines.lookup?_ofNat, hget, Option.getD_some, Point.mk.injEq]
  exact ⟨rfl, by omega⟩

theorem stays_carryOutMove (h : s.Inside) (valid : config.Valid) (direction : Direction)
    (count : Int) :
    s.Stays config count (s.carryOutMove
      (s.document.moveHeadings config direction count s.shows?)) := by
  rcases Document.moveHeadings_cases s.document config direction count s.shows? with
    ⟨hcount, hmove⟩ | ⟨fault, hconv, hmove⟩ | ⟨notice, hmove⟩ | ⟨n, scroll, hn, hmove⟩
  · rw [hmove]
    exact stays_of_error h ⟨rfl, hcount⟩
  · rw [hmove]
    exact stays_of_error h (Document.allows_of_unmarked valid hconv)
  · rw [hmove]
    exact stays_of_ok (h.congr rfl rfl) rfl
  · rw [hmove]
    exact stays_of_ok
      ((h.setPoint (List.getElem?_eq_getElem hn) (Nat.zero_le _)).congr rfl rfl) rfl

theorem stays_carryOutCycle (h : s.Inside) (valid : config.Valid)
    {cycled : Except Fault Cycled}
    (hok : ∀ conv, s.document.convention config = .ok conv → ∃ result, cycled = .ok result ∧
      result.view.Within s.document.lineCount)
    (herror : ∀ fault, s.document.convention config = .error fault → cycled = .error fault) :
    s.Stays config asked (s.carryOutCycle cycled) := by
  cases hconv : s.document.convention config with
  | error fault =>
      rw [herror fault hconv]
      exact stays_of_error h (Document.allows_of_unmarked valid hconv)
  | ok conv =>
      obtain ⟨result, rfl, hwithin⟩ := hok conv hconv
      exact stays_of_ok ⟨h.point, hwithin⟩ rfl

theorem stays_cycle (h : s.Inside) (valid : config.Valid) (previous : Option CycleMemory) :
    s.Stays config asked
      (s.carryOutCycle (s.document.cycleHeading config s.view previous)) := by
  obtain ⟨n, line, hpoint, hline⟩ := h.point.exists_line
  refine stays_carryOutCycle h valid ?_ ?_
  · intro conv hconv
    unfold Document.cycleHeading
    rw [hconv, ok_bind, hpoint]
    exact Convention.cycleAt_within hline h.view previous
  · intro fault hconv
    unfold Document.cycleHeading
    rw [hconv, error_bind]

theorem stays_cycleGlobal (h : s.Inside) (valid : config.Valid) (previous : Option CycleMemory) :
    s.Stays config asked
      (s.carryOutCycle (s.document.cycleDocument config previous)) := by
  refine stays_carryOutCycle h valid ?_ ?_
  · intro conv hconv
    unfold Document.cycleDocument
    rw [hconv, ok_bind]
    exact ⟨_, rfl, conv.cycleAll_within s.document.lines previous⟩
  · intro fault hconv
    unfold Document.cycleDocument
    rw [hconv, error_bind]

/-! ## Commands and acts -/

theorem stays_perform (h : s.Inside) (fresh : s.UpToDate config) (valid : config.Valid)
    (previous : Option CycleMemory) (command : Command) :
    s.Stays config command.asked (s.perform config previous command) := by
  cases hdecide : command.decide? with
  | some decide =>
      rw [perform_edit hdecide]
      exact stays_carryOut h fresh valid (Document.decided_of_decide? valid h.point hdecide s.room)
  | none =>
      cases command with
      | moveTo line column =>
          obtain ⟨n, c, text, hpoint, hget, hc⟩ := clampPoint_eq h.point.lines_ne_nil line column
          unfold Session.perform
          dsimp only
          rw [hpoint]
          exact stays_of_ok (h.setPoint hget hc) rfl
      | gotoHeading line =>
          obtain ⟨n, text, hn, hget⟩ := clampLine_eq h.point.lines_ne_nil line
          unfold Session.perform
          dsimp only
          rw [hn]
          exact stays_of_ok ⟨Document.setPoint_pointInside hget (Nat.zero_le _), h.view.reveal⟩ rfl
      | cycle => exact stays_cycle h valid previous
      | cycleGlobal => exact stays_cycleGlobal h valid previous
      | nextHeading count => exact stays_carryOutMove h valid .down count
      | previousHeading count => exact stays_carryOutMove h valid .up count
      | _ => cases hdecide

/-- **Running a command keeps a session inside, and fails only as it may.** -/
theorem stays_run (h : s.Inside) (fresh : s.UpToDate config) (valid : config.Valid)
    (command : Command) : s.Stays config command.asked (s.run config command) := by
  obtain ⟨memory, hrun⟩ := run_eq s config command
  obtain ⟨hinside, hallowed⟩ := stays_perform (s := s.begun command) (h.congr rfl rfl)
    (fresh.congr rfl rfl rfl rfl) valid s.memory command
  rw [hrun]
  exact ⟨hinside.congr rfl rfl, hallowed⟩

end Session

end SourceOutline
