import SourceOutline.Proofs.Config.Checked
import SourceOutline.Proofs.Decoration.Current
import SourceOutline.Proofs.Edit.Fits

/-!
# Edits are all or nothing

An editing command that refuses or fails has touched nothing that it could have edited. One that
answers that it did something has made a single change, of which every follower of the document
heard once, and the change tells which lines were replaced by how many.
-/

namespace SourceOutline

/-- Without a comment mark no editing command gets anywhere. -/
theorem Document.decide?_unmarked {d : Document} {config : Config} {fault : Fault}
    (hconv : d.convention config = .error fault) {command : Command}
    {decide : Document → Config → Int → Except Fault Decision} (h : command.decide? = some decide) :
    ∃ fault, decide d config room = .error fault := by
  -- a repeat count below one is found before the mark is missed
  have hrepeated : ∀ count decideHeading, ∃ fault,
      (checkRepeat count >>= fun _ => d.decideAtHeading config decideHeading) =
        .error fault := by
    intro count decideHeading
    rw [decideAtHeading_unmarked hconv]
    by_cases hcount : 1 ≤ count
    · exact ⟨fault, checkRepeat_bind hcount _⟩
    · exact ⟨_, by rw [checkRepeat_of_lt (by omega), error_bind]⟩
  cases command with
  | insertHeading level respectContent =>
      cases h
      exact ⟨fault, insertHeading_unmarked hconv level respectContent⟩
  | insertSubheading =>
      cases h
      exact ⟨fault, decideAtHeading_unmarked hconv _⟩
  | promote count =>
      cases h
      exact hrepeated count _
  | demote count =>
      cases h
      exact hrepeated count _
  | promoteSubtree count =>
      cases h
      exact hrepeated count _
  | demoteSubtree count =>
      cases h
      exact hrepeated count _
  | cycleTodo direction now =>
      cases h
      exact ⟨fault, decideAtHeading_unmarked hconv _⟩
  | setTodo keyword now =>
      cases h
      exact ⟨fault, decideAtHeading_unmarked hconv _⟩
  | _ => cases h

namespace Session

variable {s s' : Session} {config : Config} {command : Command}

/-- Whether two sessions agree on everything that an edit touches. -/
structure Untouched (s s' : Session) : Prop where
  document : s'.document = s.document
  view : s'.view = s.view
  cache : s'.cache = s.cache
  changes : s'.changes = s.changes

/-- Whether one session is another after a single change of which view, cache and record of changes
have heard once. Lines outside the replaced ones are as before, and as many lines as the change says
have taken their place. -/
structure ChangedOnce (config : Config) (s s' : Session) (change : Change) (first old : Nat)
    (block : List Text) : Prop where
  line_eq : change.line = first
  oldCount_eq : change.oldCount = old
  newCount_eq : change.newCount = block.length
  inside : first + old ≤ s.document.lines.length
  lines : s'.document.lines =
    s.document.lines.take first ++ block ++ s.document.lines.drop (first + old)
  changes : s'.changes = s.changes ++ [change]
  view : s'.view = s.view.follow change
  cache : s'.cache = if s.attached
    then (s.cache.notify s'.document config change.position change.newLength).1 else s.cache

/-- Whoever follows a document with a comment mark does not fail. -/
theorem replaceLines_marked (valid : config.Valid) {conv : Convention}
    (hconv : s.document.convention config = .ok conv) (start stop : Int) (new : List Text) :
    ∃ journal, s.replaceLines config start stop new =
      ({ s.edited start stop new with
          cache := if s.attached
            then (s.cache.notify (s.document.replace start stop new).1 config
              (s.document.changeOf start stop new).position
              (s.document.changeOf start stop new).newLength).1 else s.cache
          journal },
        .ok (s.document.changeOf start stop new)) := by
  rw [replaceLines_eq]
  cases hattached : s.attached with
  | false =>
      rw [followChange_detached (s := s.edited start stop new) hattached]
      exact ⟨s.journal, rfl⟩
  | true =>
      obtain ⟨events, hok⟩ := Cache.notify_replace_ok valid hconv s.cache start stop new
      rw [followChange_of_notify (s := s.edited start stop new) hattached (Prod.ext rfl hok)]
      exact ⟨s.journal ++ events, rfl⟩

theorem run_of_decision (valid : config.Valid) {conv : Convention}
    (hconv : s.document.convention config = .ok conv)
    {decide : Document → Config → Int → Except Fault Decision} (hdecide : command.decide? = some decide)
    {start stop : Int} {new : List Text} {point : Option Point} {event : Event}
    (hdecision : decide s.document config s.room = .ok (.replace start stop new point event)) :
    (s.run config command).2 = .ok (.flag true) ∧
      (s.run config command).1.document =
        point.elim (s.document.replace start stop new).1
          (s.document.replace start stop new).1.setPoint ∧
      (s.run config command).1.view = s.view.follow (s.document.changeOf start stop new) := by
  obtain ⟨memory, hrun⟩ := run_eq s config command
  obtain ⟨journal, hreplace⟩ :=
    replaceLines_marked (s := s.begun command) valid hconv start stop new
  rw [hrun, perform_edit hdecide, begun_document, begun_room, hdecision]
  unfold carryOut
  dsimp only
  rw [hreplace]
  cases point with
  | none => exact ⟨rfl, rfl, rfl⟩
  | some point => exact ⟨rfl, rfl, rfl⟩

theorem run_of_replace (valid : config.Valid) {conv : Convention}
    (hconv : s.document.convention config = .ok conv)
    {decide : Document → Config → Int → Except Fault Decision} (hdecide : command.decide? = some decide)
    {start stop : Int} {new : List Text} {event : Event}
    (hdecision : decide s.document config s.room = .ok (.replace start stop new none event)) :
    (s.run config command).2 = .ok (.flag true) ∧
      (s.run config command).1.document = (s.document.replace start stop new).1 ∧
      (s.run config command).1.view = s.view.follow (s.document.changeOf start stop new) :=
  run_of_decision valid hconv hdecide hdecision

/-- A replacement that fits is carried out as a single change. -/
theorem carryOut_replace (valid : config.Valid) {conv : Convention}
    (hconv : s.document.convention config = .ok conv) {start stop : Int} {new : List Text}
    {point : Option Point} {event : Event}
    (fits : (Decision.replace start stop new point event).Fits s.document) :
    (s.carryOut config (.ok (.replace start stop new point event))).2 = .ok (.flag true) ∧
      ∃ change first old block, s.ChangedOnce config
        (s.carryOut config (.ok (.replace start stop new point event))).1 change first old
          block := by
  obtain ⟨hfits, hnew, -⟩ := fits
  obtain ⟨first, last, rfl, rfl, hle, hlast⟩ := hfits.exists_nat
  obtain ⟨hline, hold, hcount⟩ := Document.changeOf_ofNat hle hlast new
  have hlines := Document.replace_lines_of_fits hle hlast hnew
  obtain ⟨journal, hreplace⟩ := replaceLines_marked valid hconv first last new
  have hlast' : first + (last - first) = last := by omega
  unfold carryOut
  dsimp only
  rw [hreplace]
  refine ⟨rfl, s.document.changeOf first last new, first, last - first, new, ?_⟩
  cases point with
  | none => exact ⟨hline, by omega, hcount, by omega, by rw [hlast']; exact hlines, rfl, rfl, rfl⟩
  | some point =>
      exact ⟨hline, by omega, hcount, by omega, by rw [hlast']; exact hlines, rfl, rfl, rfl⟩

/-- **An editing command makes exactly one change, or none at all.** -/
theorem run_edit_atomic (valid : config.Valid) (inside : s.document.PointInside)
    (edits : command.decide?.isSome) :
    ((s.run config command).2 = .ok (.flag true) ∧
      ∃ change first old block,
        s.ChangedOnce config (s.run config command).1 change first old block) ∨
    (((s.run config command).2 = .ok (.flag false) ∨
        ∃ fault, (s.run config command).2 = .error fault) ∧
      s.Untouched (s.run config command).1) := by
  obtain ⟨decide, hdecide⟩ := Option.isSome_iff_exists.mp edits
  obtain ⟨memory, hrun⟩ := run_eq s config command
  have hdecided := Document.decided_of_decide? valid inside hdecide s.room
  rw [hrun, perform_edit hdecide, begun_document, begun_room]
  cases hdecision : decide s.document config s.room with
  | error fault => exact Or.inr ⟨Or.inr ⟨fault, rfl⟩, rfl, rfl, rfl, rfl⟩
  | ok decision =>
      rw [hdecision] at hdecided
      cases decision with
      | refuse notice => exact Or.inr ⟨Or.inl rfl, rfl, rfl, rfl, rfl⟩
      | replace start stop new point event =>
          left
          cases hconv : s.document.convention config with
          | error fault =>
              obtain ⟨fault', hfault⟩ := Document.decide?_unmarked hconv hdecide
              rw [hfault] at hdecision
              cases hdecision
          | ok conv =>
              obtain ⟨hanswer, change, first, old, block, hchanged⟩ :=
                carryOut_replace (s := s.begun command) valid hconv hdecided
              refine ⟨hanswer, change, first, old, block, ?_⟩
              exact ⟨hchanged.line_eq, hchanged.oldCount_eq, hchanged.newCount_eq, hchanged.inside,
                hchanged.lines, hchanged.changes, hchanged.view, hchanged.cache⟩

/-- A heading that is demoted, with a body below it. -/
theorem run_edit_atomic_demoted :
    let s := create (Document.ofText "/// A\nbody".toList (Language.named? "c".toList) none)
    s.document.PointInside ∧ (Command.demote 1).decide?.isSome ∧
      (s.run {} (.demote 1)).2 = .ok (.flag true) ∧
      ∃ change first old block,
        s.ChangedOnce {} (s.run {} (.demote 1)).1 change first old block := by
  refine ⟨by decide, rfl, rfl, ?_⟩
  have valid : Config.Valid {} := Settings.valid_of_check (s := .defaults) rfl
  rcases @run_edit_atomic (create (Document.ofText "/// A\nbody".toList
    (Language.named? "c".toList) none)) {} (.demote 1) valid (by decide) rfl with
    ⟨-, hchanged⟩ | ⟨hanswer, -⟩
  · exact hchanged
  · rcases hanswer with hrefused | ⟨fault, hfailed⟩
    · cases hrefused
    · cases hfailed

end Session

end SourceOutline
