import SourceOutline.Session
import SourceOutline.Proofs.Outcome

/-!
# What a command leaves alone

Running a command notes it and performs it. Editing commands carry out what they decide about the
document; every other command leaves the text, the cache and the changes of the session alone
(`Session.Beside`). An edit brings view, changes and cache along (`replaceLines_eq`).
-/

namespace SourceOutline

/-- What an editing command decides about a document; the other commands do not edit. -/
def Command.decide? : Command → Option (Document → Config → Int → Except Fault Decision)
  | insertHeading level respectContent => some (·.insertHeading · · level respectContent)
  | insertSubheading => some (·.insertSubheading · ·)
  | promote count => some (·.promote · · count)
  | demote count => some (·.demote · · count)
  | promoteSubtree count => some (·.promoteSubtree · · count)
  | demoteSubtree count => some (·.demoteSubtree · · count)
  | cycleTodo direction now => some fun d config _ => d.cycleTodo config direction now
  | setTodo keyword now => some fun d config _ => d.setTodo config keyword now
  | _ => none

namespace Session

variable {s s' : Session} {config : Config} {command : Command} {previous : Option CycleMemory}

/-! ## Commands that do not edit -/

/-- Whether two sessions differ beside the text only: in point, view and what has been told. -/
structure Beside (s s' : Session) : Prop where
  document : ∃ point, s'.document = s.document.setPoint point
  cache : s'.cache = s.cache
  attached : s'.attached = s.attached
  changes : s'.changes = s.changes

theorem beside_of_document (hdocument : s'.document = s.document) (hcache : s'.cache = s.cache)
    (hattached : s'.attached = s.attached) (hchanges : s'.changes = s.changes) : s.Beside s' :=
  ⟨⟨s.document.point, hdocument⟩, hcache, hattached, hchanges⟩

theorem Beside.lines_eq (h : s.Beside s') : s'.document.lines = s.document.lines := by
  obtain ⟨point, hpoint⟩ := h.document
  rw [hpoint]
  rfl

theorem Beside.language_eq (h : s.Beside s') : s'.document.language = s.document.language := by
  obtain ⟨point, hpoint⟩ := h.document
  rw [hpoint]
  rfl

theorem beside_carryOutMove (s : Session) (move : Except Fault Move) :
    s.Beside (s.carryOutMove move).1 := by
  rcases move with fault | ⟨notice⟩ | ⟨line, scroll⟩
  · exact beside_of_document rfl rfl rfl rfl
  · exact beside_of_document rfl rfl rfl rfl
  · exact ⟨⟨_, rfl⟩, rfl, rfl, rfl⟩

theorem beside_carryOutCycle (s : Session) (cycled : Except Fault Cycled) :
    s.Beside (s.carryOutCycle cycled).1 := by
  rcases cycled with fault | cycled
  · exact beside_of_document rfl rfl rfl rfl
  · exact beside_of_document rfl rfl rfl rfl

theorem perform_edit {decide : Document → Config → Int → Except Fault Decision}
    (h : command.decide? = some decide) (s : Session) (config : Config)
    (previous : Option CycleMemory) :
    s.perform config previous command = s.carryOut config (decide s.document config s.room) := by
  cases command <;> cases h <;> rfl

theorem beside_perform (h : command.decide? = none) (s : Session) (config : Config)
    (previous : Option CycleMemory) : s.Beside (s.perform config previous command).1 := by
  cases command with
  | moveTo line column => exact ⟨⟨_, rfl⟩, rfl, rfl, rfl⟩
  | gotoHeading line => exact ⟨⟨_, rfl⟩, rfl, rfl, rfl⟩
  | cycle => exact beside_carryOutCycle s _
  | cycleGlobal => exact beside_carryOutCycle s _
  | nextHeading count => exact beside_carryOutMove s _
  | previousHeading count => exact beside_carryOutMove s _
  | _ => cases h

/-! ## Running -/

/-- A session that has noted a command. -/
def begun (s : Session) (command : Command) : Session :=
  (s.note command.name).record [.command command.name s.document.name]

@[simp] theorem begun_document (s : Session) (command : Command) :
    (s.begun command).document = s.document := rfl

@[simp] theorem begun_room (s : Session) (command : Command) :
    (s.begun command).room = s.room := rfl

/-- Running a command is performing it; what it leaves for the next command is put away. -/
theorem run_eq (s : Session) (config : Config) (command : Command) :
    ∃ memory, s.run config command =
      ({ ((s.begun command).perform config s.memory command).1 with memory },
        ((s.begun command).perform config s.memory command).2) := by
  unfold run
  dsimp only
  rw [show (s.note command.name).record [.command command.name s.document.name] =
    s.begun command from rfl]
  rcases (s.begun command).perform config s.memory command with ⟨s', fault | answer⟩
  · exact ⟨s'.memory, rfl⟩
  · cases answer with
    | memory memory => exact ⟨memory, rfl⟩
    | _ => exact ⟨s'.memory, rfl⟩

theorem run_of_error {decide : Document → Config → Int → Except Fault Decision} {fault : Fault}
    (h : command.decide? = some decide)
    (hdecision : decide s.document config s.room = .error fault) :
    (s.run config command).2 = .error fault := by
  obtain ⟨memory, hrun⟩ := run_eq s config command
  rw [hrun, perform_edit h, begun_document, begun_room, hdecision]
  rfl

theorem run_of_refuse {decide : Document → Config → Int → Except Fault Decision} {notice : Notice}
    (h : command.decide? = some decide)
    (hdecision : decide s.document config s.room = .ok (.refuse notice)) :
    (s.run config command).2 = .ok (.flag false) := by
  obtain ⟨memory, hrun⟩ := run_eq s config command
  rw [hrun, perform_edit h, begun_document, begun_room, hdecision]
  rfl

/-! ## Edits -/

/-- A session whose document is edited, with view and changes brought along, but not yet the cache.
-/
def edited (s : Session) (start stop : Int) (new : List Text) : Session :=
  { s with
    document := (s.document.replace start stop new).1
    view := s.view.follow (s.document.changeOf start stop new)
    changes := s.changes ++ [s.document.changeOf start stop new] }

theorem replaceLines_eq (s : Session) (config : Config) (start stop : Int) (new : List Text) :
    s.replaceLines config start stop new =
      (((s.edited start stop new).followChange config (s.document.changeOf start stop new)).1,
        ((s.edited start stop new).followChange config (s.document.changeOf start stop new)).2.map
          fun _ => s.document.changeOf start stop new) := by
  have hchange : (s.document.replace start stop new).2 = s.document.changeOf start stop new := rfl
  unfold replaceLines edited
  dsimp only
  rw [hchange]
  split
  · rename_i hfollow
    rw [hfollow]
    rfl
  · rename_i hfollow
    rw [hfollow]
    rfl

/-- An attached cache that follows a change; nothing else but the journal is touched. -/
theorem followChange_of_notify (h : s.attached = true) {change : Change} {cache : Cache}
    {events : List Event}
    (hnotify : s.cache.notify s.document config change.position change.newLength =
      (cache, .ok events)) :
    s.followChange config change = ({ s with cache, journal := s.journal ++ events }, .ok ()) := by
  unfold followChange
  rw [if_pos h, hnotify]
  rfl

/-- A cache that follows a change or fails to; only cache and journal are touched. -/
theorem followChange_eq (s : Session) (config : Config) (change : Change) :
    ∃ cache journal, (s.followChange config change).1 = { s with cache, journal } := by
  unfold followChange
  split
  · split
    · exact ⟨_, _, rfl⟩
    · exact ⟨_, s.journal, rfl⟩
  · exact ⟨s.cache, s.journal, rfl⟩

theorem followChange_document (s : Session) (config : Config) (change : Change) :
    (s.followChange config change).1.document = s.document := by
  obtain ⟨cache, journal, hfollow⟩ := s.followChange_eq config change
  rw [hfollow]

theorem followChange_view (s : Session) (config : Config) (change : Change) :
    (s.followChange config change).1.view = s.view := by
  obtain ⟨cache, journal, hfollow⟩ := s.followChange_eq config change
  rw [hfollow]

theorem replaceLines_document (s : Session) (config : Config) (start stop : Int)
    (new : List Text) :
    (s.replaceLines config start stop new).1.document = (s.document.replace start stop new).1 := by
  rw [replaceLines_eq]
  exact followChange_document _ _ _

/-- What becomes of the document when an editing command decided something. -/
theorem carryOut_document (s : Session) (config : Config) (decision : Except Fault Decision) :
    (s.carryOut config decision).1.document = s.document ∨
      ∃ start stop new target event point, decision = .ok (.replace start stop new target event) ∧
        (s.carryOut config decision).1.document =
          (s.document.replace start stop new).1.setPoint point := by
  rcases decision with fault | ⟨notice⟩ | ⟨start, stop, new, target, event⟩
  · exact Or.inl rfl
  · exact Or.inl rfl
  · right
    have hdocument := replaceLines_document s config start stop new
    unfold carryOut
    dsimp only
    generalize s.replaceLines config start stop new = edited at hdocument ⊢
    rcases edited with ⟨s', fault | change⟩
    · exact ⟨start, stop, new, target, event, s'.document.point, rfl, by rw [← hdocument]; rfl⟩
    · cases target with
      | none =>
          exact ⟨start, stop, new, none, event, s'.document.point, rfl, by rw [← hdocument]; rfl⟩
      | some target =>
          exact ⟨start, stop, new, some target, event, target, rfl, by rw [← hdocument]; rfl⟩

/-- What becomes of the document when a command runs: only the point moves, or it is edited as an
editing command decided. -/
theorem run_document (s : Session) (config : Config) (command : Command) :
    (∃ point, (s.run config command).1.document = s.document.setPoint point) ∨
      ∃ decide start stop new target event point, command.decide? = some decide ∧
        decide s.document config s.room = .ok (.replace start stop new target event) ∧
        (s.run config command).1.document =
          (s.document.replace start stop new).1.setPoint point := by
  obtain ⟨memory, hrun⟩ := run_eq s config command
  rw [hrun]
  cases hdecide : command.decide? with
  | none => exact Or.inl (beside_perform hdecide (s.begun command) config s.memory).document
  | some decide =>
      rw [perform_edit hdecide]
      rcases carryOut_document (s.begun command) config (decide s.document config s.room) with
        hsame | ⟨start, stop, new, target, event, point, hdecision, hdocument⟩
      · exact Or.inl ⟨s.document.point, hsame⟩
      · exact Or.inr ⟨decide, start, stop, new, target, event, point, rfl, hdecision, hdocument⟩

theorem carryOut_room (s : Session) (config : Config) (decision : Except Fault Decision) :
    (s.carryOut config decision).1.room = s.room := by
  rcases decision with fault | ⟨notice⟩ | ⟨start, stop, new, target, event⟩
  · rfl
  · rfl
  · have hroom : (s.replaceLines config start stop new).1.room = s.room := by
      obtain ⟨cache, journal, hfollow⟩ := (s.edited start stop new).followChange_eq config
        (s.document.changeOf start stop new)
      rw [replaceLines_eq, hfollow]
      rfl
    unfold carryOut
    dsimp only
    generalize s.replaceLines config start stop new = edited at hroom ⊢
    rcases edited with ⟨s', fault | change⟩
    · exact hroom
    · cases target with
      | none => exact hroom
      | some target => exact hroom

/-- Commands find as much room in memory as the commands before them. -/
theorem run_room (s : Session) (config : Config) (command : Command) :
    (s.run config command).1.room = s.room := by
  obtain ⟨memory, hrun⟩ := run_eq s config command
  rw [hrun]
  show ((s.begun command).perform config s.memory command).1.room = (s.begun command).room
  cases hdecide : command.decide? with
  | some decide =>
      rw [perform_edit hdecide]
      exact carryOut_room _ _ _
  | none =>
      have hmove : ∀ move, ((s.begun command).carryOutMove move).1.room = s.room := by
        rintro (fault | ⟨notice⟩ | ⟨line, scroll⟩) <;> rfl
      have hcycle : ∀ cycled, ((s.begun command).carryOutCycle cycled).1.room = s.room := by
        rintro (fault | cycled) <;> rfl
      cases command with
      | moveTo line column => rfl
      | gotoHeading line => rfl
      | cycle => exact hcycle _
      | cycleGlobal => exact hcycle _
      | nextHeading count => exact hmove _
      | previousHeading count => exact hmove _
      | _ => cases hdecide

theorem followChange_detached (h : s.attached = false) (config : Config) (change : Change) :
    s.followChange config change = (s, .ok ()) := by
  unfold followChange
  rw [if_neg (by simp [h])]

end Session

end SourceOutline
