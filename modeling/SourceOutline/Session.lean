import SourceOutline.Edit
import SourceOutline.Navigation
import SourceOutline.Fold.Cycle
import SourceOutline.Decoration.Cache

/-!
# Sessions

A session binds a document to its view, its cache and the commands of an editor. Every command
takes the cycle memory that the command before it left and leaves none, unless it is a cycle command
itself.

A command that fails keeps what it did before it failed: the memory is gone and the command is
noted, and when the cache fails to follow an edit, the edit has been made all the same. So each
operation gives the session after it together with its answer.
-/

namespace SourceOutline

inductive Command where
  | moveTo (line column : Int)
  | gotoHeading (line : Int)
  | cycle
  | cycleGlobal
  | nextHeading (count : Int)
  | previousHeading (count : Int)
  | insertHeading (level : Option Int) (respectContent : Bool)
  | insertSubheading
  | promote (count : Int)
  | demote (count : Int)
  | promoteSubtree (count : Int)
  | demoteSubtree (count : Int)
  | cycleTodo (direction : Int) (now : Moment)
  | setTodo (keyword : Option Text) (now : Moment)
deriving DecidableEq, Repr

def Command.name : Command → Text
  | moveTo .. => "move-to".toList
  | gotoHeading .. => "goto-heading".toList
  | cycle => localCycleName
  | cycleGlobal => globalCycleName
  | nextHeading .. => "next-heading".toList
  | previousHeading .. => "previous-heading".toList
  | insertHeading .. => "insert-heading".toList
  | insertSubheading => "insert-subheading".toList
  | promote .. => "promote".toList
  | demote .. => "demote".toList
  | promoteSubtree .. => "promote-subtree".toList
  | demoteSubtree .. => "demote-subtree".toList
  | cycleTodo .. => "cycle-todo".toList
  | setTodo .. => "set-todo".toList

inductive Answer where
  | nothing
  /-- Whether the command did something. -/
  | flag (value : Bool)
  /-- What a cycle command leaves for the next command. -/
  | memory (memory : Option CycleMemory)
deriving DecidableEq, Repr

/-- A document at work. -/
structure Session where
  document : Document
  view : FoldView := {}
  cache : Cache
  /-- Whether the cache follows the document and the configuration. -/
  attached : Bool := true
  viewport : Option Viewport := none
  /-- How many characters of a comment run there is room for in memory. -/
  room : Int := countBound
  /-- What commands have told the user, oldest first. -/
  notices : List Notice := []
  /-- The changes of the document, oldest first. -/
  changes : List Change := []
  /-- What happened, oldest first. -/
  journal : List Event := []
  lastCommand : Option Text := none
  /-- What the last command left for the next one. -/
  memory : Option CycleMemory := none
deriving DecidableEq, Repr

namespace Session

def create (d : Document) (viewport : Option Viewport := none) (room : Int := countBound) :
    Session :=
  { document := d, cache := .empty d, viewport, room }

def record (s : Session) (events : List Event) : Session :=
  { s with journal := s.journal ++ events }

def report (s : Session) (notice : Notice) : Session :=
  { s with notices := s.notices ++ [notice] }.record [.outlineReport notice]

def setPoint (s : Session) (point : Point) : Session :=
  { s with document := s.document.setPoint point }

/-! ## Edits -/

def followChange (s : Session) (config : Config) (change : Change) :
    Session × Except Fault Unit :=
  if s.attached then
    match s.cache.notify s.document config change.position change.newLength with
    | (cache, .ok events) => ({ s with cache }.record events, .ok ())
    | (cache, .error fault) => ({ s with cache }, .error fault)
  else (s, .ok ())

def replaceLines (s : Session) (config : Config) (start stop : Int) (new : List Text) :
    Session × Except Fault Change :=
  let (document, change) := s.document.replace start stop new
  let s :=
    { s with document, view := s.view.follow change, changes := s.changes ++ [change] }
  match s.followChange config change with
  | (s, .ok ()) => (s, .ok change)
  | (s, .error fault) => (s, .error fault)

def carryOut (s : Session) (config : Config) : Except Fault Decision → Session × Except Fault Answer
  | .error fault => (s, .error fault)
  | .ok (.refuse notice) => (s.report notice, .ok (.flag false))
  | .ok (.replace start stop new point event) =>
    match s.replaceLines config start stop new with
    | (s, .error fault) => (s, .error fault)
    | (s, .ok _) =>
      let s := match point with
        | some point => s.setPoint point
        | none => s
      (s.record [event], .ok (.flag true))

def carryOutMove (s : Session) : Except Fault Move → Session × Except Fault Answer
  | .error fault => (s, .error fault)
  | .ok (.refuse notice) => (s.report notice, .ok (.flag false))
  | .ok (.goTo line scroll) =>
    let viewport := if scroll then s.viewport.map fun v => { v with top := line } else s.viewport
    let s := { s with viewport }.setPoint { line, column := 0 }
    (s.record [.movedToHeading line], .ok (.flag true))

def carryOutCycle (s : Session) : Except Fault Cycled → Session × Except Fault Answer
  | .error fault => (s, .error fault)
  | .ok cycled =>
    let s := { s with view := cycled.view, notices := s.notices ++ [cycled.notice] }
    (s.record [.foldReport cycled.notice], .ok (.memory cycled.memory))

def clampLine (s : Session) (line : Int) : Int := max 0 (min line (s.document.lineCount - 1))

def clampPoint (s : Session) (line column : Int) : Point :=
  let line := s.clampLine line
  let width := ((Lines.lookup? s.document.lines line).getD []).length
  { line, column := max 0 (min column width) }

def shows? (s : Session) : Option (Int → Bool) := s.viewport.map Viewport.shows

def perform (s : Session) (config : Config) (previous : Option CycleMemory) :
    Command → Session × Except Fault Answer
  | .moveTo line column => (s.setPoint (s.clampPoint line column), .ok .nothing)
  | .gotoHeading line =>
    let line := s.clampLine line
    ({ s with view := s.view.reveal line line }.setPoint { line, column := 0 }, .ok .nothing)
  | .cycle => s.carryOutCycle (s.document.cycleHeading config s.view previous)
  | .cycleGlobal => s.carryOutCycle (s.document.cycleDocument config previous)
  | .nextHeading count => s.carryOutMove (s.document.moveHeadings config .down count s.shows?)
  | .previousHeading count => s.carryOutMove (s.document.moveHeadings config .up count s.shows?)
  | .insertHeading level respectContent =>
    s.carryOut config (s.document.insertHeading config s.room level respectContent)
  | .insertSubheading => s.carryOut config (s.document.insertSubheading config s.room)
  | .promote count => s.carryOut config (s.document.promote config s.room count)
  | .demote count => s.carryOut config (s.document.demote config s.room count)
  | .promoteSubtree count => s.carryOut config (s.document.promoteSubtree config s.room count)
  | .demoteSubtree count => s.carryOut config (s.document.demoteSubtree config s.room count)
  | .cycleTodo direction now => s.carryOut config (s.document.cycleTodo config direction now)
  | .setTodo keyword now => s.carryOut config (s.document.setTodo config keyword now)

/-- Notes a command that runs outside the session; the cycle memory is gone. -/
def note (s : Session) (name : Text) : Session :=
  { s with lastCommand := some name, memory := none }

/-- Runs a command: it is noted, takes the memory of the command before, and leaves one only when
it is a cycle command that got somewhere. -/
def run (s : Session) (config : Config) (command : Command) : Session × Except Fault Answer :=
  let previous := s.memory
  let s := (s.note command.name).record [.command command.name s.document.name]
  match s.perform config previous command with
  | (s, .ok (.memory memory)) => ({ s with memory }, .ok (.memory memory))
  | (s, answer) => (s, answer)

/-! ## Queries -/

def outline (s : Session) (config : Config) : Except Fault (List Heading) :=
  (s.document.convention config).map fun conv => conv.headings s.document.lines

def headingCandidates (s : Session) (config : Config) : Except Fault (List (Int × Text)) :=
  (s.document.convention config).map fun conv => conv.labels s.document.lines

def decorations (s : Session) (config : Config) : Session × Except Fault (List Decoration) :=
  let (cache, answer) := s.cache.getDecorations s.document config
  ({ s with cache }, answer)

def regions (s : Session) (config : Config) : Session × Except Fault (List Region) :=
  let (cache, answer) := s.cache.getRegions s.document config
  ({ s with cache }, answer)

def backgrounds (s : Session) (config : Config) : Session × Except Fault (List Background) :=
  let (cache, answer) := s.cache.getBackgrounds s.document config
  ({ s with cache }, answer)

def regionAtPoint (s : Session) (config : Config) : Session × Except Fault (Option Region) :=
  let (s, regions) := s.regions config
  (s, regions.map fun regions => regionCovering? regions s.document.point.line)

def render (s : Session) (config : Config) : Session × Except Fault (List Text) :=
  let (s, decorations) := s.decorations config
  (s, decorations.map fun decorations =>
    renderText s.document.lines (decorationOf? decorations) s.view.hidden)

/-- One call in the course of bringing a display up to date. -/
inductive DisplayCall where
  | clear
  | heading (decoration : Decoration)
  | background (background : Background)
deriving DecidableEq, Repr

/-- The calls that bring a display up to date: it is cleared, and then gets every decoration in line
order and every background. -/
def refresh (s : Session) (config : Config) : Session × Except Fault (List DisplayCall) :=
  match s.decorations config with
  | (s, .error fault) => (s, .error fault)
  | (s, .ok decorations) =>
    match s.backgrounds config with
    | (s, .error fault) => (s, .error fault)
    | (s, .ok backgrounds) =>
      (s, .ok (.clear :: decorations.map .heading ++ backgrounds.map .background))

/-! ## The cache -/

def invalidate (s : Session) : Session :=
  { s with cache := s.cache.invalidate }.record [.cacheInvalidated s.document.name]

def close (s : Session) : Session × Except Fault Unit :=
  if s.attached then ({ s with attached := false }, .ok ()) else (s, .error .notListening)

def notify (s : Session) (config : Config) (position newLength : Int) :
    Session × Except Fault Unit :=
  match s.cache.notify s.document config position newLength with
  | (cache, .ok events) => ({ s with cache }.record events, .ok ())
  | (cache, .error fault) => ({ s with cache }, .error fault)

end Session

end SourceOutline
