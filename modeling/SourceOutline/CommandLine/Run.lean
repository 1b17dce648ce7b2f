import SourceOutline.CommandLine.Frontend

/-!
# Running a command line

A run reads a file tree and arguments and gives an outcome: what is printed where, the exit code, and
the file tree afterwards. Only an edit that was made changes the tree.
-/

namespace SourceOutline

namespace CommandLine

/-- What a run depends on besides its arguments. -/
structure Setup where
  frontend : Frontend
  tree : FileTree
  surroundings : Surroundings
  /-- The size limit of the environment. -/
  sizeLimit : Option Text := none
  /-- The present moment. -/
  now : Moment
  /-- How many characters of a comment run there is room for in memory. -/
  room : Int := countBound
  /-- How deep the values of a configuration file may stand in one another. -/
  tomlDepth : Nat
  /-- Whether a new file can be given the owner of another. -/
  keepsOwner : Bool := true
  /-- The words with which the operating system refuses a step of writing, if it does. -/
  refused : SourceFile.WriteStep → Option Text := fun _ => none

structure Outcome where
  exit : Nat := 0
  /-- What is printed. -/
  out : Text := []
  /-- What is printed on the side, for the user's eyes only. -/
  messages : Text := []
  /-- What happened, as far as it is told. -/
  journal : List Event := []
  breakdown : Option Breakdown := none
  tree : FileTree

/-! ## Tasks -/

/-- A session on the file of a call, with the source that it was read from. -/
structure Opened where
  source : SourceFile
  config : Config
  session : Session

def openFile (setup : Setup) (call : Call) : Except Raised Opened × List Event :=
  let directory := setup.surroundings.directory
  let base : PathName := { root := ['/'], parts := directory }
  match SourceFile.resolvePath setup.tree setup.surroundings base call.path with
  | .error fault =>
    (.error (if fault.isRefusal then .badParameter fault.message else .broken (.ofSource fault)), [])
  | .ok path =>
    let (found, events) :=
      Lookup.build setup.tree setup.tomlDepth directory path.parent call.overrides.changes
    let opened : Except Raised Opened := do
      let config ← found.mapError fun fault =>
        match fault with
        | .refused error => .badParameter error.message
        | fault => .broken (.ofLookup fault)
      let limit ← (SourceFile.sizeLimit setup.sizeLimit config.maxFileSize).mapError
        fun fault => .failure fault.message
      let source ← (SourceFile.read setup.tree directory path limit).mapError
        fun fault => .failure fault.message
      let session := Session.create (.ofFile path source.text) none setup.room
      return { source, config, session }
    (opened, events)

def Raised.ofFault : Fault → Raised
  | .noCommentSyntax language => .failure (Fault.noCommentSyntax language).message
  | fault => .broken (.ofCommand fault)

def noSuchLine (line : Int) (count : Nat) : Text :=
  "Line ".toList ++ Text.ofInt line ++ " is outside of the document (1-".toList ++
    Text.ofInt count ++ [')']

def headingLine (config : Config) (heading : Heading) : Except Fault Text :=
  (bulletGlyph heading.level config.bulletGlyphs).map fun glyph =>
    let keyword :=
      match heading.keyword with
      | some keyword => keyword ++ [' ']
      | none => []
    let closed :=
      match heading.closed with
      | some moment =>
        " (closed ".toList ++ moment.dateText ++ ' ' :: moment.timeText ++ [')']
      | none => []
    Text.ofInt (heading.line + 1) ++ ": ".toList ++
      List.replicate (2 * (heading.level - 1).toNat) ' ' ++ glyph ++ ' ' :: keyword ++
      heading.title ++ closed

def regionLine (region : Region) : Text :=
  Text.ofInt (region.heading + 1) ++ ": ".toList ++ Text.ofInt (region.start + 1) ++
    '-' :: Text.ofInt (region.stop + 1)

/-- The commands that a fresh document takes to come into a view. -/
def viewCommands : GlobalPhase → List Command
  | .overview => [.cycleGlobal]
  | .contents => [.cycleGlobal, .cycleGlobal]
  | .all => []

/-- Runs commands one after the other, up to the first that fails; the answer is the last one's. -/
def runCommands (config : Config) (s : Session) :
    List Command → Session × Except Fault Answer
  | [] => (s, .ok .nothing)
  | [command] => s.run config command
  | command :: rest =>
    match s.run config command with
    | (s, .ok _) => runCommands config s rest
    | (s, .error fault) => (s, .error fault)

structure Result where
  raised : Option Raised := none
  out : List Text := []
  messages : List Text := []
  journal : List Event
  tree : FileTree

def Result.ofQuery (tree : FileTree) (answered : Session × Except Fault (List Text)) : Result :=
  match answered with
  | (s, .ok out) => { out, journal := s.journal, tree }
  | (s, .error fault) => { raised := some (.ofFault fault), journal := s.journal, tree }

/-- Finishes an edit: what the session told is told, and the file is written if the edit did
something. -/
def finish (setup : Setup) (source : SourceFile) (s : Session) (changed : Bool) : Result :=
  let told := s.notices.map Notice.message
  if changed then
    let replacing := SourceFile.replace setup.tree setup.surroundings.directory source
      s.document.text setup.keepsOwner setup.refused
    { raised := replacing.fault.map fun fault => .failure fault.message
      messages := told ++ replacing.warnings
      journal := s.journal
      tree := replacing.tree }
  else { messages := told, journal := s.journal, tree := setup.tree }

def perform (setup : Setup) (opened : Opened) : Task → Result
  | .listHeadings =>
    let config := opened.config
    let lines := (opened.session.outline config).bind fun headings =>
      headings.mapM (headingLine config)
    .ofQuery setup.tree (opened.session, lines)
  | .listRegions =>
    let (s, regions) := opened.session.regions opened.config
    .ofQuery setup.tree (s, regions.map fun regions => regions.map regionLine)
  | .render view =>
    match runCommands opened.config opened.session (viewCommands view) with
    | (s, .error fault) => .ofQuery setup.tree (s, .error fault)
    | (s, .ok _) => .ofQuery setup.tree (s.render opened.config)
  | .edit line commands =>
    let s := opened.session
    if 1 ≤ line ∧ line ≤ s.document.lineCount then
      match runCommands opened.config s (.moveTo (line - 1) 0 :: commands) with
      | (s, .error fault) =>
        { raised := some (.ofFault fault), journal := s.journal, tree := setup.tree }
      | (s, .ok answer) => finish setup opened.source s (answer == .flag true)
    else
      { raised := some (.badParameter (noSuchLine line s.document.lineCount))
        journal := s.journal
        tree := setup.tree }

/-! ## Runs -/

/-- Carries out a call. Parameters that cannot go together are refused before the file is opened. -/
def runCall (setup : Setup) (call : Call) : Result :=
  let tree := setup.tree
  match call.invocation.task setup.now with
  | .error message => { raised := some (.badParameter message), journal := [], tree }
  | .ok task =>
    match openFile setup call with
    | (.error raised, events) => { raised := some raised, journal := events, tree }
    | (.ok opened, events) =>
      let result := perform setup opened task
      { result with journal := events ++ result.journal }

def Frontend.printed (frontend : Frontend) (lines : List Text) : Text :=
  lines.flatMap fun line => frontend.echo line ++ ['\n']

def Ending.outcome (ending : Ending) (frontend : Frontend) (tree : FileTree) : Outcome :=
  { exit := ending.exit
    out := frontend.printed ending.out
    messages := frontend.printed ending.messages
    breakdown := ending.breakdown
    tree }

/-- The outcome of a result. Warnings are always told, and everything else when asked for. -/
def Result.outcome (result : Result) (frontend : Frontend) (call : Call) : Outcome :=
  let ending := (result.raised.map (frontend.ends call.invocation.command)).getD { exit := 0 }
  { exit := ending.exit
    out := frontend.printed (result.out ++ ending.out)
    messages := frontend.printed (result.messages ++ ending.messages)
    journal := result.journal.filter fun event => call.verbose || event.isWarning
    breakdown := ending.breakdown
    tree := result.tree }

def run (setup : Setup) (arguments : List Text) : Outcome :=
  let frontend := setup.frontend
  match frontend.read setup.tree setup.surroundings.directory arguments with
  | .error ending => ending.outcome frontend setup.tree
  | .ok call => (runCall setup call).outcome frontend call

end CommandLine

end SourceOutline
