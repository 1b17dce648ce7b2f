import SourceOutline.CommandLine.Standard.Arguments
import SourceOutline.Text.Letter

/-!
# Reading command lines

The options in front of the command are read first, and then those of the command. Values are checked
in the order in which the options stand, then those of the arguments, so that the first fault of
several is the one that is told.
-/

namespace SourceOutline

namespace CommandLine

/-- What the options of a command say. A command looks only at those that it accepts. -/
structure Choices where
  baseLevel : Option Int := none
  commentChar : Option Text := none
  padding : Option Int := none
  view : GlobalPhase := .all
  count : Int := 1
  subtree : Bool := false
  backward : Bool := false
  keyword : Option Text := none
  clear : Bool := false
  column : Int := 0
  level : Option Int := none
  respectContent : Bool := false
deriving DecidableEq, Repr

def views : List GlobalPhase := [.overview, .contents, .all]

def readNumber (written : Text) : Except ValueFault Int :=
  match written.toInt? with
  | some n => .ok n
  | none => .error (.notANumber written)

def readNumberFrom (least : Int) (written : Text) : Except ValueFault Int :=
  match written.toInt? with
  | some n => if n < least then .error (.below n least) else .ok n
  | none => .error (.notARangedNumber written)

def readView (written : Text) : Except ValueFault GlobalPhase :=
  match views.find? fun view => viewName view == written with
  | some view => .ok view
  | none => .error (.notAView written (views.map viewName))

def readOptionNumber (option : OptionName) (written : Text) : Except ValueFault Int :=
  match option.kind with
  | .numberFrom least => readNumberFrom least written
  | _ => readNumber written

/-- Takes down what one option says. -/
def Choices.choose (choices : Choices) (option : OptionName) (written : Text) :
    Except ValueFault Choices :=
  match option with
  | .verbose | .version | .help => .ok choices
  | .baseLevel => (readOptionNumber option written).map fun n => { choices with baseLevel := some n }
  | .commentChar => .ok { choices with commentChar := some written }
  | .padding => (readOptionNumber option written).map fun n => { choices with padding := some n }
  | .view => (readView written).map fun view => { choices with view }
  | .count => (readOptionNumber option written).map fun count => { choices with count }
  | .subtree => .ok { choices with subtree := true }
  | .backward => .ok { choices with backward := true }
  | .keyword => .ok { choices with keyword := some written }
  | .clear => .ok { choices with clear := true }
  | .column => (readOptionNumber option written).map fun column => { choices with column }
  | .level => (readOptionNumber option written).map fun n => { choices with level := some n }
  | .respectContent => .ok { choices with respectContent := true }

def Choices.ofGiven (given : Given) : Except UsageFault Choices :=
  given.optionNames.foldlM (fun choices option =>
    (choices.choose option (given.value option)).mapError (.badOption option)) {}

def Choices.overrides (choices : Choices) : Overrides :=
  { baseLevel := choices.baseLevel, commentChar := choices.commentChar, padding := choices.padding }

def Choices.invocation (choices : Choices) (command : CommandName) (line : Int) : Invocation :=
  match command with
  | .outline => .outline
  | .regions => .regions
  | .render => .render choices.view
  | .promote => .promote line choices.count choices.subtree
  | .demote => .demote line choices.count choices.subtree
  | .todo => .todo line choices.backward choices.keyword choices.clear
  | .insert => .insert line choices.column choices.level choices.respectContent
  | .subheading => .subheading line

def readFile (t : FileTree) (directory : Location) (path : Text) :
    Except Stop (Option ValueFault) :=
  match t.stat directory path with
  | .error .embeddedNull => .error (.broken (.ofPath .embeddedNull))
  | .error _ => .ok (some (.noFile path))
  | .ok .directory => .ok (some (.isDirectory path))
  | .ok _ => .ok (if t.mayRead directory path then none else some (.unreadable path))

/-- The line that a command is about, zero where it takes none. -/
def readLine (command : CommandName) (given : Given) : Except Stop Int :=
  if command.arguments.contains .line then
    match given.operands[1]? with
    | none => .error (.usage (some command) (.missingArgument .line))
    | some written =>
      (readNumber written).mapError fun fault => .usage (some command) (.badArgument .line fault)
  else .ok 0

def readArguments (t : FileTree) (directory : Location) (command : CommandName)
    (arguments : List Text) (verbose : Bool) : Except Stop Call := do
  let refuse {α : Type} (fault : UsageFault) : Except Stop α := .error (.usage (some command) fault)
  let given ← (Given.ofArguments command.options true arguments).mapError (.usage (some command))
  if given.eager? = some .help then throw (.help (some command))
  let choices ← (Choices.ofGiven given).mapError (.usage (some command))
  let some path := given.operands[0]? | refuse (.missingArgument .file)
  if let some fault ← readFile t directory path then refuse (.badArgument .file fault)
  let line ← readLine command given
  let extra := given.operands.drop command.arguments.length
  if !extra.isEmpty then refuse (.extraArguments extra)
  return { path, overrides := choices.overrides, invocation := choices.invocation command line,
           verbose }

def readProgramOptions (arguments : List Text) : Except Stop Given := do
  if arguments.isEmpty then throw (.help none)
  let given ← (Given.ofArguments programOptions false arguments).mapError (.usage none)
  match given.eager? with
  | some .version => throw .version
  | some _ => throw (.help none)
  | none => return given

/-- Whether a word that is no command looks like an option: its first character is neither a letter nor
a numeral. -/
def looksLikeOption : Text → Bool
  | c :: _ => !isLetterOrNumeral c
  | [] => false

/-- Finds the command. A word that is none but looks like an option is answered with help. -/
def readCommand (given : Given) : Except Stop (CommandName × List Text) :=
  match given.operands with
  | [] => .error (.usage none .missingCommand)
  | name :: arguments =>
    match CommandName.ofText? name with
    | some command => .ok (command, arguments)
    | none =>
      if looksLikeOption name then .error (.help none)
      else .error (.usage none (.noSuchCommand name))

def readCall (t : FileTree) (directory : Location) (arguments : List Text) : Except Stop Call := do
  let given ← readProgramOptions arguments
  let (command, arguments) ← readCommand given
  readArguments t directory command arguments (given.optionNames.contains .verbose)

end CommandLine

end SourceOutline
