import SourceOutline.CommandLine.Option
import SourceOutline.Config.Settings
import SourceOutline.Session

/-!
# Calls

A call is what a command line comes to once it has been read: a command with its parameters, each of
the type that the command declares for it, the path of a file, and the settings that are overridden.
What a call is to do with the file is its task.
-/

namespace SourceOutline

namespace CommandLine

/-- The settings that a command line overrides. -/
structure Overrides where
  baseLevel : Option Int := none
  commentChar : Option Text := none
  padding : Option Int := none
deriving DecidableEq, Repr

def Overrides.changes (overrides : Overrides) : List (Text × Value) :=
  let number : Option Int → Value
    | some n => .int n
    | none => .null
  [(Setting.baseLevel.name, number overrides.baseLevel),
   (Setting.commentChar.name, .ofText? overrides.commentChar),
   (Setting.blockPadding.name, number overrides.padding)]

def viewName : GlobalPhase → Text
  | .overview => "overview".toList
  | .contents => "contents".toList
  | .all => "all".toList

/-- A command with its parameters. Lines are counted from one. -/
inductive Invocation where
  | outline
  | regions
  | render (view : GlobalPhase)
  | promote (line count : Int) (subtree : Bool)
  | demote (line count : Int) (subtree : Bool)
  | todo (line : Int) (backward : Bool) (keyword : Option Text) (clear : Bool)
  | insert (line column : Int) (level : Option Int) (respectContent : Bool)
  | subheading (line : Int)
deriving DecidableEq, Repr

def Invocation.command : Invocation → CommandName
  | outline => .outline
  | regions => .regions
  | render _ => .render
  | promote .. => .promote
  | demote .. => .demote
  | todo .. => .todo
  | insert .. => .insert
  | subheading _ => .subheading

structure Call where
  path : Text
  overrides : Overrides := {}
  invocation : Invocation
  /-- Whether everything that happens is to be told. -/
  verbose : Bool := false
deriving DecidableEq, Repr

/-- What is to be done with a file. -/
inductive Task where
  | listHeadings
  | listRegions
  | render (view : GlobalPhase)
  /-- To perform commands on a line, counted from one. -/
  | edit (line : Int) (commands : List Command)
deriving DecidableEq, Repr

def setAndClear : Text := "\x60--set\x60 and \x60--clear\x60 are mutually exclusive".toList

def Invocation.task (now : Moment) : Invocation → Except Text Task
  | outline => .ok .listHeadings
  | regions => .ok .listRegions
  | render view => .ok (.render view)
  | promote line count subtree =>
    .ok (.edit line [if subtree then .promoteSubtree count else .promote count])
  | demote line count subtree =>
    .ok (.edit line [if subtree then .demoteSubtree count else .demote count])
  | todo line backward keyword clear =>
    match keyword, clear with
    | some _, true => .error setAndClear
    | some keyword, false => .ok (.edit line [.setTodo (some keyword) now])
    | none, true => .ok (.edit line [.setTodo none now])
    | none, false => .ok (.edit line [.cycleTodo (if backward then -1 else 1) now])
  | insert line column level respectContent =>
    .ok (.edit line [.moveTo (line - 1) column, .insertHeading level respectContent])
  | subheading line => .ok (.edit line [.insertSubheading])

end CommandLine

end SourceOutline
