import SourceOutline.CommandLine.Call
import SourceOutline.Config.Lookup
import SourceOutline.SourceFile

/-!
# Front ends

Between the user and the commands stands a front end. It reads the arguments, and ends the run itself
when they ask for help or cannot be understood; it says how a run ends that a command has given up,
and prints lines. The commands know of it nothing but `Frontend`.
-/

namespace SourceOutline

namespace CommandLine

/-- Something that no command reckons with. -/
inductive Breakdown where
  | ofPath (fault : PathFault)
  | ofSource (fault : SourceFault)
  | ofLookup (fault : LookupFault)
  | ofCommand (fault : Fault)
deriving DecidableEq, Repr

def Breakdown.message : Breakdown → Text
  | ofPath fault => fault.message []
  | ofSource fault => fault.message
  | ofLookup fault => fault.message
  | ofCommand fault => fault.message

/-- Why a command is given up. -/
inductive Raised where
  /-- A parameter has a value that cannot be used. -/
  | badParameter (message : Text)
  | failure (message : Text)
  | broken (breakdown : Breakdown)
deriving DecidableEq, Repr

/-- How a run ends before its command is done. -/
structure Ending where
  exit : Nat
  /-- What is printed. -/
  out : List Text := []
  /-- What the user is told. -/
  messages : List Text := []
  breakdown : Option Breakdown := none

/-- What stands between the user and the commands. -/
structure Frontend where
  /-- Reads arguments. That a file is there is looked up in the file tree, from a directory. -/
  read : FileTree → Location → List Text → Except Ending Call
  /-- How a run ends that a command gives up. -/
  ends : CommandName → Raised → Ending
  /-- A line as it is printed. -/
  echo : Text → Text

end CommandLine

end SourceOutline
