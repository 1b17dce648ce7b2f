import SourceOutline.CommandLine.Standard.Reading
import SourceOutline.Text.Plain

/-!
# The standard front end

The front end that the program comes with. It tells the user how a command is called, with the fault
below it, and prints plain lines.
-/

namespace SourceOutline

namespace CommandLine

def programName : Text := "cli".toList

def programVersion : Text := "0.1.0".toList

def commandPath : Option CommandName → Text
  | none => programName
  | some command => programName ++ ' ' :: command.text

def usageLine (scope : Option CommandName) : Text :=
  "Usage: ".toList ++ commandPath scope ++ " [OPTIONS]".toList ++
    match scope with
    | none => " COMMAND [ARGS]...".toList
    | some command => command.arguments.flatMap fun argument => ' ' :: argument.text

def helpHint (scope : Option CommandName) : Text :=
  "Try '".toList ++ commandPath scope ++ " --help' for help.".toList

def helpLines (scope : Option CommandName) : List Text :=
  let options :=
    match scope with
    | none => programOptions
    | some command => command.options
  let spelled := options.map fun option =>
    ' ' :: ' ' :: Text.joinWith [',', ' '] option.spellings
  let commands :=
    match scope with
    | none =>
      [[], "Commands:".toList] ++ CommandName.all.map fun command => ' ' :: ' ' :: command.text
    | some _ => []
  [usageLine scope, [], "Options:".toList] ++ spelled ++ commands

def faultLines (scope : Option CommandName) (fault : UsageFault) : List Text :=
  (if fault.showsUsage then [usageLine scope, helpHint scope, []] else []) ++
    ["Error: ".toList ++ fault.message]

def Stop.ending : Stop → Ending
  | .help scope => { exit := 0, out := helpLines scope }
  | .version =>
    { exit := 0, out := [programName ++ ", version ".toList ++ programVersion] }
  | .usage scope fault => { exit := 2, messages := faultLines scope fault }
  | .broken breakdown => { exit := 1, breakdown := some breakdown }

def Raised.ending (command : CommandName) : Raised → Ending
  | .badParameter message =>
    { exit := 2, messages := faultLines (some command) (.badParameter message) }
  | .failure message => { exit := 1, messages := ["Error: ".toList ++ message] }
  | .broken breakdown => { exit := 1, breakdown := some breakdown }

def Frontend.standard : Frontend where
  read t directory arguments := (readCall t directory arguments).mapError Stop.ending
  ends := Raised.ending
  echo := Text.plain

end CommandLine

end SourceOutline
