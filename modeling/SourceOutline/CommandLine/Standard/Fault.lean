import SourceOutline.CommandLine.Frontend

/-!
# Command lines that are not understood

A command line may be at fault in its options, in the values of its parameters, or in how many
arguments there are. Asking for help or for the version ends a run early as well, though nothing is
wrong then.
-/

namespace SourceOutline

namespace CommandLine

inductive ValueFault where
  | notANumber (written : Text)
  | notARangedNumber (written : Text)
  | below (number least : Int)
  | notAView (written : Text) (views : List Text)
  | noFile (path : Text)
  | isDirectory (path : Text)
  | unreadable (path : Text)
deriving DecidableEq, Repr

def ValueFault.message : ValueFault → Text
  | notANumber written => Text.quoted written ++ " is not a valid integer.".toList
  | notARangedNumber written => Text.quoted written ++ " is not a valid integer range.".toList
  | below number least =>
    Text.ofInt number ++ " is not in the range x>=".toList ++ Text.ofInt least ++ ['.']
  | notAView written views =>
    Text.quoted written ++ " is not one of ".toList ++
      Text.joinWith [',', ' '] (views.map Text.quoted) ++ ['.']
  | noFile path => "File ".toList ++ Text.quoted path ++ " does not exist.".toList
  | isDirectory path => "File ".toList ++ Text.quoted path ++ " is a directory.".toList
  | unreadable path => "File ".toList ++ Text.quoted path ++ " is not readable.".toList

inductive UsageFault where
  | noSuchOption (spelling : Text) (similar : List Text)
  /-- An option that takes a value is the last argument. -/
  | valueMissing (spelling : Text)
  /-- A flag is given a value. -/
  | valueUnwanted (spelling : Text)
  | missingCommand
  | noSuchCommand (name : Text)
  | missingArgument (argument : ArgumentName)
  | badOption (option : OptionName) (fault : ValueFault)
  | badArgument (argument : ArgumentName) (fault : ValueFault)
  | extraArguments (texts : List Text)
  /-- A command itself has refused a parameter. -/
  | badParameter (message : Text)
deriving DecidableEq, Repr

namespace UsageFault

private def inQuotes (t : Text) : Text := '\'' :: t ++ ['\'']

private def invalidFor (what message : Text) : Text :=
  "Invalid value for ".toList ++ what ++ ": ".toList ++ message

def message : UsageFault → Text
  | noSuchOption spelling similar =>
    "No such option: ".toList ++ spelling ++
      match similar with
      | [] => []
      | [one] => " Did you mean ".toList ++ one ++ ['?']
      | several =>
        " (Possible options: ".toList ++
          Text.joinWith [',', ' '] (several.mergeSort fun a b => !decide (b < a)) ++ [')']
  | valueMissing spelling =>
    "Option ".toList ++ Text.quoted spelling ++ " requires an argument.".toList
  | valueUnwanted spelling =>
    "Option ".toList ++ Text.quoted spelling ++ " does not take a value.".toList
  | missingCommand => "Missing command.".toList
  | noSuchCommand name => "No such command ".toList ++ Text.quoted name ++ ['.']
  | missingArgument argument => "Missing argument ".toList ++ inQuotes argument.text ++ ['.']
  | badOption option fault =>
    invalidFor (Text.joinWith " / ".toList (option.spellings.map inQuotes)) fault.message
  | badArgument argument fault => invalidFor (inQuotes argument.text) fault.message
  | extraArguments texts =>
    "Got unexpected extra argument".toList ++ (if texts.length = 1 then [] else ['s']) ++
      " (".toList ++ Text.joinWith [' '] texts ++ [')']
  | badParameter message => "Invalid value: ".toList ++ message

def showsUsage : UsageFault → Bool
  | valueMissing _ | valueUnwanted _ => false
  | _ => true

end UsageFault

/-- What ends a run before a command is called. A scope is the command that was being read, if one was
reached. -/
inductive Stop where
  | help (scope : Option CommandName)
  | version
  | usage (scope : Option CommandName) (fault : UsageFault)
  | broken (breakdown : Breakdown)
deriving DecidableEq, Repr

end CommandLine

end SourceOutline
