import SourceOutline.CommandLine.Standard.Fault
import SourceOutline.Text.Similarity

/-!
# Reading arguments

Arguments are read from left to right. One that starts with a dash is an option, spelled in full
with two dashes or as a row of single letters after one; an option that takes a value takes the rest
of its argument or the whole next one, whatever that is. Two dashes alone end the options, and every
other argument is an operand.
-/

namespace SourceOutline

namespace CommandLine

/-- What arguments say, before any value is looked at. -/
structure Given where
  /-- The options in the order in which they stand, with their values; a flag has an empty one. -/
  options : List (OptionName × Text) := []
  /-- The arguments that belong to no option. -/
  operands : List Text := []
deriving DecidableEq, Repr

structure OptionGroup where
  options : List (OptionName × Text) := []
  /-- The last option, with its spelling, when its value is the next argument. -/
  awaiting : Option (OptionName × Text) := none
deriving DecidableEq, Repr

def optionSpelled? (accepted : List OptionName) (spelling : Text) : Option OptionName :=
  accepted.find? fun option => option.spellings.contains spelling

/-- Reads the letters after a single dash. The first option that takes a value takes the letters
after it for that. -/
def readLetters (accepted : List OptionName) : Text → Except UsageFault OptionGroup
  | [] => .ok {}
  | c :: rest =>
    match optionSpelled? accepted ['-', c] with
    | none => .error (.noSuchOption ['-', c] [])
    | some option =>
      if option.isFlag then
        (readLetters accepted rest).map fun group =>
          { group with options := (option, []) :: group.options }
      else if rest.isEmpty then .ok { awaiting := some (option, ['-', c]) }
      else .ok { options := [(option, rest)] }

/-- Reads an argument that starts with a dash. An equals sign separates an option that is spelled in
full from its value. -/
def readOption (accepted : List OptionName) (argument : Text) : Except UsageFault OptionGroup :=
  let spelling := argument.takeWhile (· != '=')
  let value? := if argument.contains '=' then some ((argument.dropWhile (· != '=')).drop 1) else none
  let long := accepted.filter fun option => option.longSpellings.contains spelling
  match long.head? with
  | some option =>
    match option.isFlag, value? with
    | true, none => .ok { options := [(option, [])] }
    | true, some _ => .error (.valueUnwanted spelling)
    | false, some value => .ok { options := [(option, value)] }
    | false, none => .ok { awaiting := some (option, spelling) }
  | none =>
    if ['-', '-'].isPrefixOf argument then
      let spellings := accepted.flatMap OptionName.longSpellings
      .error (.noSuchOption spelling (Text.suggestions spelling spellings))
    else readLetters accepted (argument.drop 1)

/-- Whether an argument is an option. A dash alone is none. -/
def isOption (argument : Text) : Bool := argument.head? == some '-' && 1 < argument.length

namespace Given

def withOptions (given : Given) (options : List (OptionName × Text)) : Given :=
  { given with options := options ++ given.options }

/-- Reads arguments. Unless `mixed`, the first operand ends the options. -/
def ofArguments (accepted : List OptionName) (mixed : Bool) : List Text → Except UsageFault Given
  | [] => .ok {}
  | argument :: rest =>
    if argument == ['-', '-'] then .ok { operands := rest }
    else if isOption argument then
      match readOption accepted argument with
      | .error fault => .error fault
      | .ok { options, awaiting := none } =>
        (ofArguments accepted mixed rest).map (·.withOptions options)
      | .ok { options, awaiting := some (option, spelling) } =>
        match rest with
        | [] => .error (.valueMissing spelling)
        | value :: rest =>
          (ofArguments accepted mixed rest).map (·.withOptions (options ++ [(option, value)]))
    else if mixed then
      (ofArguments accepted mixed rest).map fun given =>
        { given with operands := argument :: given.operands }
    else .ok { operands := argument :: rest }

def optionNames (given : Given) : List OptionName := (given.options.map Prod.fst).eraseDups

def value (given : Given) (option : OptionName) : Text :=
  ((given.options.reverse.find? fun entry => entry.1 == option).map Prod.snd).getD []

/-- The first option that is answered before everything else. -/
def eager? (given : Given) : Option OptionName := given.optionNames.find? OptionName.isEager

end Given

end CommandLine

end SourceOutline
