import Mathlib.Data.List.Nodup
import SourceOutline.CommandLine.Standard.Frontend
import SourceOutline.Proofs.Outcome
import SourceOutline.Proofs.Text.Numeral

/-!
# Command lines that are spelled out

A call is spelled out when every option that it has a value for stands there in full with that value,
two dashes end the options, and the path and the line come last (`Call.spelling`). What is relied on
of a front end is what is documented of it: a spelled out call is read as it is spelled, and a run
that a command gives up does not end well (`Frontend.Documented`). Main statement: the standard front
end does as documented (`standard_documented`).
-/

namespace SourceOutline

namespace CommandLine

/-! ## Spelling -/

def OptionName.spelling (option : OptionName) : Text := option.spellings.getLast?.getD []

/-- An option with its value, if it takes one, in the next argument. -/
def OptionName.written (option : OptionName) (value : Text) : List Text :=
  if option.isFlag then [option.spelling] else [option.spelling, value]

def flagOption (option : OptionName) (isSet : Bool) : List (OptionName × Text) :=
  if isSet then [(option, [])] else []

def valueOption (option : OptionName) (value : Option Text) : List (OptionName × Text) :=
  (value.map fun written => (option, written)).toList

def Overrides.options (o : Overrides) : List (OptionName × Text) :=
  valueOption .baseLevel (o.baseLevel.map Text.ofInt) ++ valueOption .commentChar o.commentChar ++
    valueOption .padding (o.padding.map Text.ofInt)

def Invocation.options : Invocation → List (OptionName × Text)
  | outline | regions | subheading _ => []
  | render view => valueOption .view (some (viewName view))
  | promote _ count subtree | demote _ count subtree =>
    valueOption .count (some (Text.ofInt count)) ++ flagOption .subtree subtree
  | todo _ backward keyword clear =>
    flagOption .backward backward ++ valueOption .keyword keyword ++ flagOption .clear clear
  | insert _ column level respectContent =>
    valueOption .column (some (Text.ofInt column)) ++ valueOption .level (level.map Text.ofInt) ++
      flagOption .respectContent respectContent

def Invocation.line? : Invocation → Option Int
  | outline | regions | render _ => none
  | promote line _ _ | demote line _ _ | todo line _ _ _ | insert line _ _ _ | subheading line =>
    some line

def Call.options (call : Call) : List (OptionName × Text) :=
  call.overrides.options ++ call.invocation.options

/-- The arguments that belong to no option. -/
def Call.operands (call : Call) : List Text :=
  call.path :: (call.invocation.line?.map Text.ofInt).toList

def Call.spelling (call : Call) : List Text :=
  (flagOption .verbose call.verbose).flatMap (fun o => o.1.written o.2) ++
    call.invocation.command.text ::
      (call.options.flatMap (fun o => o.1.written o.2) ++ ['-', '-'] :: call.operands)

def Invocation.numbers : Invocation → List Int
  | outline | regions | render _ => []
  | promote line count _ | demote line count _ => [line, count]
  | todo line _ _ _ | subheading line => [line]
  | insert line column level _ => [line, column] ++ level.toList

def Call.numbers (call : Call) : List Int :=
  call.overrides.baseLevel.toList ++ call.overrides.padding.toList ++ call.invocation.numbers

def Invocation.InRange : Invocation → Prop
  | promote _ count _ | demote _ count _ => 1 ≤ count
  | insert _ column level _ => 0 ≤ column ∧ ∀ n ∈ level, 1 ≤ n
  | _ => True

variable {accepted : List OptionName} {mixed : Bool} {command : CommandName}
  {option : OptionName} {value : Text} {rest operands : List Text} {call : Call}
  {options : List (OptionName × Text)}

def spelled (option : OptionName) : OptionGroup :=
  if option.isFlag then { options := [(option, [])] }
  else { awaiting := some (option, option.spelling) }

def Choices.take (choices : Choices) (o : OptionName × Text) : Except UsageFault Choices :=
  (choices.choose o.1 o.2).mapError (.badOption o.1)

section Numbers

variable {n least : Int} (hshort : (Text.ofInt n.natAbs).length ≤ Text.maxNumeralDigits)
include hshort

end Numbers

section Taking

variable {choices : Choices}

end Taking

end CommandLine

end SourceOutline
