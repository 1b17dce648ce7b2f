import SourceOutline.Script.Step
import SourceOutline.Session

/-!
# Things that scripts give

A script gives a language, a moment, a document, a window or a cycle memory as a value. This module
says which value stands for which of them.
-/

namespace SourceOutline

namespace Value

def entry (v : Value) (key : String) : Value :=
  match v with
  | table entries => ((entries.find? fun e => e.1 == key.toList).map Prod.snd).getD null
  | _ => null

def hasEntry (v : Value) (key : String) : Bool :=
  match v with
  | table entries => entries.any fun e => e.1 == key.toList
  | _ => false

def items (v : Value) : List Value := v.list?.getD []

def textOrEmpty (v : Value) : Text := v.text?.getD []

end Value

/-- The language that a value stands for: a known one by its name, or one with a comment token and a
table of character classes. -/
def Language.ofValue? (v : Value) : Option Language :=
  match v with
  | .text name => named? name
  | .table _ =>
    some
      { name := (v.entry "name").textOrEmpty
        commentStart := (v.entry "comment_start").text?
        classes := (v.entry "table").items.foldl (fun classes row =>
          match row.texts? with
          | some [character, class_] => declare classes character class_
          | _ => classes) [] }
  | _ => none

/-- The language under the key of a table; a table without the key is about the language C. -/
def Language.under? (v : Value) : Option Language :=
  if v.hasEntry "language" then ofValue? (v.entry "language") else named? "c".toList

/-- The moment that a value stands for: year, month, day, hour and minute, and what is beyond them. -/
def Moment.ofValue (v : Value) : Except Fault Moment :=
  match v.items.mapM Value.index? with
  | some (year :: month :: day :: hour :: minute :: rest) =>
    match rest with
    | [] => (ofFields year month day hour minute 0 0).mapError .unreal
    | [second] => (ofFields year month day hour minute second 0).mapError .unreal
    | [second, microsecond] =>
      (ofFields year month day hour minute second microsecond).mapError .unreal
    | _ => .error .unusableArgument
  | _ => .error .unusableArgument

def Viewport.ofValue? (v : Value) : Option Viewport :=
  match v.items.mapM Value.index? with
  | some [top, height] => some { top, height }
  | _ => none

def CyclePhase.all : List CyclePhase :=
  [.ofHeading .folded, .ofHeading .children, .ofHeading .subtree, .ofDocument .overview,
   .ofDocument .contents, .ofDocument .all]

def CyclePhase.label : CyclePhase → Text
  | .ofHeading phase => phase.label
  | .ofDocument phase => phase.label

def CycleMemory.ofValue? (v : Value) : Option CycleMemory :=
  match v.items with
  | [.text command, .text label, line] =>
    (CyclePhase.all.find? fun phase => phase.label == label).map fun phase =>
      { command, phase, line := line.index? }
  | _ => none

/-- The document that a value stands for: the text of a file by its path, a text, or lines. -/
def Document.ofValue (v : Value) : Document :=
  if v.hasEntry "path" then
    ofFile (.ofText (v.entry "path").textOrEmpty) (v.entry "text").textOrEmpty
  else if v.hasEntry "text" then
    ofText (v.entry "text").textOrEmpty (Language.under? v) (v.entry "name").text?
  else
    { lines := orEmptyLine ((v.entry "lines").items.map Value.textOrEmpty)
      language := Language.under? v
      name := (v.entry "name").text?
      endsWithBreak := !v.hasEntry "trailing_newline" || (v.entry "trailing_newline").isSomething
      lineBreak := (v.entry "newline").text?.getD ['\n'] }

end SourceOutline
