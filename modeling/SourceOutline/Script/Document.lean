import SourceOutline.Document.Feed
import SourceOutline.Script.Given

/-!
# Scripts for documents

The steps that work on a document: replacing lines in four ways, asking for places and texts, and
putting point or language somewhere else. A step that cannot use its arguments changes nothing.
-/

namespace SourceOutline

inductive Reply where
  | nothing
  | flag (value : Bool)
  | number (value : Int)
  | numbers (values : List Int)
  | text (value : Option Text)
  | lines (values : List Text)
  | place (point : Point)
  | change (change : Change)
  | memory (memory : Option CycleMemory)
  | headings (headings : List Heading)
  | candidates (labels : List (Int × Text))
  | region (region : Option Region)
  | regions (regions : List Region)
  | decorations (decorations : List Decoration)
  | backgrounds (backgrounds : List Background)
  | calls (calls : List Session.DisplayCall)
deriving DecidableEq, Repr

/-- The lines that a step replaces, and what it puts in their place. -/
structure Replacement where
  start : Int
  stop : Int
  new : List Text
deriving DecidableEq, Repr

/-- The replacement that a step asks for in a document of some length; none for other steps. -/
def Replacement.ofStep? (step : Step) (lineCount : Nat) : Option (Except Fault Replacement) :=
  match String.ofList step.name with
  | "replace_lines" => some do
    let start ← step.index "start"
    let stop ← step.bound "end" lineCount
    let new ← step.given "new_lines" >>= Value.asLines
    return { start, stop, new }
  | "set_line" => some do
    let start ← step.index "index"
    let line ← step.given "text" >>= Value.asText
    return { start, stop := start + 1, new := [line] }
  | "insert_lines" => some do
    let start ← step.index "index"
    let new ← step.given "new_lines" >>= Value.asLines
    return { start, stop := start, new }
  | "delete_lines" => some do
    let start ← step.index "start"
    let stop ← step.bound "end" lineCount
    return { start, stop, new := [] }
  | _ => none

namespace Document

/-- The offset that a step asks for. The null value in place of a line leads past the last one. -/
def offsetAsked (d : Document) (step : Step) : Except Fault Int := do
  let line ← step.bound "line" d.lineCount
  let column ← step.indexOr "column" 0
  return d.offset line column

/-- Answers a step that does not change the lines. A name that stands for no step is not found. -/
def ask (d : Document) (step : Step) : Document × Except Fault Reply :=
  let line := step.indexOr "line" 0
  match String.ofList step.name with
  | "offset" => (d, (d.offsetAsked step).map .number)
  | "position" => (d, (step.index "offset").map fun offset => .place (d.position offset))
  | "line" => (d, (step.index "index" >>= d.line).map fun line => .text (some line))
  | "text" => (d, .ok (.text (some d.text)))
  | "comment_char" => (d, .ok (.text d.commentChar?))
  | "set_point" =>
    match line, step.indexOr "column" 0 with
    | .ok line, .ok column => (d.setPoint { line, column }, .ok .nothing)
    | .error fault, _ => (d, .error fault)
    | _, .error fault => (d, .error fault)
  | "reset_syntax" =>
    let language := (step.argument? "language").bind Language.ofValue?
    (d.resetLanguage language, .ok .nothing)
  | _ => (d, .error .notFound)

end Document

def Feed.obey (f : Feed Text) (step : Step) :
    Feed Text × Except Fault Reply × List (Text × Change) :=
  let listener := step.lookedUp "id" >>= Value.asText
  match String.ofList step.name with
  | "add_listener" =>
    match listener with
    | .ok id => (f.addListener id, .ok .nothing, [])
    | .error fault => (f, .error fault, [])
  | "remove_listener" =>
    match listener >>= f.removeListener with
    | .ok f => (f, .ok .nothing, [])
    | .error fault => (f, .error fault, [])
  | _ =>
    match Replacement.ofStep? step f.document.lineCount with
    | some (.ok r) =>
      let (f, change, told) := f.replace r.start r.stop r.new
      (f, .ok (.change change), told)
    | some (.error fault) => (f, .error fault, [])
    | none =>
      let (document, answer) := f.document.ask step
      ({ f with document }, answer, [])

end SourceOutline
