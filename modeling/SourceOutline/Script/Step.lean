import SourceOutline.Fault
import SourceOutline.Value.Number

/-!
# Steps of scripts

A script drives documents and sessions by steps. A step says by name what to do and gives the
arguments as values, so nothing stops it from leaving an argument out or from giving one of a kind
that makes no sense. `Step` reads arguments under these rules: what a step hands over to a document
or a command has to be usable, and what a view looks up in a step has to be there.
-/

namespace SourceOutline

structure Step where
  /-- What to do. -/
  name : Text
  arguments : List (Text × Value)

namespace Value

def asIndex (v : Value) : Except Fault Int :=
  match v.index? with
  | some n => .ok n
  | none => .error .unusableArgument

def asText (v : Value) : Except Fault Text :=
  match v with
  | text t => .ok t
  | _ => .error .unusableArgument

/-- Lines: a list of texts, the characters of a text, or the keys of a table. -/
def asLines (v : Value) : Except Fault (List Text) :=
  match v with
  | text t => .ok (t.map fun c => [c])
  | table entries => .ok (entries.map Prod.fst)
  | v =>
    match v.texts? with
    | some lines => .ok lines
    | none => .error .unusableArgument

end Value

namespace Step

def argument? (s : Step) (key : String) : Option Value :=
  (s.arguments.find? fun argument => argument.1 == key.toList).map Prod.snd

/-- An argument that is handed over and must be given. -/
def given (s : Step) (key : String) : Except Fault Value :=
  match s.argument? key with
  | some v => .ok v
  | none => .error .unusableArgument

/-- An argument that is looked up. -/
def lookedUp (s : Step) (key : String) : Except Fault Value :=
  match s.argument? key with
  | some v => .ok v
  | none => .error .notFound

def index (s : Step) (key : String) : Except Fault Int := s.given key >>= Value.asIndex

def indexOr (s : Step) (key : String) (default : Int) : Except Fault Int :=
  match s.argument? key with
  | some v => v.asIndex
  | none => .ok default

def bound (s : Step) (key : String) (lineCount : Nat) : Except Fault Int := do
  match ← s.given key with
  | .null => return lineCount
  | v => v.asIndex

end Step

end SourceOutline
