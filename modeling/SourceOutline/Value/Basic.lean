import SourceOutline.Moment

/-!
# Values

A setting may be given any value that a configuration file can hold, and a step of a script any value
as an argument. Only some of them make sense in a given place, and which ones is decided there: when
settings are checked, or when a step is carried out.
-/

namespace SourceOutline

/-- A value as a configuration file, an editor or a script gives it. -/
inductive Value where
  | null
  | bool (value : Bool)
  | int (value : Int)
  | float (value : Float)
  | text (value : Text)
  /-- A date with a time of day, in no time zone. -/
  | moment (value : Moment)
  /-- Any other date or time of day, in its written form. -/
  | date (written : Text)
  | list (items : List Value)
  /-- A list that nobody can change any more. No file and no editor gives one. -/
  | tuple (items : List Value)
  | table (entries : List (Text × Value))
deriving Inhabited

namespace Value

def isNull : Value → Bool
  | null => true
  | _ => false

/-- A value that is a whole number; a truth value is not one. -/
def int? : Value → Option Int
  | int n => some n
  | _ => none

def text? : Value → Option Text
  | text t => some t
  | _ => none

def list? : Value → Option (List Value)
  | list items => some items
  | _ => none

def tuple? : Value → Option (List Value)
  | tuple items => some items
  | _ => none

/-- The value with its list, if it is one, kept from changes. -/
def fixed : Value → Value
  | list items => tuple items
  | v => v

/-- Whether a value stands for something: no truth value that is false, no zero, and nothing that is
empty. -/
def isSomething : Value → Bool
  | null => false
  | bool b => b
  | int n => n != 0
  | float x => x != 0.0
  | text t => !t.isEmpty
  | moment _ => true
  | date _ => true
  | list items => !items.isEmpty
  | tuple items => !items.isEmpty
  | table entries => !entries.isEmpty

def texts? (v : Value) : Option (List Text) := v.list?.bind fun items => items.mapM text?

def ofText? : Option Text → Value
  | some t => text t
  | none => null

def ofTexts (ts : List Text) : Value := tuple (ts.map text)

end Value

end SourceOutline
