import SourceOutline.Value.Basic

/-!
# Values as numbers

Where a number is called for, a truth value counts as one or zero. A number that is no whole one
still has its place among the whole ones, so it can be compared with them although it counts nothing.
-/

namespace SourceOutline

inductive Number where
  | whole (value : Int)
  | real (value : Float)

/-- Whether a number lies below a whole one. Nothing lies below or above what is no number. -/
def Number.isBelow (number : Number) (bound : Int) : Bool :=
  match number with
  | .whole n => n < bound
  | .real x => x < Float.ofInt bound

def Number.isAbove (number : Number) (bound : Int) : Bool :=
  match number with
  | .whole n => bound < n
  | .real x => Float.ofInt bound < x

namespace Value

def number? : Value → Option Number
  | int n => some (.whole n)
  | bool b => some (.whole (if b then 1 else 0))
  | float x => some (.real x)
  | _ => none

def index? (v : Value) : Option Int :=
  match v.number? with
  | some (.whole n) => some n
  | _ => none

end Value

end SourceOutline
