import SourceOutline.Event
import SourceOutline.Document
import SourceOutline.Outline

/-!
# Moving between headings

Moving goes heading by heading to the nearest one below or above, and does not start at all when
there are too few. Landing on a heading of level one scrolls it to the top of the window when the
last line of its section would be out of sight.
-/

namespace SourceOutline

/-- The window onto a document: its first line and how many lines it shows. -/
structure Viewport where
  top : Int
  height : Int
deriving DecidableEq, Repr

def Viewport.shows (v : Viewport) (line : Int) : Bool := v.top ≤ line && line < v.top + v.height

inductive Direction where
  | down
  | up
deriving DecidableEq, Repr

inductive Move where
  /-- Nothing, for a reason that the user is told. -/
  | refuse (notice : Notice)
  /-- To put point at the start of a line, and perhaps to scroll that line to the top. -/
  | goTo (line : Int) (scroll : Bool)
deriving DecidableEq, Repr

namespace Convention

/-- The nearest heading below or above a line. The search starts on the neighbouring line, which has
to be a line of the document. -/
def nearestHeading? (conv : Convention) (lines : List Text) (direction : Direction)
    (number : Int) : Option Int :=
  match direction with
  | .down =>
    if 0 ≤ number + 1 then (conv.positions lines).find? fun position => number < position
    else none
  | .up =>
    if number ≤ lines.length then
      ((conv.positions lines).filter fun position => position < number).getLast?
    else none

def headingAfter? (conv : Convention) (lines : List Text) (direction : Direction) :
    Nat → Int → Option Int
  | 0, number => some number
  | count + 1, number =>
    (conv.nearestHeading? lines direction number).bind (conv.headingAfter? lines direction count)

end Convention

namespace Document

/-- Whether landing on a heading scrolls it to the top of the window, if there is a window. Of the
window only the lines that it shows are asked for. -/
def scrollsTo (d : Document) (conv : Convention) (shows? : Option (Int → Bool)) (number : Int) :
    Except Fault Bool :=
  match shows? with
  | none => .ok false
  | some shows => do
    if (← conv.levelAt d.lines number) == some 1 then
      return !shows (← conv.sectionLast d.lines number)
    else return false

def moveHeadings (d : Document) (config : Config) (direction : Direction) (count : Int)
    (shows? : Option (Int → Bool)) : Except Fault Move := do
  if count < 1 then throw (.repeatBelowOne count)
  let conv ← d.convention config
  match conv.headingAfter? d.lines direction count.toNat d.point.line with
  | some number => return .goTo number (← d.scrollsTo conv shows? number)
  | none =>
    return .refuse (match direction with
      | .down => .noNextHeading
      | .up => .noPreviousHeading)

end Document

end SourceOutline
