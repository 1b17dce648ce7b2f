import SourceOutline.Heading
import SourceOutline.Lines

/-!
# Outlines

The outline of a document is the sequence of its headings. The *subtree* of a heading reaches to the
next heading that is not deeper, or to the end of the document; the *section* of a line reaches to
the next heading of level one.

Everything here is computed from the lines at hand and kept nowhere, so an outline always agrees
with the lines it is asked about.
-/

namespace SourceOutline

namespace Convention

def headingAt (conv : Convention) (lines : List Text) (number : Int) :
    Except Fault (Option Heading) := do
  let line ← Lines.lookup lines number
  let below := if number + 1 < lines.length then Lines.lookup? lines (number + 1) else none
  return conv.readHeading? number line below

/-- The headings among lines whose first has the given number. -/
def headingsFrom (conv : Convention) (number : Int) : List Text → List Heading
  | [] => []
  | line :: rest =>
    match conv.readHeading? number line rest.head? with
    | some heading => heading :: headingsFrom conv (number + 1) rest
    | none => headingsFrom conv (number + 1) rest

def headings (conv : Convention) (lines : List Text) : List Heading := conv.headingsFrom 0 lines

def positions (conv : Convention) (lines : List Text) : List Int :=
  ((Lines.numbered 0 lines).filter fun entry => conv.isHeading entry.2).map Prod.fst

def levelAt (conv : Convention) (lines : List Text) (number : Int) :
    Except Fault (Option Int) :=
  (Lines.lookup lines number).map conv.level?

/-- The nearest heading at a line or above it; a number past the end starts at the last line. -/
def enclosing? (conv : Convention) (lines : List Text) (number : Int) : Option Heading :=
  ((conv.headings lines).filter fun heading => heading.line ≤ number).getLast?

/-- Whether a line ends a subtree whose heading has the given level. -/
def endsSubtree (conv : Convention) (level : Int) (line : Text) : Bool :=
  match conv.level? line with
  | some other => other ≤ level
  | none => false

def subtreeEnd (conv : Convention) (lines : List Text) (number : Int) : Except Fault Int := do
  match ← conv.levelAt lines number with
  | none => throw (.notAHeading number)
  | some level =>
    let below ← Lines.numberedFrom lines (number + 1)
    match below.find? fun entry => conv.endsSubtree level entry.2 with
    | some entry => return entry.1
    | none => return lines.length

/-- The lines strictly inside the subtree of a heading, with their numbers. -/
def subtreeBody (conv : Convention) (lines : List Text) (number : Int) :
    Except Fault (List (Int × Text)) := do
  let stop ← conv.subtreeEnd lines number
  let below ← Lines.numberedFrom lines (number + 1)
  return below.takeWhile fun entry => entry.1 < stop

def isEmptyHeading (conv : Convention) (lines : List Text) (number : Int) :
    Except Fault Bool :=
  if lines.length ≤ number + 1 then .ok true
  else (conv.levelAt lines (number + 1)).map Option.isSome

def hasChildren (conv : Convention) (lines : List Text) (number : Int) : Except Fault Bool :=
  (conv.subtreeBody lines number).map fun body => body.any fun entry => conv.isHeading entry.2

/-- The last line that is not blank before the next heading of level one; the line itself when
nothing but blanks follows. -/
def sectionLast (conv : Convention) (lines : List Text) (number : Int) : Except Fault Int :=
  if (lines.length : Int) ≤ number + 1 then .ok (lines.length - 1)
  else do
    let below ← Lines.numberedFrom lines (number + 1)
    let section_ := below.takeWhile fun entry => conv.level? entry.2 != some 1
    match (section_.filter fun entry => !entry.2.isBlankText).getLast? with
    | some entry => return entry.1
    | none => return number

/-- The headings in line order, each with its label: the titles on the path from the outermost
heading down, without the empty ones, between slashes. The path holds one title for every level
above; a skipped level has an empty one. -/
def labels (conv : Convention) (lines : List Text) : List (Int × Text) :=
  go [] (conv.headings lines)
where
  /-- Continues with the path of the heading before. -/
  go (path : List Text) : List Heading → List (Int × Text)
    | [] => []
    | heading :: rest =>
      let depth := (heading.level - 1).toNat
      -- titles of this level and deeper belong to headings whose subtree has ended
      let above := path.take depth
      let path := above ++ List.replicate (depth - above.length) [] ++ [heading.title]
      (heading.line, Text.joinWith ['/'] (path.filter fun title => !title.isEmpty)) :: go path rest

end Convention

end SourceOutline
