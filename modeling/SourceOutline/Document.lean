import SourceOutline.Config.Basic
import SourceOutline.Heading
import SourceOutline.Language
import SourceOutline.Lines

/-!
# Documents and their changes

A document is its lines, never none of them, together with the point and with what is needed to
write it back. The only edit is `Document.replace`, which puts new lines in the place of old ones;
it returns the `Change` that tells followers what happened, both by lines and by characters of the
text in which every line break counts as one character.

`Document.ofText` and `Document.text` read and write a document: of the text they keep the lines,
the first line break and whether the last line ends with one. `Document.offset` and
`Document.position` go from one way of counting to the other.
-/

namespace SourceOutline

/-- A place in a document: a line and a column in it, both counted from zero. -/
structure Point where
  line : Int := 0
  column : Int := 0
deriving DecidableEq, Repr, Inhabited

structure Change where
  /-- The character at which the edit starts. -/
  position : Int
  /-- The number of characters replaced. -/
  oldLength : Int
  /-- The number of characters that replace them. -/
  newLength : Int
  /-- The line at which the edit starts. -/
  line : Int
  /-- The number of lines replaced. -/
  oldCount : Int
  /-- The number of lines that replace them. -/
  newCount : Int
deriving DecidableEq, Repr

def Change.lineDelta (c : Change) : Int := c.newCount - c.oldCount

/-- A text file in lines. -/
structure Document where
  lines : List Text
  language : Option Language := none
  /-- The name of the file that the document was read from. -/
  name : Option Text := none
  point : Point := {}
  /-- Whether a line break follows the last line. -/
  endsWithBreak : Bool := true
  /-- What separates lines when the document is written. -/
  lineBreak : Text := ['\n']
deriving DecidableEq, Repr

namespace Document

/-- A document has one empty line rather than no line. -/
def orEmptyLine (lines : List Text) : List Text := if lines.isEmpty then [[]] else lines

/-! ## Reading and writing text -/

/-- The lines of a text, read from its end: the lines after some place, and whether a line feed
stands there, which then belongs to a carriage return in front of it. -/
structure LineSplit where
  first : Text := []
  others : List Text := []
  atLineFeed : Bool := false
deriving DecidableEq, Repr

def LineSplit.cons (c : Char) (s : LineSplit) : LineSplit :=
  if c == '\n' then { others := s.first :: s.others, atLineFeed := true }
  else if c == '\r' then
    if s.atLineFeed then { s with atLineFeed := false } else { others := s.first :: s.others }
  else { first := c :: s.first, others := s.others }

/-- The lines between line breaks: a carriage return, a line feed, or both in this order. There is
always at least one. -/
def splitLines (text : Text) : List Text :=
  let split := text.foldr LineSplit.cons {}
  split.first :: split.others

def firstBreak? : Text → Option Text
  | [] => none
  | '\r' :: '\n' :: _ => some ['\r', '\n']
  | '\r' :: _ => some ['\r']
  | '\n' :: _ => some ['\n']
  | _ :: rest => firstBreak? rest

/-- Reads a document. An empty last line after a break is not a line of its own, and the first break
is the one that the document is written with. -/
def ofText (text : Text) (language : Option Language) (name : Option Text) : Document :=
  let lines := splitLines text
  let ends := decide (1 < lines.length) && lines.getLast? == some []
  { lines := orEmptyLine (if ends then lines.dropLast else lines)
    language
    name
    endsWithBreak := ends
    lineBreak := (firstBreak? text).getD ['\n'] }

def ofFile (path : PathName) (text : Text) : Document :=
  ofText text (Language.ofPath? path) (some path.name)

def text (d : Document) : Text :=
  let joined := Text.joinWith d.lineBreak d.lines
  if d.endsWithBreak then joined ++ d.lineBreak else joined

def lineCount (d : Document) : Nat := d.lines.length

def line (d : Document) (number : Int) : Except Fault Text := Lines.lookup d.lines number

/-! ## Comment syntax -/

def commentChar? (d : Document) : Option Text := d.language.bind Language.commentChar?

/-- The comment mark to read a document with: the first visible character of the configured one,
else the language's. -/
def mark (d : Document) (config : Config) : Except Fault Text :=
  match config.commentChar with
  | some configured =>
    match configured.trim with
    | c :: _ => .ok [c]
    | [] => .error .blankMark
  | none =>
    match d.commentChar? with
    | some c => .ok c
    | none => .error (.noCommentSyntax (d.language.map Language.name))

def convention (d : Document) (config : Config) : Except Fault Convention :=
  (d.mark config).map fun mark => { mark, config }

/-! ## Counting characters -/

/-- The characters of some lines, where a break follows each of them. -/
def width (lines : List Text) : Nat := lines.foldr (fun line below => line.length + 1 + below) 0

def offset (d : Document) (line column : Int) : Int :=
  width (d.lines.take (Lines.cutAt d.lines.length line)) + column

/-- The place that lies a number of characters behind the start of line `number`, where the line
break of a line counts as its last column; past the end it is the end of the last line. -/
def positionFrom (number : Int) (offset : Int) : List Text → Point
  | [] => { line := number, column := offset }
  | [line] =>
    { line := number, column := if offset ≤ line.length then offset else line.length }
  | line :: next :: rest =>
    if offset ≤ line.length then { line := number, column := offset }
    else positionFrom (number + 1) (offset - (line.length + 1)) (next :: rest)

def position (d : Document) (offset : Int) : Point := positionFrom 0 offset d.lines

/-! ## Editing -/

/-- The characters that some lines take up in a text. The break of the last of them does not count
when no line follows. -/
def spanLength (lines : List Text) (followed : Bool) : Int :=
  if lines.isEmpty then 0 else (width lines : Int) - if followed then 0 else 1

/-- The old lines between two cuts. A cut that lies before the first one is moved to it. -/
def cutOut (lines : List Text) (start stop : Int) : List Text :=
  (lines.take (Lines.cutAt lines.length stop)).drop (Lines.cutAt lines.length start)

/-- New lines in the place of those between two cuts. -/
def splice (lines : List Text) (start stop : Int) (new : List Text) : List Text :=
  let first := Lines.cutAt lines.length start
  lines.take first ++ new ++ lines.drop (max first (Lines.cutAt lines.length stop))

def changeOf (d : Document) (start stop : Int) (new : List Text) : Change :=
  let old := cutOut d.lines start stop
  let after := orEmptyLine (splice d.lines start stop new)
  { position := d.offset start 0
    oldLength := spanLength old (decide (start + old.length < d.lines.length))
    newLength := spanLength new (decide (start + new.length < after.length))
    line := start
    oldCount := old.length
    newCount := new.length }

/-- The point after a change: it moves with its line when that lies behind the replaced ones, and
stays inside the document. -/
def shiftPoint (lines : List Text) (change : Change) (point : Point) : Point :=
  let moved :=
    if change.lineDelta ≠ 0 ∧ change.line + change.oldCount ≤ point.line
    then point.line + change.lineDelta else point.line
  let line := max 0 (min moved (lines.length - 1))
  { line, column := min point.column ((lines[line.toNat]?.getD []).length) }

def replace (d : Document) (start stop : Int) (new : List Text) : Document × Change :=
  let change := d.changeOf start stop new
  let lines := orEmptyLine (splice d.lines start stop new)
  ({ d with lines, point := shiftPoint lines change d.point }, change)

def setLine (d : Document) (number : Int) (line : Text) : Document × Change :=
  d.replace number (number + 1) [line]

def insertLines (d : Document) (number : Int) (new : List Text) : Document × Change :=
  d.replace number number new

/-- Deletes lines from `start` up to but not including `stop`. -/
def deleteLines (d : Document) (start stop : Int) : Document × Change :=
  d.replace start stop []

/-- Reads the document as another language from now on. -/
def resetLanguage (d : Document) (language : Option Language) : Document := { d with language }

/-- Puts the point somewhere, without any check. -/
def setPoint (d : Document) (point : Point) : Document := { d with point }

end Document

end SourceOutline
