import SourceOutline.Config.Basic
import SourceOutline.Level
import SourceOutline.Moment

/-!
# Headings

A line is a heading when its comment run reaches the base length, unless it is a *closed line*: two
comment characters and the label `CLOSED:`, which record when the heading above was finished. What
follows the run is the heading's text, an optional keyword and the title.

The comment mark and the configuration together are the `Convention` under which lines are read;
`Convention.level?` judges a line by itself, and everything about the structure of a document is
derived from these levels.
-/

namespace SourceOutline

/-- What lines are read under: the comment mark and the settings. -/
structure Convention where
  mark : Text
  config : Config
deriving DecidableEq, Repr

/-- A heading, as read from its line and the line below. -/
structure Heading where
  /-- The number of the line, counted from zero. -/
  line : Int
  /-- The white space in front of the comment run. -/
  indentation : Text
  /-- The length of the comment run. -/
  run : Nat
  /-- The outline level, one for the base length. -/
  level : Int
  /-- The keyword that opens the text, if there is one. -/
  keyword : Option Text
  /-- The text after run and keyword. -/
  title : Text
  /-- The time that a closed line directly below records. -/
  closed : Option Moment
deriving DecidableEq, Repr

namespace Heading

/-- The column right after the comment run. -/
def openingEnd (h : Heading) : Nat := h.indentation.length + h.run

end Heading

def closedLabel : Text := "CLOSED:".toList

/-- What a closed line is indented by, counted from its heading. -/
def closedIndentation : Text := [' ', ' ']

/-- Whether a line records a time: a run of exactly two, then the label. -/
def isClosedLine (mark line : Text) : Bool :=
  run? mark line == some 2 && closedLabel.isPrefixOf (Text.unindent (line.unindent.drop 2))

def closedMoment? (mark line : Text) : Option Moment :=
  if isClosedLine mark line then Moment.ofStamp? line else none

def closedLine (h : Heading) (mark : Text) (m : Moment) : Text :=
  h.indentation ++ closedIndentation ++ repeatMark mark 2 ++ ' ' :: closedLabel ++ ' ' :: m.stamp

def isKeywordChar (c : Char) : Bool := 'A' ≤ c && c ≤ 'Z'

/-- Separates the keyword that opens a heading's text from its title. A word counts only when it is
one of the keywords and the text ends behind it, or a space or tab follows. -/
def splitKeyword (keywords : List Text) (text : Text) : Option Text × Text :=
  let body := text.unindent
  let word := body.takeWhile isKeywordChar
  let rest := body.dropWhile isKeywordChar
  if !word.isEmpty && keywords.contains word && (rest.isEmpty || (rest.take 1).all isIndenting)
  then (some word, Text.trim rest)
  else (none, body.trim)

namespace Convention

/-- The level of a line, if it is a heading. Closed lines are none, however low the base is. -/
def level? (conv : Convention) (line : Text) : Option Int :=
  match run? conv.mark line with
  | none => none
  | some run =>
    if isClosedLine conv.mark line then none else SourceOutline.level? run conv.config.baseLevel

def isHeading (conv : Convention) (line : Text) : Bool := (conv.level? line).isSome

def isClosed (conv : Convention) (line : Text) : Bool := isClosedLine conv.mark line

/-- Reads a line as the heading with the given number; `below` is the line after it. -/
def readHeading? (conv : Convention) (number : Int) (line : Text) (below : Option Text) :
    Option Heading :=
  match conv.level? line with
  | none => none
  | some level =>
    let indent := indentation line
    let run := (openingRun conv.mark line).length
    let (keyword, title) := splitKeyword conv.config.todoKeywords (line.drop (indent.length + run))
    some
      { line := number, indentation := indent, run, level, keyword, title
        closed := below.bind (closedMoment? conv.mark) }

end Convention

end SourceOutline
