import SourceOutline.Document
import SourceOutline.Region

/-!
# Decorations

What an editor shows for a heading: the comment run is hidden except for its last character, in
whose place stands the bullet of the level, and a face covers the line from the run on. Block
regions get a background. Rendering as plain text puts the bullet in place of the run and marks
where lines are hidden.
-/

namespace SourceOutline

/-- What to show for one heading line. Columns are counted from zero, ends are not included. -/
structure Decoration where
  line : Int
  /-- The first column that is hidden. -/
  hiddenFrom : Nat
  /-- The column that shows the glyph; the columns in front of it are hidden. -/
  glyphColumn : Nat
  glyph : Text
  face : Text
  /-- The column at which the face ends; it starts where columns are hidden. -/
  faceTo : Nat
deriving DecidableEq, Repr

/-- The background of some lines, both ends included. -/
structure Background where
  start : Int
  stop : Int
deriving DecidableEq, Repr

def blockFace : Text := "block".toList

/-- What stands, after a space, behind a line below which lines are hidden. -/
def foldMarker : Text := "...".toList

def decorate (config : Config) (heading : Heading) (line : Text) : Except Fault Decoration := do
  let glyph ← bulletGlyph heading.level config.bulletGlyphs
  return {
    line := heading.line
    hiddenFrom := heading.indentation.length
    glyphColumn := heading.openingEnd - 1
    glyph
    face := displayFace heading.level config.headingFace
    faceTo := line.length }

namespace Convention

def decorationsFrom (conv : Convention) (number : Int) :
    List Text → Except Fault (List Decoration)
  | [] => .ok []
  | line :: rest =>
    match conv.readHeading? number line rest.head? with
    | none => decorationsFrom conv (number + 1) rest
    | some heading => do
      let decoration ← decorate conv.config heading line
      let others ← decorationsFrom conv (number + 1) rest
      return decoration :: others

def decorations (conv : Convention) (lines : List Text) : Except Fault (List Decoration) :=
  conv.decorationsFrom 0 lines

end Convention

def decorationOf? (decorations : List Decoration) (line : Int) : Option Decoration :=
  decorations.find? fun decoration => decoration.line == line

def renderLine (line : Text) : Option Decoration → Text
  | none => line
  | some decoration =>
    line.take decoration.hiddenFrom ++ decoration.glyph ++
      line.drop (decoration.glyphColumn + 1)

/-- Marks the last one of the lines displayed so far, last first, when a hidden line comes. The marker
is there already when the line before is hidden, too, and without a displayed line there is nothing to
mark. -/
def markFold (folded : Bool) : List Text → List Text
  | [] => []
  | last :: earlier =>
    if folded then last :: earlier else (last ++ ' ' :: foldMarker) :: earlier

/-- The lines in view as they are displayed, from the line with the given number on. `above` are the
lines displayed so far, last first, and `folded` says whether the line before is hidden. -/
def renderFrom (decorationAt : Int → Option Decoration) (hidden : List Int) (number : Int)
    (above : List Text) (folded : Bool) : List Text → List Text
  | [] => above.reverse
  | line :: rest =>
    if hidden.contains number then
      renderFrom decorationAt hidden (number + 1) (markFold folded above) true rest
    else
      renderFrom decorationAt hidden (number + 1)
        (renderLine line (decorationAt number) :: above) false rest

/-- The lines in view as they are displayed, each with its decoration if it has one. A line that is
followed by hidden ones ends with the fold marker, the way an editor shows a collapsed heading. -/
def renderText (lines : List Text) (decorationAt : Int → Option Decoration) (hidden : List Int) :
    List Text :=
  renderFrom decorationAt hidden 0 [] false lines

end SourceOutline
