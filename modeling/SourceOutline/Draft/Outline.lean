import SourceOutline.Decoration.Basic
import SourceOutline.Draft.Basic
import SourceOutline.Fold.View

/-!
# Outlines under a draft

Every question about an outline can be asked under a draft as well. The answer is that of the draft's
configuration, unless one of the lines that the question leads to calls for an unusable setting: a
line with a comment run calls for the base length, a heading for the keywords when its text opens
with a word that could be one, and a region for the padding.
-/

namespace SourceOutline

namespace Draft

def convention (d : Draft) (mark : Text) : Convention := { mark, config := d.config }

def refuseWith : Option Fault → Except Fault Unit
  | some fault => .error fault
  | none => .ok ()

def markOf (d : Draft) (doc : Document) : Except Fault Text := do
  refuseWith d.markFault
  doc.mark d.config

def measure (d : Draft) (mark line : Text) : Except Fault (Option Int) :=
  match d.runFault, run? mark line with
  | some fault, some _ => .error fault
  | _, _ => .ok ((d.convention mark).level? line)

/-- Whether the text of a heading opens with a word that could be a keyword. -/
def opensWithWord (mark line : Text) : Bool :=
  let opening := (indentation line).length + (openingRun mark line).length
  ((Text.unindent (line.drop opening)).takeWhile isKeywordChar) != []

/-- Reads a line as a heading, as far as faults go; tells whether it is one. -/
def read (d : Draft) (mark line : Text) : Except Fault Bool := do
  match ← d.measure mark line with
  | none => return false
  | some _ =>
    refuseWith d.headingFault
    match d.keywords with
    | .unusable _ => if opensWithWord mark line then throw .unusableSetting else return true
    | _ => return true

def readNearest (d : Draft) (mark : Text) : List Text → Except Fault Unit
  | [] => .ok ()
  | line :: rest => do
    if ← d.read mark line then return () else d.readNearest mark rest

def measuring {α : Type} (d : Draft) (mark : Text) (lines : List Text) (answer : Except Fault α) :
    Except Fault α := do
  lines.forM fun line => (d.measure mark line).map fun _ => ()
  answer

def reading {α : Type} (d : Draft) (mark : Text) (lines : List Text) (answer : Except Fault α) :
    Except Fault α := do
  lines.forM fun line => (d.read mark line).map fun _ => ()
  answer

def lineAt (lines : List Text) (number : Int) : List Text := (Lines.lookup? lines number).toList

/-! ## Headings -/

def headings (d : Draft) (mark : Text) (lines : List Text) : Except Fault (List Heading) :=
  d.reading mark lines (.ok ((d.convention mark).headings lines))

def linesUpFrom (lines : List Text) (number : Int) : List Text :=
  (lines.take (number + 1).toNat).reverse

def enclosing? (d : Draft) (mark : Text) (lines : List Text) (number : Int) :
    Except Fault (Option Heading) := do
  d.readNearest mark (linesUpFrom lines number)
  return (d.convention mark).enclosing? lines number

def subtreeEnd (d : Draft) (mark : Text) (lines : List Text) (number : Int) : Except Fault Int :=
  d.measuring mark (lineAt lines number) ((d.convention mark).subtreeEnd lines number)

def hasChildren (d : Draft) (mark : Text) (lines : List Text) (number : Int) :
    Except Fault Bool :=
  d.measuring mark (lineAt lines number) ((d.convention mark).hasChildren lines number)

def isEmptyHeading (d : Draft) (mark : Text) (lines : List Text) (number : Int) :
    Except Fault Bool :=
  let below := if lines.length ≤ number + 1 then [] else lineAt lines (number + 1)
  d.measuring mark below ((d.convention mark).isEmptyHeading lines number)

/-- The last line that is not blank before the next heading of level one. -/
def sectionLast (d : Draft) (mark : Text) (lines : List Text) (number : Int) :
    Except Fault Int :=
  let below :=
    match Lines.numberedFrom lines (number + 1) with
    | .ok entries => entries.map Prod.snd
    | .error _ => []
  let conv : Convention := { mark, config := { d.config with baseLevel := d.sectionLength } }
  d.measuring mark below (conv.sectionLast lines number)

/-! ## Regions -/

def regions (d : Draft) (mark : Text) (lines : List Text) : Except Fault (List Region) :=
  let conv := d.convention mark
  d.measuring mark lines do
    if lines.any conv.isHeading then refuseWith d.paddingFault
    return conv.regions lines

/-! ## Decorations -/

/-- What to show for a heading: its decoration, with the glyph and the face as the settings give
them. -/
structure Shown where
  decoration : Decoration
  glyph : Value
  face : Value

/-- The glyph of a level: the glyphs are dealt out in order and start over when they run out. -/
def glyphOf (d : Draft) (level : Int) : Except Fault Value := do
  let glyphs ← d.glyphs
  match glyphs[((level - 1) % glyphs.length).toNat]? with
  | some glyph => return glyph
  | none => throw .noGlyphs

def faceOf (d : Draft) (level : Int) : Value :=
  if d.face.isNull then .text (displayFace level none) else d.face

def present (d : Draft) (heading : Heading) (line : Text) : Except Fault Shown := do
  let glyph ← d.glyphOf heading.level
  let face := d.faceOf heading.level
  return {
    decoration :=
      { line := heading.line
        hiddenFrom := heading.indentation.length
        glyphColumn := heading.openingEnd - 1
        glyph := glyph.written
        face := face.written
        faceTo := line.length }
    glyph
    face }

def shownFrom (d : Draft) (mark : Text) (number : Int) : List Text → Except Fault (List Shown)
  | [] => .ok []
  | line :: rest => do
    let _ ← d.read mark line
    match (d.convention mark).readHeading? number line rest.head? with
    | none => d.shownFrom mark (number + 1) rest
    | some heading =>
      let first ← d.present heading line
      let others ← d.shownFrom mark (number + 1) rest
      return first :: others

def shown (d : Draft) (mark : Text) (lines : List Text) : Except Fault (List Shown) :=
  d.shownFrom mark 0 lines

end Draft

end SourceOutline
