import SourceOutline.Event
import SourceOutline.Decoration.Basic

/-!
# Keeping decorations current

A cache holds the decorations and regions of one document and follows its edits. An edit inside one
line derives that line anew, and only when it starts where a heading's prefix can be; an edit that
changes the number of lines or spans several of them derives all decorations anew. Regions are
dropped with every edit and computed when next asked for.
-/

namespace SourceOutline

/-- What has been derived from a document, as far as it is known. -/
structure Cache where
  /-- The decorations in line order, once derived. -/
  decorations : Option (List Decoration) := none
  regions : Option (List Region) := none
  /-- The number of lines when all decorations were last derived. -/
  lineCount : Nat
deriving DecidableEq, Repr

def insertDecoration (decoration : Decoration) : List Decoration → List Decoration
  | [] => [decoration]
  | other :: rest =>
    if decoration.line < other.line then decoration :: other :: rest
    else if decoration.line = other.line then decoration :: rest
    else other :: insertDecoration decoration rest

/-- The last column of a line at which an edit can change whether it is a heading. -/
def prefixLimit (mark line : Text) : Int :=
  (indentation line).length + (openingRun mark line).length + 1

namespace Cache

def empty (d : Document) : Cache := { lineCount := d.lineCount }

/-- Whether decorations have to be derived before the next answer. -/
def isStale (c : Cache) : Bool := c.decorations.isNone

def invalidate (c : Cache) : Cache := { c with decorations := none, regions := none }

def deriveAll (c : Cache) (d : Document) (config : Config) :
    Cache × Except Fault (List Decoration) :=
  -- the count is noted even when nothing can be derived
  let c := { c with lineCount := d.lineCount }
  match d.convention config >>= fun conv => conv.decorations d.lines with
  | .ok decorations => ({ c with decorations := some decorations }, .ok decorations)
  | .error fault => (c, .error fault)

def deriveLine (known : List Decoration) (d : Document) (config : Config) (number : Int) :
    Except Fault (List Decoration) := do
  let conv ← d.convention config
  match ← conv.headingAt d.lines number with
  | none => return known.filter fun decoration => decoration.line != number
  | some heading =>
    let decoration ← decorate config heading (← d.line number)
    return insertDecoration decoration known

def getDecorations (c : Cache) (d : Document) (config : Config) :
    Cache × Except Fault (List Decoration) :=
  match c.decorations with
  | some decorations => (c, .ok decorations)
  | none => c.deriveAll d config

def getRegions (c : Cache) (d : Document) (config : Config) :
    Cache × Except Fault (List Region) :=
  match c.regions with
  | some regions => (c, .ok regions)
  | none =>
    match d.convention config with
    | .ok conv =>
      let regions := conv.regions d.lines
      ({ c with regions := some regions }, .ok regions)
    | .error fault => (c, .error fault)

/-- The backgrounds of the regions; none for a file that the settings leave out. -/
def getBackgrounds (c : Cache) (d : Document) (config : Config) :
    Cache × Except Fault (List Background) :=
  if config.acceptsBlocks d.name then
    match c.getRegions d config with
    | (c, .ok regions) =>
      (c, .ok (regions.map fun region => { start := region.start, stop := region.stop }))
    | (c, .error fault) => (c, .error fault)
  else (c, .ok [])

/-- The last column at which an edit of a line has to be looked at: the prefix that the line has
now, and the one that it was last decorated for. -/
def editLimit (known : List Decoration) (mark line : Text) (number : Int) : Int :=
  match decorationOf? known number with
  | some decoration => max (prefixLimit mark line) (decoration.glyphColumn + 2)
  | none => prefixLimit mark line

def notifyLine (c : Cache) (known : List Decoration) (d : Document) (config : Config)
    (place : Point) : Cache × Except Fault (List Event) :=
  let derived : Except Fault (Option (List Decoration)) := do
    let line ← d.line place.line
    let mark ← d.mark config
    if place.column ≤ editLimit known mark line place.line then
      return some (← deriveLine known d config place.line)
    else return none
  match derived with
  | .ok (some decorations) =>
    ({ c with decorations := some decorations }, .ok [.headingRederived place.line])
  | .ok none => (c, .ok [])
  | .error fault => (c, .error fault)

/-- Follows an edit at a character of the text that put `newLength` characters there. -/
def notify (c : Cache) (d : Document) (config : Config) (position newLength : Int) :
    Cache × Except Fault (List Event) :=
  let c := { c with regions := none }
  match c.decorations with
  | none => (c, .ok [])
  | some known =>
    let start := d.position position
    let stop := d.position (position + newLength)
    if d.lineCount = c.lineCount ∧ start.line = stop.line then c.notifyLine known d config start
    else
      match c.deriveAll d config with
      | (c, .ok _) => (c, .ok [])
      | (c, .error fault) => (c, .error fault)

end Cache

end SourceOutline
