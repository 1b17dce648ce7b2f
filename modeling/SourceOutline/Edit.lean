import SourceOutline.Event
import SourceOutline.Document
import SourceOutline.Outline

/-!
# Editing headings

Every editing command first decides, looking at the document only, and then either refuses with a
notice or performs one single replacement of lines. `Decision` is what it decided, so a command that
refuses or fails has not touched anything, and followers of the document hear of exactly one change.
-/

namespace SourceOutline

/-- What an editing command decided to do. -/
inductive Decision where
  /-- Nothing, for a reason that the user is told. -/
  | refuse (notice : Notice)
  /-- To put lines in the place of others, and perhaps to move point afterwards. -/
  | replace (start stop : Int) (new : List Text) (point : Option Point) (event : Event)
deriving DecidableEq, Repr

namespace Document

def headingAtPoint (d : Document) (config : Config) :
    Except Fault (Convention × Option Heading) := do
  let conv ← d.convention config
  let heading ← conv.headingAt d.lines d.point.line
  return (conv, heading)

def decideAtHeading (d : Document) (config : Config)
    (decide : Convention → Heading → Except Fault Decision) : Except Fault Decision := do
  match ← d.headingAtPoint config with
  | (_, none) => return .refuse .notOnHeading
  | (conv, some heading) => decide conv heading

/-! ## Inserting -/

/-- Whether a blank line goes in front of a heading that is inserted below the first `above` lines,
as the closest preceding sibling has it: the search upwards skips deeper headings and stops at the
parent. -/
def siblingHasBlank (conv : Convention) (level : Int) : (above : List Text) → Bool
  | [] => false
  | line :: rest =>
    match conv.level? line with
    | none => siblingHasBlank conv level rest
    | some other =>
      if level < other then siblingHasBlank conv level rest
      else if other < level then false
      else (rest.head?.map Text.isBlankText).getD false

/-- Whether a blank line goes in front of a heading inserted at a line. `above?` is what will stand
right above it, and there is nothing to separate from a blank line or from the top. -/
def needsBlankLine (conv : Convention) (lines : List Text) (start : Int) (above? : Option Text)
    (level : Int) : Bool :=
  match conv.config.blankLinePolicy, above? with
  | .never, _ => false
  | _, none => false
  | policy, some above =>
    if above.isBlankText then false
    else if policy = .always then true
    else siblingHasBlank conv level (lines.take start.toNat).reverse

/-- Where a heading goes: the lines that it replaces, what is kept of them above the heading, and
its title. -/
structure InsertionSpot where
  start : Int
  stop : Int
  kept : List Text := []
  title : Text := []
deriving DecidableEq, Repr

/-- The spot at which a heading is inserted at point. A closed line stays with its heading, a blank
line is replaced, in front of a line the heading goes above it, and elsewhere the line is split; the
closed line of a heading that is split stays with the first part. -/
def spotAtPoint (d : Document) (conv : Convention) (line : Text) (onHeading : Option Heading) :
    InsertionSpot :=
  let number := d.point.line
  let column := d.point.column
  let inFront := column == 0 ||
    (match onHeading with
     | some heading => column ≤ heading.openingEnd
     | none => false)
  if conv.isClosed line then { start := number + 1, stop := number + 1 }
  else if line.isBlankText then { start := number, stop := number + 1 }
  else if inFront then { start := number, stop := number }
  else
    -- a column past the end of the line splits off nothing
    let cut := Lines.cutAt line.length column
    let kept := Text.trimEnd (line.take cut)
    let title := Text.trim (line.drop cut)
    let next := if number + 1 < d.lines.length then Lines.lookup? d.lines (number + 1) else none
    match onHeading, next.filter conv.isClosed with
    | some _, some closed =>
      { start := number, stop := number + 2, kept := [kept, closed], title }
    | _, _ => { start := number, stop := number + 1, kept := [kept], title }

/-- Inserts a heading at point, or behind the enclosing subtree when content is respected. Its level
is that of the enclosing heading unless one is given. -/
def insertHeading (d : Document) (config : Config) (room : Int) (level? : Option Int)
    (respectContent : Bool) : Except Fault Decision := do
  let conv ← d.convention config
  let reference := conv.enclosing? d.lines d.point.line
  let level := level?.getD ((reference.map Heading.level).getD 1)
  if level < 1 then return .refuse (.invalidLevel level)
  let opening ← headingOpening room level conv.mark config.baseLevel
  let opening := (reference.map Heading.indentation).getD [] ++ opening
  let line ← d.line d.point.line
  let onHeading ← conv.headingAt d.lines d.point.line
  let spot ←
    if respectContent then do
      let stop ← match reference with
        | some heading => conv.subtreeEnd d.lines heading.line
        | none => pure (d.lines.length : Int)
      pure { start := stop, stop }
    else pure (d.spotAtPoint conv line onHeading)
  let above? :=
    match spot.kept.getLast? with
    | some kept => some kept
    | none => if 0 < spot.start then Lines.lookup? d.lines (spot.start - 1) else none
  let blank := if needsBlankLine conv d.lines spot.start above? level then [[]] else []
  let above := spot.kept ++ blank
  let number := spot.start + above.length
  return .replace spot.start spot.stop (above ++ [opening ++ ' ' :: spot.title])
    (some { line := number, column := opening.length + 1 }) (.headingInserted number level)

def insertSubheading (d : Document) (config : Config) (room : Int) : Except Fault Decision :=
  d.decideAtHeading config fun conv heading => do
    let below := heading.line + 1
    let next := if below < d.lines.length then Lines.lookup? d.lines below else none
    let number := if next.any conv.isClosed then below + 1 else below
    let opening ← headingOpening room (heading.level + 1) conv.mark config.baseLevel
    let opening := heading.indentation ++ opening
    return .replace number number [opening ++ [' ']]
      (some { line := number, column := opening.length + 1 })
      (.subheadingInserted number (heading.level + 1))

/-! ## Promoting and demoting -/

def shiftRun (conv : Convention) (room : Int) (line : Text) (heading : Heading) (delta : Int) :
    Except Fault Text :=
  (writeRun room conv.mark (heading.run + delta)).map fun run =>
    heading.indentation ++ run ++ line.drop heading.openingEnd

def checkRepeat (count : Int) : Except Fault Unit :=
  if count < 1 then .error (.repeatBelowOne count) else .ok ()

def promote (d : Document) (config : Config) (room count : Int) : Except Fault Decision := do
  checkRepeat count
  d.decideAtHeading config fun conv heading => do
    let steps := min count (heading.level - 1)
    if steps ≤ 0 then return .refuse .cannotPromote
    let line ← d.line heading.line
    let shifted ← shiftRun conv room line heading (-steps)
    return .replace heading.line (heading.line + 1) [shifted] none
      (.headingPromoted heading.line steps)

def demote (d : Document) (config : Config) (room count : Int) : Except Fault Decision := do
  checkRepeat count
  d.decideAtHeading config fun conv heading => do
    let line ← d.line heading.line
    let shifted ← shiftRun conv room line heading count
    return .replace heading.line (heading.line + 1) [shifted] none
      (.headingDemoted heading.line count)

def shiftLine (conv : Convention) (room delta : Int) (line : Text) : Except Fault Text :=
  match conv.readHeading? 0 line none with
  | some heading => shiftRun conv room line heading delta
  | none => .ok line

def shiftSubtree (d : Document) (conv : Convention) (room : Int) (heading : Heading) (delta : Int) :
    Except Fault Decision := do
  let stop ← conv.subtreeEnd d.lines heading.line
  let body ← Lines.numberedFrom d.lines heading.line
  let shifted ← (body.takeWhile fun entry => entry.1 < stop).mapM fun entry =>
    shiftLine conv room delta entry.2
  return .replace heading.line stop shifted none (.subtreeShifted heading.line stop delta)

def promoteSubtree (d : Document) (config : Config) (room count : Int) : Except Fault Decision := do
  checkRepeat count
  d.decideAtHeading config fun conv heading =>
    let steps := min count (heading.level - 1)
    if steps = 0 then return .refuse .cannotPromote
    else d.shiftSubtree conv room heading (-steps)

def demoteSubtree (d : Document) (config : Config) (room count : Int) : Except Fault Decision := do
  checkRepeat count
  d.decideAtHeading config fun conv heading => d.shiftSubtree conv room heading count

/-! ## Keywords -/

/-- The line of a heading with another keyword: one space between run, keyword and title, and
nothing behind the run when there is neither. -/
def keywordLine (conv : Convention) (line : Text) (heading : Heading) (keyword : Option Text) :
    Text :=
  let parts := [keyword.getD [], heading.title].filter fun part => !part.isEmpty
  if parts.isEmpty then line.take heading.openingEnd
  else heading.indentation ++ repeatMark conv.mark heading.run ++
    ' ' :: Text.joinWith [' '] parts

/-- Gives a heading a keyword or takes it away. Arriving at the done keyword writes a fresh closed
line below the heading in place of an old one; leaving it removes the closed line. -/
def applyKeyword (d : Document) (config : Config) (now : Moment) (keyword : Option Text)
    (conv : Convention) (heading : Heading) : Except Fault Decision := do
  let line ← d.line heading.line
  let below := heading.line + 1
  let next := if below < d.lines.length then Lines.lookup? d.lines below else none
  let behindClosed := if next.any conv.isClosed then below + 1 else below
  let done := config.effectiveDoneKeyword
  let changed := keywordLine conv line heading keyword
  let event := Event.keywordSet heading.line heading.keyword keyword
  if keyword == done && done.isSome then
    return .replace heading.line behindClosed
      [changed, closedLine heading conv.mark now] none event
  else if heading.keyword == done then
    return .replace heading.line behindClosed [changed] none event
  else
    return .replace heading.line below [changed] none event

/-- The keyword that follows another on the ring of no keyword and all keywords in order, in the
given direction. -/
def nextKeyword (keywords : List Text) (forward : Bool) (keyword : Option Text) : Option Text :=
  let ring := none :: keywords.map some
  let place : Int := ring.idxOf keyword
  let next := (place + if forward then 1 else -1) % ring.length
  (ring[next.toNat]?).join

def cycleTodo (d : Document) (config : Config) (direction : Int) (now : Moment) :
    Except Fault Decision :=
  d.decideAtHeading config fun conv heading =>
    if config.todoKeywords.isEmpty then return .refuse .noKeywords
    else
      d.applyKeyword config now (nextKeyword config.todoKeywords (0 ≤ direction) heading.keyword)
        conv heading

def setTodo (d : Document) (config : Config) (keyword : Option Text) (now : Moment) :
    Except Fault Decision :=
  d.decideAtHeading config fun conv heading =>
    match keyword.filter (fun k => !k.isEmpty) with
    | none => d.applyKeyword config now none conv heading
    | some k =>
      if config.todoKeywords.contains k then d.applyKeyword config now (some k) conv heading
      else return .refuse (.unknownKeyword k)

end Document

end SourceOutline
