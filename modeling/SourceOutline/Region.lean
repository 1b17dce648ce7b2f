import SourceOutline.Outline

/-!
# Block regions

The body of a heading ends at the next heading of any level. Its *region* leaves out a closed line
directly below the heading and the blank lines at the end, of which the configured padding is kept.
A heading without any line left has no region.
-/

namespace SourceOutline

/-- The body lines of a heading, both ends included. -/
structure Region where
  /-- The number of the heading. -/
  heading : Int
  start : Int
  stop : Int
deriving DecidableEq, Repr

def Region.covers (r : Region) (line : Int) : Bool := r.start ≤ line && line ≤ r.stop

namespace Convention

def regionOf? (conv : Convention) (heading : Int) (body : List Text) : Option Region :=
  let start := if (body.take 1).any conv.isClosed then heading + 2 else heading + 1
  let content := (body.reverse.dropWhile Text.isBlankText).length
  let stop := min (heading + content + conv.config.blockPadding) (heading + body.length)
  if start ≤ stop then some { heading, start, stop } else none

def regionsFrom (conv : Convention) (number : Int) : List Text → List Region
  | [] => []
  | line :: rest =>
    if conv.isHeading line then
      (conv.regionOf? number (rest.takeWhile fun other => !conv.isHeading other)).toList ++
        regionsFrom conv (number + 1) rest
    else regionsFrom conv (number + 1) rest

def regions (conv : Convention) (lines : List Text) : List Region := conv.regionsFrom 0 lines

end Convention

def regionCovering? (regions : List Region) (line : Int) : Option Region :=
  regions.find? fun region => region.covers line

end SourceOutline
