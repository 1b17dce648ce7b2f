/-!
# Tables of characters

A property of Unicode characters is a table of code point ranges with both ends, in increasing order.
Whether a code point has the property is found by halving the span in which its range can lie.
-/

namespace SourceOutline

/-- Whether a code point lies in one of the ranges of a sorted table from index `low` up to
`high - 1`. -/
def inSortedRanges (table : Array (Nat × Nat)) (n low high : Nat) : Bool :=
  if low < high then
    match table[(low + high) / 2]? with
    | none => false
    | some (first, last) =>
      if n < first then inSortedRanges table n low ((low + high) / 2)
      else if last < n then inSortedRanges table n ((low + high) / 2 + 1) high
      else true
  else false
termination_by high - low
decreasing_by all_goals omega

end SourceOutline
