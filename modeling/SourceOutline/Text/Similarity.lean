import SourceOutline.Text.Basic

/-!
# Similar texts

Two texts are compared by the blocks that they have in common: the longest one, then the longest one
on each side of it, and so on until nothing is left in common. They are similar when the blocks make
up at least three fifths of both together.
-/

namespace SourceOutline

namespace Text

def commonStart : Text → Text → Nat
  | c :: t, d :: u => if c == d then commonStart t u + 1 else 0
  | _, _ => 0

/-- A block of characters that two texts have in common, by where it starts in each of them. -/
structure CommonBlock where
  first : Nat := 0
  second : Nat := 0
  length : Nat := 0
deriving DecidableEq, Repr

/-- The longest block that two texts have in common. Of several it is the one that starts first in
the first text, and then the one that starts first in the second. -/
def longestBlock (t u : Text) : CommonBlock :=
  let blocks := (List.range t.length).flatMap fun first =>
    (List.range u.length).map fun second =>
      { first, second, length := commonStart (t.drop first) (u.drop second) : CommonBlock }
  blocks.foldl (fun best block => if best.length < block.length then block else best) {}

/-- The number of characters in common blocks, of which at most `blocks` are looked for one inside
the other. -/
def matchedWithin : (blocks : Nat) → Text → Text → Nat
  | 0, _, _ => 0
  | n + 1, t, u =>
    let block := longestBlock t u
    if block.length = 0 then 0
    else
      matchedWithin n (t.take block.first) (u.take block.second) + block.length +
        matchedWithin n (t.drop (block.first + block.length)) (u.drop (block.second + block.length))

def matched (t u : Text) : Nat := matchedWithin t.length t u

/-- Whether the common blocks make up at least three fifths of two texts. -/
def isSimilar (t u : Text) : Bool := 3 * (t.length + u.length) ≤ 10 * matched t u

/-- Whether `a` comes before `b` among the texts similar to `t`: more common characters in
proportion come first, and of equals the later one in the order of their characters. -/
def isCloser (t a b : Text) : Bool :=
  let left := matched a t * (b.length + t.length)
  let right := matched b t * (a.length + t.length)
  right < left || (left == right && !decide (a < b))

/-- The most candidates that are suggested. -/
def maxSuggestions : Nat := 3

def suggestions (t : Text) (candidates : List Text) : List Text :=
  ((candidates.filter fun candidate => isSimilar candidate t).mergeSort (isCloser t)).take
    maxSuggestions

end Text

end SourceOutline
