import SourceOutline.Document
import SourceOutline.Outline

/-!
# Hidden lines

A view hides some lines of a document, and its hidden lines are all that it knows. It follows edits:
lines below an edit move with the text, and lines whose number changed in the edit come into view.

Main statements: which lines are hidden after each operation (`mem_hide`, `mem_reveal`).
-/

namespace SourceOutline

/-- The numbers from `start` up to and including `stop`. -/
def lineSpan (start stop : Int) : List Int :=
  (List.range (stop + 1 - start).toNat).map fun (n : Nat) => start + n

/-- The hidden lines of a document. -/
structure FoldView where
  hidden : List Int := []
deriving DecidableEq, Repr

namespace FoldView

def isHidden (v : FoldView) (line : Int) : Bool := v.hidden.contains line

/-- Hides lines, both ends included. -/
def hide (v : FoldView) (start stop : Int) : FoldView :=
  { hidden := v.hidden ++ (lineSpan start stop).filter fun line => !v.hidden.contains line }

def reveal (v : FoldView) (start stop : Int) : FoldView :=
  { hidden := v.hidden.filter fun line => !(start ≤ line && line ≤ stop) }

def revealAll (_ : FoldView) : FoldView := {}

def visibleLines (v : FoldView) (count : Int) : List Int :=
  (lineSpan 0 (count - 1)).filter fun line => !v.hidden.contains line

def sortedHidden (v : FoldView) : List Int := (v.hidden.mergeSort (· ≤ ·)).eraseDups

/-- The new number of a hidden line after a change, if it stays hidden. -/
def followLine (change : Change) (line : Int) : Option Int :=
  if line < change.line then some line
  else if change.line + change.oldCount ≤ line then some (line + change.lineDelta)
  else none

/-- Follows an edit. One that keeps the number of lines keeps every line's visibility. -/
def follow (v : FoldView) (change : Change) : FoldView :=
  if change.lineDelta = 0 then v else { hidden := v.hidden.filterMap (followLine change) }

theorem isHidden_iff {v : FoldView} {line : Int} : v.isHidden line = true ↔ line ∈ v.hidden :=
  List.contains_iff_mem

theorem mem_lineSpan {start stop line : Int} :
    line ∈ lineSpan start stop ↔ start ≤ line ∧ line ≤ stop := by
  simp only [lineSpan, List.mem_map, List.mem_range]
  constructor
  · rintro ⟨n, hn, rfl⟩
    omega
  · rintro ⟨h₁, h₂⟩
    exact ⟨(line - start).toNat, by omega, by omega⟩

theorem mem_hide {v : FoldView} {start stop line : Int} :
    line ∈ (v.hide start stop).hidden ↔ line ∈ v.hidden ∨ (start ≤ line ∧ line ≤ stop) := by
  simp only [hide, List.mem_append, List.mem_filter, mem_lineSpan]
  by_cases h : line ∈ v.hidden <;> simp [h]

theorem mem_reveal {v : FoldView} {start stop line : Int} :
    line ∈ (v.reveal start stop).hidden ↔ line ∈ v.hidden ∧ ¬(start ≤ line ∧ line ≤ stop) := by
  simp only [reveal, List.mem_filter, Bool.not_eq_true', Bool.and_eq_false_iff,
    decide_eq_false_iff_not]
  exact and_congr_right fun _ => by omega

end FoldView

/-! ## Folding headings -/

namespace Convention

def foldSubtree (conv : Convention) (lines : List Text) (number : Int) (v : FoldView) :
    Except Fault FoldView := do
  let stop ← conv.subtreeEnd lines number
  let v := v.reveal number number
  return if number < stop - 1 then v.hide (number + 1) (stop - 1) else v

/-- Shows a heading, its own body and its direct child headings, and nothing else of its
subtree. A direct child is exactly one level deeper. -/
def showChildren (conv : Convention) (lines : List Text) (number : Int) (v : FoldView) :
    Except Fault FoldView := do
  let v ← conv.foldSubtree lines number v
  let stop ← conv.subtreeEnd lines number
  let level ← conv.levelAt lines number
  let below ← conv.subtreeBody lines number
  let bodyEnd :=
    match below.find? fun entry => conv.isHeading entry.2 with
    | some entry => entry.1
    | none => stop
  let v := if number < bodyEnd - 1 then v.reveal (number + 1) (bodyEnd - 1) else v
  let children := below.filter fun entry =>
    (conv.level? entry.2).isSome && conv.level? entry.2 == level.map (· + 1)
  return children.foldl (fun v entry => v.reveal entry.1 entry.1) v

def showSubtree (conv : Convention) (lines : List Text) (number : Int) (v : FoldView) :
    Except Fault FoldView := do
  let stop ← conv.subtreeEnd lines number
  return v.reveal number (stop - 1)

/-- Leaves only the outermost headings in view: from the top, every heading that is still in view
is folded. -/
def overview (conv : Convention) (lines : List Text) : FoldView :=
  (conv.positions lines).foldl foldVisible {}
where
  /-- Folds one heading unless an outer one has hidden it. -/
  foldVisible (v : FoldView) (number : Int) : FoldView :=
    if v.isHidden number then v
    else
      match conv.foldSubtree lines number v with
      | .ok folded => folded
      | .error _ => v

/-- Shows every heading and hides every body. -/
def contents (conv : Convention) (lines : List Text) : FoldView :=
  let positions := conv.positions lines
  (positions.zip (positions.drop 1 ++ [(lines.length : Int)])).foldl
    (fun v span => if span.1 < span.2 - 1 then v.hide (span.1 + 1) (span.2 - 1) else v) {}

end Convention

end SourceOutline
