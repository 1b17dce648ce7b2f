import SourceOutline.Fold.View

/-!
# Cycling through visibility

Neither cycle stores anything per heading. All that a cycle command knows of the past is the
`CycleMemory` that the command right before it left; after any other command it starts over.

A heading with children goes from folded to children to its whole subtree and back, one without
children skips the middle. The document goes from the overview to its contents to everything and
back.
-/

namespace SourceOutline

inductive CyclePhase where
  | ofHeading (phase : LocalPhase)
  | ofDocument (phase : GlobalPhase)
deriving DecidableEq, Repr

/-- What a cycle command leaves behind for the next command. -/
structure CycleMemory where
  /-- The name of the cycle command. -/
  command : Text
  phase : CyclePhase
  /-- The heading that was cycled; none for the whole document. -/
  line : Option Int := none
deriving DecidableEq, Repr

def localCycleName : Text := "cycle".toList

def globalCycleName : Text := "cycle-global".toList

structure Cycled where
  view : FoldView
  memory : Option CycleMemory
  notice : Notice
deriving DecidableEq, Repr

/-- The phase in which the command right before left the heading on a line. -/
def continuedPhase? (previous : Option CycleMemory) (line : Int) : Option LocalPhase :=
  match previous with
  | some { command, phase := .ofHeading phase, line := some other } =>
    if command = localCycleName ∧ other = line then some phase else none
  | _ => none

def continuedGlobalPhase? (previous : Option CycleMemory) : Option GlobalPhase :=
  match previous with
  | some { command, phase := .ofDocument phase, .. } =>
    if command = globalCycleName then some phase else none
  | _ => none

def LocalPhase.next (hasChildren : Bool) : LocalPhase → LocalPhase
  | folded => if hasChildren then children else subtree
  | children => subtree
  | subtree => folded

/-- The phase after another, where a cycle that starts begins with the overview. -/
def GlobalPhase.after : Option GlobalPhase → GlobalPhase
  | some overview => contents
  | some contents => all
  | _ => overview

namespace Convention

def showPhase (conv : Convention) (lines : List Text) (number : Int) (v : FoldView) :
    LocalPhase → Except Fault FoldView
  | .folded => conv.foldSubtree lines number v
  | .children => conv.showChildren lines number v
  | .subtree => conv.showSubtree lines number v

def showGlobalPhase (conv : Convention) (lines : List Text) : GlobalPhase → FoldView
  | .overview => conv.overview lines
  | .contents => conv.contents lines
  | .all => {}

/-- The phase that a heading goes to. A fresh cycle folds a heading in view; one whose body is
already hidden counts as folded. -/
def nextPhase (conv : Convention) (lines : List Text) (number : Int) (v : FoldView)
    (previous : Option CycleMemory) : Except Fault LocalPhase :=
  match continuedPhase? previous number with
  | some phase => phaseAfter phase
  | none => if v.isHidden (number + 1) then phaseAfter .folded else .ok .folded
where
  /-- The phase after one that the heading is in. -/
  phaseAfter (phase : LocalPhase) : Except Fault LocalPhase :=
    match phase with
    | .folded => (conv.hasChildren lines number).map fun children => phase.next children
    | _ => .ok (phase.next true)

def cycleAt (conv : Convention) (lines : List Text) (number : Int) (v : FoldView)
    (previous : Option CycleMemory) : Except Fault Cycled := do
  match ← conv.headingAt lines number with
  | none => return { view := v, memory := none, notice := .notOnHeading }
  | some _ =>
    if (← conv.isEmptyHeading lines number) then
      return { view := v.reveal number number, memory := none, notice := .nothingToFold }
    else
      let phase ← conv.nextPhase lines number v previous
      let view ← conv.showPhase lines number v phase
      let memory : CycleMemory :=
        { command := localCycleName, phase := .ofHeading phase, line := some number }
      return { view, memory := some memory, notice := .showing phase }

def cycleAll (conv : Convention) (lines : List Text) (previous : Option CycleMemory) : Cycled :=
  let phase := GlobalPhase.after (continuedGlobalPhase? previous)
  { view := conv.showGlobalPhase lines phase
    memory := some { command := globalCycleName, phase := .ofDocument phase }
    notice := .showingAll phase }

end Convention

namespace Document

def cycleHeading (d : Document) (config : Config) (v : FoldView)
    (previous : Option CycleMemory) : Except Fault Cycled := do
  let conv ← d.convention config
  conv.cycleAt d.lines d.point.line v previous

def cycleDocument (d : Document) (config : Config) (previous : Option CycleMemory) :
    Except Fault Cycled := do
  let conv ← d.convention config
  return conv.cycleAll d.lines previous

end Document

end SourceOutline
