import SourceOutline.Draft.Outline
import SourceOutline.Script.Document

/-!
# Scripts for views

The steps that hide lines and bring them into view. A view looks its arguments up in the step, so one
that is left out is not found.
-/

namespace SourceOutline

def Step.indexFound (step : Step) (key : String) : Except Fault Int :=
  step.lookedUp key >>= Value.asIndex

def Step.range (step : Step) : Except Fault (Int × Int) := do
  let start ← step.lookedUp "start"
  let stop ← step.lookedUp "end"
  return (← start.asIndex, ← stop.asIndex)

namespace FoldView

/-- Gives the view after an operation, or the old one with the fault. -/
def after (v : FoldView) : Except Fault FoldView → FoldView × Except Fault Reply
  | .ok v => (v, .ok .nothing)
  | .error fault => (v, .error fault)

/-- Carries out a step that needs no outline; none for other steps. The number of lines that are
looked at has to be given unless it is known. -/
def obey? (v : FoldView) (lineCount : Option Nat) (step : Step) :
    Option (FoldView × Except Fault Reply) :=
  match String.ofList step.name with
  | "hide" => some (v.after (step.range.map fun range => v.hide range.1 range.2))
  | "show" => some (v.after (step.range.map fun range => v.reveal range.1 range.2))
  | "visible_lines" =>
    let count :=
      match step.argument? "count", lineCount with
      | some count, _ => count.asIndex
      | none, some count => .ok count
      | none, none => .error .notFound
    some (v, count.map fun count => .numbers (v.visibleLines count))
  | _ => none

end FoldView

namespace Draft

def fold (d : Draft) (mark : Text) (lines : List Text) (v : FoldView) (step : Step)
    (way : Int → Except Fault FoldView) : FoldView × Except Fault Reply :=
  v.after do
    let line ← step.indexFound "line"
    d.measuring mark (lineAt lines line) (way line)

/-- The view after everything has come into view and the lines have been measured. -/
def afresh (d : Draft) (mark : Text) (lines : List Text) (v : FoldView) (view : FoldView) :
    FoldView × Except Fault Reply :=
  v.revealAll.after (d.measuring mark lines (.ok view))

def changeTold (step : Step) : Except Fault Change := do
  match (← step.lookedUp "change").items.mapM Value.index? with
  | some [line, oldCount, newCount] =>
    return { position := 0, oldLength := 0, newLength := 0, line, oldCount, newCount }
  | _ => throw .unusableArgument

def obeyView (d : Draft) (mark : Text) (lines : List Text) (v : FoldView) (step : Step) :
    FoldView × Except Fault Reply :=
  let conv := d.convention mark
  match v.obey? none step with
  | some answered => answered
  | none =>
    match String.ofList step.name with
    | "show_all" => (v.revealAll, .ok .nothing)
    | "overview" => d.afresh mark lines v (conv.overview lines)
    | "contents" => d.afresh mark lines v (conv.contents lines)
    | "fold_subtree" => d.fold mark lines v step fun line => conv.foldSubtree lines line v
    | "show_children" => d.fold mark lines v step fun line => conv.showChildren lines line v
    | "show_subtree" => d.fold mark lines v step fun line => conv.showSubtree lines line v
    | "change" => v.after ((changeTold step).map v.follow)
    | _ => (v, .error .notFound)

end Draft

end SourceOutline
