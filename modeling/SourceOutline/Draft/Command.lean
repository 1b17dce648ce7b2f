import SourceOutline.Draft.Outline
import SourceOutline.Session

/-!
# Commands under a draft

A command works under a draft as it does under the draft's configuration, as long as it is not led to
a setting that is unusable. Which lines a command is led to depends on where point stands; the check
comes first, so a command that fails has changed no line. The two commands about keywords have rules
of their own, because a draft's keywords need not be a list of texts.
-/

namespace SourceOutline

def Command.count? : Command → Option Int
  | nextHeading count | previousHeading count => some count
  | promote count | demote count | promoteSubtree count | demoteSubtree count => some count
  | _ => none

namespace Draft

/-! ## Where commands lead -/

def linesToward (lines : List Text) (number : Int) : Direction → List Text
  | .down => if 0 ≤ number + 1 then lines.drop (number + 1).toNat else []
  | .up => if number ≤ lines.length then lines.take number.toNat else []

def readAtPoint (d : Draft) (mark : Text) (doc : Document) : Except Fault Unit :=
  d.reading mark (lineAt doc.lines doc.point.line) (.ok ())

def readSubtree (d : Draft) (mark : Text) (doc : Document) : Except Fault Unit := do
  d.readAtPoint mark doc
  match (d.convention mark).subtreeBody doc.lines doc.point.line with
  | .ok body => d.reading mark (body.map Prod.snd) (.ok ())
  | .error _ => return ()

def atFirstLevel (d : Draft) (mark : Text) (doc : Document) : Bool :=
  (Lines.lookup? doc.lines doc.point.line).bind (d.convention mark).level? == some 1

def follow (d : Draft) (mark : Text) (doc : Document) (previous : Option CycleMemory) :
    Command → Except Fault Unit
  | .moveTo .. | .gotoHeading .. => .ok ()
  | .cycleGlobal =>
    -- showing everything takes no look at the lines
    if GlobalPhase.after (continuedGlobalPhase? previous) = .all then .ok ()
    else d.measuring mark doc.lines (.ok ())
  | .nextHeading _ => d.measuring mark (linesToward doc.lines doc.point.line .down) (.ok ())
  | .previousHeading _ => d.measuring mark (linesToward doc.lines doc.point.line .up) (.ok ())
  | .insertHeading level _ => do
    d.readNearest mark (linesUpFrom doc.lines doc.point.line)
    if 1 ≤ level.getD 1 then
      refuseWith d.headingFault
      d.readAtPoint mark doc
  | .promoteSubtree _ =>
    if d.atFirstLevel mark doc then d.readAtPoint mark doc else d.readSubtree mark doc
  | .demoteSubtree _ => d.readSubtree mark doc
  | _ => d.readAtPoint mark doc

/-- Checks that a command is not led to an unusable setting. What the command refuses by itself is
left to it. -/
def check (d : Draft) (doc : Document) (previous : Option CycleMemory) (command : Command) :
    Except Fault Unit := do
  if command.count?.any (· < 1) then return ()
  refuseWith d.markFault
  match doc.mark d.config with
  | .error _ => return ()
  | .ok mark => d.follow mark doc previous command

/-! ## Keywords -/

/-- The keyword whose arrival records a time: the given one, else the last on the ring. One that is
no text stands for a text that is neither of the two given keywords. -/
def doneKeyword (d : Draft) (new old : Option Text) : Except Fault (Option Text) := do
  let given ← if d.done.isNull then d.keywords.last else pure (some d.done)
  match given with
  | none | some .null => return none
  | some (.text t) => return some t
  | some _ => return some ('-' :: new.getD [] ++ old.getD [])

def applyKeyword (d : Draft) (doc : Document) (now : Moment) (keyword : Option Text)
    (conv : Convention) (heading : Heading) : Except Fault Decision := do
  let doneKeyword ← d.doneKeyword keyword heading.keyword
  doc.applyKeyword { d.config with todoKeywords := [], doneKeyword } now keyword conv heading

def keywordOf : Value → Except Fault (Option Text)
  | .text t => .ok (some t)
  | v => if v.isSomething then .error .unusableSetting else .ok none

def cycleTodo (d : Draft) (doc : Document) (direction : Int) (now : Moment) :
    Except Fault Decision :=
  doc.decideAtHeading d.config fun conv heading => do
    let ring ← d.keywords.ring
    if ring.isEmpty then return .refuse .noKeywords
    let places := .null :: ring
    let some place := places.findIdx? fun v => v.text? == heading.keyword
      | throw (.keywordNotListed (heading.keyword.getD []))
    let next := ((place : Int) + if 0 ≤ direction then 1 else -1) % places.length
    let keyword ← keywordOf (places.getD next.toNat .null)
    d.applyKeyword doc now keyword conv heading

def setTodo (d : Draft) (doc : Document) (keyword : Option Text) (now : Moment) :
    Except Fault Decision :=
  doc.decideAtHeading d.config fun conv heading => do
    match keyword.filter fun k => !k.isEmpty with
    | none => d.applyKeyword doc now none conv heading
    | some k =>
      if ← d.keywords.accepts k then d.applyKeyword doc now (some k) conv heading
      else return .refuse (.unknownKeyword k)

/-! ## Commands -/

/-- The session after a command that fails. Cycling the document brings everything into view before it
looks at the lines. -/
def failed (d : Draft) (s : Session) (command : Command) : Session :=
  if command = .cycleGlobal ∧ d.markFault = none then { s with view := s.view.revealAll } else s

def perform (d : Draft) (s : Session) (previous : Option CycleMemory) (command : Command) :
    Session × Except Fault Answer :=
  match d.check s.document previous command with
  | .error fault => (d.failed s command, .error fault)
  | .ok () =>
    match command with
    | .cycleTodo direction now => s.carryOut d.config (d.cycleTodo s.document direction now)
    | .setTodo keyword now => s.carryOut d.config (d.setTodo s.document keyword now)
    | command => s.perform d.config previous command

end Draft

end SourceOutline
