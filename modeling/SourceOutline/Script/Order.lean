import SourceOutline.Draft.Command
import SourceOutline.Script.Given

/-!
# Orders: commands as scripts give them

A step that names a command gives its arguments as values. When they make sense, the order is a
`Command`. When one of them does not, the command still starts: it is noted, asks for the comment
character, looks for a heading, and breaks down where it would need the argument. What is left of the
command until then is what the order holds.
-/

namespace SourceOutline

inductive Order where
  | command (command : Command)
  /-- What an editing command comes to with an argument that it cannot use in the end, given the room
  for comment runs. -/
  | edit (name : Text) (decide : Config → Int → Document → Except Fault Decision)
  /-- What a moving command comes to. -/
  | move (name : Text) (decide : Config → Document → Except Fault Move)
  /-- A command that does not get to do anything. -/
  | broken (name : Text) (fault : Fault)

namespace Order

def name : Order → Text
  | command c => c.name
  | edit name _ => name
  | move name _ => name
  | broken name _ => name

/-- An editing command that breaks down once a heading is found. -/
def atHeading (c : Command) (decide : Convention → Heading → Except Fault Decision) : Order :=
  edit c.name fun config _ d => d.decideAtHeading config decide

/-- A command that is repeated as often as a step says, once if it says nothing. A count that is not
a whole number passes for one as long as it is only compared. -/
def repeated (step : Step) (command_ : Int → Command) (otherwise : Number → Order) : Order :=
  let name := (command_ 1).name
  match step.argument? "n" with
  | none => command (command_ 1)
  | some v =>
    match v, v.number? with
    | .int n, _ => command (command_ n)
    | _, none => broken name .unusableArgument
    | _, some number =>
      if number.isBelow 1 then broken name (.countRefused v.written)
      else
        match number with
        | .whole n => command (command_ n)
        | .real _ => otherwise number

/-- A promotion by a number that counts nothing: it is carried out only when the level of the heading
sets a lower limit. -/
def promotion (c : Command) (number : Number)
    (promote : Document → Config → Int → Int → Except Fault Decision) : Order :=
  edit c.name fun config room d => do
    match ← d.headingAtPoint config with
    | (_, none) => return .refuse .notOnHeading
    | (_, some heading) =>
      let limit := heading.level - 1
      if !number.isAbove limit then throw .unusableArgument
      else if limit ≤ 0 then return .refuse .cannotPromote
      else promote d config room limit

/-- A demotion by a number that counts nothing. -/
def demotion (c : Command) : Order := atHeading c fun _ _ => .error .unusableArgument

/-- A move by a number that counts nothing. -/
def misguided (c : Command) : Order :=
  move c.name fun config d => do
    let _ ← d.convention config
    throw .unusableArgument

def insertion (step : Step) : Order :=
  let respectContent := (step.argument? "respect_content").any Value.isSomething
  let level := (step.argument? "level").getD .null
  let c (level : Option Int) : Command := .insertHeading level respectContent
  match level, level.number? with
  | .null, _ => command (c none)
  | .int n, _ => command (c (some n))
  | .bool true, _ => command (c (some 1))
  | v, number =>
    edit (c none).name fun config _ d => do
      let _ ← d.convention config
      if number.any fun number => number.isBelow 1 then return .refuse (.levelRefused v.written)
      else throw .unusableArgument

/-- Cycling the keyword forwards, or backwards in a negative direction. -/
def cycling (step : Step) (now : Moment) : Order :=
  let direction := (step.argument? "direction").getD (.int 1)
  match direction.number? with
  | some (.whole n) => command (.cycleTodo n now)
  | some (.real x) => command (.cycleTodo (if 0.0 ≤ x then 1 else -1) now)
  | none =>
    edit (Command.cycleTodo 1 now).name fun config _ d =>
      d.decideAtHeading config fun _ _ =>
        if config.todoKeywords.isEmpty then .ok (.refuse .noKeywords)
        else .error .unusableArgument

/-- Setting the keyword. Every value that stands for nothing clears it. -/
def setting (v : Value) (now : Moment) : Order :=
  let c (keyword : Option Text) : Command := .setTodo keyword now
  match v with
  | .text keyword => command (c (some keyword))
  | v =>
    if v.isSomething then atHeading (c none) fun _ _ => .ok (.refuse (.unknownKeyword v.written))
    else command (c none)

/-- Going to a place: a line, and perhaps a column. -/
def going (step : Step) : Order :=
  match step.index "line", step.indexOr "column" 0 with
  | .ok line, .ok column => command (.moveTo line column)
  | .error fault, _ => broken (Command.moveTo 0 0).name fault
  | _, .error fault => broken (Command.moveTo 0 0).name fault

def goingToHeading (step : Step) : Order :=
  match step.index "line" with
  | .ok line => command (.gotoHeading line)
  | .error fault => broken (Command.gotoHeading 0).name fault

def timeOf (clock : Moment) (step : Step) : Except Fault Moment :=
  match step.argument? "now" with
  | none | some .null => .ok clock
  | some v => Moment.ofValue v

/-- The order that a step gives to the functions on headings; none when it names no such command. A
time that does not exist is a fault before the command starts. -/
def ofStep? (clock : Moment) (step : Step) : Option (Except Fault Order) :=
  let repeated (c : Int → Command) (otherwise : Number → Order) : Option (Except Fault Order) :=
    some (.ok (repeated step c otherwise))
  match String.ofList step.name with
  | "cycle" | "cycle_local" => some (.ok (command .cycle))
  | "cycle_global" => some (.ok (command .cycleGlobal))
  | "next_heading" => repeated .nextHeading fun _ => misguided (.nextHeading 1)
  | "previous_heading" => repeated .previousHeading fun _ => misguided (.previousHeading 1)
  | "insert_heading" => some (.ok (insertion step))
  | "insert_subheading" => some (.ok (command .insertSubheading))
  | "promote" => repeated .promote fun number => promotion (.promote 1) number Document.promote
  | "demote" => repeated .demote fun _ => demotion (.demote 1)
  | "promote_subtree" =>
    repeated .promoteSubtree fun number =>
      promotion (.promoteSubtree 1) number Document.promoteSubtree
  | "demote_subtree" => repeated .demoteSubtree fun _ => demotion (.demoteSubtree 1)
  | "cycle_todo" => some ((timeOf clock step).map fun now => cycling step now)
  | "set_todo" =>
    some ((timeOf clock step).map fun now =>
      setting ((step.argument? "keyword").getD .null) now)
  | _ => none

/-- The order that a step gives to a session, which can also be told where to go. Here the keyword
to set has to be given. -/
def ofSessionStep? (clock : Moment) (step : Step) : Option (Except Fault Order) :=
  match String.ofList step.name, step.argument? "keyword" with
  | "move_to", _ => some (.ok (going step))
  | "goto_heading", _ => some (.ok (goingToHeading step))
  | "set_todo", none =>
    some ((timeOf clock step).map fun now =>
      broken (Command.setTodo none now).name .unusableArgument)
  | _, _ => ofStep? clock step

end Order

namespace Session

def follow (s : Session) (config : Config) (order : Order) : Session × Except Fault Answer :=
  let noted := (s.note order.name).record [.command order.name s.document.name]
  match order with
  | .command command => s.run config command
  | .edit _ decide => noted.carryOut config (decide config s.room s.document)
  | .move _ decide => noted.carryOutMove (decide config s.document)
  | .broken _ fault => (noted, .error fault)

end Session

namespace Draft

def carryOut (d : Draft) (s : Session) (previous : Option CycleMemory) (order : Order) :
    Session × Except Fault Answer :=
  match order with
  | .command command => d.perform s previous command
  | .edit _ decide => s.carryOut d.config (decide d.config s.room s.document)
  | .move _ decide => s.carryOutMove (decide d.config s.document)
  | .broken _ fault => (s, .error fault)

end Draft

end SourceOutline
