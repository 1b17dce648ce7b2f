import SourceOutline.Script.Order
import SourceOutline.Script.View
import SourceOutline.Workspace

/-!
# Scripts for sessions

A script for a session gives it commands, asks for what it shows, and works on its document and view
behind its back. A script can also do without a session's habits and call the functions on headings
directly, under settings that nobody has checked; then it says itself which cycle memory a command
gets. A script for a workspace picks a session for each step, and changes the settings of all.
-/

namespace SourceOutline

namespace Session

def obeyBelow (s : Session) (config : Config) (step : Step) : Session × Except Fault Reply :=
  match Replacement.ofStep? step s.document.lineCount with
  | some (.ok r) =>
    let (s, change) := s.replaceLines config r.start r.stop r.new
    (s, change.map .change)
  | some (.error fault) => (s, .error fault)
  | none =>
    match s.view.obey? s.document.lineCount step with
    | some (view, reply) => ({ s with view }, reply)
    | none =>
      let (document, reply) := s.document.ask step
      ({ s with document }, reply)

def replyOf (memories : Bool) : Answer → Reply
  | .nothing => .nothing
  | .flag value => .flag value
  | .memory memory => if memories then .memory memory else .nothing

def noteAs (s : Session) (step : Step) : Session × Except Fault Reply :=
  match step.given "name" with
  | .ok (.text name) => (s.note name, .ok .nothing)
  | .ok .null => ({ s with lastCommand := none, memory := none }, .ok .nothing)
  | .ok _ => (s, .error .unusableArgument)
  | .error fault => (s, .error fault)

def notifyAs (s : Session) (config : Config) (step : Step) : Session × Except Fault Reply :=
  match step.indexFound "position", step.indexFound "new" with
  | .ok position, .ok new =>
    let (s, told) := s.notify config position new
    (s, told.map fun _ => .nothing)
  | .error fault, _ => (s, .error fault)
  | _, .error fault => (s, .error fault)

def query (s : Session) (config : Config) (step : Step) : Session × Except Fault Reply :=
  let told {α : Type} (reply : α → Reply) (r : Session × Except Fault α) :
      Session × Except Fault Reply := (r.1, r.2.map reply)
  match String.ofList step.name with
  | "note_command" => s.noteAs step
  | "outline" => (s, (s.outline config).map .headings)
  | "heading_candidates" => (s, (s.headingCandidates config).map .candidates)
  | "region_at_point" => told .region (s.regionAtPoint config)
  | "decorations" => told .decorations (s.decorations config)
  | "regions" => told .regions (s.regions config)
  | "backgrounds" => told .backgrounds (s.backgrounds config)
  | "render" => told .lines (s.render config)
  | "refresh" => told .calls (s.refresh config)
  | "invalidate" => (s.invalidate, .ok .nothing)
  | "notify" => s.notifyAs config step
  | _ => s.obeyBelow config step

def obey (s : Session) (config : Config) (clock : Moment) (step : Step) :
    Session × Except Fault Reply :=
  match Order.ofSessionStep? clock step with
  | some (.ok order) =>
    let (s, answer) := s.follow config order
    (s, answer.map (replyOf false))
  | some (.error fault) => (s, .error fault)
  | none => s.query config step

end Session

namespace Draft

/-- The cycle memory that a command gets: the one that its step gives, else the last one. -/
def memoryFor (s : Session) (step : Step) : Option CycleMemory :=
  match step.argument? "previous" with
  | some v => CycleMemory.ofValue? v
  | none => s.memory

/-- Carries out a step without a session's habits: commands are not noted, and only a cycle command
touches the memory. -/
def obey (d : Draft) (s : Session) (clock : Moment) (step : Step) :
    Session × Except Fault Reply :=
  match Order.ofStep? clock step with
  | some (.ok order) =>
    let cycles := order.name == localCycleName || order.name == globalCycleName
    let previous := memoryFor s step
    let (s, answer) := d.carryOut (if cycles then { s with memory := none } else s) previous order
    match answer with
    | .ok (.memory memory) => ({ s with memory }, .ok (.memory memory))
    | answer => (s, answer.map (Session.replyOf true))
  | some (.error fault) => (s, .error fault)
  | none => s.obeyBelow d.config step

end Draft

namespace Workspace

inductive ScriptFault where
  | ofCommand (fault : Fault)
  | ofSettings (error : ConfigError)
deriving DecidableEq, Repr

/-- Carries out a step on the session with a number; none when there is no such session. The events
are those of the workspace itself. -/
def obey (w : Workspace) (clock : Moment) (number : Nat) (step : Step) :
    Option (Workspace × Except ScriptFault Reply × List Event) :=
  match String.ofList step.name with
  | "update_config" =>
    let changes :=
      match step.argument? "changes" with
      | some (.table entries) => entries
      | _ => []
    match w.update changes with
    | .ok (w, events) => some (w, .ok .nothing, events)
    | .error e => some (w, .error (.ofSettings e), [])
  | "close" =>
    (w.close number).map fun (w, closed) =>
      (w, (closed.map fun _ => .nothing).mapError .ofCommand, [])
  | _ =>
    (w.onSession number fun s config => s.obey config clock step).map fun (w, reply) =>
      (w, reply.mapError .ofCommand, [])

end Workspace

end SourceOutline
