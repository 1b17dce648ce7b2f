import SourceOutline.Config.Channel
import SourceOutline.Session

/-!
# Workspaces

A workspace is the sessions that share one configuration. A new configuration reaches every session
whose cache is attached, which then derives its answers anew.
-/

namespace SourceOutline

/-- Sessions that share a configuration. The subscribers of the channel are numbers of sessions. -/
structure Workspace where
  channel : Channel Nat
  sessions : List Session

namespace Workspace

def create (settings : Settings) (documents : List Document) (viewport : Option Viewport)
    (room : Int := countBound) : Except ConfigError Workspace :=
  (Channel.create Nat settings).map fun channel =>
    { channel := { channel with subscribers := List.range documents.length }
      sessions := documents.map fun d => Session.create d viewport room }

def config (w : Workspace) : Config := w.channel.config

def onSession {α : Type} (w : Workspace) (number : Nat)
    (work : Session → Config → Session × α) : Option (Workspace × α) :=
  w.sessions[number]?.map fun session =>
    let (session, answer) := work session w.config
    ({ w with sessions := w.sessions.set number session }, answer)

def close (w : Workspace) (number : Nat) : Option (Workspace × Except Fault Unit) :=
  (w.onSession number fun session _ => session.close).map fun (w, answer) =>
    match answer with
    | .ok () => ({ w with channel := w.channel.unsubscribe number }, .ok ())
    | .error fault => (w, .error fault)

def update (w : Workspace) (changes : List (Text × Value)) :
    Except ConfigError (Workspace × List Event) :=
  (w.channel.update changes).map fun update =>
    let told := update.told.getD []
    let sessions := w.sessions.mapIdx fun number session =>
      if told.contains number then session.invalidate else session
    ({ w with channel := update.channel, sessions }, Channel.updateEvents changes update)

end Workspace

end SourceOutline
