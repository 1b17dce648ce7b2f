import SourceOutline.Script.Session
import SourceOutline.Proofs.Config.Update

/-!
# Runs of a workspace

A run is a finite sequence of acts in any order: each of them lets one session work, or changes the
settings that all sessions share. A session runs a command, is edited behind its back, is asked what
it shows, or drops what it has derived.

What holds of every session throughout a run is proved once, in `Sound.run`: every act of a session
has to keep it, and so has a change of the settings, after which every session has dropped what it
had derived. A rule restricts which acts a run may contain, depending on the session at the time.
-/

namespace SourceOutline

inductive SessionAct where
  | command (command : Command)
  /-- A command runs outside the session. -/
  | note (name : Text)
  /-- The document is edited. Setting a line, inserting and deleting lines are such edits, too. -/
  | edit (replacement : Replacement)
  | askDecorations
  | askRegions
  | askBackgrounds
  /-- Everything derived is dropped. -/
  | invalidate
deriving DecidableEq, Repr

def Session.act (s : Session) (config : Config) : SessionAct → Session × Except Fault Answer
  | .command command => s.run config command
  | .note name => (s.note name, .ok .nothing)
  | .edit r =>
    let (s, change) := s.replaceLines config r.start r.stop r.new
    (s, change.map fun _ => .nothing)
  | .askDecorations =>
    let (s, decorations) := s.decorations config
    (s, decorations.map fun _ => .nothing)
  | .askRegions =>
    let (s, regions) := s.regions config
    (s, regions.map fun _ => .nothing)
  | .askBackgrounds =>
    let (s, backgrounds) := s.backgrounds config
    (s, backgrounds.map fun _ => .nothing)
  | .invalidate => (s.invalidate, .ok .nothing)

namespace Workspace

/-- What can happen in a workspace. -/
inductive Act where
  /-- Something happens to the session with a number. -/
  | onSession (number : Nat) (act : SessionAct)
  /-- The settings change by name. -/
  | update (changes : List (Text × Value))

/-- What happens in a workspace, and the answer; a number without a session changes nothing. -/
def act (w : Workspace) : Act → Workspace × Except ScriptFault Answer
  | .onSession number act =>
    match w.onSession number fun s config => s.act config act with
    | some (w, answer) => (w, answer.mapError .ofCommand)
    | none => (w, .ok .nothing)
  | .update changes =>
    match w.update changes with
    | .ok (w, _) => (w, .ok .nothing)
    | .error e => (w, .error (.ofSettings e))

def run (w : Workspace) (acts : List Act) : Workspace := acts.foldl (fun w act => (w.act act).1) w

/-- Whether an act obeys a rule: the rule is for sessions, and every change of settings is free. -/
def Act.Obeys (rule : Session → SessionAct → Prop) (w : Workspace) : Act → Prop
  | .onSession number act => ∀ s ∈ w.sessions[number]?, rule s act
  | .update _ => True

/-- Whether each act of a run obeys a rule when its turn comes. -/
def Obeys (rule : Session → SessionAct → Prop) (w : Workspace) : List Act → Prop
  | [] => True
  | act :: rest => act.Obeys rule w ∧ (w.act act).1.Obeys rule rest

variable {w w' : Workspace} {rule : Session → SessionAct → Prop} {acts : List Act}

theorem obeys_true (w : Workspace) (acts : List Act) : w.Obeys (fun _ _ => True) acts := by
  induction acts generalizing w with
  | nil => trivial
  | cons act rest ih =>
      refine ⟨?_, ih _⟩
      cases act with
      | onSession number act => exact fun _ _ => trivial
      | update changes => trivial

/-! ## Single acts -/

theorem act_onSession {number : Nat} {s : Session} (h : w.sessions[number]? = some s)
    (act : SessionAct) :
    w.act (.onSession number act) =
      ({ w with sessions := w.sessions.set number (s.act w.config act).1 },
        (s.act w.config act).2.mapError .ofCommand) := by
  simp [Workspace.act, onSession, h]

theorem act_onSession_none {number : Nat} (h : w.sessions[number]? = none) (act : SessionAct) :
    w.act (.onSession number act) = (w, .ok .nothing) := by
  simp [Workspace.act, onSession, h]

theorem act_update {changes : List (Text × Value)} {events : List Event}
    (h : w.update changes = .ok (w', events)) : w.act (.update changes) = (w', .ok .nothing) := by
  simp [Workspace.act, h]

theorem act_update_error {changes : List (Text × Value)} {e : ConfigError}
    (h : w.update changes = .error e) :
    w.act (.update changes) = (w, .error (.ofSettings e)) := by
  simp [Workspace.act, h]

/-- Whether every session hears of new settings. -/
def Wired (w : Workspace) : Prop := w.channel.subscribers = List.range w.sessions.length

/-- What a change of the settings does: nothing, or every session has dropped what it had derived
from the old ones. -/
theorem update_cases {changes : List (Text × Value)} {events : List Event} (wired : w.Wired)
    (hsettings : w.channel.settings.Publishable w.config)
    (h : w.update changes = .ok (w', events)) :
    w' = w ∨ ∃ (settings : Settings) (config : Config), settings.Publishable config ∧
      (w.config.commentChar.isSome → config.commentChar.isSome) ∧
      w' = { channel := { w.channel with settings, config }
             sessions := w.sessions.map Session.invalidate } := by
  obtain ⟨u, hu, hw⟩ := map_eq_ok.mp h
  rw [Prod.mk.injEq] at hw
  obtain ⟨rfl, -⟩ := hw
  rcases Channel.update_cases hu with rfl | ⟨merged, config, -, hpublishable, rfl⟩
  · left
    have hsame : w.sessions.mapIdx (fun _ session => session) = w.sessions := by
      apply List.ext_getElem?
      simp
    simp [hsame]
  · refine Or.inr ⟨merged.normalize, config, hpublishable,
      Channel.update_commentChar hsettings hu, ?_⟩
    dsimp only
    congr 1
    apply List.ext_getElem?
    intro number
    rw [List.getElem?_mapIdx, List.getElem?_map]
    cases hget : w.sessions[number]? with
    | none => rfl
    | some s =>
        obtain ⟨hlt, -⟩ := List.getElem?_eq_some_iff.mp hget
        have htold : ((some w.channel.subscribers).getD []).contains number = true := by
          rw [Option.getD_some, wired]
          simpa using hlt
        simp only [Option.map_some, htold, if_true]

theorem length_sessions_act (w : Workspace) (act : Act) :
    (w.act act).1.sessions.length = w.sessions.length := by
  cases act with
  | onSession number act =>
      cases hget : w.sessions[number]? with
      | none => rw [act_onSession_none hget]
      | some s =>
          rw [act_onSession hget]
          exact List.length_set
  | update changes =>
      cases hupdate : w.update changes with
      | error e => rw [act_update_error hupdate]
      | ok result =>
          rw [act_update hupdate]
          obtain ⟨u, -, hw⟩ := map_eq_ok.mp hupdate
          rw [← hw]
          exact List.length_mapIdx

theorem length_sessions_run {settings : Settings} {documents : List Document}
    {viewport : Option Viewport} {room : Int} (h : create settings documents viewport room = .ok w)
    (acts : List Act) : (w.run acts).sessions.length = documents.length := by
  have hstart : w.sessions.length = documents.length := by
    obtain ⟨channel, -, rfl⟩ := map_eq_ok.mp h
    exact List.length_map _
  rw [← hstart]
  clear h hstart
  induction acts generalizing w with
  | nil => rfl
  | cons act rest ih => exact (ih (w := (w.act act).1)).trans (length_sessions_act w act)

/-! ## What holds throughout a run -/

/-- Something holds of every session under settings that were fit to be published, and of which all
of them hear. -/
structure Sound (P : Config → Session → Prop) (w : Workspace) : Prop where
  published : w.channel.settings.Publishable w.config
  wired : w.Wired
  sessions : ∀ s ∈ w.sessions, P w.config s

variable {P : Config → Session → Prop}

theorem Sound.valid (h : w.Sound P) : w.config.Valid := h.published.valid

/-- A workspace starts out sound when its fresh sessions are. -/
theorem sound_create {settings : Settings} {documents : List Document}
    {viewport : Option Viewport} {room : Int} (h : create settings documents viewport room = .ok w)
    (fresh : ∀ d ∈ documents, w.config.Valid → P w.config (Session.create d viewport room)) :
    w.Sound P := by
  obtain ⟨channel, hchannel, rfl⟩ := map_eq_ok.mp h
  have published := Channel.publishable_create hchannel
  refine ⟨published, ?_, ?_⟩
  · unfold Wired
    rw [List.length_map]
  · intro s hs
    obtain ⟨d, hd, rfl⟩ := List.mem_map.mp hs
    exact fresh d hd published.valid

/-- One act keeps a workspace sound. -/
theorem Sound.act (h : w.Sound P) {act : Act} (obeys : act.Obeys rule w)
    (keeps : ∀ config s act, config.Valid → rule s act → P config s →
      P config (s.act config act).1)
    (renewed : ∀ config config' s, config'.Valid →
      (config.commentChar.isSome → config'.commentChar.isSome) → P config s →
      P config' s.invalidate) :
    (w.act act).1.Sound P := by
  cases act with
  | onSession number act =>
      cases hget : w.sessions[number]? with
      | none =>
          rw [act_onSession_none hget]
          exact h
      | some s =>
          rw [act_onSession hget]
          have hs := List.mem_of_getElem? hget
          refine ⟨h.published, ?_, ?_⟩
          · show w.channel.subscribers = List.range (w.sessions.set number _).length
            rw [List.length_set]
            exact h.wired
          · intro other hother
            rcases List.mem_or_eq_of_mem_set hother with hold | rfl
            · exact h.sessions other hold
            · exact keeps w.config s act h.valid (obeys s hget) (h.sessions s hs)
  | update changes =>
      cases hupdate : w.update changes with
      | error e =>
          rw [act_update_error hupdate]
          exact h
      | ok result =>
          obtain ⟨w', events⟩ := result
          rw [act_update hupdate]
          rcases update_cases h.wired h.published hupdate with
            rfl | ⟨settings, config, published, hmark, rfl⟩
          · exact h
          · refine ⟨published, ?_, ?_⟩
            · show w.channel.subscribers = List.range (w.sessions.map _).length
              rw [List.length_map]
              exact h.wired
            · intro other hother
              obtain ⟨s, hs, rfl⟩ := List.mem_map.mp hother
              exact renewed w.config config s published.valid hmark (h.sessions s hs)

/-- **What every act keeps holds throughout a run.** -/
theorem Sound.run (h : w.Sound P) (obeys : w.Obeys rule acts)
    (keeps : ∀ config s act, config.Valid → rule s act → P config s →
      P config (s.act config act).1)
    (renewed : ∀ config config' s, config'.Valid →
      (config.commentChar.isSome → config'.commentChar.isSome) → P config s →
      P config' s.invalidate) :
    (w.run acts).Sound P := by
  induction acts generalizing w with
  | nil => exact h
  | cons act rest ih => exact ih (h.act obeys.1 keeps renewed) obeys.2

end Workspace

end SourceOutline
