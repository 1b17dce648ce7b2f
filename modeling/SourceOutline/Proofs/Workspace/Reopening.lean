import SourceOutline.Proofs.Edit.Storable
import SourceOutline.Proofs.Workspace.Inside

/-!
# Editing, writing and reopening

Documents that are read from texts can be written and read back at any time while commands run on
their sessions: what is read back has the lines of the edited document and ends as it does, and it
has the same line break whenever the text shows one. Only a replacement of lines behind a session's
back could put a line break into a line.
-/

namespace SourceOutline

/-- Whether an act leaves editing to commands. -/
def SessionAct.Commanded : SessionAct → Prop
  | .edit _ => False
  | _ => True

namespace Session

variable {s : Session} {config : Config}

/-- Whether a session can write its document and read it back, and goes on being able to do so while
commands run. -/
structure Reopens (s : Session) (config : Config) : Prop where
  fresh : s.UpToDate config
  inside : s.Inside
  known : ∀ language ∈ s.document.language, language ∈ Language.known
  storable : s.document.Storable

theorem Reopens.storable_run (h : s.Reopens config) (valid : config.Valid) (command : Command) :
    (s.run config command).1.document.Storable := by
  rcases run_document s config command with
    ⟨point, hdocument⟩ | ⟨decide, start, stop, new, target, event, point, hdecide, hdecision,
      hdocument⟩
  · rw [hdocument]
    exact h.storable.setPoint point
  · have hstays := Document.storable_of_decide? h.inside.point h.storable h.known valid hdecide
      s.room
    rw [hdecision] at hstays
    rw [hdocument]
    exact Document.Storable.setPoint hstays point

/-- Every act that leaves editing to commands keeps a session one that can be reopened. -/
theorem Reopens.act (h : s.Reopens config) (valid : config.Valid) {act : SessionAct}
    (commanded : act.Commanded) : (s.act config act).1.Reopens config where
  fresh := h.fresh.act valid act
  inside := by
    have inRange : act.InRange s := by
      cases act with
      | edit r => exact commanded.elim
      | _ => trivial
    exact (stays_act h.inside h.fresh valid inRange).inside
  known := by
    rw [language_act]
    exact h.known
  storable := by
    cases act with
    | command command => exact h.storable_run valid command
    | edit r => exact commanded.elim
    | _ => exact h.storable

end Session

namespace Workspace

variable {settings : Settings} {documents : List Document} {viewport : Option Viewport} {room : Int}
  {w : Workspace}

theorem reopens_run (h : create settings documents viewport room = .ok w)
    (opened : ∀ d ∈ documents, ∃ text language name, d = Document.ofText text language name ∧
      ∀ known ∈ language, known ∈ Language.known)
    {acts : List Act} (obeys : w.Obeys (fun _ act => act.Commanded) acts) :
    (w.run acts).Sound fun config s => s.Reopens config := by
  refine (sound_create h ?_).run obeys ?_ ?_
  · intro d hd _
    obtain ⟨text, language, name, rfl, known⟩ := opened d hd
    exact ⟨Session.upToDate_create _ viewport room w.config,
      ⟨Document.pointInside_ofText text language name, FoldView.within_empty⟩, known,
      Document.storable_ofText text language name⟩
  · intro config s act valid commanded hs
    exact hs.act valid commanded
  · intro config config' s _ _ hs
    exact ⟨hs.fresh.invalidate config', hs.inside.congr rfl rfl, hs.known, hs.storable⟩

/-- **Editing, writing and reopening loses nothing.** After any commands on documents that were read
from texts, what each session writes is read back with the same lines, ends in a line break if and
only if the document does, and has the same line break whenever there is one in the text. -/
theorem run_reopens (h : create settings documents viewport room = .ok w)
    (opened : ∀ d ∈ documents, ∃ text language name, d = Document.ofText text language name ∧
      ∀ known ∈ language, known ∈ Language.known)
    {acts : List Act} (obeys : w.Obeys (fun _ act => act.Commanded) acts) :
    (w.run acts).sessions.length = documents.length ∧
    ∀ s ∈ (w.run acts).sessions, ∀ language name,
      (Document.ofText s.document.text language name).lines = s.document.lines ∧
      (Document.ofText s.document.text language name).endsWithBreak =
        s.document.endsWithBreak ∧
      ((∃ c ∈ s.document.text, isLineBreak c = true) →
        (Document.ofText s.document.text language name).lineBreak = s.document.lineBreak) := by
  refine ⟨length_sessions_run h acts, ?_⟩
  intro s hs language name
  exact ((reopens_run h opened obeys).sessions s hs).storable.reopen language name

/-- A heading is finished at the end of a text without a line break, and another one is put behind
it. -/
theorem run_reopens_finished : ∃ w, create .defaults
    [Document.ofText "/// TODO A".toList (Language.named? "c".toList) none] none = .ok w ∧
    let finish : Act := .onSession 0 (.command (.cycleTodo 1 ⟨2026, 3, 14, 9, 5, 0, 0⟩))
    let insert : Act := .onSession 0 (.command (.insertHeading none true))
    (w.run [finish, insert]).sessions.length = 1 ∧
    ∀ s ∈ (w.run [finish, insert]).sessions, ∀ language name,
      (Document.ofText s.document.text language name).lines = s.document.lines ∧
      (Document.ofText s.document.text language name).endsWithBreak =
        s.document.endsWithBreak ∧
      ((∃ c ∈ s.document.text, isLineBreak c = true) →
        (Document.ofText s.document.text language name).lineBreak = s.document.lineBreak) := by
  refine ⟨_, rfl, ?_⟩
  refine @run_reopens .defaults _ none _ _ rfl ?_ [_, _] ?_
  · intro d hd
    rw [List.mem_singleton] at hd
    exact ⟨_, _, _, hd, by decide⟩
  · exact ⟨fun _ _ => trivial, fun _ _ => trivial, trivial⟩

end Workspace

end SourceOutline
