import SourceOutline.Proofs.Session.Inside

/-!
# A workspace stays inside its documents

In a workspace whose points start out inside the documents, everything stays inside through every
run whose edits are of lines that are there. What fails on the way is a command without a comment
mark, one that is repeated less than once, one that has to write too long a comment run, or a change
of the settings that is refused.
-/

namespace SourceOutline

/-- Whether an edit is one of lines that are there. -/
def SessionAct.InRange (s : Session) : SessionAct → Prop
  | .edit r => s.document.Fits r.start r.stop
  | _ => True

def SessionAct.asked : SessionAct → Int
  | .command given => given.asked
  | _ => 0

namespace Session

variable {s : Session} {config : Config}

/-! ## Queries -/

theorem convention_of_getDecorations {c : Cache} {d : Document} (valid : config.Valid)
    {fault : Fault} (h : (c.getDecorations d config).2 = .error fault) :
    d.convention config = .error fault := by
  unfold Cache.getDecorations at h
  split at h
  · cases h
  · cases hconv : d.convention config with
    | ok conv =>
        rw [Cache.deriveAll_eq valid hconv] at h
        cases h
    | error other =>
        unfold Cache.deriveAll at h
        dsimp only at h
        rw [hconv, error_bind] at h
        cases h
        rfl

theorem convention_of_getRegions {c : Cache} {d : Document} {fault : Fault}
    (h : (c.getRegions d config).2 = .error fault) : d.convention config = .error fault := by
  unfold Cache.getRegions at h
  split at h
  · cases h
  · split at h
    · cases h
    · rename_i hconv
      cases h
      exact hconv

theorem convention_of_getBackgrounds {c : Cache} {d : Document} {fault : Fault}
    (h : (c.getBackgrounds d config).2 = .error fault) : d.convention config = .error fault := by
  unfold Cache.getBackgrounds at h
  split at h
  · split at h
    · cases h
    · rename_i hregions
      cases h
      exact convention_of_getRegions (congrArg Prod.snd hregions)
  · cases h

theorem stays_of_query {asked : Int} (h : s.Inside) (valid : config.Valid)
    {after : Session × Except Fault Answer} (hdocument : after.1.document = s.document)
    (hview : after.1.view = s.view)
    (hfault : ∀ fault, after.2 = .error fault → s.document.convention config = .error fault) :
    s.Stays config asked after where
  inside := h.congr hdocument hview
  allowed := fun fault hafter => Document.allows_of_unmarked valid (hfault fault hafter)

/-! ## Acts -/

/-- **Every act that edits lines that are there keeps a session inside, and fails only as it may.**
-/
theorem stays_act (h : s.Inside) (fresh : s.UpToDate config) (valid : config.Valid)
    {act : SessionAct} (inRange : act.InRange s) : s.Stays config act.asked (s.act config act) := by
  cases act with
  | command command => exact stays_run h fresh valid command
  | note name => exact stays_of_ok (h.congr rfl rfl) rfl
  | edit r =>
      obtain ⟨cache, journal, hedit, -⟩ := fresh.replaceLines valid r.start r.stop r.new
      unfold Session.act
      dsimp only
      rw [hedit]
      exact stays_of_ok ((h.edited inRange r.new).congr rfl rfl) rfl
  | askDecorations =>
      exact stays_of_query h valid rfl rfl fun fault hfault =>
        convention_of_getDecorations valid (map_eq_error.mp hfault)
  | askRegions =>
      exact stays_of_query h valid rfl rfl fun fault hfault =>
        convention_of_getRegions (map_eq_error.mp hfault)
  | askBackgrounds =>
      exact stays_of_query h valid rfl rfl fun fault hfault =>
        convention_of_getBackgrounds (map_eq_error.mp hfault)
  | invalidate => exact stays_of_ok (h.congr rfl rfl) rfl

end Session

namespace Workspace

variable {settings : Settings} {documents : List Document} {viewport : Option Viewport} {room : Int}
  {w : Workspace}

/-- Whether an act may fail with a fault: a session's act as its document allows, and a change of
the settings for any reason but a wrong address, which a change that is not addressed to the holder
of the settings cannot have. -/
def Allows (w : Workspace) : Act → ScriptFault → Prop
  | .onSession number act, .ofCommand fault =>
    ∃ s, w.sessions[number]? = some s ∧ s.document.Allows w.config s.room act.asked fault
  | .update changes, .ofSettings error =>
    error = .misaddressed → ∃ change ∈ changes, change.1 = Channel.ownName
  | _, _ => False

end Workspace

end SourceOutline
