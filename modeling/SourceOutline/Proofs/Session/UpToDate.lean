import SourceOutline.Proofs.Decoration.Current
import SourceOutline.Proofs.Session.Frame
import SourceOutline.Proofs.Workspace.Run

/-!
# Sessions are up to date

A session is *up to date* when its cache is attached and current. A document without a comment mark
has no decorations, and then the cache holds none. Every act keeps a session up to date, whatever is
edited: queries fill the cache from the document, edits are followed, and everything else leaves
text and cache alone. An edit of a session that is up to date never fails
(`UpToDate.replaceLines`).
-/

namespace SourceOutline

namespace Session

/-- Whether the cache of a session holds nothing but what its document shows under a
configuration. -/
structure UpToDate (config : Config) (s : Session) : Prop where
  attached : s.attached = true
  current : ∀ conv, s.document.convention config = .ok conv →
    s.cache.Current conv s.document.lines
  unread : ∀ fault, s.document.convention config = .error fault → s.cache.decorations = none

variable {s s' : Session} {config config' : Config}

theorem upToDate_create (d : Document) (viewport : Option Viewport) (room : Int)
    (config : Config) : (create d viewport room).UpToDate config where
  attached := rfl
  current := fun conv _ => Cache.current_empty d conv d.lines
  unread := fun _ _ => rfl

theorem UpToDate.invalidate (h : s.UpToDate config) (config' : Config) :
    s.invalidate.UpToDate config' where
  attached := h.attached
  current := fun conv _ => Cache.current_invalidate s.cache conv s.document.lines
  unread := fun _ _ => rfl

theorem UpToDate.congr (h : s.UpToDate config) (hattached : s'.attached = s.attached)
    (hcache : s'.cache = s.cache) (hlines : s'.document.lines = s.document.lines)
    (hlanguage : s'.document.language = s.document.language) : s'.UpToDate config where
  attached := hattached.trans h.attached
  current := by
    intro conv hconv
    rw [Document.convention_congr hlanguage] at hconv
    rw [hcache, hlines]
    exact h.current conv hconv
  unread := by
    intro fault hconv
    rw [Document.convention_congr hlanguage] at hconv
    rw [hcache]
    exact h.unread fault hconv

theorem UpToDate.beside (h : s.UpToDate config) (hbeside : s.Beside s') : s'.UpToDate config :=
  h.congr hbeside.attached hbeside.cache hbeside.lines_eq hbeside.language_eq

/-! ## Queries -/

theorem UpToDate.decorations (h : s.UpToDate config) (valid : config.Valid) :
    (s.decorations config).1.UpToDate config where
  attached := h.attached
  current := fun _ hconv => ((h.current _ hconv).getDecorations valid hconv).2
  unread := by
    intro fault hconv
    show (s.cache.getDecorations s.document config).1.decorations = none
    unfold Cache.getDecorations Cache.deriveAll
    rw [h.unread fault hconv]
    dsimp only
    rw [show s.document.convention config = .error fault from hconv, error_bind]

theorem decorations_getRegions (c : Cache) (d : Document) (config : Config) :
    (c.getRegions d config).1.decorations = c.decorations := by
  unfold Cache.getRegions
  split
  · rfl
  · split
    · rfl
    · rfl

theorem decorations_getBackgrounds (c : Cache) (d : Document) (config : Config) :
    (c.getBackgrounds d config).1.decorations = c.decorations := by
  have hregions := decorations_getRegions c d config
  unfold Cache.getBackgrounds
  split
  · split
    · rename_i hget
      rw [hget] at hregions
      exact hregions
    · rename_i hget
      rw [hget] at hregions
      exact hregions
  · rfl

theorem UpToDate.regions (h : s.UpToDate config) : (s.regions config).1.UpToDate config where
  attached := h.attached
  current := fun _ hconv => ((h.current _ hconv).getRegions hconv).2
  unread := fun fault hconv =>
    (decorations_getRegions s.cache s.document config).trans (h.unread fault hconv)

theorem UpToDate.backgrounds (h : s.UpToDate config) :
    (s.backgrounds config).1.UpToDate config where
  attached := h.attached
  current := fun _ hconv => (h.current _ hconv).getBackgrounds hconv
  unread := fun fault hconv =>
    (decorations_getBackgrounds s.cache s.document config).trans (h.unread fault hconv)

/-! ## Edits -/

/-- A cache that is up to date follows an edit without fail, and is up to date again. -/
theorem UpToDate.notify (h : s.UpToDate config) (valid : config.Valid) (start stop : Int)
    (new : List Text) :
    ∃ cache events, s.cache.notify (s.document.replace start stop new).1 config
        (s.document.changeOf start stop new).position
        (s.document.changeOf start stop new).newLength = (cache, .ok events) ∧
      ∀ journal, ({ s.edited start stop new with cache, journal } : Session).UpToDate config := by
  have hlanguage : ∀ cache journal,
      ({ s.edited start stop new with cache, journal } : Session).document.convention config =
        s.document.convention config := fun _ _ => Document.convention_congr rfl config
  cases hconv : s.document.convention config with
  | ok conv =>
      have hnext := ((h.current conv hconv).notify_replace valid hconv start stop new)
      obtain ⟨events, hok⟩ := Cache.notify_replace_ok valid hconv s.cache start stop new
      refine ⟨_, events, Prod.ext rfl hok, fun journal => ⟨h.attached, ?_, ?_⟩⟩
      · intro other hother
        cases ((hlanguage _ journal).symm.trans hother).symm.trans hconv
        exact hnext
      · intro fault hfault
        cases ((hlanguage _ journal).symm.trans hfault).symm.trans hconv
  | error fault =>
      have hnone := h.unread fault hconv
      refine ⟨_, [], Cache.notify_of_none hnone _ _ _ _, fun journal => ⟨h.attached, ?_, ?_⟩⟩
      · intro conv hother
        cases ((hlanguage _ journal).symm.trans hother).symm.trans hconv
      · intro _ _
        exact hnone

/-- **Every edit succeeds and is followed.** -/
theorem UpToDate.replaceLines (h : s.UpToDate config) (valid : config.Valid) (start stop : Int)
    (new : List Text) :
    ∃ cache journal, s.replaceLines config start stop new =
        ({ s.edited start stop new with cache, journal },
          .ok (s.document.changeOf start stop new)) ∧
      ({ s.edited start stop new with cache, journal } : Session).UpToDate config := by
  obtain ⟨cache, events, hnotify, hnext⟩ := h.notify valid start stop new
  refine ⟨cache, s.journal ++ events, ?_, hnext _⟩
  rw [replaceLines_eq, followChange_of_notify (s := s.edited start stop new) h.attached hnotify]
  rfl

theorem UpToDate.carryOut (h : s.UpToDate config) (valid : config.Valid)
    (decision : Except Fault Decision) : (s.carryOut config decision).1.UpToDate config := by
  rcases decision with fault | ⟨notice⟩ | ⟨start, stop, new, point, event⟩
  · exact h
  · exact h.congr rfl rfl rfl rfl
  · obtain ⟨cache, journal, hedit, hnext⟩ := h.replaceLines valid start stop new
    unfold Session.carryOut
    dsimp only
    rw [hedit]
    cases point with
    | none => exact hnext.congr rfl rfl rfl rfl
    | some point => exact hnext.congr rfl rfl rfl rfl

theorem UpToDate.run (h : s.UpToDate config) (valid : config.Valid) (command : Command) :
    (s.run config command).1.UpToDate config := by
  have hbegun : (s.begun command).UpToDate config := h.congr rfl rfl rfl rfl
  obtain ⟨memory, hrun⟩ := run_eq s config command
  rw [hrun]
  cases hdecide : command.decide? with
  | some decide =>
      rw [perform_edit hdecide]
      exact (hbegun.carryOut valid _).congr rfl rfl rfl rfl
  | none =>
      exact (hbegun.beside (beside_perform hdecide _ _ _)).congr rfl rfl rfl rfl

/-- **Every act keeps a session up to date.** -/
theorem UpToDate.act (h : s.UpToDate config) (valid : config.Valid) (act : SessionAct) :
    (s.act config act).1.UpToDate config := by
  cases act with
  | command command => exact h.run valid command
  | note name => exact h.congr rfl rfl rfl rfl
  | edit r =>
      obtain ⟨cache, journal, hedit, hnext⟩ := h.replaceLines valid r.start r.stop r.new
      unfold Session.act
      dsimp only
      rw [hedit]
      exact hnext
  | askDecorations => exact h.decorations valid
  | askRegions => exact h.regions
  | askBackgrounds => exact h.backgrounds
  | invalidate => exact h.invalidate config

/-- The language of a document stays the same throughout. -/
theorem language_act (s : Session) (config : Config) (act : SessionAct) :
    (s.act config act).1.document.language = s.document.language := by
  cases act with
  | command command =>
      show (s.run config command).1.document.language = _
      rcases run_document s config command with
        ⟨point, hdocument⟩ | ⟨-, start, stop, new, -, -, point, -, -, hdocument⟩
      · rw [hdocument]
        rfl
      · rw [hdocument]
        rfl
  | edit r =>
      show (s.replaceLines config r.start r.stop r.new).1.document.language = _
      rw [replaceLines_document]
      rfl
  | _ => rfl

end Session

theorem Workspace.upToDate_run {settings : Settings} {documents : List Document}
    {viewport : Option Viewport} {w : Workspace}
    (h : create settings documents viewport room = .ok w) (acts : List Act) :
    (w.run acts).Sound Session.UpToDate :=
  (sound_create h fun d _ _ => Session.upToDate_create d viewport room w.config).run
    (obeys_true w acts) (fun _ _ act valid _ h => h.act valid act)
    (fun _ config' _ _ _ h => h.invalidate config')

end SourceOutline
