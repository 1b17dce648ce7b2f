import SourceOutline.Config.Channel
import SourceOutline.Proofs.Config.Checked

/-!
# What an update gives

The settings that an update publishes have been normalised before they are checked. So what a channel
publishes passes the check as it stands, and holds no list that could still be changed
(`Settings.Publishable`); an update is refused, or it keeps it so (`update_ok`,
`publishable_update`). A comment character that is configured once stays configured
(`update_commentChar`).
-/

namespace SourceOutline

namespace Settings

variable {s : Settings} {config : Config}

/-- Whether settings are fit to be published as those of a configuration: they pass the check, and
none of them is a list that could still be changed. -/
structure Publishable (s : Settings) (config : Config) : Prop where
  accepted : s.check = .ok config
  fixed : ∀ key items, s.value key ≠ .list items

theorem normalize_of_ne_list (h : ∀ key items, s.value key ≠ .list items) : s.normalize = s := by
  obtain ⟨value⟩ := s
  refine congrArg Settings.mk (funext fun key => ?_)
  show (if key.takesList then (value key).fixed else value key) = value key
  split
  · cases hvalue : value key with
    | list items => exact absurd hvalue (h key items)
    | _ => rfl
  · rfl

theorem normalize_normalize (s : Settings) : s.normalize.normalize = s.normalize := by
  have hfixed : ∀ v : Value, v.fixed.fixed = v.fixed := fun v => by cases v <;> rfl
  refine congrArg Settings.mk (funext fun key => ?_)
  simp only [normalize]
  cases key.takesList with
  | false => rfl
  | true => exact hfixed (s.value key)

theorem Publishable.eq_ofConfig (h : s.Publishable config) : s = ofConfig config := by
  rw [← (check_eq_ok.mp h.accepted).1, normalize_of_ne_list h.fixed]

theorem Publishable.valid (h : s.Publishable config) : config.Valid := valid_of_check h.accepted

/-- Normalised settings that pass the check are fit to be published: the check refuses a list where
none belongs. -/
theorem publishable_normalize (h : s.normalize.check = .ok config) :
    s.normalize.Publishable config := by
  refine ⟨h, fun key items => ?_⟩
  obtain ⟨hsettings, -⟩ := check_eq_ok.mp h
  rw [normalize_normalize] at hsettings
  rw [hsettings]
  exact ofConfig_ne_list config key items

theorem Publishable.eq_iff {other : Settings} {config' : Config} (h : s.Publishable config)
    (hother : other.Publishable config') : s = other ↔ config = config' := by
  constructor
  · rintro rfl
    exact Except.ok.inj (h.accepted.symm.trans hother.accepted)
  · rintro rfl
    rw [h.eq_ofConfig, hother.eq_ofConfig]

end Settings

namespace Channel

variable {α : Type} {c : Channel α} {changes : List (Text × Value)} {u : Update α}

theorem publishable_create {settings : Settings} (h : create α settings = .ok c) :
    c.settings.Publishable c.config := by
  obtain ⟨config, hcheck, rfl⟩ := map_eq_ok.mp h
  exact Settings.publishable_normalize hcheck

/-- An accepted update has changed the settings, normalised and checked them, and compared what they
stand for with the old configuration. -/
theorem update_ok (h : c.update changes = .ok u) :
    ∃ merged config, c.settings.override? changes = some merged ∧
      merged.normalize.check = .ok config ∧
      ((config = c.config ∧ u = { channel := c, told := none }) ∨
        (config ≠ c.config ∧
          u = { channel := { c with settings := merged.normalize, config }
                told := some c.subscribers })) := by
  unfold update at h
  split at h
  · cases h
  · split at h
    · cases h
    · rename_i merged hmerged
      obtain ⟨config, hcheck, h⟩ := bind_eq_ok.mp h
      refine ⟨merged, config, hmerged, hcheck, ?_⟩
      by_cases hsame : config = c.config
      · rw [if_pos hsame] at h
        cases h
        exact Or.inl ⟨hsame, rfl⟩
      · rw [if_neg hsame] at h
        cases h
        exact Or.inr ⟨hsame, rfl⟩

/-- What an accepted update does: nothing, or everyone who subscribed is told of the settings that
have passed the check. -/
theorem update_cases (h : c.update changes = .ok u) :
    u = { channel := c, told := none } ∨
    ∃ merged config, c.settings.override? changes = some merged ∧
      merged.normalize.Publishable config ∧
      u = { channel := { c with settings := merged.normalize, config }
            told := some c.subscribers } := by
  obtain ⟨merged, config, hmerged, hcheck, ⟨-, rfl⟩ | ⟨-, rfl⟩⟩ := update_ok h
  · exact Or.inl rfl
  · exact Or.inr ⟨merged, config, hmerged, Settings.publishable_normalize hcheck, rfl⟩

theorem publishable_update (hc : c.settings.Publishable c.config) (h : c.update changes = .ok u) :
    u.channel.settings.Publishable u.channel.config := by
  obtain rfl | ⟨merged, config, -, hmerged, rfl⟩ := update_cases h
  · exact hc
  · exact hmerged

/-- Only a change that is addressed to the holder of the settings is misaddressed. -/
theorem update_misaddressed (h : c.update changes = .error .misaddressed) :
    ∃ change ∈ changes, change.1 = ownName := by
  unfold update at h
  split at h
  · rename_i hown
    obtain ⟨change, hmem, hname⟩ := List.any_eq_true.mp hown
    exact ⟨change, hmem, beq_iff_eq.mp hname⟩
  · split at h
    · cases h
    · rcases bind_eq_error.mp h with h | ⟨config, -, h⟩
      · obtain ⟨setting, hsetting⟩ := Settings.exists_setting_of_check_error h
        cases hsetting
      · split at h
        · cases h
        · cases h

/-- An update cannot take a configured comment character away, only replace it. -/
theorem update_commentChar (hc : c.settings.Publishable c.config) (h : c.update changes = .ok u)
    (hmark : c.config.commentChar.isSome) : u.channel.config.commentChar.isSome := by
  obtain rfl | ⟨merged, config, hmerged, hpublishable, rfl⟩ := update_cases h
  · exact hmark
  · obtain ⟨mark, hmark⟩ := Option.isSome_iff_exists.mp hmark
    have hold : (c.settings.value .commentChar).isNull = false := by
      simp [hc.eq_ofConfig, Settings.ofConfig, hmark, Value.ofText?, Value.isNull]
    have hnew := Settings.override?_isNull hmerged hold
    have hgiven : merged.value .commentChar = .ofText? config.commentChar :=
      congrArg (fun s : Settings => s.value .commentChar) hpublishable.eq_ofConfig
    rw [Option.isSome_iff_ne_none]
    intro hnone
    rw [hgiven, hnone] at hnew
    cases hnew

end Channel

end SourceOutline
