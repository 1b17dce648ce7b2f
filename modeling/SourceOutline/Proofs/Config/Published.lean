import Mathlib.Data.List.Induction
import Mathlib.Data.List.Nodup
import SourceOutline.Proofs.Config.Update

/-!
# What a channel publishes

A channel is asked to add and remove subscribers and to change settings, in any order. Who is a
subscriber can be read off the calls so far: whoever has been added and not been removed since
(`Subscribed`). Main statement: whatever has been asked, the channel publishes settings that pass the
check and have no list in them that could still be changed; the next update is refused and leaves
everything as it is, or it publishes the changed settings, normalised, and tells every subscriber once
if they are new, and nobody else (`run_publishes`).
-/

namespace SourceOutline

namespace Channel

inductive Call (α : Type) where
  | subscribe (subscriber : α)
  | unsubscribe (subscriber : α)
  | update (changes : List (Text × Value))

/-- Whether someone has been added by one of the calls and not been removed by a later one. -/
def Subscribed {α : Type} (a : α) (calls : List (Call α)) : Prop :=
  ∃ before after, calls = before ++ .subscribe a :: after ∧ .unsubscribe a ∉ after

section Subscribed

variable {α : Type} {a : α} {calls : List (Call α)} {last : Call α}

theorem not_subscribed_nil : ¬Subscribed a ([] : List (Call α)) := by
  rintro ⟨before, after, h, -⟩
  simp at h

/-- The last call decides about whom it names, and nobody else. -/
theorem subscribed_snoc :
    Subscribed a (calls ++ [last]) ↔
      last = .subscribe a ∨ (Subscribed a calls ∧ last ≠ .unsubscribe a) := by
  constructor
  · rintro ⟨before, after, h, hafter⟩
    rcases List.eq_nil_or_concat after with rfl | ⟨after, other, rfl⟩
    · obtain ⟨-, h⟩ := List.append_inj' h rfl
      exact Or.inl (List.cons.inj h).1
    · rw [List.concat_eq_append] at h hafter
      rw [← List.cons_append, ← List.append_assoc] at h
      obtain ⟨hcalls, hlast⟩ := List.append_inj' h rfl
      obtain rfl := (List.cons.inj hlast).1
      rw [List.mem_append, List.mem_singleton, not_or] at hafter
      exact Or.inr ⟨⟨before, after, hcalls, hafter.1⟩, fun hne => hafter.2 hne.symm⟩
  · rintro (rfl | ⟨⟨before, after, rfl, hafter⟩, hlast⟩)
    · exact ⟨calls, [], rfl, List.not_mem_nil⟩
    · refine ⟨before, after ++ [last], by simp, ?_⟩
      rw [List.mem_append, List.mem_singleton, not_or]
      exact ⟨hafter, fun hne => hlast hne.symm⟩

end Subscribed

/-! ## Updates -/

section Updates

variable {α : Type} {c : Channel α} {changes : List (Text × Value)} {u : Update α}

/-- What a channel keeps: its settings are fit to be published, and nobody is a subscriber twice. -/
structure Sound (c : Channel α) : Prop where
  publishable : c.settings.Publishable c.config
  nodup : c.subscribers.Nodup

theorem sound_create {settings : Settings} (h : create α settings = .ok c) : c.Sound := by
  refine ⟨publishable_create h, ?_⟩
  obtain ⟨config, -, rfl⟩ := map_eq_ok.mp h
  exact List.nodup_nil

theorem subscribers_update (h : c.update changes = .ok u) :
    u.channel.subscribers = c.subscribers := by
  rcases update_cases h with rfl | ⟨settings, config, -, -, rfl⟩
  · rfl
  · rfl

/-- An accepted update publishes the changed settings, normalised, and it tells everyone who has
subscribed when they are new. -/
theorem update_publishes (h : c.Sound) (hupdate : c.update changes = .ok u) :
    ∃ merged : Settings, c.settings.override? changes = some merged ∧
      u.channel.settings = merged.normalize ∧
      (merged.normalize = c.settings → u = { channel := c, told := none }) ∧
      (merged.normalize ≠ c.settings → u.told = some c.subscribers) := by
  obtain ⟨merged, config, hmerged, hcheck, hu⟩ := update_ok hupdate
  have hsame : merged.normalize = c.settings ↔ config = c.config :=
    (Settings.publishable_normalize hcheck).eq_iff h.publishable
  rcases hu with ⟨hold, rfl⟩ | ⟨hnew, rfl⟩
  · have hsettings := hsame.mpr hold
    exact ⟨merged, hmerged, hsettings.symm, fun _ => rfl, fun hne => absurd hsettings hne⟩
  · exact ⟨merged, hmerged, rfl, fun hnormal => absurd (hsame.mp hnormal) hnew, fun _ => rfl⟩

end Updates

/-! ## Single calls -/

variable {α : Type} [DecidableEq α]

def call (c : Channel α) : Call α → Channel α × List α
  | .subscribe a => (c.subscribe a, [])
  | .unsubscribe a => (c.unsubscribe a, [])
  | .update changes =>
    match c.update changes with
    | .ok u => (u.channel, u.told.getD [])
    | .error _ => (c, [])

def run (c : Channel α) (calls : List (Call α)) : Channel α :=
  calls.foldl (fun c asked => (c.call asked).1) c

variable {c : Channel α} {calls : List (Call α)} {a : α} {changes : List (Text × Value)}

theorem run_snoc (c : Channel α) (calls : List (Call α)) (last : Call α) :
    c.run (calls ++ [last]) = ((c.run calls).call last).1 := by
  simp [run]

theorem call_of_ok {u : Update α} (h : c.update changes = .ok u) :
    c.call (.update changes) = (u.channel, u.told.getD []) := by
  simp [call, h]

theorem call_of_error {e : ConfigError} (h : c.update changes = .error e) :
    c.call (.update changes) = (c, []) := by
  simp [call, h]

theorem mem_subscribe {b : α} : b ∈ (c.subscribe a).subscribers ↔ b = a ∨ b ∈ c.subscribers := by
  unfold subscribe
  split
  · rename_i hmem
    exact ⟨Or.inr, fun h => h.elim (fun heq => heq ▸ hmem) id⟩
  · simp [or_comm]

theorem mem_unsubscribe {b : α} :
    b ∈ (c.unsubscribe a).subscribers ↔ b ∈ c.subscribers ∧ b ≠ a := by
  simp [unsubscribe]

theorem subscribers_call_update (c : Channel α) (changes : List (Text × Value)) :
    (c.call (.update changes)).1.subscribers = c.subscribers := by
  cases hupdate : c.update changes with
  | error e => rw [call_of_error hupdate]
  | ok u => rw [call_of_ok hupdate, subscribers_update hupdate]

theorem Sound.call (h : c.Sound) (asked : Call α) : (c.call asked).1.Sound := by
  cases asked with
  | subscribe a =>
      show (c.subscribe a).Sound
      unfold Channel.subscribe
      split
      · exact h
      · rename_i hnew
        refine ⟨h.publishable, List.nodup_append.mpr ⟨h.nodup, List.nodup_singleton a, ?_⟩⟩
        intro b hb other hother heq
        rw [List.mem_singleton.mp hother] at heq
        exact hnew (heq ▸ hb)
  | unsubscribe a => exact ⟨h.publishable, h.nodup.filter _⟩
  | update changes =>
      refine ⟨?_, by rw [subscribers_call_update]; exact h.nodup⟩
      cases hupdate : c.update changes with
      | error e =>
          rw [call_of_error hupdate]
          exact h.publishable
      | ok u =>
          rw [call_of_ok hupdate]
          exact publishable_update h.publishable hupdate

/-! ## Runs -/

theorem Sound.run (h : c.Sound) (calls : List (Call α)) : (c.run calls).Sound := by
  induction calls using List.reverseRecOn with
  | nil => exact h
  | append_singleton calls last ih =>
      rw [run_snoc]
      exact ih.call last

/-- The subscribers of a channel that had none are those whom the calls have left subscribed. -/
theorem mem_subscribers_run (h : c.subscribers = []) :
    a ∈ (c.run calls).subscribers ↔ Subscribed a calls := by
  induction calls using List.reverseRecOn with
  | nil =>
      show a ∈ c.subscribers ↔ _
      rw [h]
      exact ⟨fun hmem => absurd hmem List.not_mem_nil, fun hsub => absurd hsub not_subscribed_nil⟩
  | append_singleton calls last ih =>
      rw [run_snoc, subscribed_snoc, ← ih]
      cases last with
      | subscribe b =>
          show a ∈ ((c.run calls).subscribe b).subscribers ↔ _
          rw [mem_subscribe, Call.subscribe.injEq]
          simp [eq_comm]
      | unsubscribe b =>
          show a ∈ ((c.run calls).unsubscribe b).subscribers ↔ _
          rw [mem_unsubscribe]
          simp [eq_comm]
      | update changes =>
          rw [subscribers_call_update]
          simp

/-- **A channel never publishes a bad configuration.** -/
theorem run_publishes {settings : Settings} (h : create α settings = .ok c)
    (calls : List (Call α)) :
    (c.run calls).settings.Publishable (c.run calls).config ∧
    (c.run calls).settings = Settings.ofConfig (c.run calls).config ∧
    ∀ changes : List (Text × Value), (∀ change ∈ changes, change.1 ≠ ownName) →
      (∃ e, (c.run calls).update changes = .error e ∧ e ≠ .misaddressed ∧
        (c.run calls).call (.update changes) = (c.run calls, [])) ∨
      ∃ u merged told, (c.run calls).update changes = .ok u ∧
        (c.run calls).call (.update changes) = (u.channel, told) ∧
        (c.run calls).settings.override? changes = some merged ∧
        u.channel.settings = merged.normalize ∧
        u.channel.settings.Publishable u.channel.config ∧
        u.channel.settings = Settings.ofConfig u.channel.config ∧
        (merged.normalize = (c.run calls).settings → told = []) ∧
        (merged.normalize ≠ (c.run calls).settings →
          ∀ a, (Subscribed a calls → told.count a = 1) ∧
            (¬Subscribed a calls → told.count a = 0)) := by
  have sound := (sound_create h).run calls
  have hnobody : c.subscribers = [] := by
    obtain ⟨config, -, rfl⟩ := map_eq_ok.mp h
    rfl
  refine ⟨sound.publishable, sound.publishable.eq_ofConfig, fun changes hnames => ?_⟩
  cases hupdate : (c.run calls).update changes with
  | error e =>
      refine Or.inl ⟨e, rfl, ?_, call_of_error hupdate⟩
      rintro rfl
      obtain ⟨change, hmem, hown⟩ := update_misaddressed hupdate
      exact hnames change hmem hown
  | ok u =>
      obtain ⟨merged, hmerged, hsettings, hsame, hnew⟩ := update_publishes sound hupdate
      have hnext := publishable_update sound.publishable hupdate
      refine Or.inr ⟨u, merged, u.told.getD [], rfl, call_of_ok hupdate, hmerged, hsettings, hnext,
        hnext.eq_ofConfig, ?_, ?_⟩
      · intro hnormal
        rw [hsame hnormal]
        rfl
      · intro hdiffers a
        rw [hnew hdiffers, Option.getD_some, ← mem_subscribers_run hnobody]
        exact ⟨List.count_eq_one_of_mem sound.nodup, List.count_eq_zero.mpr⟩

/-- One of two subscribers has left when the glyphs change. -/
theorem run_publishes_starred :
    let calls : List (Call Nat) := [.subscribe 1, .subscribe 2, .unsubscribe 2, .subscribe 1]
    let changes : List (Text × Value) := [("bullet_glyphs".toList, .list [.text ['*']])]
    ∃ c : Channel Nat, create Nat .defaults = .ok c ∧ (∀ change ∈ changes, change.1 ≠ ownName) ∧
      ∃ after told, (c.run calls).call (.update changes) = (after, told) ∧
        after.config.bulletGlyphs = [['*']] ∧ after.settings.Publishable after.config ∧
        told.count 1 = 1 ∧ told.count 2 = 0 := by
  intro calls changes
  have hcreate : create Nat .defaults =
      .ok { settings := Settings.defaults.normalize, config := {} } := rfl
  have hnames : ∀ change ∈ changes, change.1 ≠ ownName := by decide
  refine ⟨_, hcreate, hnames, ?_⟩
  rcases (run_publishes hcreate calls).2.2 changes hnames with
    ⟨e, herror, -⟩ | ⟨u, merged, told, hok, hcall, hmerged, -, hpublishable, -, -, hdiffers⟩
  · cases herror
  · cases hok
    cases hmerged
    have hne := hdiffers fun hsame => by
      have hglyphs := congrArg (fun s : Settings => s.value .bulletGlyphs) hsame
      cases hglyphs
    have hsubscribers : (run { settings := Settings.defaults.normalize, config := {} }
        calls).subscribers = [1] := rfl
    refine ⟨_, told, hcall, rfl, hpublishable, (hne 1).1 ?_, (hne 2).2 ?_⟩
    · exact ⟨[.subscribe 1, .subscribe 2, .unsubscribe 2], [], rfl, List.not_mem_nil⟩
    · rw [← mem_subscribers_run (c := { settings := Settings.defaults.normalize, config := {} }) rfl,
        hsubscribers]
      decide

end Channel

end SourceOutline
