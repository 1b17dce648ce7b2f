import SourceOutline.Proofs.Config.Checked
import SourceOutline.Proofs.Decoration.Current

/-!
# Switching the language

The comment mark of a document is a matter of its language unless the settings give one, and a cache
is not told when the language is switched. It goes on answering for the old mark until something
makes it drop what it holds.

Main statement: after a switch the answers are right exactly when the mark is the same as before or
no line is a heading under either mark, and they are right in any case once the cache has dropped
everything (`resetLanguage_answers_iff`).
-/

namespace SourceOutline

/-! ## One line under two marks -/

namespace Convention

variable {conv other : Convention} {line : Text} {lines : List Text} {first : Int}

/-- The mark of a heading can be read off its line. -/
theorem mark_eq_of_isHeading (h : conv.isHeading line = true) :
    conv.mark = (line.unindent.head?).toList := by
  obtain ⟨level, hlevel⟩ := isHeading_iff.mp h
  obtain ⟨hrun, -⟩ := level?_eq_some.mp hlevel
  obtain ⟨rest, hrest⟩ := openingRun_isPrefix conv.mark line
  cases hopening : openingRun conv.mark line with
  | nil => simp [hopening] at hrun
  | cons first run =>
      -- every character of the run is the mark, so the first one is
      have hmem : first ∈ openingRun conv.mark line := by simp [hopening]
      have hfirst : conv.mark = [first] := mem_openingRun hmem
      rw [← hrest, hopening, hfirst]
      rfl

theorem mark_unique (h : conv.isHeading line = true) (hother : other.isHeading line = true) :
    conv.mark = other.mark := by
  rw [mark_eq_of_isHeading h, mark_eq_of_isHeading hother]

theorem isHeading_eq_false : conv.isHeading line = false ↔ conv.level? line = none := by
  simp [isHeading]

/-! ## All lines under two marks -/

theorem mem_derived {decoration : Decoration} :
    decoration ∈ conv.derived first lines ↔
      ∃ (i : Nat) (line : Text), lines[i]? = some line ∧
        conv.decoration? (first + i) line = some decoration := by
  unfold derived
  simp only [List.mem_filterMap, Lines.mem_numbered]
  constructor
  · rintro ⟨entry, ⟨i, line, hget, rfl⟩, hdecoration⟩
    exact ⟨i, line, hget, hdecoration⟩
  · rintro ⟨i, line, hget, hdecoration⟩
    exact ⟨_, ⟨i, line, hget, rfl⟩, hdecoration⟩

theorem exists_decoration? (valid : conv.config.Valid) (h : conv.isHeading line = true)
    (number : Int) : ∃ decoration, conv.decoration? number line = some decoration := by
  cases hread : conv.readHeading? number line none with
  | none =>
      obtain ⟨level, hlevel⟩ := isHeading_iff.mp h
      rw [readHeading?_eq_none.mp hread] at hlevel
      cases hlevel
  | some heading =>
      obtain ⟨decoration, -, -, hdecoration⟩ := decorate_of_readHeading? valid hread
      exact ⟨decoration, hdecoration⟩

theorem isHeading_of_decoration? {number : Int} {decoration : Decoration}
    (h : conv.decoration? number line = some decoration) : conv.isHeading line = true := by
  rcases hheading : conv.isHeading line with - | -
  · rw [decoration?_eq_none (isHeading_eq_false.mp hheading)] at h
    cases h
  · rfl

/-- Where two conventions give the same decorations, they share a heading line if there is one. -/
theorem exists_shared_heading (valid : conv.config.Valid)
    (hsame : conv.derived 0 lines = other.derived 0 lines) (hmem : line ∈ lines)
    (h : conv.isHeading line = true) : ∃ shared, conv.isHeading shared = true ∧
      other.isHeading shared = true := by
  obtain ⟨i, hget⟩ := List.mem_iff_getElem?.mp hmem
  obtain ⟨decoration, hdecoration⟩ := exists_decoration? valid h (0 + i)
  have hmem : decoration ∈ conv.derived 0 lines := mem_derived.mpr ⟨i, line, hget, hdecoration⟩
  rw [hsame] at hmem
  obtain ⟨k, shared, hshared, hother⟩ := mem_derived.mp hmem
  -- a decoration knows its line, so both conventions speak of the same one
  have hk : k = i := by
    have hi := line_of_decoration? hdecoration
    have hk := line_of_decoration? hother
    omega
  subst hk
  rw [hget] at hshared
  cases hshared
  exact ⟨line, h, isHeading_of_decoration? hother⟩

theorem derived_eq_nil (h : ∀ line ∈ lines, conv.isHeading line = false) :
    conv.derived first lines = [] := by
  rw [List.eq_nil_iff_forall_not_mem]
  intro decoration hmem
  obtain ⟨i, line, hget, hdecoration⟩ := mem_derived.mp hmem
  have hheading := isHeading_of_decoration? hdecoration
  rw [h line (List.mem_of_getElem? hget)] at hheading
  cases hheading

theorem regionsFrom_eq_nil (h : ∀ line ∈ lines, conv.isHeading line = false) :
    conv.regionsFrom first lines = [] := by
  induction lines generalizing first with
  | nil => rfl
  | cons line rest ih =>
      simp only [List.forall_mem_cons] at h
      rw [regionsFrom, h.1]
      exact ih h.2

/-- Decorations under two marks agree only where there are none. -/
theorem derived_eq_iff (valid : conv.config.Valid) (hconfig : other.config = conv.config) :
    conv.derived 0 lines = other.derived 0 lines ↔
      other.mark = conv.mark ∨
        ∀ line ∈ lines, conv.isHeading line = false ∧ other.isHeading line = false := by
  constructor
  · intro hsame
    by_cases hmark : other.mark = conv.mark
    · exact Or.inl hmark
    · refine Or.inr fun line hline => ⟨?_, ?_⟩
      · rcases hheading : conv.isHeading line with - | -
        · rfl
        · obtain ⟨shared, h, hother⟩ := exists_shared_heading valid hsame hline hheading
          exact absurd (mark_unique hother h) hmark
      · rcases hheading : other.isHeading line with - | -
        · rfl
        · obtain ⟨shared, hother, h⟩ :=
            exists_shared_heading (by rwa [hconfig]) hsame.symm hline hheading
          exact absurd (mark_unique hother h) hmark
  · rintro (hmark | hnone)
    · rw [show other = conv from by cases conv; cases other; cases hmark; cases hconfig; rfl]
    · rw [derived_eq_nil fun line hline => (hnone line hline).1,
        derived_eq_nil fun line hline => (hnone line hline).2]

end Convention

/-! ## A cache that is not told -/

namespace Cache

/-- Whether a cache holds all that is derived from some lines. -/
structure Filled (c : Cache) (conv : Convention) (lines : List Text) : Prop where
  decorations : c.decorations = some (conv.derived 0 lines)
  regions : c.regions = some (conv.regions lines)

/-- Whether a cache answers what a document is given from scratch. -/
structure Answers (c : Cache) (d : Document) (config : Config) (conv : Convention) : Prop where
  decorations : (c.getDecorations d config).2 = conv.decorations d.lines
  regions : (c.getRegions d config).2 = .ok (conv.regions d.lines)

variable {c : Cache} {conv : Convention} {config : Config} {d : Document} {language : Language}
  {mark : Text}

/-- A current cache that has been asked for both holds both. -/
theorem Current.filled (h : c.Current conv d.lines) (valid : config.Valid)
    (hconv : d.convention config = .ok conv) :
    ((c.getDecorations d config).1.getRegions d config).1.Filled conv d.lines := by
  obtain ⟨-, hasked⟩ := h.getDecorations valid hconv
  constructor
  · unfold Cache.getDecorations
    cases hknown : c.decorations with
    | some known =>
        obtain ⟨rfl, -⟩ := h.decorations known hknown
        unfold Cache.getRegions
        cases c.regions <;> simp [hconv, hknown]
    | none =>
        dsimp only
        rw [deriveAll_eq valid hconv]
        unfold Cache.getRegions
        dsimp only
        cases c.regions <;> simp [hconv]
  · unfold Cache.getRegions
    cases hknown : (c.getDecorations d config).1.regions with
    | some regions =>
        dsimp only
        rw [hknown, hasked.regions regions hknown]
    | none =>
        dsimp only
        rw [hconv]

theorem Current.answers (h : c.Current conv d.lines) (valid : config.Valid)
    (hconv : d.convention config = .ok conv) : c.Answers d config conv := by
  obtain ⟨-, hconfig⟩ := Document.convention_eq_ok hconv
  constructor
  · rw [Convention.decorations_eq (by rwa [hconfig])]
    exact (h.getDecorations valid hconv).1
  · exact (h.getRegions hconv).1

/-- What a filled cache answers does not depend on the document that it is asked for. -/
theorem Filled.answers_iff (h : c.Filled conv d.lines) {after : Document}
    (hlines : after.lines = d.lines) {next : Convention} (valid : next.config.Valid) :
    c.Answers after config next ↔
      conv.derived 0 d.lines = next.derived 0 d.lines ∧
        conv.regions d.lines = next.regions d.lines := by
  have hdecorations : (c.getDecorations after config).2 = .ok (conv.derived 0 d.lines) := by
    simp [Cache.getDecorations, h.decorations]
  have hregions : (c.getRegions after config).2 = .ok (conv.regions d.lines) := by
    simp [Cache.getRegions, h.regions]
  constructor
  · rintro ⟨hfirst, hsecond⟩
    rw [hdecorations, Convention.decorations_eq valid, hlines] at hfirst
    rw [hregions, hlines] at hsecond
    exact ⟨Except.ok.inj hfirst, Except.ok.inj hsecond⟩
  · rintro ⟨hfirst, hsecond⟩
    refine ⟨?_, ?_⟩
    · rw [hdecorations, Convention.decorations_eq valid, hlines, hfirst]
    · rw [hregions, hlines, hsecond]

theorem convention_resetLanguage (hunset : config.commentChar = none)
    (hmark : language.commentChar? = some mark) (d : Document) :
    (d.resetLanguage (some language)).convention config = .ok { mark, config } := by
  refine Document.convention_of_mark ?_
  unfold Document.mark Document.commentChar? Document.resetLanguage
  rw [hunset]
  simp [hmark]

/-- **What a cache answers after the language is switched.** Under settings without a comment
character of their own, the answers of a filled cache are those from scratch when the new language
has the old mark, or when no line is a heading under either, and not otherwise. A cache that has
dropped everything answers right in every case. -/
theorem resetLanguage_answers_iff (valid : config.Valid) (hunset : config.commentChar = none)
    (hconv : d.convention config = .ok conv) (h : c.Filled conv d.lines)
    (hmark : language.commentChar? = some mark) :
    let after := d.resetLanguage (some language)
    let next : Convention := { mark, config }
    after.convention config = .ok next ∧
      (c.Answers after config next ↔
        mark = conv.mark ∨
          ∀ line ∈ after.lines, conv.isHeading line = false ∧ next.isHeading line = false) ∧
      c.invalidate.Answers after config next := by
  intro after next
  obtain ⟨-, hconfig⟩ := Document.convention_eq_ok hconv
  have hnext : after.convention config = .ok next := convention_resetLanguage hunset hmark d
  have hlines : after.lines = d.lines := rfl
  refine ⟨hnext, ?_, (current_invalidate c next after.lines).answers valid hnext⟩
  have hderived : conv.derived 0 d.lines = next.derived 0 d.lines ↔ _ :=
    Convention.derived_eq_iff (by rwa [hconfig]) hconfig.symm
  rw [h.answers_iff hlines valid, hlines, ← hderived]
  constructor
  · exact fun hboth => hboth.1
  · intro hsame
    refine ⟨hsame, ?_⟩
    rcases hderived.mp hsame with hmark | hnone
    · rw [show next = conv from by cases conv; cases hmark; cases hconfig; rfl]
    · show conv.regionsFrom 0 d.lines = next.regionsFrom 0 d.lines
      rw [Convention.regionsFrom_eq_nil fun line hline => (hnone line hline).1,
        Convention.regionsFrom_eq_nil fun line hline => (hnone line hline).2]

/-- A Python file goes on as a TOML file, which has the same mark. -/
theorem resetLanguage_answers_iff_toml : ∃ toml conv,
    let d := Document.ofText "### A\ntext".toList (Language.named? "python".toList) none
    let c := (((empty d).getDecorations d {}).1.getRegions d {}).1
    Language.named? "toml".toList = some toml ∧ Config.Valid {} ∧ d.convention {} = .ok conv ∧
      c.Filled conv d.lines ∧ toml.commentChar? = some ['#'] ∧
      c.Answers (d.resetLanguage (some toml)) {} { mark := ['#'], config := {} } := by
  have valid : Config.Valid {} := Settings.valid_of_check (s := .defaults) rfl
  let d := Document.ofText "### A\ntext".toList (Language.named? "python".toList) none
  have hfilled := (current_empty d ⟨['#'], {}⟩ d.lines).filled valid rfl
  refine ⟨_, ⟨['#'], {}⟩, rfl, valid, rfl, hfilled, rfl, ?_⟩
  exact (resetLanguage_answers_iff valid rfl rfl hfilled rfl).2.1.mpr (Or.inl rfl)

/-- A C file goes on as a Python file: the heading of the old language is shown, and the one of the
new language is not. -/
theorem resetLanguage_keeps_answers : ∃ python conv,
    let d := Document.ofText "/// A\ntext\n### B".toList (Language.named? "c".toList) none
    let c := (((empty d).getDecorations d {}).1.getRegions d {}).1
    let after := d.resetLanguage (some python)
    Language.named? "python".toList = some python ∧ Config.Valid {} ∧
      d.convention {} = .ok conv ∧ c.Filled conv d.lines ∧
      after.convention {} = .ok { mark := ['#'], config := {} } ∧
      (c.getDecorations after {}).2.map (List.map Decoration.line) = .ok [0] ∧
      ¬c.Answers after {} { mark := ['#'], config := {} } := by
  have valid : Config.Valid {} := Settings.valid_of_check (s := .defaults) rfl
  refine ⟨_, ⟨['/'], {}⟩, rfl, valid, rfl, ⟨rfl, rfl⟩, rfl, rfl, ?_⟩
  rintro ⟨hdecorations, -⟩
  have hlines := congrArg (fun answer => answer.toOption.map (List.map Decoration.line))
    hdecorations
  exact absurd hlines (by decide)

end Cache

end SourceOutline
