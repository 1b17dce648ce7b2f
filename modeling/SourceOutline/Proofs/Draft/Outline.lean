import SourceOutline.Draft.Outline
import SourceOutline.Proofs.Config.Checked

/-!
# Drafts of settings that pass the check

In the draft that a configuration has as it stands nothing is unusable (`Draft.ofConfig`). Settings
that pass the check have the draft of the configuration that they stand for (`draft_eq_ofConfig`), and
under it every question about an outline has the answer that it has under the configuration.
-/

namespace SourceOutline

/-- The draft in which nothing is unusable: it has no faults, and what it holds as values are the values
of a configuration. -/
def Draft.ofConfig (config : Config) : Draft where
  config := config
  sectionLength := config.baseLevel
  runFault := none
  headingFault := none
  paddingFault := none
  markFault := none
  keywords := .listed (config.todoKeywords.map .text)
  done := .ofText? config.doneKeyword
  glyphs := .ok (config.bulletGlyphs.map .text)
  face := .ofText? config.headingFace

/-! ## Settings that pass the check -/

namespace Value

theorem text?_ofText? (t : Option Text) : (ofText? t).text? = t := by cases t <;> rfl

theorem filterMap_text?_map (ts : List Text) : (ts.map text).filterMap text? = ts := by
  induction ts with
  | nil => rfl
  | cons t rest ih => exact congrArg (t :: ·) ih

theorem fixed_eq_tuple {v : Value} {items : List Value} :
    v.fixed = .tuple items ↔ v = .list items ∨ v = .tuple items := by
  cases v <;> simp [fixed]

end Value

namespace Settings

variable {s : Settings} {config : Config}

theorem value_of_check (h : s.check = .ok config) (key : Setting) (hkey : key.takesList = false) :
    s.value key = (ofConfig config).value key := by
  have hvalue := congrArg (fun settings : Settings => settings.value key) (check_eq_ok.mp h).1
  simpa [normalize, hkey] using hvalue

theorem fixed_of_check (h : s.check = .ok config) (key : Setting) (hkey : key.takesList = true) :
    (s.value key).fixed = (ofConfig config).value key := by
  have hvalue := congrArg (fun settings : Settings => settings.value key) (check_eq_ok.mp h).1
  simpa [normalize, hkey] using hvalue

/-- **Settings that pass the check have the draft of the configuration that they stand for.** -/
theorem draft_eq_ofConfig (h : s.check = .ok config) : s.draft = .ofConfig config := by
  have valid := valid_of_check h
  have hglyphs := fixed_of_check h .bulletGlyphs rfl
  have hfiles := fixed_of_check h .blockFiles rfl
  have hlisted : KeywordSource.ofValue (s.value .todoKeywords) =
      .listed (config.todoKeywords.map .text) := by
    obtain hlist | htuple := Value.fixed_eq_tuple.mp (fixed_of_check h .todoKeywords rfl)
    · rw [hlist]
      rfl
    · rw [htuple]
      rfl
  have hdealt : Draft.glyphsOf (s.value .bulletGlyphs) = .ok (config.bulletGlyphs.map .text) := by
    obtain hlist | htuple := Value.fixed_eq_tuple.mp hglyphs
    · rw [hlist]
      rfl
    · rw [htuple]
      rfl
  have hwords : (KeywordSource.listed (config.todoKeywords.map .text)).words = config.todoKeywords :=
    Value.filterMap_text?_map _
  have hpolicy : policy? (ofPolicy config.blankLinePolicy) = some config.blankLinePolicy :=
    policy?_eq_some.mpr rfl
  have hmark : ((Value.ofText? config.commentChar).isNull || config.commentChar.isSome) = true := by
    cases config.commentChar <;> rfl
  unfold draft
  rw [hlisted, hdealt, value_of_check h .baseLevel rfl,
    value_of_check h .blockPadding rfl, value_of_check h .commentChar rfl,
    value_of_check h .headingFace rfl, value_of_check h .doneKeyword rfl,
    value_of_check h .blankLinePolicy rfl, value_of_check h .maxFileSize rfl,
    checkGlyphs_eq_ok.mpr ⟨hglyphs, valid.bulletGlyphs_ne_nil, valid.bulletGlyphs_single⟩,
    checkBlockFiles_eq_ok.mpr ⟨hfiles, valid.blockFiles_named⟩]
  simp only [ofConfig, hwords, hpolicy, Value.text?_ofText?, hmark, if_true]
  rfl

end Settings

/-! ## Questions about an outline -/

namespace Draft

variable (config : Config) (mark line : Text) (lines : List Text) (number : Int)

theorem measure_ofConfig :
    (ofConfig config).measure mark line = .ok (Convention.level? { mark, config } line) := by
  unfold measure
  cases run? mark line <;> rfl

theorem read_ofConfig :
    (ofConfig config).read mark line = .ok (Convention.level? { mark, config } line).isSome := by
  unfold read
  rw [measure_ofConfig, ok_bind]
  cases Convention.level? { mark, config } line <;> rfl

theorem readNearest_ofConfig : (ofConfig config).readNearest mark lines = .ok () := by
  induction lines with
  | nil => rfl
  | cons line rest ih =>
      rw [readNearest, read_ofConfig, ok_bind, ih]
      split <;> rfl

section Answers

variable {α : Type} (answer : Except Fault α)

theorem measuring_ofConfig : (ofConfig config).measuring mark lines answer = answer := by
  unfold measuring
  rw [forM_eq_ok fun line _ => by rw [measure_ofConfig, map_ok], ok_bind]

theorem reading_ofConfig : (ofConfig config).reading mark lines answer = answer := by
  unfold reading
  rw [forM_eq_ok fun line _ => by rw [read_ofConfig, map_ok], ok_bind]

end Answers

theorem headings_ofConfig :
    (ofConfig config).headings mark lines = .ok (Convention.headings { mark, config } lines) :=
  reading_ofConfig _ _ _ _

theorem enclosing?_ofConfig : (ofConfig config).enclosing? mark lines number =
    .ok (Convention.enclosing? { mark, config } lines number) := by
  unfold enclosing?
  rw [readNearest_ofConfig]
  rfl

theorem subtreeEnd_ofConfig : (ofConfig config).subtreeEnd mark lines number =
    Convention.subtreeEnd { mark, config } lines number :=
  measuring_ofConfig _ _ _ _

theorem hasChildren_ofConfig : (ofConfig config).hasChildren mark lines number =
    Convention.hasChildren { mark, config } lines number :=
  measuring_ofConfig _ _ _ _

theorem isEmptyHeading_ofConfig : (ofConfig config).isEmptyHeading mark lines number =
    Convention.isEmptyHeading { mark, config } lines number :=
  measuring_ofConfig _ _ _ _

theorem sectionLast_ofConfig : (ofConfig config).sectionLast mark lines number =
    Convention.sectionLast { mark, config } lines number :=
  measuring_ofConfig _ _ _ _

theorem regions_ofConfig :
    (ofConfig config).regions mark lines = .ok (Convention.regions { mark, config } lines) := by
  unfold regions
  dsimp only
  rw [measuring_ofConfig]
  split <;> rfl

theorem glyphOf_ofConfig (level : Int) :
    (ofConfig config).glyphOf level = (bulletGlyph level config.bulletGlyphs).map .text := by
  have hglyphs : (ofConfig config).glyphs = .ok (config.bulletGlyphs.map .text) := rfl
  unfold glyphOf bulletGlyph
  rw [hglyphs, ok_bind, List.length_map, List.getElem?_map]
  cases config.bulletGlyphs[((level - 1) % config.bulletGlyphs.length).toNat]? <;> rfl

theorem written_faceOf_ofConfig (level : Int) :
    ((ofConfig config).faceOf level).written = displayFace level config.headingFace := by
  cases hface : config.headingFace with
  | none => simp [faceOf, ofConfig, hface, Value.ofText?, Value.isNull, Value.written]
  | some face => simp [faceOf, ofConfig, hface, Value.ofText?, Value.isNull, Value.written, displayFace]

theorem present_ofConfig (heading : Heading) :
    ((ofConfig config).present heading line).map Shown.decoration =
      decorate config heading line := by
  unfold present decorate
  rw [glyphOf_ofConfig]
  cases bulletGlyph heading.level config.bulletGlyphs with
  | error fault => rfl
  | ok glyph =>
      simp only [map_ok, ok_bind, pure_eq_ok, written_faceOf_ofConfig]
      rfl

/-- **What is shown for the headings is the decorations of the document.** -/
theorem shown_ofConfig : ((ofConfig config).shown mark lines).map (List.map Shown.decoration) =
    Convention.decorations { mark, config } lines := by
  have hfrom : ∀ number, ((ofConfig config).shownFrom mark number lines).map
      (List.map Shown.decoration) = Convention.decorationsFrom { mark, config } number lines := by
    induction lines with
    | nil => exact fun _ => rfl
    | cons line rest ih =>
        intro number
        rw [shownFrom, read_ofConfig, ok_bind, Convention.decorationsFrom]
        have hconvention : (ofConfig config).convention mark = { mark, config } := rfl
        rw [hconvention]
        cases Convention.readHeading? { mark, config } number line rest.head? with
        | none => exact ih (number + 1)
        | some heading =>
            dsimp only
            rw [← present_ofConfig, ← ih (number + 1)]
            cases (ofConfig config).present heading line with
            | error fault => rfl
            | ok first => cases (ofConfig config).shownFrom mark (number + 1) rest <;> rfl
  exact hfrom 0

end Draft

end SourceOutline
