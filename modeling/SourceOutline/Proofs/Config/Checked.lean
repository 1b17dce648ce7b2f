import SourceOutline.Config.Settings
import SourceOutline.Proofs.Outcome

/-!
# What the check of settings promises

`Settings.check` looks at the raw values one after another. Each of its examinations accepts exactly
the values that stand for what it gives, so that altogether the values of a valid configuration pass,
and nothing else does (`examine_eq_ok`, `check_eq_ok`). What is refused is refused for one of the
settings (`exists_setting_of_check_error`).
-/

namespace SourceOutline

def ConfigError.setting? : ConfigError → Option Setting
  | notInteger setting | notPositive setting => some setting
  | negativePadding => some .blockPadding
  | glyphsNotAList | glyphsNotSingle => some .bulletGlyphs
  | keywordsNotAList | keywordsNotWords | keywordsRepeated => some .todoKeywords
  | doneNotAKeyword => some .doneKeyword
  | unknownPolicy => some .blankLinePolicy
  | blockFilesMalformed => some .blockFiles
  | faceNotAText => some .headingFace
  | commentCharBlank => some .commentChar
  | unknownSettings _ | misaddressed | badTable .. => none

namespace Value

/-! ## Lists of texts -/

theorem tuple?_eq_some {v : Value} {items : List Value} :
    v.tuple? = some items ↔ v = .tuple items := by
  cases v <;> simp [tuple?]

theorem mapM_text?_eq_some {items : List Value} {ts : List Text} :
    items.mapM text? = some ts ↔ items = ts.map text := by
  induction items generalizing ts with
  | nil => cases ts <;> simp
  | cons item rest ih =>
      rw [List.mapM_cons]
      cases ts with
      | nil => cases item <;> simp [text?, Option.bind_eq_some_iff]
      | cons t ts =>
          cases item with
          | text first =>
              simp only [text?, Option.bind_eq_bind, Option.bind_eq_some_iff, Option.pure_def,
                Option.some.injEq, List.cons.injEq, List.map_cons, text.injEq, ih]
              constructor
              · rintro ⟨_, rfl, rest, rfl, rfl, rfl⟩
                exact ⟨rfl, rfl⟩
              · rintro ⟨rfl, rfl⟩
                exact ⟨_, rfl, _, rfl, rfl, rfl⟩
          | _ => simp [text?]

theorem mapM_text?_map (ts : List Text) : (ts.map text).mapM text? = some ts :=
  mapM_text?_eq_some.mpr rfl

end Value

namespace Settings

/-! ## Single examinations -/

section Examinations

variable {s : Settings} {key : Setting} {v : Value} {n : Int} {keywords : List Text}

theorem integer_eq_ok : s.integer key = .ok n ↔ s.value key = .int n := by
  unfold integer
  cases h : s.value key <;> simp [Value.int?]

theorem ensurePositive_eq_ok : ensurePositive key n = .ok () ↔ 1 ≤ n := by
  unfold ensurePositive
  split <;> simp <;> omega

theorem checkGlyphs_eq_ok {glyphs : List Text} :
    checkGlyphs v = .ok glyphs ↔
      v = .ofTexts glyphs ∧ glyphs ≠ [] ∧ ∀ glyph ∈ glyphs, glyph.length = 1 := by
  constructor
  · intro h
    unfold checkGlyphs at h
    split at h
    · cases h
    · cases h
    · rename_i items hne htuple
      split at h
      · cases h
      · rename_i texts htexts
        split at h
        · rename_i hall
          cases h
          obtain rfl := Value.tuple?_eq_some.mp htuple
          obtain rfl := Value.mapM_text?_eq_some.mp htexts
          refine ⟨rfl, ?_, fun glyph hg => by simpa using List.all_eq_true.mp hall glyph hg⟩
          rintro rfl
          exact hne rfl
        · cases h
  · rintro ⟨rfl, hne, hall⟩
    cases glyphs with
    | nil => exact absurd rfl hne
    | cons first rest =>
        have htuple : (Value.ofTexts (first :: rest)).tuple? =
            some (Value.text first :: rest.map Value.text) := rfl
        unfold checkGlyphs
        rw [htuple]
        dsimp only
        rw [← List.map_cons, Value.mapM_text?_map]
        exact if_pos (by simpa using hall)

theorem checkKeywords_eq_ok :
    checkKeywords v = .ok keywords ↔
      v = .ofTexts keywords ∧ (∀ keyword ∈ keywords, isCapitalWord keyword = true) ∧
        keywords.Nodup := by
  constructor
  · intro h
    unfold checkKeywords at h
    split at h
    · cases h
    · rename_i items htuple
      split at h
      · cases h
      · rename_i texts htexts
        split at h
        · cases h
        · rename_i hwords
          split at h
          · rename_i hnodup
            cases h
            obtain rfl := Value.tuple?_eq_some.mp htuple
            obtain rfl := Value.mapM_text?_eq_some.mp htexts
            exact ⟨rfl, by simpa using hwords, hnodup⟩
          · cases h
  · rintro ⟨rfl, hwords, hnodup⟩
    have hall : keywords.all isCapitalWord = true := List.all_eq_true.mpr hwords
    unfold checkKeywords
    dsimp only [Value.ofTexts, Value.tuple?]
    rw [Value.mapM_text?_map]
    simp [hall, hnodup]

theorem checkDone_eq_ok {done : Option Text} :
    checkDone keywords v = .ok done ↔
      v = .ofText? done ∧ ∀ keyword ∈ done, keyword ∈ keywords := by
  constructor
  · intro h
    unfold checkDone at h
    split at h
    · cases h
      exact ⟨rfl, fun keyword hk => by cases hk⟩
    · split at h
      · rename_i hmem
        cases h
        exact ⟨rfl, by simpa using hmem⟩
      · cases h
    · cases h
  · rintro ⟨rfl, hmem⟩
    cases done with
    | none => rfl
    | some keyword =>
        exact if_pos (List.contains_iff_mem.mpr (hmem keyword rfl))

theorem policy?_eq_some {policy : BlankLinePolicy} :
    policy? v = some policy ↔ v = ofPolicy policy := by
  constructor
  · intro h
    unfold policy? at h
    split at h
    · rename_i t
      repeat' split at h
      all_goals cases h
      all_goals
        rename_i ht
        rw [beq_iff_eq.mp ht]
        rfl
    · cases h
  · rintro rfl
    cases policy <;> rfl

theorem checkBlockFiles_eq_ok {filter : BlockFilter} :
    checkBlockFiles v = .ok filter ↔
      v = ofBlockFilter filter ∧ ∀ names, filter = .named names → ∀ name ∈ names, name ≠ [] := by
  constructor
  · intro h
    unfold checkBlockFiles at h
    split at h
    · split at h
      · rename_i hall
        cases h
        exact ⟨by rw [beq_iff_eq.mp hall]; rfl, fun names hn => by cases hn⟩
      · cases h
    · split at h
      · rename_i names hnames
        split at h
        · rename_i hall
          cases h
          obtain ⟨items, htuple, htexts⟩ := Option.bind_eq_some_iff.mp hnames
          obtain rfl := Value.tuple?_eq_some.mp htuple
          obtain rfl := Value.mapM_text?_eq_some.mp htexts
          refine ⟨rfl, fun names hn name hmem => ?_⟩
          cases hn
          simpa using List.all_eq_true.mp hall name hmem
        · cases h
      · cases h
  · rintro ⟨rfl, hnamed⟩
    cases filter with
    | all => rfl
    | named names =>
        have hall : names.all (fun name => !name.isEmpty) = true := by
          simpa using hnamed names rfl
        have htexts : ((ofBlockFilter (.named names)).tuple?.bind (·.mapM Value.text?)) =
            some names := Value.mapM_text?_map names
        unfold checkBlockFiles
        dsimp only [ofBlockFilter, Value.ofTexts] at htexts ⊢
        rw [htexts]
        exact if_pos hall

theorem checkFace_eq_ok {face : Option Text} : checkFace v = .ok face ↔ v = .ofText? face := by
  unfold checkFace
  cases face <;> cases v <;> simp [Value.ofText?]

theorem checkCommentChar_eq_ok {mark : Option Text} :
    checkCommentChar v = .ok mark ↔ v = .ofText? mark ∧ ∀ t ∈ mark, t.isBlankText = false := by
  constructor
  · intro h
    unfold checkCommentChar at h
    split at h
    · cases h
      exact ⟨rfl, fun t ht => by cases ht⟩
    · split at h
      · cases h
      · rename_i hblank
        cases h
        exact ⟨rfl, by simpa using hblank⟩
    · cases h
  · rintro ⟨rfl, hvisible⟩
    cases mark with
    | none => rfl
    | some t => exact if_neg (by simp [hvisible t rfl])

end Examinations

/-! ## The whole check -/

theorem ofConfig_eq {s : Settings} {c : Config}
    (h : ∀ key, s.value key = (ofConfig c).value key) : s = ofConfig c :=
  congrArg Settings.mk (funext h)

/-- **What is examined passes exactly when it is the values of a valid configuration.** -/
theorem examine_eq_ok {s : Settings} {c : Config} : s.examine = .ok c ↔ s = ofConfig c ∧ c.Valid := by
  constructor
  · intro h
    unfold examine at h
    obtain ⟨baseLevel, hbase, h⟩ := bind_eq_ok.mp h
    obtain ⟨blockPadding, hpadding, h⟩ := bind_eq_ok.mp h
    obtain ⟨maxFileSize, hsize, h⟩ := bind_eq_ok.mp h
    obtain ⟨⟨⟩, hbasePos, h⟩ := bind_eq_ok.mp h
    obtain ⟨⟨⟩, hsizePos, h⟩ := bind_eq_ok.mp h
    dsimp only at h
    by_cases hneg : blockPadding < 0
    · rw [if_pos hneg] at h
      cases h
    rw [if_neg hneg] at h
    obtain ⟨glyphs, hglyphs, h⟩ := bind_eq_ok.mp h
    obtain ⟨keywords, hkeywords, h⟩ := bind_eq_ok.mp h
    obtain ⟨done, hdone, h⟩ := bind_eq_ok.mp h
    cases hpolicy : policy? (s.value .blankLinePolicy) with
    | none =>
        rw [hpolicy] at h
        cases h
    | some policy =>
        rw [hpolicy] at h
        obtain ⟨blockFiles, hfiles, h⟩ := bind_eq_ok.mp h
        obtain ⟨face, hface, h⟩ := bind_eq_ok.mp h
        obtain ⟨mark, hmark, h⟩ := bind_eq_ok.mp h
        cases h
        obtain ⟨hglyphs, hne, hsingle⟩ := checkGlyphs_eq_ok.mp hglyphs
        obtain ⟨hkeywords, hwords, hnodup⟩ := checkKeywords_eq_ok.mp hkeywords
        obtain ⟨hdone, hmem⟩ := checkDone_eq_ok.mp hdone
        obtain ⟨hfiles, hnamed⟩ := checkBlockFiles_eq_ok.mp hfiles
        obtain ⟨hmark, hvisible⟩ := checkCommentChar_eq_ok.mp hmark
        refine ⟨ofConfig_eq fun key => ?_, ?_⟩
        · cases key with
          | baseLevel => exact integer_eq_ok.mp hbase
          | commentChar => exact hmark
          | bulletGlyphs => exact hglyphs
          | headingFace => exact checkFace_eq_ok.mp hface
          | blockPadding => exact integer_eq_ok.mp hpadding
          | blockFiles => exact hfiles
          | todoKeywords => exact hkeywords
          | doneKeyword => exact hdone
          | blankLinePolicy => exact policy?_eq_some.mp hpolicy
          | maxFileSize => exact integer_eq_ok.mp hsize
        · exact
            { baseLevel_pos := ensurePositive_eq_ok.mp hbasePos
              blockPadding_nonneg := Int.not_lt.mp hneg
              maxFileSize_pos := ensurePositive_eq_ok.mp hsizePos
              bulletGlyphs_ne_nil := hne
              bulletGlyphs_single := hsingle
              todoKeywords_words := hwords
              todoKeywords_nodup := hnodup
              doneKeyword_mem := hmem
              blockFiles_named := hnamed
              commentChar_visible := hvisible }
  · rintro ⟨rfl, valid⟩
    have hbase : (ofConfig c).integer .baseLevel = .ok c.baseLevel := rfl
    have hpadding : (ofConfig c).integer .blockPadding = .ok c.blockPadding := rfl
    have hsize : (ofConfig c).integer .maxFileSize = .ok c.maxFileSize := rfl
    have hglyphs := checkGlyphs_eq_ok.mpr
      ⟨rfl, valid.bulletGlyphs_ne_nil, valid.bulletGlyphs_single⟩
    have hkeywords := checkKeywords_eq_ok.mpr
      ⟨rfl, valid.todoKeywords_words, valid.todoKeywords_nodup⟩
    have hdone := checkDone_eq_ok.mpr ⟨rfl, valid.doneKeyword_mem⟩
    have hpolicy : policy? (ofPolicy c.blankLinePolicy) = some c.blankLinePolicy :=
      policy?_eq_some.mpr rfl
    have hfiles := checkBlockFiles_eq_ok.mpr ⟨rfl, valid.blockFiles_named⟩
    have hface : checkFace (.ofText? c.headingFace) = .ok c.headingFace :=
      checkFace_eq_ok.mpr rfl
    have hmark := checkCommentChar_eq_ok.mpr ⟨rfl, valid.commentChar_visible⟩
    unfold examine
    rw [hbase, ok_bind, hpadding, ok_bind, hsize, ok_bind,
      ensurePositive_eq_ok.mpr valid.baseLevel_pos, ok_bind,
      ensurePositive_eq_ok.mpr valid.maxFileSize_pos, ok_bind]
    dsimp only [ofConfig]
    rw [if_neg (Int.not_lt.mpr valid.blockPadding_nonneg), hglyphs, ok_bind, hkeywords, ok_bind,
      hdone, ok_bind, hpolicy]
    dsimp only
    rw [hfiles, ok_bind, hface, ok_bind, hmark, ok_bind]
    rfl

/-! ## Lists that are kept from changes -/

/-- No value of a configuration is a list that could still be changed. -/
theorem ofConfig_ne_list (c : Config) (key : Setting) (items : List Value) :
    (ofConfig c).value key ≠ .list items := by
  cases key with
  | commentChar =>
      show Value.ofText? c.commentChar ≠ _
      cases c.commentChar <;> simp [Value.ofText?]
  | headingFace =>
      show Value.ofText? c.headingFace ≠ _
      cases c.headingFace <;> simp [Value.ofText?]
  | doneKeyword =>
      show Value.ofText? c.doneKeyword ≠ _
      cases c.doneKeyword <;> simp [Value.ofText?]
  | blockFiles =>
      show ofBlockFilter c.blockFiles ≠ _
      cases c.blockFiles <;> simp [ofBlockFilter, Value.ofTexts]
  | blankLinePolicy =>
      show ofPolicy c.blankLinePolicy ≠ _
      cases c.blankLinePolicy <;> simp [ofPolicy]
  | _ => simp [ofConfig, Value.ofTexts]

/-- **Settings pass the check exactly when, with their lists kept from changes, they are the values of
a valid configuration.** -/
theorem check_eq_ok {s : Settings} {c : Config} :
    s.check = .ok c ↔ s.normalize = ofConfig c ∧ c.Valid :=
  examine_eq_ok

theorem valid_of_check {s : Settings} {c : Config} (h : s.check = .ok c) : c.Valid :=
  (check_eq_ok.mp h).2

/-! ## Refusals -/

section Refusals

variable {v : Value} {e : ConfigError}

theorem integer_error {s : Settings} {key : Setting} (h : s.integer key = .error e) :
    e.setting? = some key := by
  unfold integer at h
  split at h
  · cases h
  · cases h
    rfl

theorem ensurePositive_error {key : Setting} {n : Int} (h : ensurePositive key n = .error e) :
    e.setting? = some key := by
  unfold ensurePositive at h
  split at h
  · cases h
    rfl
  · cases h

theorem checkGlyphs_error (h : checkGlyphs v = .error e) : e.setting? = some .bulletGlyphs := by
  unfold checkGlyphs at h
  repeat' split at h
  all_goals
    cases h
  all_goals rfl

theorem checkKeywords_error (h : checkKeywords v = .error e) :
    e.setting? = some .todoKeywords := by
  unfold checkKeywords at h
  repeat' split at h
  all_goals
    cases h
  all_goals rfl

theorem checkDone_error {keywords : List Text} (h : checkDone keywords v = .error e) :
    e.setting? = some .doneKeyword := by
  unfold checkDone at h
  repeat' split at h
  all_goals
    cases h
  all_goals rfl

theorem checkBlockFiles_error (h : checkBlockFiles v = .error e) :
    e.setting? = some .blockFiles := by
  unfold checkBlockFiles at h
  repeat' split at h
  all_goals
    cases h
  all_goals rfl

theorem checkFace_error (h : checkFace v = .error e) : e.setting? = some .headingFace := by
  unfold checkFace at h
  repeat' split at h
  all_goals
    cases h
  all_goals rfl

theorem checkCommentChar_error (h : checkCommentChar v = .error e) :
    e.setting? = some .commentChar := by
  unfold checkCommentChar at h
  repeat' split at h
  all_goals
    cases h
  all_goals rfl

end Refusals

/-- **Whatever the check refuses, it names the setting.** -/
theorem exists_setting_of_check_error {s : Settings} {e : ConfigError} (h : s.check = .error e) :
    ∃ setting, e.setting? = some setting := by
  unfold check examine at h
  rcases bind_eq_error.mp h with h | ⟨_, -, h⟩
  · exact ⟨_, integer_error h⟩
  rcases bind_eq_error.mp h with h | ⟨blockPadding, -, h⟩
  · exact ⟨_, integer_error h⟩
  rcases bind_eq_error.mp h with h | ⟨_, -, h⟩
  · exact ⟨_, integer_error h⟩
  rcases bind_eq_error.mp h with h | ⟨_, -, h⟩
  · exact ⟨_, ensurePositive_error h⟩
  rcases bind_eq_error.mp h with h | ⟨_, -, h⟩
  · exact ⟨_, ensurePositive_error h⟩
  dsimp only at h
  by_cases hneg : blockPadding < 0
  · rw [if_pos hneg] at h
    cases h
    exact ⟨_, rfl⟩
  rw [if_neg hneg] at h
  rcases bind_eq_error.mp h with h | ⟨_, -, h⟩
  · exact ⟨_, checkGlyphs_error h⟩
  rcases bind_eq_error.mp h with h | ⟨_, -, h⟩
  · exact ⟨_, checkKeywords_error h⟩
  rcases bind_eq_error.mp h with h | ⟨_, -, h⟩
  · exact ⟨_, checkDone_error h⟩
  split at h
  · rcases bind_eq_error.mp h with h | ⟨_, -, h⟩
    · exact ⟨_, checkBlockFiles_error h⟩
    rcases bind_eq_error.mp h with h | ⟨_, -, h⟩
    · exact ⟨_, checkFace_error h⟩
    rcases bind_eq_error.mp h with h | ⟨_, -, h⟩
    · exact ⟨_, checkCommentChar_error h⟩
    cases h
  · cases h
    exact ⟨_, rfl⟩

/-! ## Changes by name -/

/-- A value of the changed settings is the old one or one that the changes give. -/
theorem setNamed?_value {changes : List (Text × Value)} {s changed : Settings}
    (h : s.setNamed? changes = some changed) (key : Setting) :
    changed.value key = s.value key ∨ ∃ change ∈ changes, changed.value key = change.2 := by
  induction changes generalizing s with
  | nil =>
      cases h
      exact Or.inl rfl
  | cons change rest ih =>
      obtain ⟨name, v⟩ := change
      simp only [setNamed?, Option.bind_eq_bind, Option.bind_eq_some_iff] at h
      obtain ⟨named, -, h⟩ := h
      rcases ih h with hkept | ⟨given, hmem, hgiven⟩
      · rw [hkept]
        by_cases hkey : key = named
        · exact Or.inr ⟨(name, v), by simp, by simp [set, hkey]⟩
        · exact Or.inl (by simp [set, hkey])
      · exact Or.inr ⟨given, List.mem_cons_of_mem _ hmem, hgiven⟩

theorem override?_isNull {changes : List (Text × Value)} {s changed : Settings} {key : Setting}
    (h : s.override? changes = some changed) (hs : (s.value key).isNull = false) :
    (changed.value key).isNull = false := by
  unfold override? at h
  split at h
  · cases h
  · rcases setNamed?_value h key with hkept | ⟨change, hmem, hgiven⟩
    · rw [hkept]
      exact hs
    · rw [hgiven]
      simpa using (List.mem_filter.mp hmem).2

end Settings

end SourceOutline
