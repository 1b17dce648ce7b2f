import SourceOutline.Proofs.Edit.Keyword

/-!
# Reading a keyword back

Setting the keyword of a heading writes its line anew, and the next command reads the heading from
that line. Main statement: the heading is read as before with the keyword that was set, unless the
keyword was cleared and the title alone reads as something else (`run_setTodo_reads_iff`).
-/

namespace SourceOutline

theorem isIndenting_of_head_keywordText {keyword : Option Text} {title : Text} :
    ∀ c ∈ (keywordText keyword title).head?, isIndenting c = true := by
  unfold keywordText
  cases keyword.getD [] with
  | nil => exact isIndenting_of_head_spaced title
  | cons k word =>
      intro c hc
      cases hc
      rfl

namespace Document.AtHeading

variable {d : Document} {config : Config} {conv : Convention} {n : Nat} {line : Text}
  {heading : Heading} (h : d.AtHeading config conv n line heading)
include h

/-- How the line of a heading is read when the heading has been given a keyword. -/
theorem headingAtPoint_given (keyword : Option Text) (now : Moment) :
    ∃ closed, (d.replace n (d.keywordStop config conv n heading keyword)
        (keywordLines config conv line heading keyword now)).1.headingAtPoint config =
      .ok (conv,
        if heading.run = 2 ∧ closedLabel <+: (keywordText keyword heading.title).unindent then none
        else some
          { heading with
            keyword := (splitKeyword config.todoKeywords (keywordText keyword heading.title)).1
            title := (splitKeyword config.todoKeywords (keywordText keyword heading.title)).2
            closed }) := by
  obtain ⟨mark, hmark, -, -, hparts⟩ := h.readFrom.exists_written
  have hget := h.get_given keyword now
  have hpoint := h.point_given keyword now
  rw [hmark, ← openingOf] at hget
  generalize hafter : (d.replace n (d.keywordStop config conv n heading keyword)
    (keywordLines config conv line heading keyword now)).1 = after at hget hpoint ⊢
  have hconv : after.convention config = .ok conv := by
    rw [← h.convention, ← hafter]
    exact convention_congr rfl config
  have hwritten : Separable heading.indentation mark heading.run
      (keywordText keyword heading.title) := by
    refine ⟨hparts.indenting, hparts.visible, hparts.run_pos, ?_⟩
    rintro c hc rfl
    have hindenting := isIndenting_of_head_keywordText c hc
    rw [hparts.visible] at hindenting
    cases hindenting
  have hbase : conv.config.baseLevel ≤ heading.run := by
    have hlevel := h.readFrom.level_pos
    have hrun := h.readFrom.level_eq_run
    omega
  refine ⟨after.lines[n + 1]?.bind (closedMoment? conv.mark), ?_⟩
  rw [headingAtPoint_of_get hconv hpoint hget, Convention.readHeading?_written hmark hwritten hbase,
    h.config_eq]
  refine congrArg (fun read => Except.ok (conv, read)) (ite_congr rfl (fun _ => rfl) fun _ => ?_)
  have hlevel := h.readFrom.level_eq_run
  have hline := h.readFrom.line_eq
  rw [h.config_eq] at hlevel
  rw [← hlevel, ← hline]

/-- When the heading is read as it was, with the keyword that it was given. -/
theorem headingAtPoint_given_iff (valid : config.Valid) {keyword : Option Text}
    (hkeyword : ∀ k ∈ keyword, k ∈ config.todoKeywords) (now : Moment) :
    (∃ closed, (d.replace n (d.keywordStop config conv n heading keyword)
        (keywordLines config conv line heading keyword now)).1.headingAtPoint config =
          .ok (conv, some { heading with keyword, closed })) ↔
      keyword.isSome ∨ (¬OpensWith config.todoKeywords heading.title ∧
        ¬(heading.run = 2 ∧ closedLabel <+: heading.title)) := by
  obtain ⟨closed, hread⟩ := h.headingAtPoint_given keyword now
  rw [hread]
  cases keyword with
  | some k =>
      have hmem := hkeyword k rfl
      have hword := valid.todoKeywords_words k hmem
      rw [if_neg (fun hlabel => not_closedLabel_prefix hword heading.title hlabel.2),
        splitKeyword_keywordText hmem hword h.title_trim]
      exact iff_of_true ⟨closed, rfl⟩ (Or.inl rfl)
  | none =>
      have htitle : (keywordText none heading.title).unindent = heading.title :=
        unindent_spaced h.title_trim
      rw [htitle, ← splitKeyword_title h.title_trim valid.todoKeywords_words]
      by_cases hlabel : heading.run = 2 ∧ closedLabel <+: heading.title
      · simp [hlabel]
      · rw [if_neg hlabel]
        constructor
        · rintro ⟨other, hsame⟩
          have hheading := Option.some.inj (Prod.ext_iff.mp (Except.ok.inj hsame)).2
          refine Or.inr ⟨Prod.ext ?_ ?_, hlabel⟩
          · exact congrArg Heading.keyword hheading
          · exact congrArg Heading.title hheading
        · rintro (hsome | ⟨hsplit, -⟩)
          · cases hsome
          · rw [hsplit]
            exact ⟨closed, rfl⟩

end Document.AtHeading

namespace Session

variable {s : Session} {config : Config} {conv : Convention} {n : Nat} {line : Text}
  {heading : Heading} {keyword : Option Text}

/-- **When a keyword that is set is read back.** Setting the keyword of the heading at point to a
configured one, or to none, gets somewhere. The heading is then read with that keyword and otherwise
as before when a keyword was set, or when the title does not open with a keyword and makes no closed
line of a run of two; and not otherwise. -/
theorem run_setTodo_reads_iff (valid : config.Valid)
    (h : s.document.AtHeading config conv n line heading)
    (hkeyword : ∀ k ∈ keyword, k ∈ config.todoKeywords) (now : Moment) :
    (s.run config (.setTodo keyword now)).2 = .ok (.flag true) ∧
      ((∃ closed, (s.run config (.setTodo keyword now)).1.document.headingAtPoint config =
          .ok (conv, some { heading with keyword, closed })) ↔
        keyword.isSome ∨ (¬OpensWith config.todoKeywords heading.title ∧
          ¬(heading.run = 2 ∧ closedLabel <+: heading.title))) := by
  obtain ⟨hanswer, hdocument⟩ :=
    run_given valid h (Command.given?_setTodo valid hkeyword heading.keyword now)
  refine ⟨hanswer, ?_⟩
  rw [hdocument]
  exact h.headingAtPoint_given_iff valid hkeyword now

/-- A heading without a title, for which a run of two is enough, is done. -/
theorem run_setTodo_reads_iff_done :
    let config : Config := { baseLevel := 2 }
    let s := create (Document.ofText "  //\ntext".toList (Language.named? "c".toList) none)
    let now : Moment := { year := 2024, month := 1, day := 2, hour := 10, minute := 30 }
    ∃ conv heading, config.Valid ∧ s.document.AtHeading config conv 0 "  //".toList heading ∧
      (∀ k ∈ some "DONE".toList, k ∈ config.todoKeywords) ∧
      ∃ closed,
        (s.run config (.setTodo (some "DONE".toList) now)).1.document.headingAtPoint config =
        .ok (conv, some { heading with keyword := some "DONE".toList, closed }) := by
  intro config s now
  have valid : Config.Valid { baseLevel := 2 } :=
    Settings.valid_of_check (s := .ofConfig { baseLevel := 2 }) rfl
  have h : s.document.AtHeading config ⟨['/'], config⟩ 0 "  //".toList
      { line := 0, indentation := "  ".toList, run := 2, level := 1, keyword := none, title := [],
        closed := none } := ⟨rfl, rfl, rfl, by decide⟩
  have hkeyword : ∀ k ∈ some "DONE".toList, k ∈ config.todoKeywords := by
    rintro k hk
    cases hk
    decide
  exact ⟨_, _, valid, h, hkeyword,
    (run_setTodo_reads_iff valid h hkeyword now).2.mpr (Or.inl rfl)⟩

/-- A heading whose title opens with a keyword has that keyword when its own is cleared. -/
theorem run_setTodo_reads_other :
    let s := create (Document.ofText "/// TODO DONE x".toList (Language.named? "c".toList) none)
    let now : Moment := { year := 2024, month := 1, day := 2, hour := 10, minute := 30 }
    ∃ conv heading, Config.Valid {} ∧
      s.document.AtHeading {} conv 0 "/// TODO DONE x".toList heading ∧
      (s.run {} (.setTodo none now)).2 = .ok (.flag true) ∧
      (s.run {} (.setTodo none now)).1.document.headingAtPoint {} =
        .ok (conv, some { heading with keyword := some "DONE".toList, title := "x".toList }) ∧
      ¬∃ closed, (s.run {} (.setTodo none now)).1.document.headingAtPoint {} =
        .ok (conv, some { heading with keyword := none, closed }) := by
  intro s now
  have valid : Config.Valid {} := Settings.valid_of_check (s := .defaults) rfl
  have hread : (s.run {} (.setTodo none now)).1.document.headingAtPoint {} =
      .ok (⟨['/'], {}⟩, some
        { line := 0, indentation := [], run := 3, level := 1, keyword := some "DONE".toList,
          title := "x".toList, closed := none }) := by decide
  refine ⟨_,
    { line := 0, indentation := [], run := 3, level := 1, keyword := some "TODO".toList,
      title := "DONE x".toList, closed := none },
    valid, ⟨rfl, rfl, rfl, by decide⟩, rfl, hread, ?_⟩
  rw [hread]
  rintro ⟨closed, hsame⟩
  have hkeyword := congrArg Heading.keyword
    (Option.some.inj (Prod.ext_iff.mp (Except.ok.inj hsame)).2)
  cases hkeyword

end Session

end SourceOutline
