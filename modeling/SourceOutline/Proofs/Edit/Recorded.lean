import SourceOutline.Proofs.Edit.Keyword

/-!
# Recorded times

A closed line records when the heading above it was finished. It should come with the keyword that
finishes a heading and go when the heading leaves that keyword, and no other change of keyword
should touch it (`settledLines`). Main statement: so it is, unless there are no keywords at all and
a closed line stands below the heading (`run_settles_iff`).
-/

namespace SourceOutline

namespace Document

/-- The lines of a document whose heading on line `n` has been given a keyword: the heading's line
is written anew, a keyword that finishes it puts a fresh closed line below it in place of an old
one, and leaving such a keyword takes the closed line away. All other lines stay. -/
def settledLines (d : Document) (config : Config) (conv : Convention) (n : Nat)
    (heading : Heading) (keyword : Option Text) (now : Moment) : List Text :=
  d.lines.take n ++
    (heading.indentation ++ repeatMark conv.mark heading.run ++
      keywordText keyword heading.title) ::
    if finishes config keyword then
      closedLine heading conv.mark now :: d.lines.drop (d.behindClosed conv n)
    else if finishes config heading.keyword then d.lines.drop (d.behindClosed conv n)
    else d.lines.drop (n + 1)

variable {d : Document} {config : Config} {conv : Convention} {n : Nat} {line : Text}
  {heading : Heading}

/-- The closed line is what lies between the line below a heading and what follows. -/
theorem drop_behindClosed_iff :
    d.lines.drop (d.behindClosed conv n) = d.lines.drop (n + 1) ↔
      d.closedBelow conv n = false := by
  unfold behindClosed
  cases hclosed : d.closedBelow conv n with
  | false => simp
  | true =>
      have hlt := closedBelow_lt hclosed
      rw [if_pos rfl]
      constructor
      · intro hsame
        have hlength := congrArg List.length hsame
        rw [List.length_drop, List.length_drop] at hlength
        omega
      · exact fun hopen => by cases hopen

theorem effectiveDoneKeyword_eq_none (valid : config.Valid) :
    config.effectiveDoneKeyword = none ↔ config.todoKeywords = [] := by
  unfold Config.effectiveDoneKeyword
  cases hdone : config.doneKeyword with
  | none => simp [Option.orElse]
  | some done =>
      have hmem := valid.doneKeyword_mem done hdone
      have hne : config.todoKeywords ≠ [] := List.ne_nil_of_mem hmem
      simp [Option.orElse, hne]

namespace AtHeading

variable (h : d.AtHeading config conv n line heading)
include h

/-- Where the written lines go on with the old ones, as it is and as it should be. -/
theorem lines_given_iff (valid : config.Valid) (keyword : Option Text) (now : Moment) :
    (d.replace n (d.keywordStop config conv n heading keyword)
      (keywordLines config conv line heading keyword now)).1.lines =
        d.settledLines config conv n heading keyword now ↔
      config.todoKeywords ≠ [] ∨ d.closedBelow conv n = false := by
  rw [h.lines_given]
  unfold settledLines keywordStop
  rw [List.append_cancel_left_eq, List.cons.injEq, and_iff_right rfl]
  by_cases hkeywords : config.todoKeywords = []
  · -- neither the old nor the new keyword finishes, yet both are the missing one
    have hdone := (effectiveDoneKeyword_eq_none valid).mpr hkeywords
    have hold : heading.keyword = none := by
      rw [Option.eq_none_iff_forall_not_mem]
      intro k hk
      have hmem := h.keyword_mem k hk
      rw [hkeywords] at hmem
      cases hmem
    have hunfinished : ∀ k, finishes config k = false := by
      intro k
      simp [finishes, hdone]
    simp only [hunfinished, hdone, hold, hkeywords]
    simpa using drop_behindClosed_iff
  · have hdone : config.effectiveDoneKeyword.isSome = true := by
      rw [Option.isSome_iff_ne_none, ne_eq, effectiveDoneKeyword_eq_none valid]
      exact hkeywords
    have hold : (heading.keyword == config.effectiveDoneKeyword) =
        finishes config heading.keyword := by
      rw [finishes, hdone, Bool.and_true]
    rw [hold]
    refine iff_of_true ?_ (Or.inl hkeywords)
    cases finishes config keyword with
    | true => rfl
    | false =>
        cases finishes config heading.keyword with
        | true => rfl
        | false => rfl

end AtHeading

end Document

namespace Session

variable {s : Session} {config : Config} {conv : Convention} {n : Nat} {line : Text}
  {heading : Heading} {command : Command}

/-- **Which closed lines a change of keyword touches.** A command that gives the heading at point a
keyword gets somewhere, and the lines are then as they should be when there are keywords or no
closed line stands below the heading, and not otherwise. -/
theorem run_settles_iff (valid : config.Valid)
    (h : s.document.AtHeading config conv n line heading)
    (habout : command.isAboutKeyword = true) :
    ((s.run config command).2 = .ok (.flag true) ↔
      ∃ keyword now, command.given? config heading.keyword = some (keyword, now)) ∧
    ∀ keyword now, command.given? config heading.keyword = some (keyword, now) →
      ((s.run config command).1.document.lines =
          s.document.settledLines config conv n heading keyword now ↔
        config.todoKeywords ≠ [] ∨ s.document.closedBelow conv n = false) := by
  refine ⟨run_given_iff valid h habout, fun keyword now hgiven => ?_⟩
  rw [(run_given valid h hgiven).2]
  exact h.lines_given_iff valid keyword now

/-- A heading is done, with two closed lines below it: a third one takes the place of the first. -/
theorem run_settles_iff_done :
    let s := create (Document.ofText
      "/// TODO A\n  // CLOSED: old\n  // CLOSED: older\ntext".toList
      (Language.named? "c".toList) none)
    let now : Moment := { year := 2024, month := 1, day := 2, hour := 10, minute := 30 }
    ∃ conv heading, Config.Valid {} ∧
      s.document.AtHeading {} conv 0 "/// TODO A".toList heading ∧
      (Command.cycleTodo 1 now).isAboutKeyword = true ∧
      (s.run {} (.cycleTodo 1 now)).2 = .ok (.flag true) ∧
      (s.run {} (.cycleTodo 1 now)).1.document.lines =
        ["/// DONE A".toList, "  // CLOSED: [2024-01-02 Tue 10:30]".toList,
          "  // CLOSED: older".toList, "text".toList] := by
  intro s now
  have valid : Config.Valid {} := Settings.valid_of_check (s := .defaults) rfl
  have h : s.document.AtHeading {} ⟨['/'], {}⟩ 0 "/// TODO A".toList
      { line := 0, indentation := [], run := 3, level := 1, keyword := some "TODO".toList,
        title := "A".toList, closed := none } := ⟨rfl, rfl, rfl, by decide⟩
  have habout : (Command.cycleTodo 1 now).isAboutKeyword = true := rfl
  obtain ⟨hanswer, hlines⟩ := run_settles_iff valid h habout
  refine ⟨_, _, valid, h, habout, hanswer.mpr ⟨_, _, rfl⟩, ?_⟩
  rw [(hlines _ _ rfl).mpr (Or.inl (by decide))]
  decide

/-- Without keywords, clearing the keyword that a heading does not have takes the closed line below
it away. -/
theorem run_setTodo_drops_closed :
    let config : Config := { todoKeywords := [] }
    let s := create (Document.ofText "/// A\n  // CLOSED: [2024-01-02 Tue 10:30]\ntext".toList
      (Language.named? "c".toList) none)
    let now : Moment := { year := 2024, month := 2, day := 3, hour := 9, minute := 0 }
    ∃ conv heading, config.Valid ∧ s.document.AtHeading config conv 0 "/// A".toList heading ∧
      (s.run config (.setTodo none now)).2 = .ok (.flag true) ∧
      (s.run config (.setTodo none now)).1.document.lines = ["/// A".toList, "text".toList] ∧
      ∀ rewritten, (s.run config (.setTodo none now)).1.document.lines ≠
        rewritten :: s.document.lines.drop 1 := by
  intro config s now
  have valid : Config.Valid { todoKeywords := [] } :=
    Settings.valid_of_check (s := .ofConfig { todoKeywords := [] }) rfl
  have hlines : (s.run config (.setTodo none now)).1.document.lines =
      ["/// A".toList, "text".toList] := by decide
  refine ⟨⟨['/'], config⟩,
    { line := 0, indentation := [], run := 3, level := 1, keyword := none, title := "A".toList,
      closed := some { year := 2024, month := 1, day := 2, hour := 10, minute := 30 } },
    valid, ⟨rfl, rfl, rfl, by decide⟩, rfl, hlines, ?_⟩
  intro rewritten hsame
  rw [hlines] at hsame
  have hrest : ["text".toList] = s.document.lines.drop 1 := congrArg List.tail hsame
  exact absurd hrest (by decide)

end Session

end SourceOutline
