import SourceOutline.Proofs.Edit.ReadBack
import SourceOutline.Proofs.Moment

/-!
# Recorded times that are read back

A closed line holds the stamp of a moment, in which nothing beyond the minute is written. Main
statement: from the year 1000 on, the moment is read back to the minute from the closed line of any
heading, whatever the comment character is, and a heading that a command has finished is read with
the time of that command (`run_given_closed`).
-/

namespace SourceOutline

namespace Heading

variable {heading : Heading} {mark : Char} {now : Moment}

/-- The first stamp in a closed line is the one that is written there: a comment character that is a
bracket opens none. -/
theorem findStamp?_closedLine (hindent : ∀ c ∈ heading.indentation, isIndenting c = true)
    (now : Moment) :
    Moment.findStamp? (closedLine heading [mark] now) = Moment.findStamp? now.stamp := by
  have hrun : repeatMark [mark] 2 = [mark, mark] := rfl
  have hline : closedLine heading [mark] now = (heading.indentation ++ closedIndentation) ++
      mark :: mark :: ' ' :: ((closedLabel ++ [' ']) ++ now.stamp) := by
    simp [closedLine, hrun]
  have hfront : '[' ∉ heading.indentation ++ closedIndentation := by
    rw [List.mem_append, not_or]
    refine ⟨fun hmem => ?_, by decide⟩
    cases hindent '[' hmem
  have hmark : mark = '[' → isDigit mark = false := by
    rintro rfl
    decide
  have hlabel : '[' ∉ ' ' :: (closedLabel ++ [' ']) := by decide
  rw [hline, Moment.findStamp?_append hfront, Moment.findStamp?_cons_cons hmark,
    Moment.findStamp?_cons_cons fun _ => by decide]
  exact Moment.findStamp?_append hlabel now.stamp

/-- **The moment is read back from a closed line**, to the minute. -/
theorem closedMoment?_closedLine (hindent : ∀ c ∈ heading.indentation, isIndenting c = true)
    (hmark : isIndenting mark = false) (real : now.IsReal) (hyear : 1000 ≤ now.year) :
    closedMoment? [mark] (closedLine heading [mark] now) = some now.truncated := by
  unfold closedMoment? Moment.ofStamp?
  rw [if_pos (heading.isClosedLine_closedLine hindent hmark now), findStamp?_closedLine hindent,
    Moment.findStamp?_stamp real hyear]
  exact Moment.moment?_stampDigits real hyear

end Heading

namespace Document

/-- A keyword that finishes headings is a configured one. -/
theorem exists_keyword_of_finishes {config : Config} (valid : config.Valid) {keyword : Option Text}
    (h : finishes config keyword = true) : ∃ k ∈ config.todoKeywords, keyword = some k := by
  obtain ⟨k, hkeyword, hk⟩ := exists_of_finishes h
  refine ⟨k, ?_, hkeyword⟩
  unfold Config.effectiveDoneKeyword at hk
  cases hdone : config.doneKeyword with
  | none =>
      rw [hdone] at hk
      exact List.mem_of_getLast? hk
  | some done =>
      rw [hdone] at hk
      cases hk
      exact valid.doneKeyword_mem _ hdone

namespace AtHeading

variable {d : Document} {config : Config} {conv : Convention} {n : Nat} {line : Text}
  {heading : Heading} {keyword : Option Text} {now : Moment}
  (h : d.AtHeading config conv n line heading)
include h

theorem get_closed (hfinishes : finishes config keyword = true) (now : Moment) :
    (d.replace n (d.keywordStop config conv n heading keyword)
      (keywordLines config conv line heading keyword now)).1.lines[n + 1]? =
    some (closedLine heading conv.mark now) := by
  have hlength := h.length_take
  rw [h.lines_given, List.getElem?_append_right (by omega), hlength, Nat.add_sub_cancel_left,
    List.getElem?_cons_succ, hfinishes]
  rfl

/-- **A heading that has been finished is read with the time**, and otherwise as before but for its
keyword. -/
theorem headingAtPoint_finished (valid : config.Valid) (hfinishes : finishes config keyword = true)
    (real : now.IsReal) (hyear : 1000 ≤ now.year) :
    (d.replace n (d.keywordStop config conv n heading keyword)
      (keywordLines config conv line heading keyword now)).1.headingAtPoint config =
    .ok (conv, some { heading with keyword, closed := some now.truncated }) := by
  obtain ⟨k, hmem, rfl⟩ := exists_keyword_of_finishes valid hfinishes
  obtain ⟨mark, hmark, -, -, hparts⟩ := h.readFrom.exists_written
  have hkeyword : ∀ other ∈ some k, other ∈ config.todoKeywords := by
    rintro other hother
    cases hother
    exact hmem
  have hget := h.get_given (some k) now
  have hclosed := h.get_closed hfinishes now
  have hpoint := h.point_given (some k) now
  obtain ⟨closed, hread⟩ := (h.headingAtPoint_given_iff valid hkeyword now).mpr (Or.inl rfl)
  generalize hafter : (d.replace n (d.keywordStop config conv n heading (some k))
    (keywordLines config conv line heading (some k) now)).1 = after at hget hclosed hpoint hread ⊢
  have hconv : after.convention config = .ok conv := by
    rw [← h.convention, ← hafter]
    exact convention_congr rfl config
  -- the time that is read comes from the line below
  have hheading := headingAtPoint_of_get hconv hpoint hget
  rw [hread] at hheading
  have hbelow := Convention.closed_of_readHeading?
    (Prod.ext_iff.mp (Except.ok.inj hheading)).2.symm
  rw [hclosed, hmark, Option.bind_some,
    Heading.closedMoment?_closedLine hparts.indenting hparts.visible real hyear] at hbelow
  rw [hread, ← hbelow]

end AtHeading

end Document

namespace Session

open Document

variable {s : Session} {config : Config} {conv : Convention} {n : Nat} {line : Text}
  {heading : Heading} {command : Command} {keyword : Option Text}

/-- **A recorded time reads back exactly**, from the year 1000 on. From the closed line that is
written for a heading, with any comment character, the moment is read again, truncated to the minute,
and no settings make a heading of that line. A command that gives the heading at point the keyword that finishes it gets
somewhere, and then the heading at point is read with the time of the command. -/
theorem run_given_closed (valid : config.Valid) {now : Moment} (real : now.IsReal)
    (hyear : 1000 ≤ now.year) :
    (∀ (conv : Convention) (lines : List Text) (number : Int) (heading : Heading),
      conv.headingAt lines number = .ok (some heading) →
      ∀ mark, isIndenting mark = false →
        closedMoment? [mark] (closedLine heading [mark] now) = some now.truncated ∧
        ∀ settings, Convention.level? ⟨[mark], settings⟩ (closedLine heading [mark] now) = none) ∧
    ∀ (s : Session) (conv : Convention) (n : Nat) (line : Text) (heading : Heading)
      (command : Command) (keyword : Option Text),
      s.document.AtHeading config conv n line heading →
      command.given? config heading.keyword = some (keyword, now) →
      finishes config keyword = true →
      (s.run config command).2 = .ok (.flag true) ∧
        (s.run config command).1.document.headingAtPoint config =
          .ok (conv, some { heading with keyword, closed := some now.truncated }) := by
  constructor
  · intro conv lines number heading hread mark hmark
    obtain ⟨line, hfrom⟩ := Convention.readFrom_of_headingAt hread
    refine ⟨Heading.closedMoment?_closedLine hfrom.indenting hmark real hyear, fun settings => ?_⟩
    exact Convention.level?_of_isClosed (heading.isClosedLine_closedLine hfrom.indenting hmark now)
  · intro s conv n line heading command keyword h hgiven hfinishes
    obtain ⟨hanswer, hdocument⟩ := run_given valid h hgiven
    refine ⟨hanswer, ?_⟩
    rw [hdocument]
    exact h.headingAtPoint_finished valid hfinishes real hyear

/-- The comment character is a bracket, and a heading is finished on a leap day. -/
theorem run_given_closed_bracket :
    let language : Language :=
      { name := "bracket".toList, classes := [(['['], "comment-start".toList)] }
    let s := create (Document.ofText "\t[[[ TODO A".toList (some language) none)
    let conv : Convention := ⟨['['], {}⟩
    let heading : Heading :=
      { line := 0, indentation := "\t".toList, run := 3, level := 1, keyword := some "TODO".toList,
        title := "A".toList, closed := none }
    let now : Moment := { year := 2024, month := 2, day := 29, hour := 23, minute := 5, second := 59 }
    let minute : Moment := { year := 2024, month := 2, day := 29, hour := 23, minute := 5 }
    let after := (s.run {} (.setTodo (some "DONE".toList) now)).1.document
    Config.Valid {} ∧ now.IsReal ∧ 1000 ≤ now.year ∧
      conv.headingAt s.document.lines 0 = .ok (some heading) ∧ isIndenting '[' = false ∧
      closedMoment? ['['] (closedLine heading ['['] now) = some minute ∧
      s.document.AtHeading {} conv 0 "\t[[[ TODO A".toList heading ∧
      (Command.setTodo (some "DONE".toList) now).given? {} heading.keyword =
        some (some "DONE".toList, now) ∧ finishes {} (some "DONE".toList) = true ∧
      after.lines = ["\t[[[ DONE A".toList, "\t  [[ CLOSED: [2024-02-29 Thu 23:05]".toList] ∧
      after.headingAtPoint {} = .ok (conv, some
        { heading with keyword := some "DONE".toList, closed := some minute }) := by
  intro language s conv heading now minute after
  have valid : Config.Valid {} := Settings.valid_of_check (s := .defaults) rfl
  have real : now.IsReal := by decide
  have hread : conv.headingAt s.document.lines 0 = .ok (some heading) := by decide
  have h : s.document.AtHeading {} conv 0 "\t[[[ TODO A".toList heading :=
    ⟨rfl, rfl, rfl, by decide⟩
  obtain ⟨hwritten, hfinished⟩ := run_given_closed valid real (by decide)
  obtain ⟨-, hafter⟩ := hfinished s conv 0 _ heading (.setTodo (some "DONE".toList) now) _ h rfl
    (by decide)
  exact ⟨valid, real, by decide, hread, by decide,
    (hwritten conv s.document.lines 0 heading hread '[' (by decide)).1, h, rfl, by decide,
    by decide, hafter⟩

end Session

end SourceOutline
