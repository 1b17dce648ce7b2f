import SourceOutline.Proofs.Edit.Atomic
import SourceOutline.Proofs.Heading.Written

/-!
# Giving a heading a keyword

Setting a keyword and moving on to the next one come to the same: unless the command refuses
(`Command.given?`), the line of the heading at point is written anew and the lines below it that
record a time may go or come. Here is what the new line consists of (`keywordLine_eq`) and what
becomes of the document (`run_given`).
-/

namespace SourceOutline

/-- The keyword that a command gives to a heading that has `old`, and the time of the command.
Nothing is given by a command that refuses or is about something else. -/
def Command.given? (config : Config) (old : Option Text) : Command → Option (Option Text × Moment)
  | cycleTodo direction now =>
      if config.todoKeywords = [] then none
      else some (Document.nextKeyword config.todoKeywords (0 ≤ direction) old, now)
  | setTodo keyword now =>
      match keyword.filter fun k => !k.isEmpty with
      | none => some (none, now)
      | some k => if k ∈ config.todoKeywords then some (some k, now) else none
  | _ => none

def Command.isAboutKeyword : Command → Bool
  | cycleTodo .. | setTodo .. => true
  | _ => false

theorem Command.isAboutKeyword_of_given {config : Config} {old : Option Text} {command : Command}
    {given : Option Text × Moment} (h : command.given? config old = some given) :
    command.isAboutKeyword = true := by
  cases command with
  | cycleTodo direction now => rfl
  | setTodo keyword now => rfl
  | _ => cases h

/-- A keyword that is configured can be set. -/
theorem Command.given?_setTodo {config : Config} (valid : config.Valid) {keyword : Option Text}
    (hkeyword : ∀ k ∈ keyword, k ∈ config.todoKeywords) (old : Option Text) (now : Moment) :
    (setTodo keyword now).given? config old = some (keyword, now) := by
  cases keyword with
  | none => rfl
  | some k =>
      have hmem := hkeyword k rfl
      have hne := (forall_isKeywordChar (valid.todoKeywords_words k hmem)).1
      have hfilter : (some k).filter (fun k => !k.isEmpty) = some k := by simp [Option.filter, hne]
      unfold given?
      dsimp only
      rw [hfilter]
      dsimp only
      rw [if_pos hmem]

namespace Document

variable {d : Document} {config : Config} {conv : Convention} {n : Nat} {line : Text}
  {heading : Heading}

/-- The lines that are written for a heading that gets a keyword: its own line, and a closed line
when the keyword finishes it. -/
def keywordLines (config : Config) (conv : Convention) (line : Text) (heading : Heading)
    (keyword : Option Text) (now : Moment) : List Text :=
  keywordLine conv line heading keyword ::
    if finishes config keyword then [closedLine heading conv.mark now] else []

/-- Where the lines end that those take the place of. -/
def keywordStop (d : Document) (config : Config) (conv : Convention) (n : Nat) (heading : Heading)
    (keyword : Option Text) : Nat :=
  if finishes config keyword || heading.keyword == config.effectiveDoneKeyword
  then d.behindClosed conv n else n + 1

theorem keywordStop_bounds (hlt : n < d.lines.length) (config : Config) (conv : Convention)
    (heading : Heading) (keyword : Option Text) :
    n < d.keywordStop config conv n heading keyword ∧
      d.keywordStop config conv n heading keyword ≤ d.lines.length := by
  have hbehind := behindClosed_bounds hlt conv
  unfold keywordStop
  split
  · exact hbehind
  · omega

namespace AtHeading

variable (h : d.AtHeading config conv n line heading)
include h

theorem title_trim : heading.title.trim = heading.title := by
  rw [Convention.title_of_readHeading? h.read]
  exact trim_title _ _

theorem keyword_mem : ∀ k ∈ heading.keyword, k ∈ config.todoKeywords := by
  rw [Convention.keyword_of_readHeading? h.read, h.config_eq]
  exact mem_of_splitKeyword

/-- The line that is written for a heading: what opens it stays, the text is put together from
keyword and title. -/
theorem keywordLine_eq {mark : Char} (hmark : conv.mark = [mark]) (keyword : Option Text) :
    keywordLine conv line heading keyword =
      openingOf heading.indentation mark heading.run ++ keywordText keyword heading.title := by
  obtain ⟨other, hother, -, htake, -⟩ := h.readFrom.exists_written
  obtain rfl : other = mark := by simpa using hother.symm.trans hmark
  have hopening : heading.indentation ++ repeatMark conv.mark heading.run =
      openingOf heading.indentation other heading.run := by
    rw [hmark]
    rfl
  unfold keywordLine keywordText
  dsimp only
  rw [htake, hopening]
  -- which parts there are decides where spaces go
  cases keyword.getD [] with
  | nil =>
      cases heading.title with
      | nil => simp [spaced]
      | cons c rest => simp [spaced, Text.joinWith]
  | cons k word =>
      cases heading.title with
      | nil => simp [spaced, Text.joinWith]
      | cons c rest => simp [spaced, Text.joinWith]

theorem lines_given (keyword : Option Text) (now : Moment) :
    (d.replace n (d.keywordStop config conv n heading keyword)
      (keywordLines config conv line heading keyword now)).1.lines =
    d.lines.take n ++
      (heading.indentation ++ repeatMark conv.mark heading.run ++
        keywordText keyword heading.title) ::
      ((if finishes config keyword then [closedLine heading conv.mark now] else []) ++
        d.lines.drop (d.keywordStop config conv n heading keyword)) := by
  obtain ⟨hlt, hstop⟩ := keywordStop_bounds h.lt_length config conv heading keyword
  obtain ⟨mark, hmark, -⟩ := h.readFrom.exists_written
  unfold keywordLines
  rw [replace_lines_of_fits (by omega) hstop (List.cons_ne_nil _ _), h.keywordLine_eq hmark,
    List.append_assoc, List.cons_append, hmark]
  rfl

theorem get_given (keyword : Option Text) (now : Moment) :
    (d.replace n (d.keywordStop config conv n heading keyword)
      (keywordLines config conv line heading keyword now)).1.lines[n]? =
    some (heading.indentation ++ repeatMark conv.mark heading.run ++
      keywordText keyword heading.title) := by
  rw [h.lines_given, List.getElem?_append_right (Nat.le_of_eq h.length_take), h.length_take,
    Nat.sub_self]
  rfl

theorem point_given (keyword : Option Text) (now : Moment) :
    (d.replace n (d.keywordStop config conv n heading keyword)
      (keywordLines config conv line heading keyword now)).1.point.line = n := by
  obtain ⟨hlt, hstop⟩ := keywordStop_bounds h.lt_length config conv heading keyword
  exact replace_point_line h.point hlt hstop (List.cons_ne_nil _ _)

/-- What a command about the keyword decides: to write the heading anew, or to refuse. -/
theorem decide_keyword {command : Command} (habout : command.isAboutKeyword = true) :
    ∃ decide notice, command.decide? = some decide ∧ decide d config room =
      match command.given? config heading.keyword with
      | none => .ok (.refuse notice)
      | some (keyword, now) =>
        .ok (.replace n (d.keywordStop config conv n heading keyword)
          (keywordLines config conv line heading keyword now) none
          (.keywordSet n heading.keyword keyword)) := by
  have happly : ∀ keyword now, d.applyKeyword config now keyword conv heading =
      .ok (.replace n (d.keywordStop config conv n heading keyword)
        (keywordLines config conv line heading keyword now) none
        (.keywordSet n heading.keyword keyword)) := by
    intro keyword now
    rw [h.applyKeyword_eq, ← apply_ite Nat.cast]
    rfl
  cases command with
  | cycleTodo direction now =>
      refine ⟨_, .noKeywords, rfl, ?_⟩
      unfold cycleTodo Command.given?
      rw [h.decideAtHeading_eq]
      by_cases hkeywords : config.todoKeywords = []
      · simp [hkeywords]
      · simp [hkeywords, happly]
  | setTodo asked now =>
      refine ⟨_, .unknownKeyword (asked.getD []), rfl, ?_⟩
      unfold setTodo Command.given?
      rw [h.decideAtHeading_eq]
      dsimp only
      cases hasked : asked.filter fun k => !k.isEmpty with
      | none => exact happly none now
      | some k =>
          obtain rfl : asked = some k := (Option.filter_eq_some_iff.mp hasked).1
          by_cases hmem : k ∈ config.todoKeywords
          · simp [hmem, happly]
          · simp [hmem]
  | _ => cases habout

end AtHeading

end Document

namespace Session

variable {s : Session} {config : Config} {conv : Convention} {n : Nat} {line : Text}
  {heading : Heading} {command : Command} {keyword : Option Text} {now : Moment}

/-- **A heading that is given a keyword is written anew**, and nothing else is replaced but the
closed line below it. -/
theorem run_given (valid : config.Valid) (h : s.document.AtHeading config conv n line heading)
    (hgiven : command.given? config heading.keyword = some (keyword, now)) :
    (s.run config command).2 = .ok (.flag true) ∧
      (s.run config command).1.document =
        (s.document.replace n (s.document.keywordStop config conv n heading keyword)
          (Document.keywordLines config conv line heading keyword now)).1 := by
  obtain ⟨decide, notice, hdecide, hdecision⟩ :=
    h.decide_keyword (Command.isAboutKeyword_of_given hgiven)
  rw [hgiven] at hdecision
  obtain ⟨hanswer, hdocument, -⟩ := run_of_replace valid h.convention hdecide hdecision
  exact ⟨hanswer, hdocument⟩

/-- A command about the keyword of the heading at point gets somewhere when it gives one. -/
theorem run_given_iff (valid : config.Valid) (h : s.document.AtHeading config conv n line heading)
    (habout : command.isAboutKeyword = true) :
    (s.run config command).2 = .ok (.flag true) ↔
      ∃ keyword now, command.given? config heading.keyword = some (keyword, now) := by
  constructor
  · intro hanswer
    cases hgiven : command.given? config heading.keyword with
    | some given => exact ⟨given.1, given.2, rfl⟩
    | none =>
        obtain ⟨decide, notice, hdecide, hdecision⟩ := h.decide_keyword habout
        rw [hgiven] at hdecision
        rw [run_of_refuse hdecide hdecision] at hanswer
        cases hanswer
  · rintro ⟨keyword, now, hgiven⟩
    exact (run_given valid h hgiven).1

end Session

end SourceOutline
