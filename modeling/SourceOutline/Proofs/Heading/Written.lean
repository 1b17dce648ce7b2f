import SourceOutline.Proofs.Heading
import SourceOutline.Proofs.Text.Trimmed

/-!
# Reading a heading that has been written

A heading line is put together from indentation, a run of one comment character and the text behind
it (`openingOf`). Such a line falls into the same three parts again when it is read, whatever the
text is, as long as the text does not go on with the comment character. What the text decides is the
keyword, the title, and whether a run of two makes a closed line.

Main statements: how a written line is read (`readHeading?_written`), and which keyword and title
are read from a written text (`splitKeyword_keywordText`, `splitKeyword_title`).
-/

namespace SourceOutline

/-! ## The parts of a line -/

def openingOf (indent : Text) (mark : Char) (run : Nat) : Text := indent ++ repeatMark [mark] run

/-- Whether indentation, run and text are told apart again once they stand behind each other. -/
structure Separable (indent : Text) (mark : Char) (run : Nat) (text : Text) : Prop where
  indenting : ∀ c ∈ indent, isIndenting c = true
  visible : isIndenting mark = false
  run_pos : 0 < run
  stops : ∀ c ∈ text.head?, c ≠ mark

theorem repeatMark_single (mark : Char) (run : Nat) :
    repeatMark [mark] run = List.replicate run mark := by
  simp [repeatMark]

namespace Separable

variable {indent text : Text} {mark : Char} {run : Nat} (h : Separable indent mark run text)
include h

theorem dropWhile_run : (repeatMark [mark] run ++ text).dropWhile isIndenting =
    repeatMark [mark] run ++ text := by
  obtain ⟨n, rfl⟩ : ∃ n, run = n + 1 := ⟨run - 1, by have := h.run_pos; omega⟩
  rw [repeatMark_single, List.replicate_succ, List.cons_append,
    List.dropWhile_cons_of_neg (by simp [h.visible])]

theorem indentation_eq : indentation (openingOf indent mark run ++ text) = indent := by
  have hrun : (repeatMark [mark] run ++ text).takeWhile isIndenting = [] := by
    have hsplit := List.takeWhile_append_dropWhile (p := isIndenting)
      (l := repeatMark [mark] run ++ text)
    rw [h.dropWhile_run] at hsplit
    simpa using hsplit
  unfold indentation openingOf
  rw [List.append_assoc, List.takeWhile_append_of_pos h.indenting, hrun, List.append_nil]

theorem unindent_eq :
    (openingOf indent mark run ++ text).unindent = repeatMark [mark] run ++ text := by
  unfold Text.unindent openingOf
  rw [List.append_assoc, List.dropWhile_append_of_pos h.indenting, h.dropWhile_run]

theorem openingRun_eq :
    openingRun [mark] (openingOf indent mark run ++ text) = repeatMark [mark] run := by
  have htext : text.takeWhile (· == mark) = [] := by
    cases text with
    | nil => rfl
    | cons c rest => exact List.takeWhile_cons_of_neg (by simpa using h.stops c rfl)
  have hrun : ∀ c ∈ repeatMark [mark] run, (c == mark) = true := by
    intro c hc
    rw [repeatMark_single] at hc
    simp [List.eq_of_mem_replicate hc]
  show (openingOf indent mark run ++ text).unindent.takeWhile (· == mark) = _
  rw [h.unindent_eq, List.takeWhile_append_of_pos hrun, htext, List.append_nil]

omit h in
theorem drop_eq : (openingOf indent mark run ++ text).drop (indent.length + run) = text := by
  have hlength : indent.length + run = (openingOf indent mark run).length := by
    simp [openingOf, repeatMark_single]
  rw [hlength, List.drop_left]

theorem isClosedLine_iff : isClosedLine [mark] (openingOf indent mark run ++ text) = true ↔
    run = 2 ∧ closedLabel <+: text.unindent := by
  have hrun : run? [mark] (openingOf indent mark run ++ text) = some run := by
    rw [run?_eq_some, h.openingRun_eq, repeatMark_single, List.length_replicate]
    exact ⟨h.run_pos, rfl⟩
  unfold isClosedLine
  rw [hrun, h.unindent_eq, Bool.and_eq_true, beq_iff_eq, Option.some.injEq,
    List.isPrefixOf_iff_prefix]
  refine and_congr_right fun htwo => ?_
  rw [htwo, repeatMark_single]
  rfl

end Separable

/-- A heading line is what was written for its heading, and its text is told apart. -/
theorem Heading.ReadFrom.exists_written {heading : Heading} {conv : Convention} {number : Int}
    {line : Text} (h : heading.ReadFrom conv number line) : ∃ mark, conv.mark = [mark] ∧
      openingOf heading.indentation mark heading.run ++ line.drop heading.openingEnd = line ∧
      line.take heading.openingEnd = openingOf heading.indentation mark heading.run ∧
      Separable heading.indentation mark heading.run (line.drop heading.openingEnd) := by
  have hrun := h.run_pos
  have hlength := h.run_eq
  obtain ⟨mark, hmem⟩ := List.exists_mem_of_length_pos (by rwa [hlength] at hrun)
  have hmark : conv.mark = [mark] := mem_openingRun hmem
  have hopening : openingRun conv.mark line = repeatMark [mark] heading.run := by
    rw [repeatMark_single, List.eq_replicate_iff]
    refine ⟨hlength.symm, fun c hc => ?_⟩
    have hother := mem_openingRun hc
    rw [hmark] at hother
    cases hother
    rfl
  have htake : line.take heading.openingEnd =
      openingOf heading.indentation mark heading.run := by
    rw [h.take_openingEnd, hopening]
    rfl
  refine ⟨mark, hmark, ?_, htake, h.indenting, ?_, hrun, ?_⟩
  · rw [← htake, List.take_append_drop]
  · -- the run starts where the indentation has ended
    have hhead := List.head?_dropWhile_not isIndenting line
    obtain ⟨rest, hrest⟩ := openingRun_isPrefix conv.mark line
    obtain ⟨n, hn⟩ : ∃ n, heading.run = n + 1 := ⟨heading.run - 1, by omega⟩
    rw [hopening, hn, repeatMark_single, List.replicate_succ, List.cons_append] at hrest
    rw [show line.dropWhile isIndenting = line.unindent from rfl, ← hrest] at hhead
    exact hhead
  · -- the run goes on as far as there are comment characters
    have hafter : line.unindent.dropWhile (· == mark) = line.drop heading.openingEnd := by
      have hsplit := List.takeWhile_append_dropWhile (p := (· == mark)) (l := line.unindent)
      have hrun : line.unindent.takeWhile (· == mark) = openingRun conv.mark line := by
        rw [hmark]
        rfl
      have hline := indentation_append_unindent line
      rw [← hsplit, hrun, ← List.append_assoc, ← h.indentation_eq, ← h.take_openingEnd] at hline
      exact List.append_cancel_left (hline.trans (List.take_append_drop _ _).symm)
    have hhead := List.head?_dropWhile_not (· == mark) line.unindent
    rw [hafter] at hhead
    intro c hc hsame
    rw [Option.mem_def] at hc
    rw [hc] at hhead
    simp [hsame] at hhead

/-- The closed line that is written for a heading is one, whatever the comment character is. -/
theorem Heading.isClosedLine_closedLine {heading : Heading} {mark : Char}
    (hindent : ∀ c ∈ heading.indentation, isIndenting c = true) (hmark : isIndenting mark = false)
    (now : Moment) : isClosedLine [mark] (closedLine heading [mark] now) = true := by
  have hclosed : Separable (heading.indentation ++ closedIndentation) mark 2
      (' ' :: closedLabel ++ ' ' :: now.stamp) := by
    refine ⟨?_, hmark, by decide, ?_⟩
    · intro c hc
      rcases List.mem_append.mp hc with hfront | hclosed
      · exact hindent c hfront
      · rw [List.eq_of_mem_replicate (n := 2) hclosed]
        rfl
    · rintro c hc rfl
      cases hc
      exact absurd hmark (by decide)
  have hline : closedLine heading [mark] now =
      openingOf (heading.indentation ++ closedIndentation) mark 2 ++
        (' ' :: closedLabel ++ ' ' :: now.stamp) := by
    simp [closedLine, openingOf]
  rw [hline, hclosed.isClosedLine_iff]
  exact ⟨rfl, ' ' :: now.stamp, rfl⟩

theorem Heading.ReadFrom.isClosed_closedLine {heading : Heading} {conv : Convention}
    {number : Int} {line : Text} (h : heading.ReadFrom conv number line) (now : Moment) :
    conv.isClosed (closedLine heading conv.mark now) = true := by
  obtain ⟨mark, hmark, -, -, hparts⟩ := h.exists_written
  unfold Convention.isClosed
  rw [hmark]
  exact heading.isClosedLine_closedLine hparts.indenting hparts.visible now

namespace Convention

variable {conv : Convention} {indent text : Text} {mark : Char} {run : Nat}

theorem level?_written (hmark : conv.mark = [mark]) (h : Separable indent mark run text)
    (hbase : conv.config.baseLevel ≤ run) :
    conv.level? (openingOf indent mark run ++ text) =
      if run = 2 ∧ closedLabel <+: text.unindent then none
      else some (run - conv.config.baseLevel + 1) := by
  have hrun := h.openingRun_eq
  have hclosed := h.isClosedLine_iff
  rw [← hmark] at hrun hclosed
  split
  · rename_i htext
    rw [Option.eq_none_iff_forall_not_mem]
    intro level hlevel
    obtain ⟨-, hopen, -⟩ := level?_eq_some.mp hlevel
    rw [isClosed, hclosed.mpr htext] at hopen
    cases hopen
  · rename_i htext
    have hlength : (openingRun conv.mark (openingOf indent mark run ++ text)).length = run := by
      rw [hrun, hmark, repeatMark_single, List.length_replicate]
    rw [level?_eq_some, hlength]
    refine ⟨h.run_pos, ?_, hbase, rfl⟩
    rw [isClosed, Bool.eq_false_iff]
    exact fun hlabel => htext (hclosed.mp hlabel)

/-- **A written line is read in its three parts**, unless its text makes a closed line of it. -/
theorem readHeading?_written (hmark : conv.mark = [mark]) (h : Separable indent mark run text)
    (hbase : conv.config.baseLevel ≤ run) (number : Int) (below : Option Text) :
    conv.readHeading? number (openingOf indent mark run ++ text) below =
      if run = 2 ∧ closedLabel <+: text.unindent then none
      else some
        { line := number, indentation := indent, run
          level := run - conv.config.baseLevel + 1
          keyword := (splitKeyword conv.config.todoKeywords text).1
          title := (splitKeyword conv.config.todoKeywords text).2
          closed := below.bind (closedMoment? conv.mark) } := by
  have hlength : (openingRun conv.mark (openingOf indent mark run ++ text)).length = run := by
    rw [hmark, h.openingRun_eq, repeatMark_single, List.length_replicate]
  unfold readHeading?
  rw [level?_written hmark h hbase]
  by_cases hclosed : run = 2 ∧ closedLabel <+: text.unindent
  · rw [if_pos hclosed, if_pos hclosed]
  · rw [if_neg hclosed, if_neg hclosed]
    dsimp only
    rw [h.indentation_eq, hlength, Separable.drop_eq]

end Convention

/-! ## Keyword and title -/

def spaced (text : Text) : Text := if text.isEmpty then [] else ' ' :: text

def keywordText (keyword : Option Text) (title : Text) : Text :=
  spaced (keyword.getD []) ++ spaced title

/-- Whether a text opens with one of some words, behind which it ends or a space or tab stands. -/
def OpensWith (words : List Text) (text : Text) : Prop :=
  ∃ word ∈ words, ∃ rest, text = word ++ rest ∧ ∀ c ∈ rest.head?, isIndenting c = true

variable {keywords : List Text} {word title rest : Text}

theorem isKeywordChar_of_isIndenting {c : Char} (h : isIndenting c = true) :
    isKeywordChar c = false := by
  simp only [isIndenting, Bool.or_eq_true, beq_iff_eq] at h
  rcases h with rfl | rfl
  · rfl
  · rfl

theorem takeWhile_word (hword : ∀ c ∈ word, isKeywordChar c = true)
    (hrest : ∀ c ∈ rest.head?, isIndenting c = true) :
    (word ++ rest).takeWhile isKeywordChar = word ∧
      (word ++ rest).dropWhile isKeywordChar = rest := by
  have hnone : rest.takeWhile isKeywordChar = [] ∧ rest.dropWhile isKeywordChar = rest := by
    cases rest with
    | nil => exact ⟨rfl, rfl⟩
    | cons c rest =>
        have hc := isKeywordChar_of_isIndenting (hrest c rfl)
        exact ⟨List.takeWhile_cons_of_neg (by simp [hc]), List.dropWhile_cons_of_neg (by simp [hc])⟩
  constructor
  · rw [List.takeWhile_append_of_pos hword, hnone.1, List.append_nil]
  · rw [List.dropWhile_append_of_pos hword, hnone.2]

theorem forall_isKeywordChar (h : isCapitalWord word = true) :
    word ≠ [] ∧ ∀ c ∈ word, isKeywordChar c = true := by
  unfold isCapitalWord at h
  rw [Bool.and_eq_true] at h
  refine ⟨?_, List.all_eq_true.mp h.2⟩
  rintro rfl
  exact absurd h.1 (by decide)

theorem splitKeyword_word (hmem : word ∈ keywords) (hword : isCapitalWord word = true)
    (hrest : ∀ c ∈ rest.head?, isIndenting c = true) {text : Text}
    (htext : text.unindent = word ++ rest) :
    splitKeyword keywords text = (some word, Text.trim rest) := by
  obtain ⟨hne, hchars⟩ := forall_isKeywordChar hword
  obtain ⟨htake, hdrop⟩ := takeWhile_word hchars hrest
  have hbehind : (rest.isEmpty || (rest.take 1).all isIndenting) = true := by
    cases rest with
    | nil => rfl
    | cons c rest => simpa using hrest c rfl
  unfold splitKeyword
  simp only [htext, htake, hdrop, hbehind]
  simp [hne, hmem]

/-- A text that opens with no keyword is all title. -/
theorem splitKeyword_of_not_opensWith {text : Text} (h : ¬OpensWith keywords text.unindent) :
    splitKeyword keywords text = (none, text.unindent.trim) := by
  unfold splitKeyword
  dsimp only
  rw [if_neg]
  intro hsplit
  simp only [Bool.and_eq_true, Bool.or_eq_true, List.contains_iff_mem] at hsplit
  obtain ⟨⟨-, hmem⟩, hbehind⟩ := hsplit
  refine h ⟨_, hmem, _, List.takeWhile_append_dropWhile.symm, fun c hc => ?_⟩
  cases hrest : text.unindent.dropWhile isKeywordChar with
  | nil => simp [hrest] at hc
  | cons first rest =>
      rw [hrest] at hbehind hc
      cases hc
      simpa using hbehind

theorem trim_title (keywords : List Text) (text : Text) :
    (splitKeyword keywords text).2.trim = (splitKeyword keywords text).2 := by
  unfold splitKeyword
  dsimp only
  split
  · exact Text.trim_trim _
  · exact Text.trim_trim _

theorem mem_of_splitKeyword {text : Text} : ∀ k ∈ (splitKeyword keywords text).1, k ∈ keywords := by
  intro k hk
  unfold splitKeyword at hk
  dsimp only at hk
  split at hk
  · rename_i hsplit
    simp only [Bool.and_eq_true, List.contains_iff_mem] at hsplit
    cases hk
    exact hsplit.1.2
  · cases hk

theorem isIndenting_of_head_spaced (text : Text) :
    ∀ c ∈ (spaced text).head?, isIndenting c = true := by
  unfold spaced
  split
  · simp
  · intro c hc
    cases hc
    rfl

theorem unindent_spaced (h : title.trim = title) : (spaced title).unindent = title := by
  cases title with
  | nil => rfl
  | cons c rest => exact Text.unindent_cons_space h

theorem trim_spaced (h : title.trim = title) : (spaced title).trim = title := by
  cases title with
  | nil => rfl
  | cons c rest => exact Text.trim_cons_space h

/-- A capital word ends the indentation in front of it. -/
theorem unindent_word {indent : Text} (hindent : ∀ c ∈ indent, isIndenting c = true)
    (hword : isCapitalWord word = true) (rest : Text) :
    Text.unindent (indent ++ word ++ rest) = word ++ rest := by
  obtain ⟨hne, hchars⟩ := forall_isKeywordChar hword
  cases word with
  | nil => exact absurd rfl hne
  | cons first letters =>
      have hfirst : ¬isIndenting first = true := by
        intro hindenting
        have hcapital := hchars first List.mem_cons_self
        rw [isKeywordChar_of_isIndenting hindenting] at hcapital
        cases hcapital
      unfold Text.unindent
      rw [List.append_assoc, List.dropWhile_append_of_pos hindent]
      exact List.dropWhile_cons_of_neg hfirst

theorem unindent_keywordText (hword : isCapitalWord word = true) (title : Text) :
    (keywordText (some word) title).unindent = word ++ spaced title := by
  have hspaced : spaced word = [' '] ++ word := by
    unfold spaced
    rw [if_neg (by simpa using (forall_isKeywordChar hword).1)]
    rfl
  unfold keywordText
  rw [Option.getD_some, hspaced]
  exact unindent_word (by simp [isIndenting]) hword _

theorem splitKeyword_keywordText (hmem : word ∈ keywords) (hword : isCapitalWord word = true)
    (htitle : title.trim = title) :
    splitKeyword keywords (keywordText (some word) title) = (some word, title) := by
  rw [splitKeyword_word hmem hword (isIndenting_of_head_spaced _)
    (unindent_keywordText hword title), trim_spaced htitle]

/-- Behind a keyword no text is the label of closed lines. -/
theorem not_closedLabel_prefix (hword : isCapitalWord word = true) (title : Text) :
    ¬closedLabel <+: (keywordText (some word) title).unindent := by
  rw [unindent_keywordText hword]
  rintro ⟨rest, hrest⟩
  -- the word would have to end where the colon of the label stands
  have hsplit := (takeWhile_word (forall_isKeywordChar hword).2
    (isIndenting_of_head_spaced title)).2
  rw [← hrest] at hsplit
  have hcolon : isIndenting ':' = true := by
    refine isIndenting_of_head_spaced title ':' ?_
    rw [← hsplit]
    rfl
  cases hcolon

theorem splitKeyword_title (htitle : title.trim = title)
    (hwords : ∀ word ∈ keywords, isCapitalWord word = true) :
    splitKeyword keywords (keywordText none title) = (none, title) ↔ ¬OpensWith keywords title := by
  have hunindent : (keywordText none title).unindent = title := unindent_spaced htitle
  constructor
  · rintro hsplit ⟨word, hmem, rest, htext, hrest⟩
    rw [splitKeyword_word hmem (hwords word hmem) hrest (hunindent.trans htext)] at hsplit
    cases hsplit
  · intro hopen
    rw [splitKeyword_of_not_opensWith (by rwa [hunindent]), hunindent, htitle]

end SourceOutline
