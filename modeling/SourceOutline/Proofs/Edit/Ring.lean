import Mathlib.Data.List.GetD
import Mathlib.Data.List.Nodup
import Mathlib.Data.Option.Basic
import SourceOutline.Proofs.Edit.ReadBack
import SourceOutline.Proofs.Edit.Recorded
import SourceOutline.Proofs.Session.Memory

/-!
# Going round the keywords

Cycling the keyword of a heading moves it round a ring of no keyword and all keywords in order. Each
step writes the heading's line anew from what is read on it, and on the way a closed line comes and
goes. Main statement: after any number of steps in one direction the heading has the keyword that
lies as many places further on the ring, no other line has changed, and once round the ring all
lines are as they were (`run_cycleTodo_since`).
-/

namespace SourceOutline

namespace Document

/-! ## The ring -/

/-- The ring of no keyword and all keywords in order. -/
def keywordRing (keywords : List Text) : List (Option Text) := none :: keywords.map some

def placeOf (keywords : List Text) (keyword : Option Text) : Int :=
  (keywordRing keywords).idxOf keyword

/-- The keyword at a place of the ring, where places behind the last one go on with the first. -/
def keywordAt (keywords : List Text) (place : Int) : Option Text :=
  (keywordRing keywords).getD (place % (keywords.length + 1)).toNat none

variable {keywords : List Text} {keyword : Option Text} {direction : Int}

theorem length_keywordRing (keywords : List Text) :
    (keywordRing keywords).length = keywords.length + 1 := by
  simp [keywordRing]

theorem nodup_keywordRing (h : keywords.Nodup) : (keywordRing keywords).Nodup :=
  List.nodup_cons.mpr ⟨by simp, h.map (Option.some_injective _)⟩

theorem mem_keywordRing : keyword ∈ keywordRing keywords ↔ ∀ k ∈ keyword, k ∈ keywords := by
  cases keyword with
  | none => simp [keywordRing]
  | some k => simp [keywordRing]

theorem place_bounds (keywords : List Text) (place : Int) :
    ((place % (keywords.length + 1)).toNat : Int) = place % (keywords.length + 1) ∧
      (place % (keywords.length + 1)).toNat < (keywordRing keywords).length := by
  have hpos := Int.emod_nonneg place (show (keywords.length : Int) + 1 ≠ 0 by omega)
  have hlt := Int.emod_lt_of_pos place (show (0 : Int) < keywords.length + 1 by omega)
  rw [length_keywordRing]
  omega

theorem getElem?_keywordRing (keywords : List Text) (place : Int) :
    (keywordRing keywords)[(place % (keywords.length + 1)).toNat]? =
      some (keywordAt keywords place) := by
  have hlt := (place_bounds keywords place).2
  rw [keywordAt, List.getD_eq_getElem _ _ hlt, List.getElem?_eq_getElem hlt]

theorem keywordAt_mem (keywords : List Text) (place : Int) :
    ∀ k ∈ keywordAt keywords place, k ∈ keywords :=
  mem_keywordRing.mp (List.mem_of_getElem? (getElem?_keywordRing keywords place))

theorem placeOf_keywordAt (h : keywords.Nodup) (place : Int) :
    placeOf keywords (keywordAt keywords place) = place % (keywords.length + 1) := by
  obtain ⟨hplace, hlt⟩ := place_bounds keywords place
  rw [placeOf, keywordAt, List.getD_eq_getElem _ _ hlt, (nodup_keywordRing h).idxOf_getElem _ hlt]
  exact hplace

theorem keywordAt_placeOf (h : ∀ k ∈ keyword, k ∈ keywords) :
    keywordAt keywords (placeOf keywords keyword) = keyword := by
  have hlt := List.idxOf_lt_length_iff.mpr (mem_keywordRing.mpr h)
  have hplace : placeOf keywords keyword % (keywords.length + 1) = placeOf keywords keyword := by
    have hlength := length_keywordRing keywords
    exact Int.emod_eq_of_lt (Int.natCast_nonneg _) (by unfold placeOf; omega)
  rw [keywordAt, hplace, placeOf, Int.toNat_natCast, List.getD_eq_getElem _ _ hlt,
    List.getElem_idxOf]

theorem nextKeyword_eq (keywords : List Text) (forward : Bool) (keyword : Option Text) :
    nextKeyword keywords forward keyword =
      ((keywordRing keywords)[((placeOf keywords keyword + if forward then 1 else -1) %
        (keywordRing keywords).length).toNat]?).join := rfl

/-- **The next keyword lies one place further.** -/
theorem nextKeyword_keywordAt (h : keywords.Nodup) (hdirection : direction = 1 ∨ direction = -1)
    (place : Int) :
    nextKeyword keywords (0 ≤ direction) (keywordAt keywords place) =
      keywordAt keywords (place + direction) := by
  have hstep : (if decide (0 ≤ direction) = true then 1 else -1) = direction := by
    rcases hdirection with rfl | rfl
    · rfl
    · rfl
  rw [nextKeyword_eq, placeOf_keywordAt h, hstep, length_keywordRing, Int.natCast_succ,
    Int.emod_add_emod, getElem?_keywordRing]
  rfl

theorem keywordAt_round (keywords : List Text) (place direction : Int) :
    keywordAt keywords (place + direction * (keywords.length + 1)) = keywordAt keywords place := by
  unfold keywordAt
  rw [Int.add_mul_emod_self_right]

/-! ## A heading on its way -/

/-- What a heading needs to go round the ring: there are keywords, its line is written as commands
write it, it is not finished and has no closed line, and its title is read as a title by itself. -/
structure GoesRound (d : Document) (config : Config) (conv : Convention) (n : Nat) (line : Text)
    (heading : Heading) : Prop where
  keywords : config.todoKeywords ≠ []
  line_eq : line = heading.indentation ++ repeatMark conv.mark heading.run ++
    keywordText heading.keyword heading.title
  unfinished : finishes config heading.keyword = false
  unrecorded : d.closedBelow conv n = false
  title : ¬OpensWith config.todoKeywords heading.title
  label : ¬(heading.run = 2 ∧ closedLabel <+: heading.title)

/-- The closed line of a heading that has got a keyword by steps, the last of them made at some
time: there is one when the keyword finishes the heading. -/
def closedLines (config : Config) (conv : Convention) (heading : Heading) (keyword : Option Text)
    (last : Option Moment) : List Text :=
  if finishes config keyword then (last.map (closedLine heading conv.mark)).toList else []

/-- The lines of a document whose heading on line `n` has got a keyword by steps, the last of them
made at some time. -/
def turnedLines (d : Document) (config : Config) (conv : Convention) (n : Nat) (heading : Heading)
    (keyword : Option Text) (last : Option Moment) : List Text :=
  d.lines.take n ++
    (heading.indentation ++ repeatMark conv.mark heading.run ++
      keywordText keyword heading.title) ::
    (closedLines config conv heading keyword last ++ d.lines.drop (n + 1))

/-- Whether a document is what another has become on whose line `n` a heading has got a keyword. -/
structure TurnedTo (d start : Document) (config : Config) (conv : Convention) (n : Nat)
    (heading : Heading) (keyword : Option Text) (last : Option Moment) : Prop where
  atHeading : ∃ closed, d.AtHeading config conv n
    (heading.indentation ++ repeatMark conv.mark heading.run ++ keywordText keyword heading.title)
    { heading with keyword, closed }
  lines : d.lines = start.turnedLines config conv n heading keyword last

variable {d start : Document} {config : Config} {conv : Convention} {n : Nat} {line : Text}
  {heading : Heading} {last : Option Moment}

theorem closedLines_of_unfinished (h : finishes config keyword = false) :
    closedLines config conv heading keyword last = [] := by
  rw [closedLines, h]
  rfl

theorem closedLines_cases (config : Config) (conv : Convention) (heading : Heading)
    (keyword : Option Text) (last : Option Moment) :
    closedLines config conv heading keyword last = [] ∨
      ∃ now, closedLines config conv heading keyword last =
        [closedLine heading conv.mark now] := by
  cases hfinishes : finishes config keyword with
  | false => exact Or.inl (closedLines_of_unfinished hfinishes)
  | true =>
      rw [closedLines, hfinishes]
      cases last with
      | none => exact Or.inl rfl
      | some now => exact Or.inr ⟨now, rfl⟩

theorem closedBelow_eq (d : Document) (conv : Convention) (n : Nat) :
    d.closedBelow conv n = (d.lines.drop (n + 1)).head?.any conv.isClosed := by
  rw [closedBelow, List.head?_drop]

theorem atHeading_of_headingAtPoint (hpoint : d.point.line = n) (hget : d.lines[n]? = some line)
    (hread : d.headingAtPoint config = .ok (conv, some heading)) :
    d.AtHeading config conv n line heading := by
  cases hconv : d.convention config with
  | error fault =>
      unfold headingAtPoint at hread
      rw [hconv] at hread
      cases hread
  | ok other =>
      rw [headingAtPoint_of_get hconv hpoint hget] at hread
      obtain ⟨rfl, hheading⟩ := Prod.mk.inj (Except.ok.inj hread)
      exact ⟨hconv, hpoint, hget, hheading⟩

theorem AtHeading.headingAtPoint_eq (h : d.AtHeading config conv n line heading) :
    d.headingAtPoint config = .ok (conv, some heading) := by
  rw [headingAtPoint_of_get h.convention h.point h.get, h.read]

/-- A heading that goes round the ring starts as if it had been written with its own keyword. -/
theorem GoesRound.turnedTo (hround : d.GoesRound config conv n line heading)
    (h : d.AtHeading config conv n line heading) :
    d.TurnedTo d config conv n heading heading.keyword none := by
  obtain ⟨hlt, hget⟩ := List.getElem?_eq_some_iff.mp h.get
  refine ⟨⟨heading.closed, ?_⟩, ?_⟩
  · rw [← hround.line_eq]
    exact h
  · rw [turnedLines, closedLines_of_unfinished hround.unfinished, ← hround.line_eq, ← hget]
    simp

namespace TurnedTo

variable (hturned : d.TurnedTo start config conv n heading keyword last)
  (h : start.AtHeading config conv n line heading)
include hturned h

theorem take_eq : d.lines.take n = start.lines.take n := by
  rw [hturned.lines, turnedLines, List.take_append_of_le_length (Nat.le_of_eq h.length_take.symm),
    List.take_of_length_le (Nat.le_of_eq h.length_take)]

theorem drop_eq : d.lines.drop (n + 1) =
    closedLines config conv heading keyword last ++ start.lines.drop (n + 1) := by
  rw [hturned.lines, turnedLines, List.append_cons, List.drop_left' (by simp [h.length_take])]

/-- Behind the closed line, if there is one, the lines go on as they did. -/
theorem drop_behindClosed (hround : start.GoesRound config conv n line heading) :
    d.lines.drop (d.behindClosed conv n) = start.lines.drop (n + 1) := by
  have hdrop := hturned.drop_eq h
  rcases closedLines_cases config conv heading keyword last with hnone | ⟨now, hone⟩
  · rw [hnone, List.nil_append] at hdrop
    have hclosed : d.closedBelow conv n = false := by
      rw [closedBelow_eq, hdrop, ← closedBelow_eq]
      exact hround.unrecorded
    rw [drop_behindClosed_iff.mpr hclosed, hdrop]
  · rw [hone] at hdrop
    have hclosed : d.closedBelow conv n = true := by
      rw [closedBelow_eq, hdrop]
      exact h.readFrom.isClosed_closedLine now
    rw [behindClosed, if_pos hclosed, ← List.drop_drop (i := 1) (j := n + 1), hdrop]
    rfl

/-- The lines after one more step. -/
theorem settledLines_eq (hround : start.GoesRound config conv n line heading)
    (closed : Option Moment) (next : Option Text) (now : Moment) :
    d.settledLines config conv n { heading with keyword, closed } next now =
      start.turnedLines config conv n heading next (some now) := by
  unfold settledLines turnedLines
  rw [hturned.take_eq h, hturned.drop_behindClosed h hround]
  refine congrArg (fun rest => start.lines.take n ++ _ :: rest) ?_
  cases hnext : finishes config next with
  | true =>
      rw [closedLines, hnext]
      rfl
  | false =>
      rw [closedLines_of_unfinished hnext, List.nil_append, if_neg Bool.false_ne_true]
      cases hold : finishes config keyword with
      | true => rw [if_pos rfl]
      | false =>
          rw [if_neg Bool.false_ne_true, hturned.drop_eq h, closedLines_of_unfinished hold,
            List.nil_append]

end TurnedTo

end Document

/-! ## Steps -/

namespace Session

open Document

variable {s : Session} {start : Document} {config : Config} {conv : Convention} {n : Nat}
  {line : Text} {heading : Heading} {direction place : Int} {last : Option Moment}

/-- **One step round the ring.** -/
theorem turnedTo_run (valid : config.Valid) (h : start.AtHeading config conv n line heading)
    (hround : start.GoesRound config conv n line heading)
    (hdirection : direction = 1 ∨ direction = -1)
    (hturned : s.document.TurnedTo start config conv n heading
      (keywordAt config.todoKeywords place) last) (now : Moment) :
    (s.run config (.cycleTodo direction now)).2 = .ok (.flag true) ∧
      (s.run config (.cycleTodo direction now)).1.document.TurnedTo start config conv n heading
        (keywordAt config.todoKeywords (place + direction)) (some now) := by
  obtain ⟨closed, hat⟩ := hturned.atHeading
  have hgiven : (Command.cycleTodo direction now).given? config
      (keywordAt config.todoKeywords place) =
        some (keywordAt config.todoKeywords (place + direction), now) := by
    unfold Command.given?
    dsimp only
    rw [if_neg hround.keywords, nextKeyword_keywordAt valid.todoKeywords_nodup hdirection]
  obtain ⟨hanswer, hdocument⟩ := run_given valid hat hgiven
  have hlines := (hat.lines_given_iff valid (keywordAt config.todoKeywords (place + direction))
    now).mpr (Or.inl hround.keywords)
  rw [hturned.settledLines_eq h hround] at hlines
  obtain ⟨closed', hread⟩ := (hat.headingAtPoint_given_iff valid
    (keywordAt_mem config.todoKeywords (place + direction)) now).mpr
      (Or.inr ⟨hround.title, hround.label⟩)
  have hpoint := hat.point_given (keywordAt config.todoKeywords (place + direction)) now
  have hget := hat.get_given (keywordAt config.todoKeywords (place + direction)) now
  rw [← hdocument] at hlines hread hpoint hget
  exact ⟨hanswer, ⟨closed', atHeading_of_headingAtPoint hpoint hget hread⟩, hlines⟩

/-- Steps round the ring in one direction, one for each of some times. -/
def turns (direction : Int) (times : List Moment) : List SessionAct :=
  times.map fun now => .command (.cycleTodo direction now)

/-- **Any number of steps round the ring.** -/
theorem turnedTo_since (valid : config.Valid)
    (h : s.document.AtHeading config conv n line heading)
    (hround : s.document.GoesRound config conv n line heading)
    (hdirection : direction = 1 ∨ direction = -1) (times : List Moment) :
    (s.since config (turns direction times)).document.TurnedTo s.document config conv n heading
      (keywordAt config.todoKeywords
        (placeOf config.todoKeywords heading.keyword + direction * times.length))
      times.getLast? := by
  induction times using List.reverseRecOn with
  | nil =>
      rw [List.length_nil, Int.natCast_zero, Int.mul_zero, Int.add_zero,
        keywordAt_placeOf h.keyword_mem]
      exact hround.turnedTo h
  | append_singleton times now ih =>
      have hplace : placeOf config.todoKeywords heading.keyword +
          direction * ((times ++ [now]).length : Nat) =
          placeOf config.todoKeywords heading.keyword + direction * times.length + direction := by
        rw [List.length_append, List.length_singleton, Int.natCast_succ, Int.mul_add, Int.mul_one,
          Int.add_assoc]
      have hstep := (turnedTo_run valid h hround hdirection ih now).2
      rw [hplace, List.getLast?_concat]
      unfold turns at hstep ⊢
      rw [List.map_append, List.map_singleton, since_snoc]
      exact hstep

/-- **The keywords form a ring.** A heading that goes round it has after any number of steps in one
direction the keyword that lies as many places further, and is otherwise read as before. All other
lines are as they were, but for a closed line with the time of the last step, which stands below the
heading exactly when its keyword finishes it. The next step gets somewhere, too, and once round the
ring all lines are as they were. -/
theorem run_cycleTodo_since (valid : config.Valid)
    (h : s.document.AtHeading config conv n line heading)
    (hround : s.document.GoesRound config conv n line heading)
    (hdirection : direction = 1 ∨ direction = -1) (times : List Moment) (now : Moment) :
    let keyword := keywordAt config.todoKeywords
      (placeOf config.todoKeywords heading.keyword + direction * times.length)
    let after := s.since config (turns direction times)
    (∃ closed, after.document.headingAtPoint config =
      .ok (conv, some { heading with keyword, closed })) ∧
    after.document.lines =
      s.document.turnedLines config conv n heading keyword times.getLast? ∧
    (after.run config (.cycleTodo direction now)).2 = .ok (.flag true) ∧
    (times.length = config.todoKeywords.length + 1 →
      after.document.lines = s.document.lines) := by
  intro keyword after
  have hturned := turnedTo_since valid h hround hdirection times
  obtain ⟨closed, hat⟩ := hturned.atHeading
  refine ⟨⟨closed, hat.headingAtPoint_eq⟩, hturned.lines,
    (turnedTo_run valid h hround hdirection hturned now).1, fun hall => ?_⟩
  have hkeyword : keyword = heading.keyword := by
    show keywordAt config.todoKeywords (_ + direction * (times.length : Nat)) = _
    rw [hall, Int.natCast_succ, keywordAt_round, keywordAt_placeOf h.keyword_mem]
  -- the same keyword as at the start, and none that comes with a closed line
  have hlines : after.document.lines =
      s.document.turnedLines config conv n heading keyword times.getLast? := hturned.lines
  rw [hlines, hkeyword, (hround.turnedTo h).lines, turnedLines, turnedLines,
    closedLines_of_unfinished hround.unfinished, closedLines_of_unfinished hround.unfinished]

/-- A heading goes round three keywords, of which the second one finishes it. -/
theorem run_cycleTodo_since_middle :
    let config : Config :=
      { todoKeywords := ["TODO".toList, "DONE".toList, "WAIT".toList]
        doneKeyword := some "DONE".toList }
    let s := create (Document.ofText "  /// A\ntext".toList (Language.named? "c".toList) none)
    let time (minute : Nat) : Moment := { year := 2024, month := 1, day := 2, hour := 10, minute }
    ∃ conv heading, config.Valid ∧ s.document.AtHeading config conv 0 "  /// A".toList heading ∧
      s.document.GoesRound config conv 0 "  /// A".toList heading ∧
      ((1 : Int) = 1 ∨ (1 : Int) = -1) ∧
      (s.since config (turns 1 [time 30, time 31])).document.lines =
        ["  /// DONE A".toList, "    // CLOSED: [2024-01-02 Tue 10:31]".toList, "text".toList] ∧
      (s.since config (turns 1 [time 30, time 31, time 32, time 33])).document.lines =
        ["  /// A".toList, "text".toList] := by
  intro config s time
  have valid : config.Valid := Settings.valid_of_check (s := .ofConfig config) rfl
  have h : s.document.AtHeading config ⟨['/'], config⟩ 0 "  /// A".toList
      { line := 0, indentation := "  ".toList, run := 3, level := 1, keyword := none,
        title := "A".toList, closed := none } := ⟨rfl, rfl, rfl, by decide⟩
  have hround : s.document.GoesRound config ⟨['/'], config⟩ 0 "  /// A".toList
      { line := 0, indentation := "  ".toList, run := 3, level := 1, keyword := none,
        title := "A".toList, closed := none } := by
    refine ⟨by decide, rfl, by decide, by decide, ?_, by decide⟩
    exact (splitKeyword_title (by decide) valid.todoKeywords_words).mp (by decide)
  have hdirection : (1 : Int) = 1 ∨ (1 : Int) = -1 := Or.inl rfl
  refine ⟨_, _, valid, h, hround, hdirection, ?_, ?_⟩
  · rw [(run_cycleTodo_since valid h hround hdirection _ (time 32)).2.1]
    decide
  · exact (run_cycleTodo_since valid h hround hdirection _ (time 34)).2.2.2 rfl

end Session

end SourceOutline
