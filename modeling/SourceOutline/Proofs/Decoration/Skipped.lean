import Mathlib.Tactic.ByContra
import SourceOutline.Proofs.Config.Checked
import SourceOutline.Proofs.Decoration.Current

/-!
# Edits that are not looked at

A report inside one line that starts behind the prefix of a heading leaves the decorations as they
are. That is right when the edit cannot turn a heading into another line or the other way round. What
stands behind the prefix decides that in one case only: a run of two and the label of closed lines.

Main statement: the decorations are right afterwards, but for the ends of faces, exactly when the base
is longer than two, the edit starts in the prefix, or the line is closed as it was before
(`notify_shows_iff`).
-/

namespace SourceOutline

/-! ## Lines that agree up to a column -/

section Agree

variable {mark old new : Text} {column : Nat}

/-- What two lists open with is the same when it ends before they differ. -/
theorem takeWhile_congr_take {α : Type} {items items' : List α} {count : Nat} {p : α → Bool}
    (h : items.take count = items'.take count) (hlt : (items.takeWhile p).length < count) :
    items'.takeWhile p = items.takeWhile p := by
  have hsame : (items'.takeWhile p).take count = (items.takeWhile p).take count := by
    rw [List.take_takeWhile, List.take_takeWhile, h]
  rw [List.take_of_length_le (Nat.le_of_lt hlt)] at hsame
  have hlength := congrArg List.length hsame
  rw [List.length_take] at hlength
  rw [← hsame, List.take_of_length_le (by omega)]

theorem indentation_congr_take (h : new.take column = old.take column)
    (hlt : (indentation new).length < column) : indentation old = indentation new :=
  takeWhile_congr_take h hlt

theorem unindent_eq_drop (line : Text) : line.unindent = line.drop (indentation line).length := by
  have hdrop : (indentation line ++ line.unindent).drop (indentation line).length =
      line.unindent := List.drop_left
  rw [indentation_append_unindent] at hdrop
  exact hdrop.symm

theorem openingRun_congr_take (h : new.take column = old.take column)
    (hlt : (indentation new).length + (openingRun mark new).length < column) :
    openingRun mark old = openingRun mark new := by
  have hindent := indentation_congr_take h (by omega)
  have hunindent : new.unindent.take (column - (indentation new).length) =
      old.unindent.take (column - (indentation new).length) := by
    rw [unindent_eq_drop, unindent_eq_drop, hindent, ← List.drop_take, ← List.drop_take, h]
  cases mark with
  | nil => rfl
  | cons c rest =>
      cases rest with
      | nil =>
          have hrun : ((new.unindent).takeWhile (· == c)).length <
              column - (indentation new).length := Nat.lt_sub_of_add_lt (by
            rw [Nat.add_comm]
            exact hlt)
          exact takeWhile_congr_take hunindent hrun
      | cons next rest => rfl

end Agree

/-! ## Where the label of closed lines matters -/

namespace Convention

variable {conv : Convention} {old new : Text}

theorem length_openingRun_of_isClosed (h : conv.isClosed new = true) :
    (openingRun conv.mark new).length = 2 := by
  unfold isClosed isClosedLine at h
  rw [Bool.and_eq_true, beq_iff_eq] at h
  exact (run?_eq_some.mp h.1).2

/-- A run of two that opens no closed line opens a heading, unless the base is longer. -/
theorem level?_eq_none_of_run_two (hopen : conv.isClosed new = false)
    (hrun : (openingRun conv.mark new).length = 2) :
    conv.level? new = none ↔ 3 ≤ conv.config.baseLevel := by
  constructor
  · intro hnone
    by_contra hbase
    have hlevel : conv.level? new = some (2 - conv.config.baseLevel + 1) :=
      level?_eq_some.mpr ⟨by omega, hopen, by omega, by omega⟩
    rw [hnone] at hlevel
    cases hlevel
  · intro hbase
    rw [Option.eq_none_iff_forall_not_mem]
    intro level hlevel
    obtain ⟨-, -, hreached, -⟩ := level?_eq_some.mp hlevel
    omega

/-- Lines with the same run are on the same level unless only one of them is closed, and that does
not matter with a base of three or more. -/
theorem level?_eq_iff (hrun : openingRun conv.mark old = openingRun conv.mark new) :
    conv.level? old = conv.level? new ↔
      3 ≤ conv.config.baseLevel ∨ conv.isClosed new = conv.isClosed old := by
  cases hold : conv.isClosed old with
  | false =>
      cases hnew : conv.isClosed new with
      | false =>
          refine iff_of_true ?_ (Or.inr rfl)
          rw [Option.ext_iff]
          intro level
          rw [level?_eq_some, level?_eq_some, hrun, hold, hnew]
      | true =>
          rw [level?_of_isClosed hnew, level?_eq_none_of_run_two hold
            (by rw [hrun, length_openingRun_of_isClosed hnew])]
          simp
  | true =>
      cases hnew : conv.isClosed new with
      | false =>
          rw [level?_of_isClosed hold, eq_comm, level?_eq_none_of_run_two hnew
            (by rw [← hrun, length_openingRun_of_isClosed hold])]
          simp
      | true =>
          refine iff_of_true ?_ (Or.inr rfl)
          rw [level?_of_isClosed hold, level?_of_isClosed hnew]

end Convention

/-! ## Decorations but for the ends of faces -/

def Decoration.withoutEnd (decoration : Decoration) : Decoration := { decoration with faceTo := 0 }

namespace Convention

variable {conv : Convention} {above below : List Text} {old new : Text} {number : Int}

theorem decoration?_eq_none_iff (valid : conv.config.Valid) :
    conv.decoration? number new = none ↔ conv.level? new = none := by
  constructor
  · intro hnone
    cases hread : conv.readHeading? number new none with
    | none => exact readHeading?_eq_none.mp hread
    | some heading =>
        obtain ⟨decoration, -, -, hsome⟩ := decorate_of_readHeading? valid hread
        rw [hnone] at hsome
        cases hsome
  · exact decoration?_eq_none

theorem withoutEnd_decoration?_congr (hindent : indentation old = indentation new)
    (hrun : openingRun conv.mark old = openingRun conv.mark new)
    (hlevel : conv.level? old = conv.level? new) :
    (conv.decoration? number old).map Decoration.withoutEnd =
      (conv.decoration? number new).map Decoration.withoutEnd := by
  unfold decoration? readHeading?
  rw [hlevel]
  cases conv.level? new with
  | none => rfl
  | some level =>
      rw [Option.bind_some, Option.bind_some]
      unfold decorate
      dsimp only
      cases bulletGlyph level conv.config.bulletGlyphs with
      | error fault => rfl
      | ok glyph =>
          rw [ok_bind, ok_bind, hindent, hrun]
          rfl

/-- Lines with the same indentation and run look the same but for the end of the face when they are
on the same level. -/
theorem withoutEnd_decoration?_iff (valid : conv.config.Valid)
    (hindent : indentation old = indentation new)
    (hrun : openingRun conv.mark old = openingRun conv.mark new) :
    (conv.decoration? number old).map Decoration.withoutEnd =
        (conv.decoration? number new).map Decoration.withoutEnd ↔
      conv.level? old = conv.level? new := by
  constructor
  · intro hshown
    have hnone : conv.level? old = none ↔ conv.level? new = none := by
      rw [← decoration?_eq_none_iff valid, ← decoration?_eq_none_iff valid,
        ← Option.map_eq_none_iff (f := Decoration.withoutEnd), hshown, Option.map_eq_none_iff]
    cases hold : conv.level? old with
    | none => exact (hnone.mp hold).symm
    | some level =>
        cases hnew : conv.level? new with
        | none =>
            rw [hnone.mpr hnew] at hold
            cases hold
        | some other =>
            -- the run alone says which level it is
            obtain ⟨-, -, -, hlevel⟩ := level?_eq_some.mp hold
            obtain ⟨-, -, -, hother⟩ := level?_eq_some.mp hnew
            rw [hlevel, hother, hrun]
  · exact withoutEnd_decoration?_congr hindent hrun

/-- The bullet stands two columns in front of the last one that can matter. -/
theorem glyphColumn_of_decoration? {decoration : Decoration}
    (h : conv.decoration? number new = some decoration) :
    (decoration.glyphColumn : Int) + 2 = prefixLimit conv.mark new := by
  obtain ⟨heading, hread, hdecorate⟩ := Option.bind_eq_some_iff.mp h
  have hheading := readFrom_of_readHeading? hread
  have hrun := hheading.run_pos
  cases hresult : decorate conv.config heading new with
  | error fault =>
      rw [hresult] at hdecorate
      cases hdecorate
  | ok other =>
      rw [hresult] at hdecorate
      cases hdecorate
      obtain ⟨glyph, -, hother⟩ := bind_eq_ok.mp hresult
      cases hother
      show ((heading.openingEnd - 1 : Nat) : Int) + 2 = _
      unfold prefixLimit Heading.openingEnd
      rw [← hheading.indentation_eq, ← hheading.run_eq]
      omega

end Convention

/-! ## What a cache shows -/

namespace Cache

open Document (position_offset)

/-- Whether a cache knows the decorations of some lines, but for the ends of faces. -/
structure Shows (c : Cache) (conv : Convention) (lines : List Text) : Prop where
  decorations : ∃ known, c.decorations = some known ∧
    known.map Decoration.withoutEnd = (conv.derived 0 lines).map Decoration.withoutEnd
  lineCount : c.lineCount = lines.length

variable {c : Cache} {conv : Convention} {config : Config} {d : Document}
  {above below : List Text} {old new : Text} {known other : List Decoration} {column length : Nat}

theorem map_withoutEnd_insertDecoration (decoration : Decoration) (known : List Decoration) :
    (insertDecoration decoration known).map Decoration.withoutEnd =
      insertDecoration decoration.withoutEnd (known.map Decoration.withoutEnd) := by
  induction known with
  | nil => rfl
  | cons first rest ih =>
      rw [insertDecoration, List.map_cons, insertDecoration]
      show _ = if decoration.line < first.line then _ else if decoration.line = first.line then _
        else _
      split
      · rfl
      · split
        · rfl
        · rw [List.map_cons, ih]

theorem map_withoutEnd_filter (number : Int) (known : List Decoration) :
    (known.filter fun decoration => decoration.line != number).map Decoration.withoutEnd =
      (known.map Decoration.withoutEnd).filter fun decoration => decoration.line != number := by
  rw [List.filter_map]
  rfl

/-- Deriving a line anew does not need the ends of the other faces. -/
theorem map_withoutEnd_deriveLine (valid : config.Valid)
    (hconv : d.convention config = .ok conv) {n : Nat} {line : Text}
    (hline : d.lines[n]? = some line)
    (h : known.map Decoration.withoutEnd = other.map Decoration.withoutEnd)
    {next : List Decoration} (hknown : deriveLine known d config n = .ok next)
    {all : List Decoration} (hother : deriveLine other d config n = .ok all) :
    next.map Decoration.withoutEnd = all.map Decoration.withoutEnd := by
  rw [deriveLine_eq valid hconv hline] at hknown hother
  cases hdecoration : conv.decoration? n line with
  | none =>
      rw [hdecoration] at hknown hother
      cases hknown
      cases hother
      rw [map_withoutEnd_filter, map_withoutEnd_filter, h]
  | some decoration =>
      rw [hdecoration] at hknown hother
      cases hknown
      cases hother
      rw [map_withoutEnd_insertDecoration, map_withoutEnd_insertDecoration, h]

theorem map_withoutEnd_decorationOf? (known : List Decoration) (number : Int) :
    (decorationOf? known number).map Decoration.withoutEnd =
      decorationOf? (known.map Decoration.withoutEnd) number := by
  unfold decorationOf?
  rw [List.find?_map]
  rfl

/-- The prefix that a line was decorated for reaches as far as the one that it has now, wherever the
lines differ behind the latter. -/
theorem le_editLimit_iff (hsame : new.take column = old.take column)
    (hknown : known.map Decoration.withoutEnd =
      (conv.derived 0 (above ++ old :: below)).map Decoration.withoutEnd) :
    (column : Int) ≤ editLimit known conv.mark new above.length ↔
      (column : Int) ≤ prefixLimit conv.mark new := by
  unfold editLimit
  cases hline : decorationOf? known above.length with
  | none => rfl
  | some decoration =>
      dsimp only
      by_cases hprefix : (column : Int) ≤ prefixLimit conv.mark new
      · exact iff_of_true (by omega) hprefix
      · -- then the lines share their prefix, and the decoration knows where it ended
        have hfound := map_withoutEnd_decorationOf? known above.length
        rw [hknown, ← map_withoutEnd_decorationOf?, Convention.decorationOf?_derived, hline,
          Option.map_some] at hfound
        obtain ⟨derived, hderived, hshown⟩ := Option.map_eq_some_iff.mp hfound.symm
        have hcolumn : derived.withoutEnd.glyphColumn = decoration.withoutEnd.glyphColumn :=
          congrArg Decoration.glyphColumn hshown
        simp only [Decoration.withoutEnd] at hcolumn
        have hlimit := Convention.glyphColumn_of_decoration? hderived
        unfold prefixLimit at hprefix hlimit ⊢
        rw [openingRun_congr_take hsame (by omega), indentation_congr_take hsame (by omega)]
          at hlimit
        omega

/-- A cache that is left as it is shows the new lines when the line that differs looks the same. -/
theorem Shows.of_line_iff (h : c.Shows conv (above ++ old :: below)) :
    ({ c with regions := none } : Cache).Shows conv (above ++ new :: below) ↔
      (conv.decoration? above.length old).map Decoration.withoutEnd =
        (conv.decoration? above.length new).map Decoration.withoutEnd := by
  obtain ⟨⟨known, hknown, hshown⟩, hcount⟩ := h
  have hmap : ∀ line, (conv.derived 0 (above ++ line :: below)).map Decoration.withoutEnd =
      (conv.derived 0 above).map Decoration.withoutEnd ++
        ((conv.decoration? above.length line).map Decoration.withoutEnd).toList ++
        (conv.derived (above.length + 1) below).map Decoration.withoutEnd := by
    intro line
    rw [Convention.derived_middle, List.map_append, List.map_append, Option.toList_map]
  have hlists : known.map Decoration.withoutEnd =
      (conv.derived 0 (above ++ new :: below)).map Decoration.withoutEnd ↔
        (conv.decoration? above.length old).map Decoration.withoutEnd =
          (conv.decoration? above.length new).map Decoration.withoutEnd := by
    rw [hshown, hmap, hmap, List.append_cancel_right_eq, List.append_cancel_left_eq]
    constructor
    · intro hmiddle
      have hheads := congrArg List.head? hmiddle
      rwa [Option.head?_toList, Option.head?_toList] at hheads
    · intro hmiddle
      rw [hmiddle]
  rw [← hlists]
  constructor
  · rintro ⟨⟨other, hother, hshows⟩, -⟩
    cases hknown.symm.trans hother
    exact hshows
  · intro hshows
    refine ⟨⟨known, hknown, hshows⟩, ?_⟩
    show c.lineCount = _
    rw [hcount, List.length_append, List.length_append]
    rfl

/-- **When an edit need not be looked at.** A line that differs from some column on is reported from
there. What is known of the document is right afterwards when the base is longer than two, when the
edit starts in the prefix, or when the line is closed as it was before, and not otherwise. -/
theorem notify_shows_iff (valid : config.Valid) (hconv : d.convention config = .ok conv)
    (h : c.Shows conv (above ++ old :: below)) (hlines : d.lines = above ++ new :: below)
    (hsame : new.take column = old.take column) (hwithin : column + length ≤ new.length) :
    (∃ events, (c.notify d config (d.offset above.length column) length).2 = .ok events) ∧
      ((c.notify d config (d.offset above.length column) length).1.Shows conv d.lines ↔
        3 ≤ config.baseLevel ∨ (column : Int) ≤ prefixLimit conv.mark new ∨
          conv.isClosed new = conv.isClosed old) := by
  refine ⟨notify_ok valid hconv (by simp [hlines]) c _ _, ?_⟩
  obtain ⟨-, hconfig⟩ := Document.convention_eq_ok hconv
  obtain ⟨⟨known, hknown, hshown⟩, hcount⟩ := id h
  have hstart : d.position (d.offset above.length column) =
      { line := above.length, column := column } :=
    position_offset hlines (show column + 0 ≤ new.length by omega)
  have hstop := position_offset hlines hwithin
  have hline : d.lines[above.length]? = some new := by
    rw [hlines, List.getElem?_append_right (Nat.le_refl _), Nat.sub_self]
    rfl
  have hsize : d.lineCount = c.lineCount := by
    rw [hcount, Document.lineCount, hlines, List.length_append, List.length_append]
    rfl
  obtain ⟨next, hderive, hnotify⟩ := notify_inside valid hconv hknown hsize
    (by rw [hstart, hstop]) (congrArg Point.line hstart) hline
  rw [hnotify, hstart]
  dsimp only
  by_cases hprefix : (column : Int) ≤ prefixLimit conv.mark new
  · -- the line is derived anew, whatever it was before
    rw [if_pos ((le_editLimit_iff hsame hshown).mpr hprefix)]
    refine iff_of_true ⟨⟨next, rfl, ?_⟩, hsize.symm⟩ (Or.inr (Or.inl hprefix))
    exact map_withoutEnd_deriveLine valid hconv hline hshown hderive
      (deriveLine_derived valid hconv old hlines)
  · -- both lines have the prefix that the edit starts behind
    have hreach := hprefix
    unfold prefixLimit at hreach
    have hindent := indentation_congr_take hsame (by omega)
    have hrun : openingRun conv.mark old = openingRun conv.mark new :=
      openingRun_congr_take hsame (by omega)
    rw [if_neg (fun hlimit => hprefix ((le_editLimit_iff hsame hshown).mp hlimit)), hlines,
      h.of_line_iff, Convention.withoutEnd_decoration?_iff (by rw [hconfig]; exact valid) hindent
        hrun, Convention.level?_eq_iff hrun, or_iff_right hprefix, hconfig]

/-- A character is typed behind a title, where the edit is not looked at. -/
theorem notify_shows_iff_typed : ∃ conv,
    let before : Document := { lines := ["/// A".toList], language := Language.named? "c".toList }
    let after : Document := { before with lines := ["/// AB".toList] }
    let c := ((Cache.empty before).deriveAll before {}).1
    Config.Valid {} ∧ after.convention {} = .ok conv ∧ c.Shows conv before.lines ∧
      "/// AB".toList.take 5 = "/// A".toList.take 5 ∧ 5 + 1 ≤ "/// AB".toList.length ∧
      ¬((5 : Nat) : Int) ≤ prefixLimit conv.mark "/// AB".toList ∧
      (c.notify after {} (after.offset (0 : Nat) (5 : Nat)) (1 : Nat)).1.Shows conv after.lines := by
  have valid : Config.Valid {} := Settings.valid_of_check (s := .defaults) rfl
  have hshows : ((Cache.empty { lines := ["/// A".toList] }).deriveAll
      { lines := ["/// A".toList], language := Language.named? "c".toList } {}).1.Shows
      ⟨['/'], {}⟩ ["/// A".toList] := ⟨⟨_, rfl, rfl⟩, rfl⟩
  refine ⟨⟨['/'], {}⟩, valid, rfl, hshows, rfl, by decide, by decide, ?_⟩
  exact (@notify_shows_iff _ ⟨['/'], {}⟩ {}
    { lines := ["/// AB".toList], language := Language.named? "c".toList } [] [] "/// A".toList
    "/// AB".toList 5 1 valid rfl hshows rfl rfl (by decide)).2.mpr (Or.inl (by decide))

/-- With a base of two, a line becomes a closed line behind the prefix that it has as a heading, and
its decoration stays. -/
theorem notify_keeps_closed : ∃ conv,
    let config : Config := { baseLevel := 2 }
    let before : Document :=
      { lines := ["// CLOSED".toList], language := Language.named? "c".toList }
    let after : Document := { before with lines := ["// CLOSED: done".toList] }
    let c := ((Cache.empty before).deriveAll before config).1
    config.Valid ∧ after.convention config = .ok conv ∧ c.Shows conv before.lines ∧
      "// CLOSED: done".toList.take 9 = "// CLOSED".toList.take 9 ∧
      9 + 6 ≤ "// CLOSED: done".toList.length ∧
      ¬(c.notify after config (after.offset (0 : Nat) (9 : Nat)) (6 : Nat)).1.Shows conv
        after.lines := by
  have valid : Config.Valid { baseLevel := 2 } :=
    Settings.valid_of_check (s := .ofConfig { baseLevel := 2 }) rfl
  refine ⟨⟨['/'], { baseLevel := 2 }⟩, valid, rfl, ⟨⟨_, rfl, rfl⟩, rfl⟩, rfl, by decide, ?_⟩
  rintro ⟨⟨known, hknown, hshown⟩, -⟩
  cases hknown
  exact absurd hshown (by decide)

end Cache

end SourceOutline
