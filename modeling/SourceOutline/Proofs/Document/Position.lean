import SourceOutline.Proofs.Document.Replace
import SourceOutline.Proofs.Lines

/-!
# Places and characters

A place is given by line and column or by the number of characters in front of it, where every line
break counts as one character. The characters in front of a line are the `width` of the lines above,
so looking for such a place skips these lines (`positionFrom_width`).

An edit is reported as a range of characters, and from this range alone followers can tell that it
stayed inside one line: `replace_within_line` says which line that is and that no other differs.
-/

namespace SourceOutline

namespace Document

variable {d : Document} {lines : List Text}

theorem width_nil : width [] = 0 := rfl

theorem width_cons (line : Text) (rest : List Text) :
    width (line :: rest) = line.length + 1 + width rest := by
  simp [width]

/-! ## Looking for a place -/

theorem positionFrom_of_le {number offset : Int} {line : Text} (rest : List Text)
    (h : offset ≤ line.length) :
    positionFrom number offset (line :: rest) = { line := number, column := offset } := by
  cases rest with
  | nil => simp [positionFrom, h]
  | cons next rest => rw [positionFrom, if_pos h]

theorem positionFrom_of_gt {number offset : Int} {line next : Text} (rest : List Text)
    (h : line.length < offset) :
    positionFrom number offset (line :: next :: rest) =
      positionFrom (number + 1) (offset - (line.length + 1)) (next :: rest) := by
  rw [positionFrom, if_neg (by omega)]

/-- The lines above a place are skipped. -/
theorem positionFrom_width {number offset : Int} (h : 0 ≤ offset) :
    ∀ (above : List Text) {line : Text} {rest : List Text},
      positionFrom number (width above + offset) (above ++ line :: rest) =
        positionFrom (number + above.length) offset (line :: rest) := by
  intro above
  induction above generalizing number with
  | nil => simp [width_nil]
  | cons first above ih =>
      intro line rest
      have hlong : (first.length : Int) < width (first :: above) + offset := by
        rw [width_cons]
        omega
      obtain ⟨next, others, hnext⟩ : ∃ next others, above ++ line :: rest = next :: others := by
        cases above <;> simp
      rw [List.cons_append, hnext, positionFrom_of_gt _ hlong, ← hnext,
        show (width (first :: above) : Int) + offset - (first.length + 1) = width above + offset by
          rw [width_cons]; omega,
        ih, List.length_cons]
      congr 1
      omega

/-- The place that is found is on one of the lines. -/
theorem positionFrom_line (hlines : lines ≠ []) (number offset : Int) :
    number ≤ (positionFrom number offset lines).line ∧
      (positionFrom number offset lines).line < number + lines.length := by
  induction lines generalizing number offset with
  | nil => exact absurd rfl hlines
  | cons line rest ih =>
      cases rest with
      | nil =>
          simp only [positionFrom, List.length_singleton]
          omega
      | cons next rest =>
          by_cases h : offset ≤ line.length
          · rw [positionFrom_of_le _ h]
            simp only [List.length_cons]
            omega
          · rw [positionFrom_of_gt _ (by omega)]
            obtain ⟨h₁, h₂⟩ := ih (List.cons_ne_nil next rest) (number + 1)
              (offset - (line.length + 1))
            simp only [List.length_cons] at h₂ ⊢
            omega

theorem positionFrom_line_gt {number offset : Int} {line next : Text} {rest : List Text}
    (h : line.length < offset) :
    number < (positionFrom number offset (line :: next :: rest)).line := by
  rw [positionFrom_of_gt _ h]
  obtain ⟨hle, -⟩ := positionFrom_line (List.cons_ne_nil next rest) (number + 1)
    (offset - (line.length + 1))
  omega

/-! ## The place of a character of the document -/

theorem position_line (hlines : d.lines ≠ []) (offset : Int) :
    ∃ n : Nat, (d.position offset).line = n ∧ n < d.lines.length := by
  obtain ⟨h₁, h₂⟩ := positionFrom_line hlines 0 offset
  exact ⟨(d.position offset).line.toNat, by unfold position; omega, by unfold position; omega⟩

variable {start stop : Int} {new above below : List Text} {line : Text}

theorem offset_of_split (hlines : d.lines = above ++ line :: below) (column : Int) :
    d.offset above.length column = width above + column := by
  unfold Document.offset
  rw [hlines, Lines.cutAt_ofNat (by simp), List.take_left]

theorem position_offset (hlines : d.lines = above ++ line :: below) {column more : Nat}
    (hmore : column + more ≤ line.length) :
    d.position (d.offset above.length column + more) =
      { line := above.length, column := (column + more : Nat) } := by
  unfold position
  rw [offset_of_split hlines, hlines, Int.add_assoc, positionFrom_width (by omega),
    positionFrom_of_le _ (by omega)]
  simp

/-! ## Edits inside one line -/

theorem position_changeOf (habove : above = d.lines.take (Lines.cutAt d.lines.length start)) :
    (d.changeOf start stop new).position = width above := by
  rw [habove]
  exact Int.add_zero _

theorem position_replace (habove : above = d.lines.take (Lines.cutAt d.lines.length start))
    (hlines : (d.replace start stop new).1.lines = above ++ line :: below) {length : Int}
    (hlength : 0 ≤ length) :
    (d.replace start stop new).1.position ((d.changeOf start stop new).position + length) =
      positionFrom above.length length (line :: below) := by
  unfold position
  rw [hlines, position_changeOf habove, positionFrom_width hlength, Int.zero_add]

theorem position_replace_start (habove : above = d.lines.take (Lines.cutAt d.lines.length start))
    (hlines : (d.replace start stop new).1.lines = above ++ line :: below) :
    (d.replace start stop new).1.position (d.changeOf start stop new).position =
      { line := above.length, column := 0 } := by
  have hplace := position_replace habove hlines (Int.le_refl 0)
  rw [Int.add_zero] at hplace
  rw [hplace, positionFrom_of_le _ (Int.natCast_nonneg _)]

theorem length_lt_spanLength (line next : Text) (rest : List Text) (followed : Bool) :
    (line.length : Int) < spanLength (line :: next :: rest) followed := by
  unfold spanLength
  rw [width_cons, width_cons]
  cases followed <;> simp <;> omega

/-- Looking for the end of a reported range of two or more lines leads below its start. -/
theorem position_replace_lt {next : Text} {rest : List Text}
    (habove : above = d.lines.take (Lines.cutAt d.lines.length start))
    (hlines : (d.replace start stop (line :: next :: rest)).1.lines =
      above ++ line :: next :: below) :
    let change := d.changeOf start stop (line :: next :: rest)
    let edited := (d.replace start stop (line :: next :: rest)).1
    (edited.position change.position).line <
      (edited.position (change.position + change.newLength)).line := by
  have hlong : (line.length : Int) < (d.changeOf start stop (line :: next :: rest)).newLength :=
    length_lt_spanLength line next rest _
  dsimp only
  rw [position_replace_start habove hlines, position_replace habove hlines (by omega)]
  exact positionFrom_line_gt hlong

/-- **An edit that keeps the number of lines and is reported inside one line changes no other.** It
is reported from the start of that line, unless it changes nothing at all. -/
theorem replace_within_line
    (hcount : (d.replace start stop new).1.lineCount = d.lineCount)
    (hline : ((d.replace start stop new).1.position (d.changeOf start stop new).position).line =
      ((d.replace start stop new).1.position
        ((d.changeOf start stop new).position + (d.changeOf start stop new).newLength)).line) :
    ∃ (above below : List Text) (old line : Text), d.lines = above ++ old :: below ∧
      (d.replace start stop new).1.lines = above ++ line :: below ∧
      ((d.replace start stop new).1.position (d.changeOf start stop new).position).line =
        above.length ∧
      (0 < ((d.replace start stop new).1.position (d.changeOf start stop new).position).column →
        (d.replace start stop new).1.lines = d.lines) := by
  obtain ⟨above, old, below, hold, hnew, habove⟩ := splice_parts d.lines start stop new
  have hlines : (d.replace start stop new).1.lines = orEmptyLine (above ++ new ++ below) :=
    congrArg orEmptyLine hnew
  unfold lineCount at hcount
  by_cases hempty : above ++ new ++ below = []
  · -- the only line is deleted, and an empty one takes its place
    rw [hempty, orEmptyLine, List.isEmpty_nil, if_pos rfl] at hlines
    simp only [List.append_eq_nil_iff] at hempty
    obtain ⟨⟨rfl, rfl⟩, rfl⟩ := hempty
    rw [hlines, List.length_singleton] at hcount
    obtain ⟨line, hsingle⟩ := List.length_eq_one_iff.mp hcount.symm
    have hplace := position_replace_start habove hlines
    refine ⟨[], [], line, [], hsingle, hlines, ?_⟩
    rw [hplace]
    exact ⟨rfl, fun h => absurd h (Int.lt_irrefl 0)⟩
  · rw [orEmptyLine_of_ne_nil hempty] at hlines
    rw [hlines, hold] at hcount
    simp only [List.length_append] at hcount
    cases new with
    | nil =>
        -- nothing is deleted, so any line may be the one that is reported
        rw [List.length_nil] at hcount
        have hnil : old = [] := List.eq_nil_of_length_eq_zero (by omega)
        have hsame : (d.replace start stop []).1.lines = d.lines := by rw [hlines, hold, hnil]
        obtain ⟨n, hn, hlt⟩ := position_line replace_lines_ne_nil
          (d.changeOf start stop []).position
        obtain ⟨above, below, hsplit, rfl⟩ := Lines.exists_split (List.getElem?_eq_getElem hlt)
        exact ⟨above, below, _, _, hsame.symm.trans hsplit, hsplit, hn, fun _ => hsame⟩
    | cons line rest =>
        rw [List.append_assoc, List.cons_append] at hlines
        have hplace := position_replace_start habove hlines
        cases rest with
        | nil =>
            rw [List.length_singleton] at hcount
            obtain ⟨before, rfl⟩ := List.length_eq_one_iff.mp (show old.length = 1 by omega)
            rw [List.append_assoc, List.singleton_append] at hold
            refine ⟨above, below, before, line, hold, hlines, ?_⟩
            rw [hplace]
            exact ⟨rfl, fun h => absurd h (Int.lt_irrefl 0)⟩
        | cons next rest =>
            -- the range ends on a later line than it starts
            exact absurd hline (Int.ne_of_lt (position_replace_lt habove hlines))

end Document

end SourceOutline
