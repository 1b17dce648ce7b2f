import SourceOutline.Proofs.Document.Described
import SourceOutline.Proofs.Document.Position

/-!
# Counting characters forth and back

`Document.offset` adds up the lines above a place, `Document.position` takes them off again one by
one. An offset that the text has falls on one of its lines (`exists_split_of_lt_width`), where the
break behind a line counts as its last column, and every larger offset leads to the end of the text.
Main statement: counting and looking up undo each other, and a larger offset never leads further up
(`position_offset_inverse`).
-/

namespace SourceOutline

/-- Whether a place is not behind another one in the order of reading. -/
def Point.NotBehind (p q : Point) : Prop := p.line < q.line ∨ p.line = q.line ∧ p.column ≤ q.column

namespace Document

variable {d : Document} {lines above below : List Text} {line last : Text} {column characters : Nat}
  {number offset offset' : Int}

/-! ## From an offset to its place -/

/-- A character of a text is on one of its lines, or the break behind it. -/
theorem exists_split_of_lt_width (h : characters < width lines) :
    ∃ (above below : List Text) (line : Text) (column : Nat), lines = above ++ line :: below ∧
      column ≤ line.length ∧ characters = width above + column := by
  induction lines generalizing characters with
  | nil => cases h
  | cons first rest ih =>
      rw [width_cons] at h
      rcases Nat.lt_or_ge first.length characters with hbehind | hinside
      · obtain ⟨above, below, line, column, rfl, hcolumn, hcount⟩ :=
          ih (show characters - (first.length + 1) < width rest by omega)
        refine ⟨first :: above, below, line, column, rfl, hcolumn, ?_⟩
        rw [width_cons]
        omega
      · exact ⟨[], rest, first, characters, rfl, hinside, by rw [width_nil, Nat.zero_add]⟩

theorem exists_last (hlines : d.lines ≠ []) :
    ∃ above last, d.lines = above ++ [last] ∧
      (joined d.lines).length = width above + last.length := by
  obtain ⟨above, last, hsplit⟩ := (List.eq_nil_or_concat d.lines).resolve_left hlines
  rw [List.concat_eq_append] at hsplit
  refine ⟨above, last, hsplit, ?_⟩
  rw [hsplit, joined_append (List.cons_ne_nil last []), List.length_append, length_ended]
  simp [joined, Text.joinWith]

theorem position_of_length_le (hlines : d.lines = above ++ [last])
    (h : (width above + last.length : Int) ≤ offset) :
    d.position offset = { line := above.length, column := last.length } := by
  obtain ⟨more, rfl⟩ : ∃ more, offset = width above + more := ⟨offset - width above, by omega⟩
  unfold position
  rw [hlines, positionFrom_width (by omega), Int.zero_add, positionFrom]
  split
  · congr 1
    omega
  · rfl

/-- Every offset leads to a place of the document, from which counting gives the offset back as far
as the text goes. -/
theorem exists_place (hlines : d.lines ≠ []) (characters : Nat) :
    ∃ (n : Nat) (line : Text) (column : Nat), d.lines[n]? = some line ∧ column ≤ line.length ∧
      d.position characters = { line := n, column } ∧
      d.offset n column = (min characters (joined d.lines).length : Nat) := by
  have hlength := length_joined hlines
  rcases Nat.lt_or_ge characters (width d.lines) with hinside | hbehind
  · obtain ⟨above, below, line, column, hsplit, hcolumn, rfl⟩ := exists_split_of_lt_width hinside
    have hplace := position_offset hsplit (show column + 0 ≤ line.length from hcolumn)
    rw [offset_of_split hsplit] at hplace
    refine ⟨above.length, line, column, Lines.getElem?_split hsplit, hcolumn, hplace, ?_⟩
    rw [offset_of_split hsplit]
    omega
  · obtain ⟨above, last, hsplit, htotal⟩ := exists_last hlines
    refine ⟨above.length, last, last.length, Lines.getElem?_split hsplit, Nat.le_refl _,
      position_of_length_le hsplit (by omega), ?_⟩
    rw [offset_of_split hsplit]
    omega

/-! ## More characters -/

/-- Places are in the order of the characters in front of them. -/
theorem positionFrom_mono (lines : List Text) (h : offset ≤ offset') :
    (positionFrom number offset lines).NotBehind (positionFrom number offset' lines) := by
  induction lines generalizing number offset offset' with
  | nil => exact Or.inr ⟨rfl, h⟩
  | cons line rest ih =>
      cases rest with
      | nil =>
          refine Or.inr ⟨rfl, ?_⟩
          simp only [positionFrom]
          omega
      | cons next rest =>
          by_cases hinside : offset ≤ line.length
          · rw [positionFrom_of_le _ hinside]
            by_cases hinside' : offset' ≤ line.length
            · rw [positionFrom_of_le _ hinside']
              exact Or.inr ⟨rfl, h⟩
            · exact Or.inl (positionFrom_line_gt (Int.not_le.mp hinside'))
          · rw [positionFrom_of_gt _ (by omega), positionFrom_of_gt _ (by omega)]
            exact ih (by omega)

/-- **Offsets and places are inverse.** The offset of a place leads back to it. Every offset leads to
a place of the document, and the offset of that is the old one, or the length of the text when that is
less. A larger offset never leads to an earlier place. -/
theorem position_offset_inverse (hlines : d.lines ≠ []) :
    (∀ (n : Nat) (line : Text) (column : Nat), d.lines[n]? = some line → column ≤ line.length →
      d.position (d.offset n column) = { line := n, column }) ∧
      (∀ characters : Nat, (d.setPoint (d.position characters)).PointInside ∧
        d.offset (d.position characters).line (d.position characters).column =
          (min characters (joined d.lines).length : Nat)) ∧
      ∀ offset offset' : Int, offset ≤ offset' →
        (d.position offset).NotBehind (d.position offset') := by
  refine ⟨?_, ?_, fun offset offset' => positionFrom_mono d.lines⟩
  · intro n line column hline hcolumn
    obtain ⟨above, below, hsplit, rfl⟩ := Lines.exists_split hline
    exact position_offset hsplit (show column + 0 ≤ line.length from hcolumn)
  · intro characters
    obtain ⟨n, line, column, hline, hcolumn, hplace, hoffset⟩ := exists_place hlines characters
    rw [hplace]
    exact ⟨setPoint_pointInside hline hcolumn, hoffset⟩

/-- A text with an empty line: the break of the first line belongs to its end, and behind the last
character there is nothing more to count. -/
theorem position_offset_inverse_blank :
    let d : Document := { lines := ["abc".toList, [], "de".toList] }
    d.lines ≠ [] ∧ d.position 3 = { line := 0, column := 3 } ∧
      d.position 4 = { line := 1, column := 0 } ∧
      d.offset (d.position 100).line (d.position 100).column = 7 ∧
      (d.position 4).NotBehind (d.position 100) := by
  intro d
  have hlines : d.lines ≠ [] := List.cons_ne_nil _ _
  obtain ⟨hplace, hoffset, hmono⟩ := position_offset_inverse hlines
  exact ⟨hlines, hplace 0 "abc".toList 3 rfl (by decide), hplace 1 [] 0 rfl (by decide),
    (hoffset 100).2, hmono 4 100 (by decide)⟩

end Document

end SourceOutline
