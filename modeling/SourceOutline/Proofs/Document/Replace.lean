import SourceOutline.Document

/-!
# Replacing lines

What `Document.replace` does to the lines and to the point. An edit *fits* a document when it starts
and stops inside it, in this order; then the new lines stand between the lines in front and the
lines behind, which stay as they are. The point is inside the document after every edit, whether it
fits or not.
-/

namespace SourceOutline

namespace Document

/-- Whether an edit starts and stops inside the document. -/
def Fits (d : Document) (start stop : Int) : Prop :=
  0 ≤ start ∧ start ≤ stop ∧ stop ≤ d.lineCount

/-- Whether the point is on a line of the document and not behind its end. -/
def PointInside (d : Document) : Prop :=
  0 ≤ d.point.line ∧ d.point.line < d.lineCount ∧ 0 ≤ d.point.column ∧
    ∀ line ∈ Lines.lookup? d.lines d.point.line, d.point.column ≤ line.length

instance (d : Document) (start stop : Int) : Decidable (d.Fits start stop) :=
  inferInstanceAs (Decidable (0 ≤ start ∧ start ≤ stop ∧ stop ≤ d.lineCount))

instance (d : Document) : Decidable d.PointInside :=
  inferInstanceAs (Decidable (0 ≤ d.point.line ∧ d.point.line < d.lineCount ∧ 0 ≤ d.point.column ∧
    ∀ line ∈ Lines.lookup? d.lines d.point.line, d.point.column ≤ line.length))

variable {d : Document} {lines new : List Text} {start stop : Int}

/-! ## Numbers of lines and columns as natural numbers -/

theorem Fits.exists_nat (h : d.Fits start stop) :
    ∃ first last : Nat, start = first ∧ stop = last ∧ first ≤ last ∧ last ≤ d.lines.length := by
  obtain ⟨h₁, h₂, h₃⟩ := h
  unfold lineCount at h₃
  exact ⟨start.toNat, stop.toNat, by omega, by omega, by omega, by omega⟩

theorem fits_ofNat {first last : Nat} (h : first ≤ last) (hl : last ≤ d.lines.length) :
    d.Fits first last := by
  unfold Fits lineCount
  omega

/-- The point of a document in order: its line, and a column in it. -/
theorem pointInside_iff :
    d.PointInside ↔ ∃ (n c : Nat) (line : Text),
      d.point = { line := n, column := c } ∧ d.lines[n]? = some line ∧ c ≤ line.length := by
  constructor
  · rintro ⟨h₁, h₂, h₃, h₄⟩
    unfold lineCount at h₂
    have hlt : d.point.line.toNat < d.lines.length := by omega
    have hn : d.point.line = (d.point.line.toNat : Int) := by omega
    have hget := List.getElem?_eq_getElem hlt
    rw [hn, Lines.lookup?_ofNat, hget] at h₄
    have hc := h₄ _ rfl
    refine ⟨d.point.line.toNat, d.point.column.toNat, _, ?_, hget, by omega⟩
    rw [← hn, Int.toNat_of_nonneg h₃]
  · rintro ⟨n, c, line, hpoint, hget, hc⟩
    obtain ⟨hlt, -⟩ := List.getElem?_eq_some_iff.mp hget
    unfold PointInside lineCount
    rw [hpoint]
    refine ⟨Int.natCast_nonneg n, Int.ofNat_lt.mpr hlt, Int.natCast_nonneg c, ?_⟩
    intro other hother
    rw [Lines.lookup?_ofNat, hget, Option.mem_some_iff] at hother
    subst hother
    exact Int.ofNat_le.mpr hc

theorem PointInside.lines_ne_nil (h : d.PointInside) : d.lines ≠ [] := by
  obtain ⟨n, c, line, -, hget, -⟩ := pointInside_iff.mp h
  rintro hnil
  rw [hnil] at hget
  cases hget

/-! ## The lines after an edit -/

theorem orEmptyLine_ne_nil : orEmptyLine lines ≠ [] := by
  unfold orEmptyLine
  split
  · simp
  · simp_all

theorem orEmptyLine_of_ne_nil (h : lines ≠ []) : orEmptyLine lines = lines := by
  unfold orEmptyLine
  rw [if_neg (by simpa using h)]

theorem splice_parts (lines : List Text) (start stop : Int) (new : List Text) :
    ∃ above old below : List Text, lines = above ++ old ++ below ∧
      splice lines start stop new = above ++ new ++ below ∧
      above = lines.take (Lines.cutAt lines.length start) := by
  have hle := Nat.le_max_left (Lines.cutAt lines.length start) (Lines.cutAt lines.length stop)
  unfold splice
  dsimp only
  generalize max (Lines.cutAt lines.length start) (Lines.cutAt lines.length stop) = last at hle ⊢
  generalize Lines.cutAt lines.length start = first at hle ⊢
  refine ⟨lines.take first, (lines.take last).drop first, lines.drop last, ?_, rfl, rfl⟩
  have htake : lines.take first = (lines.take last).take first := by
    rw [List.take_take, Nat.min_eq_left hle]
  rw [htake, List.take_append_drop, List.take_append_drop]

theorem splice_ofNat {first last : Nat} (h : first ≤ last) (hl : last ≤ lines.length) :
    splice lines first last new = lines.take first ++ new ++ lines.drop last := by
  unfold splice
  simp only [Lines.cutAt_ofNat hl, Lines.cutAt_ofNat (Nat.le_trans h hl), Nat.max_eq_right h]

theorem length_cutOut_ofNat {first last : Nat} (h : first ≤ last) (hl : last ≤ lines.length) :
    (cutOut lines first last).length = last - first := by
  unfold cutOut
  rw [Lines.cutAt_ofNat hl, Lines.cutAt_ofNat (Nat.le_trans h hl), List.length_drop,
    List.length_take]
  omega

theorem replace_lines :
    (d.replace start stop new).1.lines = orEmptyLine (splice d.lines start stop new) := rfl

theorem replace_lines_ne_nil : (d.replace start stop new).1.lines ≠ [] := orEmptyLine_ne_nil

theorem replace_lines_of_fits {first last : Nat} (h : first ≤ last) (hl : last ≤ d.lines.length)
    (hnew : new ≠ []) :
    (d.replace first last new).1.lines = d.lines.take first ++ new ++ d.lines.drop last := by
  rw [replace_lines, splice_ofNat h hl, orEmptyLine_of_ne_nil]
  simp [hnew]

/-- An edit that puts in as many lines as it takes leaves all other lines where they are. -/
theorem getElem?_replace {first last : Nat} (h : first ≤ last) (hl : last ≤ d.lines.length)
    (hnew : new ≠ []) (hlength : new.length = last - first) (i : Nat) :
    (d.replace first last new).1.lines[i]? =
      if first ≤ i ∧ i < last then new[i - first]? else d.lines[i]? := by
  have htake : (d.lines.take first).length = first := by
    rw [List.length_take, Nat.min_eq_left (Nat.le_trans h hl)]
  rw [replace_lines_of_fits h hl hnew, List.append_assoc]
  rcases Nat.lt_or_ge i first with habove | hbelow
  · rw [if_neg (by omega), List.getElem?_append_left (by omega), List.getElem?_take_of_lt habove]
  rw [List.getElem?_append_right (by omega), htake]
  rcases Nat.lt_or_ge i last with hinside | hbehind
  · rw [if_pos ⟨hbelow, hinside⟩, List.getElem?_append_left (by omega)]
  · rw [if_neg (by omega), List.getElem?_append_right (by omega), List.getElem?_drop, hlength]
    congr 1
    omega

theorem changeOf_ofNat {first last : Nat} (h : first ≤ last) (hl : last ≤ d.lines.length)
    (new : List Text) :
    (d.changeOf first last new).line = first ∧
      (d.changeOf first last new).oldCount = last - first ∧
      (d.changeOf first last new).newCount = new.length := by
  refine ⟨rfl, ?_, rfl⟩
  show ((cutOut d.lines first last).length : Int) = last - first
  rw [length_cutOut_ofNat h hl]
  omega

theorem changeOf_lineDelta {first last : Nat} (h : first ≤ last) (hl : last ≤ d.lines.length)
    (new : List Text) :
    (d.changeOf first last new).lineDelta = new.length - (last - first : Int) := by
  obtain ⟨-, hold, hnew⟩ := changeOf_ofNat h hl new
  unfold Change.lineDelta
  rw [hold, hnew]

/-! ## The point after an edit -/

theorem shiftPoint_inside (hlines : lines ≠ []) (change : Change) {point : Point}
    (hcolumn : 0 ≤ point.column) :
    0 ≤ (shiftPoint lines change point).line ∧
      (shiftPoint lines change point).line < lines.length ∧
      0 ≤ (shiftPoint lines change point).column ∧
      ∀ line ∈ lines[(shiftPoint lines change point).line.toNat]?,
        (shiftPoint lines change point).column ≤ line.length := by
  have hpos := List.length_pos_iff.mpr hlines
  unfold shiftPoint
  dsimp only
  generalize (if change.lineDelta ≠ 0 ∧ change.line + change.oldCount ≤ point.line
    then point.line + change.lineDelta else point.line) = moved
  refine ⟨by omega, by omega, by omega, ?_⟩
  intro line hline
  rw [Option.mem_def] at hline
  rw [hline]
  exact Int.min_le_right _ _

/-- **The point is inside the document after every edit.** -/
theorem replace_pointInside (hcolumn : 0 ≤ d.point.column) :
    (d.replace start stop new).1.PointInside := by
  have hlines : (d.replace start stop new).1.lines ≠ [] := replace_lines_ne_nil
  obtain ⟨h₁, h₂, h₃, h₄⟩ := shiftPoint_inside hlines (d.changeOf start stop new) hcolumn
  refine ⟨h₁, h₂, h₃, ?_⟩
  intro line hline
  refine h₄ line ?_
  unfold Lines.lookup? at hline
  rwa [if_pos (show 0 ≤ (d.replace start stop new).1.point.line from h₁)] at hline

/-- Point stays on its line when the lines from there on are replaced. -/
theorem replace_point_line {first last : Nat} (hpoint : d.point.line = first) (hlt : first < last)
    (hlast : last ≤ d.lines.length) (hnew : new ≠ []) :
    (d.replace first last new).1.point.line = first := by
  have hle : first ≤ last := by omega
  have hlength : first < (d.replace first last new).1.lines.length := by
    have hpos := List.length_pos_iff.mpr hnew
    rw [replace_lines_of_fits hle hlast hnew]
    simp only [List.length_append, List.length_take]
    omega
  obtain ⟨hline, hold, -⟩ := changeOf_ofNat hle hlast new
  -- the replaced lines end behind point, so point does not move along
  have hbehind : ¬((d.changeOf first last new).line + (d.changeOf first last new).oldCount ≤
      d.point.line) := by
    omega
  show max 0 (min (if _ ∧ _ then _ else d.point.line) _) = (first : Int)
  rw [if_neg (fun h => hbehind h.2), hpoint]
  have hcount : (orEmptyLine (splice d.lines first last new)).length =
      (d.replace first last new).1.lines.length := rfl
  omega

theorem replace_point {first last : Nat} {line : Text} (hpoint : d.point.line = first)
    (hlt : first < last) (hlast : last ≤ d.lines.length) (hnew : new ≠ [])
    (hget : (d.replace first last new).1.lines[first]? = some line) :
    (d.replace first last new).1.point =
      { line := first, column := min d.point.column line.length } := by
  have hline := replace_point_line hpoint hlt hlast hnew
  have hcolumn : (d.replace first last new).1.point.column = min d.point.column
      (((d.replace first last new).1.lines[
        (d.replace first last new).1.point.line.toNat]?).getD []).length := rfl
  rw [hline, Int.toNat_natCast, hget, Option.getD_some] at hcolumn
  generalize (d.replace first last new).1.point = after at hline hcolumn
  cases after
  cases hline
  cases hcolumn
  rfl

theorem setPoint_pointInside {n c : Nat} {line : Text} (hline : d.lines[n]? = some line)
    (hc : c ≤ line.length) : (d.setPoint { line := n, column := c }).PointInside :=
  pointInside_iff.mpr ⟨n, c, line, rfl, hline, hc⟩

end Document

end SourceOutline
