import SourceOutline.Proofs.Edit.Decided

/-!
# Where a heading is inserted

Inserting a heading in closed form: its level and indentation come from the enclosing heading, and
its *spot* is either the end of the enclosing subtree or chosen at point. The spot replaces lines of
the document, and of the line at point it keeps a part above the heading and a part as its title.
-/

namespace SourceOutline

namespace Document

variable {d : Document} {config : Config} {conv : Convention} {n : Nat} {line : Text} {room : Int}

/-! ## Level, indentation and spot -/

/-- The level at which a heading is inserted: the one that is asked for, else that of the enclosing
heading. -/
def insertLevel (d : Document) (conv : Convention) (level? : Option Int) : Int :=
  level?.getD (((conv.enclosing? d.lines d.point.line).map Heading.level).getD 1)

def insertIndentation (d : Document) (conv : Convention) : Text :=
  ((conv.enclosing? d.lines d.point.line).map Heading.indentation).getD []

def behindSubtree (d : Document) (conv : Convention) : Nat :=
  match conv.enclosing? d.lines d.point.line with
  | none => d.lines.length
  | some heading =>
    let below := heading.line.toNat + 1
    below + (conv.subtreeLines heading.level (d.lines.drop below)).length

/-- Where a heading is inserted when point is on line `n`. -/
def insertSpot (d : Document) (conv : Convention) (n : Nat) (line : Text)
    (respectContent : Bool) : InsertionSpot :=
  if respectContent then { start := d.behindSubtree conv, stop := d.behindSubtree conv }
  else d.spotAtPoint conv line (conv.readHeading? n line d.lines[n + 1]?)

/-- The line that will stand right above an inserted heading, a blank line apart. -/
def lineAbove? (lines : List Text) (spot : InsertionSpot) : Option Text :=
  match spot.kept.getLast? with
  | some kept => some kept
  | none => if 0 < spot.start then Lines.lookup? lines (spot.start - 1) else none

/-- The new lines above an inserted heading: what is kept, and perhaps a blank line. -/
def linesAbove (conv : Convention) (lines : List Text) (spot : InsertionSpot) (level : Int) :
    List Text :=
  spot.kept ++
    if needsBlankLine conv lines spot.start (lineAbove? lines spot) level then [[]] else []

def insertionAt (conv : Convention) (lines : List Text) (spot : InsertionSpot) (opening : Text)
    (level : Int) : Decision :=
  let above := linesAbove conv lines spot level
  .replace spot.start spot.stop (above ++ [opening ++ ' ' :: spot.title])
    (some { line := spot.start + above.length, column := opening.length + 1 })
    (.headingInserted (spot.start + above.length) level)

/-- Looking for the spot never fails. -/
theorem insertSpot_eq (d : Document) (conv : Convention) (n : Nat) (line : Text)
    (respectContent : Bool) (next : InsertionSpot → Except Fault Decision) :
    (if respectContent then
        match conv.enclosing? d.lines d.point.line with
        | some heading => conv.subtreeEnd d.lines heading.line >>= fun stop =>
          next { start := stop, stop }
        | none => next { start := (d.lines.length : Int), stop := d.lines.length }
      else next (d.spotAtPoint conv line (conv.readHeading? n line d.lines[n + 1]?))) =
      next (d.insertSpot conv n line respectContent) := by
  unfold insertSpot behindSubtree
  cases respectContent with
  | false => rfl
  | true =>
      cases hreference : conv.enclosing? d.lines d.point.line with
      | none => rfl
      | some heading =>
          obtain ⟨i, other, hget, -, hread⟩ := Convention.enclosing?_eq_some hreference
          rw [if_pos rfl, if_pos rfl]
          dsimp only
          rw [hread.line_eq, Convention.subtreeEnd_ofNat hget hread.level_eq, Int.toNat_natCast]
          rfl

theorem insertHeading_eq (hconv : d.convention config = .ok conv) (hpoint : d.point.line = n)
    (hline : d.lines[n]? = some line) (room : Int) (level? : Option Int)
    (respectContent : Bool) :
    d.insertHeading config room level? respectContent =
      if d.insertLevel conv level? < 1 then
        .ok (.refuse (.invalidLevel (d.insertLevel conv level?)))
      else
        (writeRun room conv.mark (d.insertLevel conv level? + config.baseLevel - 1)).map fun run =>
          insertionAt conv d.lines (d.insertSpot conv n line respectContent)
            (d.insertIndentation conv ++ run) (d.insertLevel conv level?) := by
  unfold insertHeading
  rw [hconv, ok_bind]
  change (if d.insertLevel conv level? < 1 then _ else
    headingOpening room (d.insertLevel conv level?) conv.mark config.baseLevel >>= _) = _
  by_cases hlevel : d.insertLevel conv level? < 1
  · rw [if_pos hlevel, if_pos hlevel]
    rfl
  · rw [if_neg hlevel, if_neg hlevel]
    have hopening : headingOpening room (d.insertLevel conv level?) conv.mark config.baseLevel =
        writeRun room conv.mark (d.insertLevel conv level? + config.baseLevel - 1) :=
      headingOpening_of_level? (SourceOutline.level?_eq_some.mpr ⟨by omega, rfl⟩) _ _
    have hlookup : d.line d.point.line = .ok line := by
      rw [hpoint]
      exact Lines.lookup_ofNat hline
    have hheading : conv.headingAt d.lines d.point.line =
        .ok (conv.readHeading? n line d.lines[n + 1]?) := by
      rw [hpoint]
      exact Convention.headingAt_ofNat conv hline
    rw [hopening]
    cases writeRun room conv.mark (d.insertLevel conv level? + config.baseLevel - 1) with
    | error fault => rfl
    | ok run =>
        rw [ok_bind, map_ok, hlookup, ok_bind, hheading, ok_bind]
        exact insertSpot_eq d conv n line respectContent fun spot =>
          .ok (insertionAt conv d.lines spot (d.insertIndentation conv ++ run)
            (d.insertLevel conv level?))

theorem insertHeading_unmarked {fault : Fault} (h : d.convention config = .error fault)
    (level? : Option Int) (respectContent : Bool) :
    d.insertHeading config room level? respectContent = .error fault := by
  unfold insertHeading
  rw [h]
  rfl

/-! ## Where spots lie -/

/-- A spot at point keeps nothing of the line, or splits it. The closed line of a heading that is
split is replaced by itself. Only a line that shows something has a heading put in front of it. -/
theorem spotAtPoint_cases (hpoint : d.point.line = n) (conv : Convention) (line : Text)
    (onHeading : Option Heading) :
    (∃ first last : Nat, n ≤ first ∧ first ≤ last ∧ last ≤ n + 1 ∧
        (last = n → line.isBlankText = false) ∧
        d.spotAtPoint conv line onHeading = { start := first, stop := last }) ∨
      ∃ cut : Nat, line.isBlankText = false ∧
        (d.spotAtPoint conv line onHeading =
            { start := n, stop := (n + 1 : Nat), kept := [Text.trimEnd (line.take cut)],
              title := Text.trim (line.drop cut) } ∨
          ∃ closed, d.lines[n + 1]? = some closed ∧
            d.spotAtPoint conv line onHeading =
              { start := n, stop := (n + 2 : Nat), kept := [Text.trimEnd (line.take cut), closed],
                title := Text.trim (line.drop cut) }) := by
  generalize hspot : d.spotAtPoint conv line onHeading = spot
  unfold spotAtPoint at hspot
  rw [hpoint] at hspot
  dsimp only at hspot
  rw [Lines.lookup?_below] at hspot
  split at hspot
  · exact Or.inl ⟨n + 1, n + 1, by omega, by omega, by omega, by omega, hspot.symm⟩
  split at hspot
  · exact Or.inl ⟨n, n + 1, by omega, by omega, by omega, by omega, hspot.symm⟩
  rename_i hblank
  have hvisible : line.isBlankText = false := by simpa using hblank
  cases onHeading with
  | none =>
      dsimp only at hspot
      split at hspot
      · exact Or.inl ⟨n, n, by omega, by omega, by omega, fun _ => hvisible, hspot.symm⟩
      · exact Or.inr ⟨_, hvisible, Or.inl hspot.symm⟩
  | some heading =>
      dsimp only at hspot
      split at hspot
      · exact Or.inl ⟨n, n, by omega, by omega, by omega, fun _ => hvisible, hspot.symm⟩
      · split at hspot
        · rename_i closed _ hclosed
          obtain ⟨hget, -⟩ := Option.filter_eq_some_iff.mp hclosed
          exact Or.inr ⟨_, hvisible, Or.inr ⟨closed, hget, hspot.symm⟩⟩
        · exact Or.inr ⟨_, hvisible, Or.inl hspot.symm⟩

theorem behindSubtree_le (d : Document) (conv : Convention) :
    d.behindSubtree conv ≤ d.lines.length := by
  unfold behindSubtree
  split
  · exact Nat.le_refl _
  · rename_i heading hreference
    obtain ⟨i, other, hget, -, hread⟩ := Convention.enclosing?_eq_some hreference
    obtain ⟨hlt, -⟩ := List.getElem?_eq_some_iff.mp hget
    have := conv.length_subtreeLines_le heading.level
      (d.lines.drop (heading.line.toNat + 1))
    rw [List.length_drop] at this
    dsimp only
    rw [hread.line_eq, Int.toNat_natCast] at this ⊢
    omega

theorem behindSubtree_pos (h : d.lines ≠ []) (conv : Convention) : 0 < d.behindSubtree conv := by
  have hpos := List.length_pos_iff.mpr h
  unfold behindSubtree
  split
  · exact hpos
  · dsimp only
    omega

/-- Every spot lies in the document. -/
theorem insertSpot_fits (hpoint : d.point.line = n) (hline : d.lines[n]? = some line)
    (conv : Convention) (respectContent : Bool) :
    d.Fits (d.insertSpot conv n line respectContent).start
      (d.insertSpot conv n line respectContent).stop := by
  obtain ⟨hlt, -⟩ := List.getElem?_eq_some_iff.mp hline
  unfold insertSpot
  split
  · exact fits_ofNat (Nat.le_refl _) (behindSubtree_le d conv)
  · rcases spotAtPoint_cases hpoint conv line (conv.readHeading? n line d.lines[n + 1]?) with
      ⟨first, last, -, hle, hlast, -, hspot⟩ | ⟨cut, -, hspot | ⟨closed, hclosed, hspot⟩⟩
    · rw [hspot]
      exact fits_ofNat hle (by omega)
    · rw [hspot]
      exact fits_ofNat (by omega) (by omega)
    · obtain ⟨hnext, -⟩ := List.getElem?_eq_some_iff.mp hclosed
      rw [hspot]
      exact fits_ofNat (by omega) (by omega)

end Document

end SourceOutline
