import SourceOutline.Proofs.Edit.Atomic
import SourceOutline.Proofs.Heading.Cut
import SourceOutline.Proofs.Subtree

/-!
# Documents with a heading inserted

A heading is inserted at one of six spots (`SpotFor`), none of which lies between a heading and the
closed line right below it (`SpotFor.start_ne`). What a session does when it inserts one is to put
the heading's line there, below what is kept of the line at point and perhaps a blank line
(`HeadingInserted`, `run_insertHeading`, `run_insertSubheading`). The other lines stay, and are
found again where `placeIn` says.
-/

namespace SourceOutline

namespace Document

variable {d d' : Document} {config : Config} {conv : Convention} {n c i k first last : Nat}
  {line opening : Text} {heading : Heading} {respectContent blank : Bool} {spot : InsertionSpot}

/-- Whether a line is a heading with a closed line right below it. -/
def Attached (d : Document) (conv : Convention) (i : Nat) : Prop :=
  (∃ line, d.lines[i]? = some line ∧ conv.isHeading line = true) ∧ d.closedBelow conv i = true

/-- Whether an insertion at point splits a heading: point is on its line, behind its comment run. -/
def SplitsAt (d : Document) (respectContent : Bool) (heading : Heading) : Prop :=
  respectContent = false ∧ heading.line = d.point.line ∧ heading.openingEnd < d.point.column

instance (d : Document) (respectContent : Bool) (heading : Heading) :
    Decidable (d.SplitsAt respectContent heading) :=
  inferInstanceAs (Decidable (respectContent = false ∧ heading.line = d.point.line ∧
    heading.openingEnd < d.point.column))

theorem splitsAt_iff (hpoint : d.point = { line := n, column := c })
    (hline : heading.line = (i : Int)) : d.SplitsAt respectContent heading ↔
      respectContent = false ∧ n = i ∧ heading.openingEnd < c := by
  unfold SplitsAt
  rw [hpoint, hline, Int.ofNat_inj, Int.ofNat_lt, eq_comm (a := i)]

/-! ## Spots -/

/-- The spots at which a heading is inserted when point is on line `n` in column `c`. -/
inductive SpotFor (d : Document) (conv : Convention) (n c : Nat) (line : Text) :
    (respectContent : Bool) → InsertionSpot → Prop
  /-- Behind the enclosing subtree. -/
  | behind :
      SpotFor d conv n c line true { start := d.behindSubtree conv, stop := d.behindSubtree conv }
  /-- Below a closed line. -/
  | belowClosed (closed : conv.isClosed line = true) :
      SpotFor d conv n c line false { start := (n + 1 : Nat), stop := (n + 1 : Nat) }
  /-- In place of a blank line. -/
  | blank (opened : conv.isClosed line = false) (blank : line.isBlankText = true) :
      SpotFor d conv n c line false { start := n, stop := (n + 1 : Nat) }
  /-- Above a line in front of which point is. -/
  | above (opened : conv.isClosed line = false) (visible : line.isBlankText = false)
      (column : ∀ heading : Heading, heading.ReadFrom conv n line → c ≤ heading.openingEnd) :
      SpotFor d conv n c line false { start := n, stop := n }
  /-- Inside a line. -/
  | split (opened : conv.isClosed line = false) (visible : line.isBlankText = false)
      (column : ∀ heading : Heading, heading.ReadFrom conv n line → heading.openingEnd < c)
      (detached : ¬d.Attached conv n) :
      SpotFor d conv n c line false
        { start := n, stop := (n + 1 : Nat), kept := [keptOf line c],
          title := Text.trim (line.drop c) }
  /-- Inside a heading with a closed line right below it. -/
  | splitAttached {heading : Heading} {closed : Text} (read : heading.ReadFrom conv n line)
      (column : heading.openingEnd < c) (get : d.lines[n + 1]? = some closed)
      (closed_eq : conv.isClosed closed = true) :
      SpotFor d conv n c line false
        { start := n, stop := (n + 2 : Nat), kept := [keptOf line c, closed],
          title := Text.trim (line.drop c) }

theorem closedBelow_iff :
    d.closedBelow conv i = true ↔
      ∃ closed, d.lines[i + 1]? = some closed ∧ conv.isClosed closed = true := by
  unfold closedBelow
  cases d.lines[i + 1]? with
  | none => simp
  | some line => simp

theorem spotFor_spotAtPoint (hpoint : d.point = { line := n, column := c })
    (hline : d.lines[n]? = some line) (hcolumn : c ≤ line.length) :
    d.SpotFor conv n c line false
      (d.spotAtPoint conv line (conv.readHeading? n line d.lines[n + 1]?)) := by
  generalize hspot : d.spotAtPoint conv line (conv.readHeading? n line d.lines[n + 1]?) = spot
  unfold spotAtPoint at hspot
  rw [hpoint] at hspot
  dsimp only at hspot
  rw [Lines.lookup?_below, Lines.cutAt_ofNat hcolumn] at hspot
  split at hspot
  · rename_i hclosed
    exact hspot ▸ .belowClosed hclosed
  rename_i hopened
  rw [Bool.not_eq_true] at hopened
  split at hspot
  · rename_i hblank
    exact hspot ▸ .blank hopened hblank
  rename_i hvisible
  rw [Bool.not_eq_true] at hvisible
  cases hread : conv.readHeading? n line d.lines[n + 1]? with
  | none =>
      have hplain : ∀ heading : Heading, ¬heading.ReadFrom conv n line := by
        intro heading hfrom
        have hlevel := hfrom.level_eq
        rw [Convention.readHeading?_eq_none.mp hread] at hlevel
        cases hlevel
      rw [hread] at hspot
      dsimp only at hspot
      rw [← hspot]
      split
      · exact .above hopened hvisible fun heading hfrom => absurd hfrom (hplain heading)
      · refine .split hopened hvisible (fun heading hfrom => absurd hfrom (hplain heading)) ?_
        rintro ⟨⟨other, hother, hheading⟩, -⟩
        rw [hline] at hother
        cases hother
        rw [Convention.isHeading, Convention.readHeading?_eq_none.mp hread] at hheading
        cases hheading
  | some heading =>
      have hfrom := Convention.readFrom_of_readHeading? hread
      rw [hread] at hspot
      dsimp only at hspot
      rw [← hspot]
      split
      · rename_i hfront
        refine .above hopened hvisible fun other hother => ?_
        rw [hother.openingEnd_unique hfrom]
        simp only [Bool.or_eq_true, beq_iff_eq, decide_eq_true_eq] at hfront
        omega
      · rename_i hbehind
        simp only [Bool.or_eq_true, beq_iff_eq, decide_eq_true_eq] at hbehind
        cases hclosed : d.lines[n + 1]?.filter conv.isClosed with
        | some closed =>
            obtain ⟨hget, hclosed⟩ := Option.filter_eq_some_iff.mp hclosed
            exact .splitAttached hfrom (by omega) hget hclosed
        | none =>
            refine .split hopened hvisible (fun other hother => ?_) ?_
            · rw [hother.openingEnd_unique hfrom]
              omega
            · rintro ⟨-, hbelow⟩
              obtain ⟨closed, hget, hother⟩ := closedBelow_iff.mp hbelow
              rw [hget, Option.filter_some, if_pos hother] at hclosed
              cases hclosed

/-- Where the enclosing subtree ends: at the end of the document when there is none. -/
theorem behindSubtree_cases (d : Document) (conv : Convention) :
    (conv.enclosing? d.lines d.point.line = none ∧ d.behindSubtree conv = d.lines.length) ∨
      ∃ (heading : Heading) (r : Nat), conv.enclosing? d.lines d.point.line = some heading ∧
        heading.line = r ∧ conv.Subtree d.lines r (d.behindSubtree conv) heading.level := by
  unfold behindSubtree
  cases hreference : conv.enclosing? d.lines d.point.line with
  | none => exact Or.inl ⟨rfl, rfl⟩
  | some heading =>
      obtain ⟨r, line, hget, -, hfrom⟩ := Convention.enclosing?_eq_some hreference
      refine Or.inr ⟨heading, r, rfl, hfrom.line_eq, ?_⟩
      dsimp only
      rw [hfrom.line_eq, Int.toNat_natCast]
      exact Convention.subtree_of_heading
        ((Convention.headingLevel?_of_get hget).trans hfrom.level_eq)

theorem spotFor_insertSpot (hpoint : d.point = { line := n, column := c })
    (hline : d.lines[n]? = some line) (hcolumn : c ≤ line.length) (conv : Convention)
    (respectContent : Bool) :
    d.SpotFor conv n c line respectContent (d.insertSpot conv n line respectContent) := by
  unfold insertSpot
  cases respectContent with
  | true => exact .behind
  | false => exact spotFor_spotAtPoint hpoint hline hcolumn

theorem isHeading_of_isClosed (h : conv.isClosed line = true) : conv.isHeading line = false := by
  unfold Convention.isHeading
  rw [Convention.level?_of_isClosed h]
  rfl

theorem Attached.not_attached (h : d.Attached conv i) : ¬d.Attached conv (i + 1) := by
  rintro ⟨⟨line, hget, hheading⟩, -⟩
  obtain ⟨closed, hclosed, hisClosed⟩ := closedBelow_iff.mp h.2
  rw [hget] at hclosed
  cases hclosed
  rw [isHeading_of_isClosed hisClosed] at hheading
  cases hheading

theorem Attached.behindClosed_ne (h : d.Attached conv i) (hline : d.lines[n]? = some line)
    (hheading : conv.isHeading line = true) : d.behindClosed conv n ≠ i + 1 := by
  unfold behindClosed
  split
  · rename_i hclosed
    intro hsame
    obtain rfl : i = n + 1 := by omega
    exact Attached.not_attached ⟨⟨line, hline, hheading⟩, hclosed⟩ h
  · rename_i hopen
    intro hsame
    obtain rfl : i = n := by omega
    exact hopen h.2

/-- **No spot lies between a heading and the closed line right below it.** -/
theorem SpotFor.start_ne (h : d.SpotFor conv n c line respectContent spot)
    (hline : d.lines[n]? = some line) (hattached : d.Attached conv i) :
    spot.start ≠ (i + 1 : Nat) := by
  obtain ⟨closed, hget, hclosed⟩ := closedBelow_iff.mp hattached.2
  -- the line at point is not the closed line
  have hopened : conv.isClosed line = false → n ≠ i + 1 := by
    rintro hopened rfl
    rw [hline] at hget
    cases hget
    rw [hclosed] at hopened
    cases hopened
  have hcast : ∀ m k : Nat, m ≠ k → (m : Int) ≠ k := by
    intro m k hne
    omega
  cases h with
  | behind =>
      refine hcast _ _ ?_
      rintro hsame
      obtain ⟨hlt, -⟩ := List.getElem?_eq_some_iff.mp hget
      rcases behindSubtree_cases d conv with ⟨-, hend⟩ | ⟨heading, r, -, -, hsub⟩
      · omega
      · obtain ⟨other, hother, -⟩ := hsub.stops (by omega)
        rw [hsame, Convention.headingLevel?_of_get hget] at hother
        have hheading := Convention.isHeading_iff.mpr ⟨_, hother⟩
        rw [isHeading_of_isClosed hclosed] at hheading
        cases hheading
  | belowClosed hisClosed =>
      refine hcast _ _ ?_
      rintro hsame
      obtain rfl : n = i := by omega
      obtain ⟨other, hother, hheading⟩ := hattached.1
      rw [hline] at hother
      cases hother
      rw [isHeading_of_isClosed hisClosed] at hheading
      cases hheading
  | blank opened => exact hcast _ _ (hopened opened)
  | above opened => exact hcast _ _ (hopened opened)
  | split opened => exact hcast _ _ (hopened opened)
  | splitAttached read =>
      exact hcast _ _ (hopened (Convention.level?_eq_some.mp read.level_eq).2.1)

theorem SpotFor.kept_cases (h : d.SpotFor conv n c line respectContent spot) :
    spot.kept = [] ∨ spot.kept = [keptOf line c] ∨
      ∃ closed, conv.isClosed closed = true ∧ spot.kept = [keptOf line c, closed] := by
  cases h with
  | split => exact Or.inr (Or.inl rfl)
  | splitAttached _ _ _ closed_eq => exact Or.inr (Or.inr ⟨_, closed_eq, rfl⟩)
  | _ => exact Or.inl rfl

/-! ## Lines around the heading -/

/-- Whether a document is another one with a heading line inserted at a spot that takes the lines
from `first` up to `last`. What the spot keeps of them and perhaps a blank line stand above the
heading line, and point is behind what opens it. -/
structure HeadingInserted (d d' : Document) (spot : InsertionSpot) (first last : Nat)
    (blank : Bool) (opening : Text) : Prop where
  last_le : last ≤ d.lines.length
  kept_le : first + spot.kept.length ≤ last
  le_kept : last ≤ first + spot.kept.length + 1
  lines : d'.lines = d.lines.take first ++
    (spot.kept ++ (if blank then [[]] else []) ++ [opening ++ ' ' :: spot.title]) ++
      d.lines.drop last
  language : d'.language = d.language
  point : d'.point =
    { line := (first + spot.kept.length + blank.toNat : Nat), column := (opening.length + 1 : Nat) }

/-- The number of a line of a document in another one into which a heading has been inserted: lines
that come to stand below the heading have moved on by as many lines as there are more. -/
def placeIn (d d' : Document) (i : Nat) : Nat :=
  let moved := i + (d'.lines.length - d.lines.length)
  if d'.point.line < moved then moved else i

theorem placeIn_self (i : Nat) : d.placeIn d i = i := by
  unfold placeIn
  dsimp only
  split
  · omega
  · rfl

theorem length_blankLine (blank : Bool) :
    (if blank then [([] : Text)] else []).length = blank.toNat := by
  cases blank with
  | true => rfl
  | false => rfl

namespace HeadingInserted

variable (h : d.HeadingInserted d' spot first last blank opening)
include h

theorem length_eq :
    d'.lines.length + last = d.lines.length + first + spot.kept.length + blank.toNat + 1 := by
  have hlast := h.last_le
  have hkept := h.kept_le
  rw [h.lines, List.length_append, List.length_append, List.length_append, List.length_append,
    List.length_take, List.length_drop, List.length_singleton, length_blankLine]
  omega

theorem placeIn_above (hi : i < first + spot.kept.length) : d.placeIn d' i = i := by
  have hlength := h.length_eq
  have hkept := h.kept_le
  unfold placeIn
  rw [h.point, if_neg]
  dsimp only
  omega

theorem placeIn_below (hi : last ≤ i) :
    d.placeIn d' i + last = i + first + spot.kept.length + blank.toNat + 1 := by
  have hlength := h.length_eq
  have hkept := h.le_kept
  unfold placeIn
  rw [h.point]
  dsimp only
  rw [if_pos (by omega)]
  omega

theorem placeIn_succ (hi : i + 1 < first ∨ last ≤ i) :
    d.placeIn d' (i + 1) = d.placeIn d' i + 1 := by
  rcases hi with habove | hbelow
  · rw [h.placeIn_above (by omega), h.placeIn_above (by omega)]
  · have := h.placeIn_below hbelow
    have := h.placeIn_below (i := i + 1) (by omega)
    omega

theorem getElem?_above (hi : i < first) : d'.lines[i]? = d.lines[i]? := by
  have hlast := h.last_le
  have hkept := h.kept_le
  rw [h.lines, List.append_assoc, List.getElem?_append_left (by rw [List.length_take]; omega),
    List.getElem?_take_of_lt hi]

theorem drop_first : d'.lines.drop first =
    spot.kept ++ ((if blank then [[]] else []) ++ (opening ++ ' ' :: spot.title) ::
      d.lines.drop last) := by
  have hlast := h.last_le
  have hkept := h.kept_le
  have hlength : (d.lines.take first).length = first := by
    rw [List.length_take, Nat.min_eq_left (by omega)]
  rw [h.lines, List.append_assoc, List.drop_append_of_le_length (by omega),
    List.drop_eq_nil_of_le (by omega), List.nil_append, List.append_assoc, List.append_assoc]
  rfl

theorem getElem?_kept (hk : k < spot.kept.length) : d'.lines[first + k]? = spot.kept[k]? := by
  rw [← List.getElem?_drop, h.drop_first, List.getElem?_append_left hk]

theorem getElem?_first {piece : Text} (hkept : spot.kept.head? = some piece) :
    d'.lines[first]? = some piece := by
  have hpos : 0 < spot.kept.length := by
    cases hempty : spot.kept with
    | nil =>
        rw [hempty] at hkept
        cases hkept
    | cons piece rest => exact Nat.zero_lt_succ _
  rw [← Nat.add_zero first, h.getElem?_kept hpos, ← List.head?_eq_getElem?, hkept]

theorem getElem?_blank (hblank : blank = true) :
    d'.lines[first + spot.kept.length]? = some [] := by
  rw [← List.getElem?_drop, h.drop_first, List.getElem?_append_right (Nat.le_refl _),
    Nat.sub_self, hblank]
  rfl

theorem getElem?_between (hlow : first + spot.kept.length ≤ k)
    (hhigh : k < first + spot.kept.length + blank.toNat) :
    d'.lines[k]? = some [] := by
  cases blank with
  | false =>
      rw [Bool.toNat_false] at hhigh
      omega
  | true =>
      rw [Bool.toNat_true] at hhigh
      obtain rfl : k = first + spot.kept.length := by omega
      exact h.getElem?_blank rfl

theorem drop_new : d'.lines.drop (first + spot.kept.length + blank.toNat) =
    (opening ++ ' ' :: spot.title) :: d.lines.drop last := by
  rw [Nat.add_assoc, ← List.drop_drop, h.drop_first, ← List.drop_drop, List.drop_left]
  cases blank with
  | true => rfl
  | false => rfl

theorem getElem?_new : d'.lines[first + spot.kept.length + blank.toNat]? =
    some (opening ++ ' ' :: spot.title) := by
  rw [← List.head?_drop, h.drop_new]
  rfl

/-- **Every line that is not taken is found at its place.** -/
theorem getElem?_placeIn (hi : i < first ∨ last ≤ i) :
    d'.lines[d.placeIn d' i]? = d.lines[i]? := by
  rcases hi with habove | hbelow
  · rw [h.placeIn_above (by omega), h.getElem?_above habove]
  · have hplace := h.placeIn_below hbelow
    rw [show d.placeIn d' i = first + spot.kept.length + blank.toNat + (i - last + 1) by omega,
      ← List.getElem?_drop, h.drop_new, List.getElem?_cons_succ, List.getElem?_drop,
      Nat.add_sub_cancel' hbelow]

end HeadingInserted

/-! ## The heading line -/

theorem isIndenting_of_mem_insertIndentation {ch : Char} (h : ch ∈ d.insertIndentation conv) :
    isIndenting ch = true := by
  unfold insertIndentation at h
  cases hreference : conv.enclosing? d.lines d.point.line with
  | none =>
      rw [hreference] at h
      cases h
  | some heading =>
      obtain ⟨i, other, -, -, hread⟩ := Convention.enclosing?_eq_some hreference
      rw [hreference, Option.map_some, Option.getD_some, hread.indentation_eq] at h
      exact isIndenting_of_mem_indentation h

/-- How a heading line is read that has been put together for some level, unless it has the form of
a closed line. -/
theorem readHeading?_inserted {mark : Char} {indent run : Text} {room level base : Int}
    (hmark : conv.mark = [mark]) (hvisible : isIndenting mark = false)
    (hbase : conv.config.baseLevel = base) (hpos : 1 ≤ base)
    (hindent : ∀ ch ∈ indent, isIndenting ch = true) (hlevel : 1 ≤ level)
    (hwrite : writeRun room conv.mark (level + base - 1) = .ok run) (title : Text) :
    (conv.isClosed (indent ++ run ++ ' ' :: title) = true ↔
      level + base - 1 = 2 ∧ closedLabel <+: title.unindent) ∧
    (conv.isClosed (indent ++ run ++ ' ' :: title) = false → ∀ number below, ∃ heading,
      conv.readHeading? number (indent ++ run ++ ' ' :: title) below = some heading ∧
        heading.line = number ∧ heading.level = level ∧
        heading.openingEnd = (indent ++ run).length) := by
  obtain ⟨count, hcount⟩ : ∃ count : Nat, (count : Int) = level + base - 1 :=
    ⟨(level + base - 1).toNat, by omega⟩
  rw [← hcount, hmark] at hwrite
  obtain rfl := eq_repeatMark_of_writeRun hwrite
  have hparts : Separable indent mark count (' ' :: title) := by
    refine ⟨hindent, hvisible, by omega, ?_⟩
    rintro ch hch rfl
    cases hch
    cases hvisible
  have hunindent : Text.unindent (' ' :: title) = title.unindent := rfl
  have hclosed := hparts.isClosedLine_iff
  rw [hunindent, openingOf, ← hmark] at hclosed
  have hiff : conv.isClosed (indent ++ repeatMark conv.mark count ++ ' ' :: title) = true ↔
      level + base - 1 = 2 ∧ closedLabel <+: title.unindent :=
    hclosed.trans (and_congr_left' (by omega))
  rw [hmark] at hiff
  refine ⟨hiff, fun hopen number below => ?_⟩
  have hread := Convention.readHeading?_written hmark hparts (by omega) number below
  rw [if_neg, openingOf] at hread
  · refine ⟨_, hread, rfl, ?_, ?_⟩
    · dsimp only
      omega
    · unfold Heading.openingEnd
      rw [List.length_append, repeatMark_single, List.length_replicate]
  · rintro ⟨hrun, hlabel⟩
    rw [hiff.mpr ⟨by omega, hlabel⟩] at hopen
    cases hopen

/-- Where the lines that a spot takes start and stop. -/
theorem SpotFor.exists_bounds (h : d.SpotFor conv n c line respectContent spot)
    (hline : d.lines[n]? = some line) :
    ∃ first last : Nat, spot.start = first ∧ spot.stop = last ∧ last ≤ d.lines.length ∧
      first + spot.kept.length ≤ last ∧ last ≤ first + spot.kept.length + 1 := by
  obtain ⟨hlt, -⟩ := List.getElem?_eq_some_iff.mp hline
  cases h with
  | behind =>
      exact ⟨_, _, rfl, rfl, behindSubtree_le d conv, Nat.le_refl _, Nat.le_succ _⟩
  | belowClosed => exact ⟨_, _, rfl, rfl, hlt, Nat.le_refl _, Nat.le_succ _⟩
  | blank => exact ⟨_, _, rfl, rfl, hlt, Nat.le_succ _, Nat.le_refl _⟩
  | above => exact ⟨_, _, rfl, rfl, Nat.le_of_lt hlt, Nat.le_refl _, Nat.le_succ _⟩
  | split => exact ⟨_, _, rfl, rfl, hlt, Nat.le_refl _, Nat.le_succ _⟩
  | splitAttached read column get =>
      obtain ⟨hnext, -⟩ := List.getElem?_eq_some_iff.mp get
      exact ⟨_, _, rfl, rfl, hnext, Nat.le_refl _, Nat.le_succ _⟩

/-- The document after a heading line has been put at a spot. -/
theorem headingInserted_replace (spot : InsertionSpot) (hle : first + spot.kept.length ≤ last)
    (hge : last ≤ first + spot.kept.length + 1) (hlast : last ≤ d.lines.length) (opening : Text)
    (blank : Bool) :
    d.HeadingInserted
      ((d.replace first last
        (spot.kept ++ (if blank then [[]] else []) ++ [opening ++ ' ' :: spot.title])).1.setPoint
        { line := first + (spot.kept ++ if blank then [[]] else []).length,
          column := opening.length + 1 })
      spot first last blank opening where
  last_le := hlast
  kept_le := hle
  le_kept := hge
  lines := replace_lines_of_fits (by omega) hlast
    (List.append_ne_nil_of_right_ne_nil _ (List.cons_ne_nil _ _))
  language := rfl
  point := by
    unfold setPoint
    dsimp only
    rw [List.length_append, length_blankLine, Point.mk.injEq]
    exact ⟨by omega, by omega⟩

end Document

namespace Session

open Document

variable {s : Session} {config : Config} {conv : Convention} {n c : Nat} {line : Text}
  {heading : Heading}

/-- **What inserting a heading does** when it gets somewhere. -/
theorem run_insertHeading (valid : config.Valid)
    (hconv : s.document.convention config = .ok conv)
    (hpoint : s.document.point = { line := n, column := c })
    (hline : s.document.lines[n]? = some line) (hcolumn : c ≤ line.length) {level? : Option Int}
    {respectContent : Bool}
    (hran : (s.run config (.insertHeading level? respectContent)).2 = .ok (.flag true)) :
    let level := s.document.insertLevel conv level?
    let spot := s.document.insertSpot conv n line respectContent
    1 ≤ level ∧ ∃ (first last : Nat) (run : Text), spot.start = first ∧ spot.stop = last ∧
      writeRun s.room conv.mark (level + config.baseLevel - 1) = .ok run ∧
      s.document.HeadingInserted (s.run config (.insertHeading level? respectContent)).1.document
        spot first last
        (needsBlankLine conv s.document.lines spot.start (lineAbove? s.document.lines spot) level)
        (s.document.insertIndentation conv ++ run) := by
  intro level spot
  have hspot := spotFor_insertSpot hpoint hline hcolumn conv respectContent
  obtain ⟨first, last, hstart, hstop, hlast, hle, hge⟩ := hspot.exists_bounds hline
  have hdecide : (Command.insertHeading level? respectContent).decide? =
      some (·.insertHeading · · level? respectContent) := rfl
  have hdecision := insertHeading_eq hconv (by rw [hpoint]) hline s.room level? respectContent
  by_cases hlevel : level < 1
  · rw [if_pos hlevel] at hdecision
    rw [run_of_refuse hdecide hdecision] at hran
    cases hran
  rw [if_neg hlevel] at hdecision
  cases hwrite : writeRun s.room conv.mark (level + config.baseLevel - 1) with
  | error fault =>
      rw [hwrite] at hdecision
      rw [run_of_error hdecide hdecision] at hran
      cases hran
  | ok run =>
      rw [hwrite] at hdecision
      obtain ⟨-, hdocument, -⟩ := run_of_decision valid hconv hdecide hdecision
      have hinserted := headingInserted_replace spot hle hge hlast
        (s.document.insertIndentation conv ++ run)
        (needsBlankLine conv s.document.lines spot.start (lineAbove? s.document.lines spot) level)
      rw [← hstart, ← hstop] at hinserted
      refine ⟨by omega, first, last, run, hstart, hstop, rfl, ?_⟩
      rw [hdocument]
      exact hinserted

/-- **What inserting a heading below another one does** when it gets somewhere. -/
theorem run_insertSubheading (valid : config.Valid)
    (hconv : s.document.convention config = .ok conv) (inside : s.document.PointInside)
    (hran : (s.run config .insertSubheading).2 = .ok (.flag true)) :
    ∃ (n : Nat) (line : Text) (heading : Heading) (run : Text),
      s.document.AtHeading config conv n line heading ∧
      writeRun s.room conv.mark (heading.run + 1) = .ok run ∧
      s.document.HeadingInserted (s.run config .insertSubheading).1.document
        { start := s.document.behindClosed conv n, stop := s.document.behindClosed conv n }
        (s.document.behindClosed conv n) (s.document.behindClosed conv n) false
        (heading.indentation ++ run) := by
  have hdecide : Command.insertSubheading.decide? = some (·.insertSubheading · ·) := rfl
  obtain ⟨n, line, hpoint, hline⟩ := inside.exists_line
  cases hread : conv.readHeading? n line s.document.lines[n + 1]? with
  | none =>
      have hdecision : s.document.insertSubheading config s.room = .ok (.refuse .notOnHeading) := by
        unfold insertSubheading decideAtHeading
        rw [headingAtPoint_of_get hconv hpoint hline, hread]
        rfl
      rw [run_of_refuse hdecide hdecision] at hran
      cases hran
  | some heading =>
      have h : s.document.AtHeading config conv n line heading := ⟨hconv, hpoint, hline, hread⟩
      have hdecision : s.document.insertSubheading config s.room = _ := h.insertSubheading_eq
      cases hwrite : writeRun s.room conv.mark (heading.run + 1) with
      | error fault =>
          rw [hwrite] at hdecision
          rw [run_of_error hdecide hdecision] at hran
          cases hran
      | ok run =>
          rw [hwrite] at hdecision
          obtain ⟨-, hdocument, -⟩ := run_of_decision valid hconv hdecide hdecision
          obtain ⟨-, hbehind⟩ := behindClosed_bounds h.lt_length conv
          refine ⟨n, line, heading, run, h, hwrite, ?_⟩
          rw [hdocument]
          exact headingInserted_replace
            { start := s.document.behindClosed conv n, stop := s.document.behindClosed conv n }
            (Nat.le_refl _) (Nat.le_succ _) hbehind (heading.indentation ++ run) false

end Session

end SourceOutline
