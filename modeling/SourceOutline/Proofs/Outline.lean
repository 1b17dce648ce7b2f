import SourceOutline.Outline
import SourceOutline.Proofs.Heading
import SourceOutline.Proofs.Lines

/-!
# Headings and subtrees of a document

Questions about a line that the document has do not fail, and their answers are lines of the
document again: the headings are read from its lines, and the subtree of a heading ends behind it
and not behind the last line.
-/

namespace SourceOutline

namespace Convention

variable {conv : Convention} {lines : List Text} {line : Text} {n : Nat}

/-! ## Single lines -/

theorem headingAt_ofNat (conv : Convention) (h : lines[n]? = some line) :
    conv.headingAt lines n = .ok (conv.readHeading? n line lines[n + 1]?) := by
  unfold headingAt
  rw [Lines.lookup_ofNat h, ok_bind]
  dsimp only
  rw [Lines.lookup?_below]
  rfl

theorem readFrom_of_headingAt {number : Int} {heading : Heading}
    (h : conv.headingAt lines number = .ok (some heading)) :
    ∃ line, heading.ReadFrom conv number line := by
  unfold headingAt at h
  cases hline : Lines.lookup lines number with
  | error fault =>
      rw [hline] at h
      cases h
  | ok line =>
      rw [hline, ok_bind] at h
      exact ⟨line, readFrom_of_readHeading? (Except.ok.inj h)⟩

theorem levelAt_ofNat (conv : Convention) (h : lines[n]? = some line) :
    conv.levelAt lines n = .ok (conv.level? line) := by
  unfold levelAt
  rw [Lines.lookup_ofNat h, map_ok]

/-! ## All headings -/

theorem mem_headingsFrom {number : Int} {heading : Heading} :
    heading ∈ conv.headingsFrom number lines ↔
      ∃ (i : Nat) (line : Text), lines[i]? = some line ∧
        conv.readHeading? (number + i) line lines[i + 1]? = some heading := by
  induction lines generalizing number with
  | nil => simp [headingsFrom]
  | cons first rest ih =>
      have hhead : rest.head? = (first :: rest)[0 + 1]? := by
        rw [List.head?_eq_getElem?]
        rfl
      -- the first line by itself, the others by their own numbers
      have hsplit : heading ∈ conv.headingsFrom number (first :: rest) ↔
          conv.readHeading? number first rest.head? = some heading ∨
            heading ∈ conv.headingsFrom (number + 1) rest := by
        rw [headingsFrom]
        cases conv.readHeading? number first rest.head? with
        | none => simp
        | some other => simp [eq_comm]
      rw [hsplit, ih]
      constructor
      · rintro (h | ⟨i, line, hget, h⟩)
        · refine ⟨0, first, rfl, ?_⟩
          rw [← hhead]
          simpa using h
        · refine ⟨i + 1, line, hget, ?_⟩
          rw [show number + ((i + 1 : Nat) : Int) = number + 1 + (i : Int) by omega]
          exact h
      · rintro ⟨i, line, hget, h⟩
        cases i with
        | zero =>
            left
            cases hget
            rw [hhead]
            simpa using h
        | succ i =>
            refine Or.inr ⟨i, line, hget, ?_⟩
            rw [show number + ((i + 1 : Nat) : Int) = number + 1 + (i : Int) by omega] at h
            exact h

theorem mem_headings {heading : Heading} :
    heading ∈ conv.headings lines ↔
      ∃ (i : Nat) (line : Text), lines[i]? = some line ∧
        conv.readHeading? i line lines[i + 1]? = some heading := by
  unfold headings
  rw [mem_headingsFrom]
  simp only [Int.zero_add]

/-- Headings are listed in line order. -/
theorem pairwise_headingsFrom (conv : Convention) (number : Int) (lines : List Text) :
    (conv.headingsFrom number lines).Pairwise fun a b => a.line < b.line := by
  induction lines generalizing number with
  | nil => exact .nil
  | cons first rest ih =>
      rw [headingsFrom]
      cases hread : conv.readHeading? number first rest.head? with
      | none => exact ih (number + 1)
      | some heading =>
          refine List.pairwise_cons.mpr ⟨fun other hother => ?_, ih (number + 1)⟩
          obtain ⟨k, line, -, hbelow⟩ := mem_headingsFrom.mp hother
          rw [(readFrom_of_readHeading? hread).line_eq, (readFrom_of_readHeading? hbelow).line_eq]
          omega

theorem pairwise_headings (conv : Convention) (lines : List Text) :
    (conv.headings lines).Pairwise fun a b => a.line < b.line :=
  pairwise_headingsFrom conv 0 lines

theorem mem_positions {position : Int} :
    position ∈ conv.positions lines ↔
      ∃ (i : Nat) (line : Text), position = i ∧ lines[i]? = some line ∧
        conv.isHeading line = true := by
  unfold positions
  simp only [List.mem_map, List.mem_filter, Lines.mem_numbered]
  constructor
  · rintro ⟨_, ⟨⟨i, line, hget, rfl⟩, hheading⟩, rfl⟩
    exact ⟨i, line, by simp, hget, hheading⟩
  · rintro ⟨i, line, rfl, hget, hheading⟩
    exact ⟨(0 + (i : Int), line), ⟨⟨i, line, hget, rfl⟩, hheading⟩, by simp⟩

theorem enclosing?_eq_some {number : Int} {heading : Heading}
    (h : conv.enclosing? lines number = some heading) :
    ∃ (i : Nat) (line : Text), lines[i]? = some line ∧ (i : Int) ≤ number ∧
      heading.ReadFrom conv i line := by
  unfold enclosing? at h
  obtain ⟨hmem, hle⟩ := List.mem_filter.mp (List.mem_of_getLast? h)
  obtain ⟨i, line, hget, hread⟩ := mem_headings.mp hmem
  have hfrom := readFrom_of_readHeading? hread
  refine ⟨i, line, hget, ?_, hfrom⟩
  rw [decide_eq_true_eq, hfrom.line_eq] at hle
  exact hle

/-! ## Line by line -/

variable {i k count first last : Nat} {heading : Heading}

def headingOn? (conv : Convention) (lines : List Text) (i : Nat) : Option Heading :=
  lines[i]?.bind fun line => conv.readHeading? i line lines[i + 1]?

theorem headingOn?_of_get {line : Text} (h : lines[i]? = some line) :
    conv.headingOn? lines i = conv.readHeading? i line lines[i + 1]? := by
  rw [headingOn?, h, Option.bind_some]

theorem headingOn?_eq_none {line : Text} (h : lines[i]? = some line)
    (hlevel : conv.level? line = none) : conv.headingOn? lines i = none := by
  rw [headingOn?_of_get h, readHeading?_eq_none, hlevel]

def headingsBetween (conv : Convention) (lines : List Text) (first last : Nat) : List Heading :=
  (List.range' first (last - first)).filterMap (conv.headingOn? lines)

theorem headingsFrom_drop (h : k + count = lines.length) :
    conv.headingsFrom k (lines.drop k) =
      (List.range' k count).filterMap (conv.headingOn? lines) := by
  induction count generalizing k with
  | zero =>
      rw [List.drop_eq_nil_of_le (by omega)]
      rfl
  | succ count ih =>
      have hget : lines[k]? = some lines[k] := List.getElem?_eq_getElem (by omega)
      have hrest := ih (k := k + 1) (by omega)
      have hon : conv.headingOn? lines k = _ := headingOn?_of_get hget
      rw [Int.natCast_succ] at hrest
      rw [List.drop_eq_getElem_cons (by omega), headingsFrom, List.head?_drop, List.range'_succ,
        List.filterMap_cons, hon, hrest]
      cases conv.readHeading? k lines[k] lines[k + 1]? with
      | none => rfl
      | some heading => rfl

/-- **An outline is read off line by line.** -/
theorem headings_eq (conv : Convention) (lines : List Text) :
    conv.headings lines = conv.headingsBetween lines 0 lines.length :=
  headingsFrom_drop (k := 0) (Nat.zero_add _)

theorem headingsBetween_split (hfirst : first ≤ i) (hlast : i ≤ last) :
    conv.headingsBetween lines first last =
      conv.headingsBetween lines first i ++ conv.headingsBetween lines i last := by
  unfold headingsBetween
  rw [← List.filterMap_append, show last - first = (i - first) + (last - i) by omega,
    ← List.range'_append_1, Nat.add_sub_cancel' hfirst]

theorem headingsBetween_eq_nil (h : ∀ i, first ≤ i → i < last → conv.headingOn? lines i = none) :
    conv.headingsBetween lines first last = [] := by
  unfold headingsBetween
  rw [List.filterMap_eq_nil_iff]
  intro i hi
  rw [List.mem_range'_1] at hi
  exact h i hi.1 (by omega)

theorem headingsBetween_succ (h : conv.headingOn? lines i = some heading) :
    conv.headingsBetween lines i (i + 1) = [heading] := by
  unfold headingsBetween
  rw [Nat.add_sub_cancel_left, List.range'_one, List.filterMap_cons, h]
  rfl

/-! ## Subtrees -/

def subtreeLines (conv : Convention) (level : Int) (below : List Text) : List Text :=
  below.takeWhile fun line => !conv.endsSubtree level line

theorem length_subtreeLines_le (conv : Convention) (level : Int) (below : List Text) :
    (conv.subtreeLines level below).length ≤ below.length :=
  (List.takeWhile_prefix _).length_le

/-- The subtree of a heading ends after the heading and the lines inside. -/
theorem subtreeEnd_ofNat {level : Int} (h : lines[n]? = some line)
    (hlevel : conv.level? line = some level) :
    conv.subtreeEnd lines n =
      .ok (n + 1 + (conv.subtreeLines level (lines.drop (n + 1))).length : Nat) := by
  obtain ⟨hlt, -⟩ := List.getElem?_eq_some_iff.mp h
  unfold subtreeEnd
  rw [levelAt_ofNat conv h, ok_bind, hlevel]
  dsimp only
  rw [Lines.numberedFrom_add_one, ok_bind]
  have hfind := Lines.find?_numbered (conv.endsSubtree level) ((n : Int) + 1) (lines.drop (n + 1))
  rw [List.length_drop] at hfind
  have hcast : ((n + 1 + (conv.subtreeLines level (lines.drop (n + 1))).length : Nat) : Int) =
      (n : Int) + 1 + (conv.subtreeLines level (lines.drop (n + 1))).length := by
    omega
  rw [hcast]
  unfold subtreeLines
  rw [← hfind]
  cases List.find? (fun entry => conv.endsSubtree level entry.2)
      (Lines.numbered ((n : Int) + 1) (lines.drop (n + 1))) with
  | none =>
      refine congrArg Except.ok ?_
      show (lines.length : Int) = (n : Int) + 1 + (lines.length - (n + 1) : Nat)
      omega
  | some entry => rfl

theorem subtreeEnd_bounds {level : Int} (h : lines[n]? = some line)
    (hlevel : conv.level? line = some level) :
    ∃ stop : Nat, conv.subtreeEnd lines n = .ok (stop : Int) ∧ n < stop ∧ stop ≤ lines.length := by
  obtain ⟨hlt, -⟩ := List.getElem?_eq_some_iff.mp h
  refine ⟨_, subtreeEnd_ofNat h hlevel, by omega, ?_⟩
  have := conv.length_subtreeLines_le level (lines.drop (n + 1))
  rw [List.length_drop] at this
  omega

end Convention

end SourceOutline
