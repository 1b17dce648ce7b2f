import Mathlib.Data.List.DropRight
import SourceOutline.Proofs.Outline
import SourceOutline.Region

/-!
# Which lines regions cover

Regions are computed going down the document: each heading takes the lines up to the next one and
leaves out what does not belong to it. Going up from a line instead, one comes to the heading that
encloses it. Main statement: regions follow each other without touching twice the same line, and
those lines are covered that belong to the block of the heading enclosing them
(`regions_partition`).
-/

namespace SourceOutline

namespace Convention

variable {conv : Convention} {lines : List Text} {h i k m n : Nat} {number : Int} {line : Text}
  {heading : Heading} {region : Region}

/-! ## Bodies -/

/-- Whether line `i` is below the heading on line `h` and no heading comes in between, nor is line
`i` one itself. -/
structure InBody (conv : Convention) (lines : List Text) (h i : Nat) : Prop where
  lt : h < i
  lt_length : i < lines.length
  plain : ∀ k, h < k → k ≤ i → ∀ line, lines[k]? = some line → conv.isHeading line = false

def bodyOf (conv : Convention) (lines : List Text) (h : Nat) : List Text :=
  (lines.drop (h + 1)).takeWhile fun line => !conv.isHeading line

theorem inBody_iff : conv.InBody lines h i ↔ h < i ∧ i ≤ h + (conv.bodyOf lines h).length := by
  constructor
  · rintro ⟨hlt, hlast, hplain⟩
    refine ⟨hlt, (Lines.le_length_takeWhile_drop hlt).mpr ⟨hlast, ?_⟩⟩
    intro k hlow hhigh line hget
    rw [hplain k hlow hhigh line hget]
    rfl
  · rintro ⟨hlt, hle⟩
    obtain ⟨hlast, hplain⟩ := (Lines.le_length_takeWhile_drop hlt).mp hle
    refine ⟨hlt, hlast, fun k hlow hhigh line hget => ?_⟩
    rw [← Bool.not_eq_true']
    exact hplain k hlow hhigh line hget

theorem getElem?_bodyOf (hk : k < (conv.bodyOf lines h).length) :
    (conv.bodyOf lines h)[k]? = lines[h + 1 + k]? :=
  Lines.getElem?_takeWhile_drop hk

/-- Whether line `m` is the last one of a body that is not blank, or the heading's own line when
there is none. -/
structure BodyEnds (conv : Convention) (lines : List Text) (h m : Nat) : Prop where
  content : m = h ∨
    conv.InBody lines h m ∧ ∃ line, lines[m]? = some line ∧ line.isBlankText = false
  blank : ∀ k, m < k → conv.InBody lines h k →
    ∀ line, lines[k]? = some line → line.isBlankText = true

theorem BodyEnds.unique (hm : conv.BodyEnds lines h m) (hn : conv.BodyEnds lines h n) : m = n :=
  Lines.last_unique (fun _ hinside => hinside.lt) hm.content hm.blank hn.content hn.blank

/-- The lines of a body up to the last one that is not blank. -/
def contentOf (conv : Convention) (lines : List Text) (h : Nat) : List Text :=
  (conv.bodyOf lines h).rdropWhile Text.isBlankText

theorem exists_bodyOf_eq (conv : Convention) (lines : List Text) (h : Nat) :
    ∃ rest, conv.bodyOf lines h = conv.contentOf lines h ++ rest ∧
      ∀ line ∈ rest, line.isBlankText = true :=
  ⟨_, List.rdropWhile_append_rtakeWhile.symm, fun _ => List.mem_rtakeWhile_imp⟩

theorem visible_of_getLast?_contentOf (hlast : (conv.contentOf lines h).getLast? = some line) :
    line.isBlankText = false := by
  have hne : conv.contentOf lines h ≠ [] := by
    intro hnil
    rw [hnil] at hlast
    cases hlast
  rw [List.getLast?_eq_getLast_of_ne_nil hne] at hlast
  cases hlast
  exact Bool.eq_false_iff.mpr (List.rdropWhile_last_not Text.isBlankText (conv.bodyOf lines h) hne)

theorem bodyEnds_contentOf (conv : Convention) (lines : List Text) (h : Nat) :
    conv.BodyEnds lines h (h + (conv.contentOf lines h).length) := by
  obtain ⟨rest, hbody, hrest⟩ := exists_bodyOf_eq conv lines h
  have hlength := congrArg List.length hbody
  rw [List.length_append] at hlength
  constructor
  · cases hlast : (conv.contentOf lines h).getLast? with
    | none =>
        rw [List.getLast?_eq_none_iff.mp hlast]
        exact Or.inl rfl
    | some last =>
        have hget := hlast
        rw [List.getLast?_eq_getElem?] at hget
        obtain ⟨hlt, -⟩ := List.getElem?_eq_some_iff.mp hget
        refine Or.inr ⟨inBody_iff.mpr ⟨by omega, by omega⟩, last, ?_,
          visible_of_getLast?_contentOf hlast⟩
        have happend : (conv.contentOf lines h ++ rest)[(conv.contentOf lines h).length - 1]? =
            some last := (List.getElem?_append_left hlt).trans hget
        rw [← hbody, getElem?_bodyOf (by omega)] at happend
        rwa [show h + (conv.contentOf lines h).length =
          h + 1 + ((conv.contentOf lines h).length - 1) by omega]
  · intro k hk hinside line hget
    obtain ⟨hlt, hle⟩ := inBody_iff.mp hinside
    have hbelow : k - (h + 1) < (conv.bodyOf lines h).length := by omega
    rw [← Nat.add_sub_cancel' hlt, ← getElem?_bodyOf hbelow, hbody,
      List.getElem?_append_right (by omega)] at hget
    exact hrest line (List.mem_of_getElem? hget)

/-! ## Regions of single headings -/

theorem region_bounds {body : List Text} (hregion : conv.regionOf? number body = some region) :
    region.heading = number ∧ number < region.start ∧ region.start ≤ region.stop ∧
      region.stop ≤ number + body.length := by
  have hbelow : number < if (body.take 1).any conv.isClosed then number + 2 else number + 1 := by
    split <;> omega
  unfold regionOf? at hregion
  dsimp only at hregion
  generalize (if (body.take 1).any conv.isClosed then number + 2 else number + 1) = start
    at hbelow hregion
  split at hregion
  · rename_i hle
    cases hregion
    exact ⟨rfl, hbelow, hle, Int.min_le_right _ _⟩
  · cases hregion

theorem any_isClosed_bodyOf (hinside : conv.InBody lines h i) :
    ((conv.bodyOf lines h).take 1).any conv.isClosed = true ↔
      ∃ line, lines[h + 1]? = some line ∧ conv.isClosed line = true := by
  obtain ⟨hlt, hle⟩ := inBody_iff.mp hinside
  have hfirst : (conv.bodyOf lines h)[0]? = lines[h + 1]? := getElem?_bodyOf (by omega)
  rw [← hfirst]
  cases conv.bodyOf lines h with
  | nil => simp
  | cons first rest => simp

/-- **Which lines the region of a heading covers**: those of its body, without a closed line at the
start and without blank lines at the end that are too far behind the content. -/
theorem covers_regionOf?_iff :
    (∃ region, conv.regionOf? h (conv.bodyOf lines h) = some region ∧
        region.covers i = true) ↔
      conv.InBody lines h i ∧
        ¬(i = h + 1 ∧ ∃ line, lines[h + 1]? = some line ∧ conv.isClosed line = true) ∧
        ∃ m, conv.BodyEnds lines h m ∧ (i : Int) ≤ m + conv.config.blockPadding := by
  by_cases hinside : conv.InBody lines h i
  · obtain ⟨hlt, hle⟩ := inBody_iff.mp hinside
    have hcontent : ((conv.bodyOf lines h).reverse.dropWhile Text.isBlankText).length =
        (conv.contentOf lines h).length := by
      rw [contentOf, List.rdropWhile, List.length_reverse]
    have hnear : (∃ m, conv.BodyEnds lines h m ∧ (i : Int) ≤ m + conv.config.blockPadding) ↔
        (i : Int) ≤ h + (conv.contentOf lines h).length + conv.config.blockPadding := by
      have hends := bodyEnds_contentOf conv lines h
      constructor
      · rintro ⟨m, hm, hle⟩
        rw [hm.unique hends] at hle
        omega
      · intro hle
        exact ⟨_, hends, by omega⟩
    rw [and_iff_right hinside, hnear, ← any_isClosed_bodyOf hinside]
    unfold regionOf? Region.covers
    dsimp only
    rw [hcontent]
    generalize ((conv.bodyOf lines h).take 1).any conv.isClosed = closed
    cases closed <;> simp <;> omega
  · refine iff_of_false ?_ fun hright => hinside hright.1
    rintro ⟨region, hregion, hcovers⟩
    obtain ⟨-, hstart, -, hstop⟩ := region_bounds hregion
    simp only [Region.covers, Bool.and_eq_true, decide_eq_true_eq] at hcovers
    exact hinside (inBody_iff.mpr ⟨by omega, by omega⟩)

/-! ## All regions -/

theorem mem_regionsFrom : region ∈ conv.regionsFrom number lines ↔
    ∃ (k : Nat) (line : Text), lines[k]? = some line ∧ conv.isHeading line = true ∧
      conv.regionOf? (number + k) (conv.bodyOf lines k) = some region := by
  induction lines generalizing number with
  | nil => simp [regionsFrom]
  | cons first rest ih =>
      -- the region of the first line by itself, the others by their own numbers
      have hsplit : region ∈ conv.regionsFrom number (first :: rest) ↔
          (conv.isHeading first = true ∧
            conv.regionOf? number (conv.bodyOf (first :: rest) 0) = some region) ∨
          region ∈ conv.regionsFrom (number + 1) rest := by
        rw [regionsFrom]
        cases conv.isHeading first with
        | true => simp [bodyOf]
        | false => simp
      rw [hsplit, ih]
      constructor
      · rintro (⟨hheading, hregion⟩ | ⟨k, line, hget, hheading, hregion⟩)
        · exact ⟨0, first, rfl, hheading, by simpa using hregion⟩
        · refine ⟨k + 1, line, hget, hheading, ?_⟩
          rwa [show number + ((k + 1 : Nat) : Int) = number + 1 + k by omega]
      · rintro ⟨k, line, hget, hheading, hregion⟩
        cases k with
        | zero =>
            cases hget
            exact Or.inl ⟨hheading, by simpa using hregion⟩
        | succ k =>
            refine Or.inr ⟨k, line, hget, hheading, ?_⟩
            rwa [show number + ((k + 1 : Nat) : Int) = number + 1 + k by omega] at hregion

theorem mem_regions : region ∈ conv.regions lines ↔
    ∃ (h : Nat) (line : Text), lines[h]? = some line ∧ conv.isHeading line = true ∧
      conv.regionOf? h (conv.bodyOf lines h) = some region := by
  unfold regions
  rw [mem_regionsFrom]
  simp only [Int.zero_add]

/-- **Each region stops before the next one starts.** -/
theorem pairwise_regionsFrom (conv : Convention) (number : Int) (lines : List Text) :
    (conv.regionsFrom number lines).Pairwise fun a b => a.stop < b.start := by
  induction lines generalizing number with
  | nil => exact .nil
  | cons first rest ih =>
      rw [regionsFrom]
      split
      · rw [List.pairwise_append]
        refine ⟨?_, ih (number + 1), fun a ha b hb => ?_⟩
        · cases conv.regionOf? number (rest.takeWhile fun other => !conv.isHeading other) with
          | none => exact .nil
          | some region => exact List.pairwise_singleton _ region
        · obtain ⟨-, -, -, hstop⟩ := region_bounds (Option.mem_toList.mp ha)
          obtain ⟨k, line, hget, hheading, hregion⟩ := mem_regionsFrom.mp hb
          obtain ⟨-, hstart, -, -⟩ := region_bounds hregion
          -- the next heading ends the body
          have hbehind : (rest.takeWhile fun other => !conv.isHeading other).length ≤ k := by
            by_contra hlt
            have hplain := (Lines.lt_length_takeWhile.mp (Nat.lt_of_not_le hlt)).2 k
              (Nat.le_refl k) line hget
            rw [hheading] at hplain
            cases hplain
          omega
      · exact ih (number + 1)

theorem regions_bounds (hregion : region ∈ conv.regions lines) :
    0 ≤ region.start ∧ region.start ≤ region.stop ∧ region.stop < lines.length := by
  obtain ⟨h, line, hget, -, hregion⟩ := mem_regions.mp hregion
  obtain ⟨hlt, -⟩ := List.getElem?_eq_some_iff.mp hget
  obtain ⟨-, hstart, hle, hstop⟩ := region_bounds hregion
  have hbody : (conv.bodyOf lines h).length ≤ (lines.drop (h + 1)).length :=
    (List.takeWhile_prefix _).length_le
  rw [List.length_drop] at hbody
  omega

theorem covers_of_regionCovering? {regions : List Region}
    (hfound : regionCovering? regions number = some region) :
    region ∈ regions ∧ region.covers number = true := by
  unfold regionCovering? at hfound
  have hcovers := List.find?_some hfound
  exact ⟨List.mem_of_find?_eq_some hfound, hcovers⟩

/-! ## Enclosing headings -/

theorem enclosing?_eq_some_iff : conv.enclosing? lines number = some heading ↔
    heading ∈ conv.headings lines ∧ heading.line ≤ number ∧
      ∀ other ∈ conv.headings lines, other.line ≤ number → other.line ≤ heading.line := by
  unfold enclosing?
  rw [Lines.getLast?_eq_some_iff ((pairwise_headings conv lines).filter _)]
  simp only [List.mem_filter, decide_eq_true_eq, and_assoc, and_imp]

/-- **The body of a heading is what it encloses.** -/
theorem enclosing?_iff_inBody (hline : lines[i]? = some line)
    (hplain : conv.isHeading line = false) : conv.enclosing? lines i = some heading ↔
      ∃ (h : Nat) (text : Text), lines[h]? = some text ∧
        conv.readHeading? h text lines[h + 1]? = some heading ∧ conv.InBody lines h i := by
  rw [enclosing?_eq_some_iff]
  constructor
  · rintro ⟨hmem, hle, hmax⟩
    obtain ⟨h, text, hget, hread⟩ := mem_headings.mp hmem
    have hfrom := readFrom_of_readHeading? hread
    rw [hfrom.line_eq] at hle hmax
    have hne : h ≠ i := by
      rintro rfl
      obtain rfl := Option.some.inj (hget.symm.trans hline)
      rw [isHeading_iff.mpr ⟨_, hfrom.level_eq⟩] at hplain
      cases hplain
    refine ⟨h, text, hget, hread, by omega, (List.getElem?_eq_some_iff.mp hline).1, ?_⟩
    intro k hlow hhigh other hother
    cases hk : conv.readHeading? k other lines[k + 1]? with
    | none => rw [isHeading, readHeading?_eq_none.mp hk, Option.isSome_none]
    | some between =>
        have hbetween := hmax between (mem_headings.mpr ⟨k, other, hother, hk⟩)
        rw [(readFrom_of_readHeading? hk).line_eq] at hbetween
        omega
  · rintro ⟨h, text, hget, hread, hinside⟩
    have hline := (readFrom_of_readHeading? hread).line_eq
    have hlt := hinside.lt
    refine ⟨mem_headings.mpr ⟨h, text, hget, hread⟩, by omega, fun other hother hle => ?_⟩
    obtain ⟨k, line, hk, hreadk⟩ := mem_headings.mp hother
    have hfrom := readFrom_of_readHeading? hreadk
    rw [hfrom.line_eq] at hle ⊢
    by_contra hbelow
    have hnone := hinside.plain k (by omega) (by omega) line hk
    rw [isHeading_iff.mpr ⟨_, hfrom.level_eq⟩] at hnone
    cases hnone

/-! ## Blocks -/

/-- Whether line `i` belongs to the block of a heading: the heading encloses it, it is neither a
heading itself nor a closed line right below, and it is not too far behind the last line of the body
that is not blank. -/
structure InBlock (conv : Convention) (lines : List Text) (heading : Heading) (i : Nat) :
    Prop where
  enclosing : conv.enclosing? lines i = some heading
  line : ∃ line, lines[i]? = some line ∧ conv.isHeading line = false ∧
    ¬(i = heading.line + 1 ∧ conv.isClosed line = true)
  near : ∃ m, conv.BodyEnds lines heading.line.toNat m ∧
    (i : Int) ≤ m + conv.config.blockPadding

theorem inBlock_of_covers (hregion : region ∈ conv.regions lines)
    (hcovers : region.covers i = true) :
    ∃ heading, conv.InBlock lines heading i ∧ region.heading = heading.line := by
  obtain ⟨h, text, hget, hheading, hregion⟩ := mem_regions.mp hregion
  obtain ⟨hinside, hopen, hnear⟩ := covers_regionOf?_iff.mp ⟨region, hregion, hcovers⟩
  obtain ⟨heading, hread⟩ : ∃ heading, conv.readHeading? h text lines[h + 1]? = some heading := by
    cases hread : conv.readHeading? h text lines[h + 1]? with
    | none =>
        rw [isHeading, readHeading?_eq_none.mp hread] at hheading
        cases hheading
    | some heading => exact ⟨heading, rfl⟩
  have hline := (readFrom_of_readHeading? hread).line_eq
  have hgeti := List.getElem?_eq_getElem hinside.lt_length
  have hplain := hinside.plain i hinside.lt (Nat.le_refl i) _ hgeti
  refine ⟨heading, ⟨?_, ⟨_, hgeti, hplain, ?_⟩, ?_⟩, ?_⟩
  · exact (enclosing?_iff_inBody hgeti hplain).mpr ⟨h, text, hget, hread, hinside⟩
  · rintro ⟨hi, hclosed⟩
    obtain rfl : i = h + 1 := by omega
    exact hopen ⟨rfl, _, hgeti, hclosed⟩
  · rwa [hline, Int.toNat_natCast]
  · rw [hline, (region_bounds hregion).1]

theorem InBlock.exists_region (hblock : conv.InBlock lines heading i) :
    ∃ region ∈ conv.regions lines, region.covers i = true := by
  obtain ⟨line, hgeti, hplain, hopen⟩ := hblock.line
  obtain ⟨h, text, hget, hread, hinside⟩ :=
    (enclosing?_iff_inBody hgeti hplain).mp hblock.enclosing
  have hfrom := readFrom_of_readHeading? hread
  have hnear := hblock.near
  rw [hfrom.line_eq, Int.toNat_natCast] at hnear
  obtain ⟨region, hregion, hcovers⟩ := covers_regionOf?_iff.mpr ⟨hinside, by
    rintro ⟨rfl, closed, hclosed, hisClosed⟩
    obtain rfl := Option.some.inj (hgeti.symm.trans hclosed)
    exact hopen ⟨by rw [hfrom.line_eq]; rfl, hisClosed⟩, hnear⟩
  exact ⟨region, mem_regions.mpr ⟨h, text, hget, isHeading_iff.mpr ⟨_, hfrom.level_eq⟩, hregion⟩,
    hcovers⟩

/-- **Regions are what the blocks of headings cover.** Each region stops before the next one starts.
A line is in one of them exactly when it belongs to the block of the heading that encloses it, and
looking for the region of the line leads to that heading. -/
theorem regions_partition (conv : Convention) (lines : List Text) :
    (conv.regions lines).Pairwise (fun a b => a.stop < b.start) ∧
    (∀ region ∈ conv.regions lines,
      0 ≤ region.start ∧ region.start ≤ region.stop ∧ region.stop < lines.length) ∧
    ∀ i : Nat,
      ((∃ region ∈ conv.regions lines, region.covers i = true) ↔
        ∃ heading, conv.InBlock lines heading i) ∧
      ∀ heading, conv.InBlock lines heading i → ∃ region,
        regionCovering? (conv.regions lines) i = some region ∧ region.heading = heading.line := by
  refine ⟨pairwise_regionsFrom conv 0 lines, fun _ => regions_bounds, fun i => ⟨⟨?_, ?_⟩, ?_⟩⟩
  · rintro ⟨region, hmem, hcovers⟩
    obtain ⟨heading, hblock, -⟩ := inBlock_of_covers hmem hcovers
    exact ⟨heading, hblock⟩
  · rintro ⟨heading, hblock⟩
    exact hblock.exists_region
  · intro heading hblock
    obtain ⟨region, hmem, hcovers⟩ := hblock.exists_region
    have hsome : (regionCovering? (conv.regions lines) i).isSome = true :=
      List.find?_isSome.mpr ⟨region, hmem, hcovers⟩
    obtain ⟨found, hfound⟩ := Option.isSome_iff_exists.mp hsome
    obtain ⟨hmem, hcovers⟩ := covers_of_regionCovering? hfound
    -- whatever covers the line belongs to the heading that encloses it
    obtain ⟨other, hother, hsame⟩ := inBlock_of_covers hmem hcovers
    obtain rfl := Option.some.inj (hother.enclosing.symm.trans hblock.enclosing)
    exact ⟨found, hfound, hsame⟩

/-- A closed line is left out, and of two blank lines the padding keeps one. -/
theorem regions_partition_padded :
    let conv : Convention := ⟨['/'], { blockPadding := 1 }⟩
    let lines := ["/// A".toList, "  // CLOSED: [2024-01-02 Tue 10:30]".toList, "text".toList, [], [],
      "//// B".toList, " ".toList]
    conv.regions lines =
        [{ heading := 0, start := 2, stop := 3 }, { heading := 5, start := 6, stop := 6 }] ∧
      (∃ heading, conv.InBlock lines heading 3) ∧ (¬∃ heading, conv.InBlock lines heading 1) ∧
      ¬∃ heading, conv.InBlock lines heading 4 := by
  intro conv lines
  obtain ⟨-, -, hcovered⟩ := regions_partition conv lines
  have hregions : conv.regions lines =
      [{ heading := 0, start := 2, stop := 3 }, { heading := 5, start := 6, stop := 6 }] := by
    decide
  refine ⟨hregions, (hcovered 3).1.mp ?_, fun hblock => ?_, fun hblock => ?_⟩
  · rw [hregions]
    decide
  · have hfirst := (hcovered 1).1.mpr hblock
    rw [hregions] at hfirst
    exact absurd hfirst (by decide)
  · have hlast := (hcovered 4).1.mpr hblock
    rw [hregions] at hlast
    exact absurd hlast (by decide)

end Convention

end SourceOutline
