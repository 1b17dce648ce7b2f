import SourceOutline.Proofs.Config.Checked
import SourceOutline.Proofs.Decoration.Derived

/-!
# Lines as they are displayed

Rendering goes through the lines with what it has displayed so far, and comes back to the last
displayed line when the next one turns out to be hidden. Seen from the outside every line is displayed
by itself: hidden lines are left out, and a line in view gets the fold marker when the line right
below it is hidden (`renderFrom_eq`). Main statement: `renderText_shows`.
-/

namespace SourceOutline

variable {decorationAt : Int → Option Decoration} {hidden : List Int} {number first stop : Int}
  {line : Text} {lines above rest : List Text} {folded : Bool}

/-! ## Line by line -/

def displayed (decorationAt : Int → Option Decoration) (hidden : List Int) (stop : Int)
    (entry : Int × Text) : Text :=
  renderLine entry.2 (decorationAt entry.1) ++
    if entry.1 + 1 < stop ∧ entry.1 + 1 ∈ hidden then ' ' :: foldMarker else []

def displayedFrom (decorationAt : Int → Option Decoration) (hidden : List Int) (first : Int)
    (lines : List Text) : List Text :=
  ((Lines.numbered first lines).filter fun entry => !hidden.contains entry.1).map
    (displayed decorationAt hidden (first + lines.length))

theorem length_cons_from (first : Int) (line : Text) (rest : List Text) :
    first + ((line :: rest).length : Int) = first + 1 + rest.length := by
  rw [List.length_cons]
  omega

theorem displayedFrom_cons_of_hidden (h : hidden.contains number = true) :
    displayedFrom decorationAt hidden number (line :: rest) =
      displayedFrom decorationAt hidden (number + 1) rest := by
  unfold displayedFrom
  rw [Lines.numbered_cons, List.filter_cons_of_neg (by simpa using h), length_cons_from]

theorem displayedFrom_cons_of_visible (h : hidden.contains number = false) :
    displayedFrom decorationAt hidden number (line :: rest) =
      displayed decorationAt hidden (number + 1 + rest.length) (number, line) ::
        displayedFrom decorationAt hidden (number + 1) rest := by
  unfold displayedFrom
  rw [Lines.numbered_cons, List.filter_cons_of_pos (by simpa using h), length_cons_from,
    List.map_cons]

/-! ## The pass through the lines -/

theorem markFold_true (above : List Text) : markFold true above = above := by
  cases above <;> rfl

/-- What has been displayed once the next line is known: the last line is marked when that is
hidden. -/
def settled (hidden : List Int) (number : Int) (above : List Text) (folded : Bool)
    (rest : List Text) : List Text :=
  if rest ≠ [] ∧ hidden.contains number then markFold folded above else above

theorem settled_nil (hidden : List Int) (number : Int) (above : List Text) (folded : Bool) :
    settled hidden number above folded [] = above :=
  if_neg fun h => h.1 rfl

theorem settled_cons_of_hidden (h : hidden.contains number = true) :
    settled hidden number above folded (line :: rest) = markFold folded above :=
  if_pos ⟨List.cons_ne_nil line rest, h⟩

theorem settled_cons_of_visible (h : hidden.contains number = false) :
    settled hidden number above folded (line :: rest) = above :=
  if_neg fun hboth => by
    rw [h] at hboth
    cases hboth.2

theorem settled_true (hidden : List Int) (number : Int) (above rest : List Text) :
    settled hidden number above true rest = above := by
  unfold settled
  rw [markFold_true, ite_self]

/-- The last line that has been displayed is complete when the next one is known. -/
theorem settled_displayed (above rest : List Text) :
    settled hidden (number + 1) (renderLine line (decorationAt number) :: above) false rest =
      displayed decorationAt hidden (number + 1 + rest.length) (number, line) :: above := by
  unfold settled displayed
  have hiff : (rest ≠ [] ∧ hidden.contains (number + 1) = true) ↔
      number + 1 < number + 1 + (rest.length : Int) ∧ number + 1 ∈ hidden := by
    rw [List.contains_iff_mem, ← List.length_pos_iff]
    exact and_congr_left' (by omega)
  by_cases hfolds : number + 1 < number + 1 + (rest.length : Int) ∧ number + 1 ∈ hidden
  · rw [if_pos (hiff.mpr hfolds), if_pos hfolds]
    rfl
  · rw [if_neg (hiff.not.mpr hfolds), if_neg hfolds, List.append_nil]

/-- **The pass displays every line by itself**, behind what it has displayed so far. -/
theorem renderFrom_eq (number : Int) (above : List Text) (folded : Bool) (lines : List Text) :
    renderFrom decorationAt hidden number above folded lines =
      (settled hidden number above folded lines).reverse ++
        displayedFrom decorationAt hidden number lines := by
  induction lines generalizing number above folded with
  | nil => rw [renderFrom, settled_nil, displayedFrom, Lines.numbered_nil, List.filter_nil,
      List.map_nil, List.append_nil]
  | cons line rest ih =>
      rw [renderFrom]
      by_cases hhidden : hidden.contains number = true
      · rw [if_pos hhidden, ih, settled_true, settled_cons_of_hidden hhidden,
          displayedFrom_cons_of_hidden hhidden]
      · have hvisible : hidden.contains number = false := Bool.eq_false_iff.mpr hhidden
        rw [if_neg hhidden, ih, settled_displayed, settled_cons_of_visible hvisible,
          displayedFrom_cons_of_visible hvisible, List.reverse_cons, List.append_assoc,
          List.singleton_append]

theorem renderFrom_nothing (number : Int) (lines : List Text) :
    renderFrom decorationAt hidden number [] false lines =
      displayedFrom decorationAt hidden number lines := by
  have hnothing : settled hidden number [] false lines = [] := ite_self []
  rw [renderFrom_eq, hnothing, List.reverse_nil, List.nil_append]

theorem renderText_eq (lines : List Text) (decorationAt : Int → Option Decoration)
    (hidden : List Int) :
    renderText lines decorationAt hidden = displayedFrom decorationAt hidden 0 lines :=
  renderFrom_nothing 0 lines

/-! ## A hidden beginning -/

theorem displayedFrom_append_of_hidden (below : List Text)
    (h : ∀ n < above.length, first + (n : Int) ∈ hidden) :
    displayedFrom decorationAt hidden first (above ++ below) =
      displayedFrom decorationAt hidden (first + above.length) below := by
  induction above generalizing first with
  | nil => rw [List.nil_append, List.length_nil, Int.natCast_zero, Int.add_zero]
  | cons line above ih =>
      have hfirst : first ∈ hidden := by simpa using h 0 (Nat.succ_pos _)
      have hrest : ∀ n < above.length, first + 1 + (n : Int) ∈ hidden := by
        intro n hn
        have hmem := h (n + 1) (Nat.succ_lt_succ hn)
        rwa [Int.natCast_succ, Int.add_comm (n : Int) 1, ← Int.add_assoc] at hmem
      rw [List.cons_append, displayedFrom_cons_of_hidden (List.contains_iff_mem.mpr hfirst),
        ih hrest, length_cons_from]

/-- Lines that are hidden in front of all others leave no trace: the pass might as well start behind
them. -/
theorem renderText_append_of_hidden (h : ∀ n < above.length, (n : Int) ∈ hidden) :
    renderText (above ++ rest) decorationAt hidden =
      renderFrom decorationAt hidden above.length [] false rest := by
  have hbeginning : ∀ n < above.length, 0 + (n : Int) ∈ hidden := by
    intro n hn
    rw [Int.zero_add]
    exact h n hn
  rw [renderText_eq, displayedFrom_append_of_hidden rest hbeginning, Int.zero_add,
    renderFrom_nothing]

/-! ## Headings -/

namespace Convention

variable {conv : Convention} {level : Int}

/-- A heading is displayed with the glyph of its level in place of its comment run. -/
theorem renderLine_of_heading (valid : conv.config.Valid) (hlevel : conv.level? line = some level)
    (number : Int) :
    ∃ glyph rest, bulletGlyph level conv.config.bulletGlyphs = .ok glyph ∧
      line = indentation line ++ openingRun conv.mark line ++ rest ∧
      renderLine line (conv.decoration? number line) = indentation line ++ glyph ++ rest := by
  obtain ⟨glyph, hglyph⟩ := bulletGlyph_ok valid.bulletGlyphs_ne_nil level
  obtain ⟨rest, hline⟩ := exists_line_eq conv.mark line
  refine ⟨glyph, rest, hglyph, hline, ?_⟩
  cases hread : conv.readHeading? number line none with
  | none =>
      rw [readHeading?_eq_none.mp hread] at hlevel
      cases hlevel
  | some heading =>
      have hfrom := readFrom_of_readHeading? hread
      obtain rfl := Option.some.inj (hlevel.symm.trans hfrom.level_eq)
      have hopening : (indentation line ++ openingRun conv.mark line).length =
          heading.openingEnd := by
        rw [List.length_append, Heading.openingEnd, hfrom.indentation_eq, hfrom.run_eq]
      have hindentation : line.take heading.indentation.length = indentation line := by
        have htake := congrArg (List.take (indentation line).length) hline
        rw [List.append_assoc, List.take_left] at htake
        rw [hfrom.indentation_eq, htake]
      have hrest : line.drop heading.openingEnd = rest := by
        have hdrop := congrArg (List.drop heading.openingEnd) hline
        rw [← hopening, List.drop_left] at hdrop
        rw [← hopening, hdrop]
      have hpos : 1 ≤ heading.openingEnd := Nat.le_add_left_of_le hfrom.run_pos
      unfold decoration? decorate
      rw [hread, Option.bind_some, hglyph, ok_bind]
      show line.take heading.indentation.length ++ glyph ++
        line.drop (heading.openingEnd - 1 + 1) = _
      rw [Nat.sub_add_cancel hpos, hindentation, hrest]

theorem renderLine_of_plain (hlevel : conv.level? line = none) (number : Int) :
    renderLine line (conv.decoration? number line) = line := by
  rw [decoration?_eq_none hlevel]
  rfl

end Convention

/-- **What is displayed.** The lines in view follow each other, each with its decoration, and with
the fold marker behind a space exactly when the line below it is there and hidden. Hidden lines in
front of all others leave no trace. With the decorations of the lines under a valid configuration,
headings have the glyph of their level in place of their comment run, and all other lines are as they
are. -/
theorem renderText_shows (lines : List Text) (decorationAt : Int → Option Decoration)
    (hidden : List Int) :
    renderText lines decorationAt hidden =
      ((Lines.numbered 0 lines).filter fun entry => !hidden.contains entry.1).map
        (displayed decorationAt hidden lines.length) ∧
      (∀ above below, lines = above ++ below → (∀ n < above.length, (n : Int) ∈ hidden) →
        renderText lines decorationAt hidden =
          renderFrom decorationAt hidden above.length [] false below) ∧
      ∀ conv : Convention, conv.config.Valid →
        ∃ decorations, conv.decorations lines = .ok decorations ∧
          ∀ (n : Nat) (line : Text), lines[n]? = some line →
            (∀ level, conv.level? line = some level →
              ∃ glyph rest, bulletGlyph level conv.config.bulletGlyphs = .ok glyph ∧
                line = indentation line ++ openingRun conv.mark line ++ rest ∧
                renderLine line (decorationOf? decorations n) =
                  indentation line ++ glyph ++ rest) ∧
            (conv.level? line = none → renderLine line (decorationOf? decorations n) = line) := by
  refine ⟨?_, ?_, fun conv valid => ?_⟩
  · rw [renderText_eq, displayedFrom, Int.zero_add]
  · rintro above below rfl hbeginning
    exact renderText_append_of_hidden hbeginning
  · refine ⟨conv.derived 0 lines, Convention.decorations_eq valid lines, fun n line hline => ?_⟩
    obtain ⟨above, below, rfl, rfl⟩ := Lines.exists_split hline
    rw [Convention.decorationOf?_derived]
    exact ⟨fun level hlevel => Convention.renderLine_of_heading valid hlevel above.length,
      fun hlevel => Convention.renderLine_of_plain hlevel above.length⟩

/-- The first line is hidden, and so are both lines of a body and the last line. -/
theorem renderText_shows_folded :
    let lines := ["intro".toList, "  /// Title".toList, "a".toList, [], "//// Sub".toList,
      "more".toList]
    let conv : Convention := ⟨['/'], {}⟩
    Config.Valid {} ∧ conv.level? "  /// Title".toList = some 1 ∧
      ∃ decorations, conv.decorations lines = .ok decorations ∧
        renderLine "  /// Title".toList (decorationOf? decorations 1) = "  ◉ Title".toList ∧
        renderText lines (decorationOf? decorations) [0, 2, 3, 5] =
          ["  ◉ Title ...".toList, "○ Sub ...".toList] ∧
        renderText lines (decorationOf? decorations) [0, 2, 3, 5] =
          renderFrom (decorationOf? decorations) [0, 2, 3, 5] 1 [] false (lines.drop 1) := by
  intro lines conv
  have valid : Config.Valid {} := Settings.valid_of_check (s := .defaults) rfl
  have hlevel : conv.level? "  /// Title".toList = some 1 := by decide
  obtain ⟨decorations, hdecorations, hlines⟩ := (renderText_shows lines (fun _ => none) []).2.2
    conv valid
  obtain ⟨glyph, rest, hglyph, hline, hshown⟩ := (hlines 1 _ rfl).1 1 hlevel
  obtain rfl : ['◉'] = glyph := Except.ok.inj hglyph
  have hrest : "  ///".toList ++ " Title".toList = "  ///".toList ++ rest := hline
  obtain rfl : " Title".toList = rest := List.append_cancel_left hrest
  obtain ⟨hentries, hbeginning, -⟩ :=
    renderText_shows lines (decorationOf? decorations) [0, 2, 3, 5]
  refine ⟨valid, hlevel, decorations, hdecorations, hshown, ?_,
    hbeginning ["intro".toList] (lines.drop 1) rfl (by decide)⟩
  obtain rfl := Except.ok.inj hdecorations
  exact hentries

end SourceOutline
