import SourceOutline.Decoration.Cache
import SourceOutline.Proofs.Outline

/-!
# Decorations line by line

Under a valid configuration every heading can be decorated, and the decoration of a line depends on
that line and its number only (`Convention.decoration?`). So the decorations of a document are those
of its lines in order (`decorations_eq`), and putting the decoration of one line into those of the
others gives the decorations of the whole (`insertDecoration_derived`).
-/

namespace SourceOutline

theorem bulletGlyph_ok {glyphs : List Text} (h : glyphs ≠ []) (level : Int) :
    ∃ glyph, bulletGlyph level glyphs = .ok glyph := by
  have hpos : (0 : Int) < glyphs.length := by
    have := List.length_pos_iff.mpr h
    omega
  have h₁ := Int.emod_nonneg (level - 1) (Int.ne_of_gt hpos)
  have h₂ := Int.emod_lt_of_pos (level - 1) hpos
  have hlt : ((level - 1) % glyphs.length).toNat < glyphs.length := by omega
  unfold bulletGlyph
  rw [List.getElem?_eq_getElem hlt]
  exact ⟨_, rfl⟩

namespace Convention

variable {conv : Convention} {number first : Int} {line : Text} {lines above below : List Text}

def decoration? (conv : Convention) (number : Int) (line : Text) : Option Decoration :=
  (conv.readHeading? number line none).bind fun heading =>
    (decorate conv.config heading line).toOption

def derived (conv : Convention) (first : Int) (lines : List Text) : List Decoration :=
  (Lines.numbered first lines).filterMap fun entry => conv.decoration? entry.1 entry.2

/-! ## One line -/

theorem decorate_ok (valid : conv.config.Valid) (heading : Heading) (line : Text) :
    ∃ decoration, decorate conv.config heading line = .ok decoration ∧
      decoration.line = heading.line := by
  obtain ⟨glyph, hglyph⟩ := bulletGlyph_ok valid.bulletGlyphs_ne_nil heading.level
  unfold decorate
  rw [hglyph, ok_bind]
  exact ⟨_, rfl, rfl⟩

theorem decorate_of_readHeading? (valid : conv.config.Valid) {below : Option Text}
    {heading : Heading} (h : conv.readHeading? number line below = some heading) :
    ∃ decoration, decorate conv.config heading line = .ok decoration ∧
      decoration.line = number ∧ conv.decoration? number line = some decoration := by
  obtain ⟨decoration, hdecorate, hline⟩ := decorate_ok valid heading line
  refine ⟨decoration, hdecorate, hline.trans (readFrom_of_readHeading? h).line_eq, ?_⟩
  unfold decoration?
  unfold readHeading? at h ⊢
  split at h
  · cases h
  · rename_i level hlevel
    cases h
    rw [Option.bind_some]
    exact congrArg Except.toOption hdecorate

theorem decoration?_eq_none (h : conv.level? line = none) :
    conv.decoration? number line = none := by
  unfold decoration?
  rw [readHeading?_eq_none.mpr h]
  rfl

theorem line_of_decoration? {decoration : Decoration}
    (h : conv.decoration? number line = some decoration) : decoration.line = number := by
  obtain ⟨heading, hread, hdecorate⟩ := Option.bind_eq_some_iff.mp h
  cases hresult : decorate conv.config heading line with
  | error fault =>
      rw [hresult] at hdecorate
      cases hdecorate
  | ok other =>
      rw [hresult] at hdecorate
      cases hdecorate
      obtain ⟨glyph, -, hother⟩ := bind_eq_ok.mp hresult
      cases hother
      exact (readFrom_of_readHeading? hread).line_eq

/-! ## All lines -/

theorem derived_cons (conv : Convention) (first : Int) (line : Text) (rest : List Text) :
    conv.derived first (line :: rest) =
      (conv.decoration? first line).toList ++ conv.derived (first + 1) rest := by
  unfold derived
  rw [Lines.numbered_cons, List.filterMap_cons]
  cases conv.decoration? first line <;> rfl

theorem derived_append (conv : Convention) (first : Int) (above below : List Text) :
    conv.derived first (above ++ below) =
      conv.derived first above ++ conv.derived (first + above.length) below := by
  unfold derived
  rw [Lines.numbered_append, List.filterMap_append]

theorem line_of_mem_derived {decoration : Decoration} (h : decoration ∈ conv.derived first lines) :
    first ≤ decoration.line ∧ decoration.line < first + lines.length := by
  obtain ⟨entry, hentry, hdecoration⟩ := List.mem_filterMap.mp h
  obtain ⟨i, line, hget, rfl⟩ := Lines.mem_numbered.mp hentry
  obtain ⟨hlt, -⟩ := List.getElem?_eq_some_iff.mp hget
  rw [line_of_decoration? hdecoration]
  omega

theorem decorationsFrom_eq (valid : conv.config.Valid) (first : Int) (lines : List Text) :
    conv.decorationsFrom first lines = .ok (conv.derived first lines) := by
  induction lines generalizing first with
  | nil => rfl
  | cons line rest ih =>
      rw [decorationsFrom, derived_cons]
      cases hread : conv.readHeading? first line rest.head? with
      | none =>
          rw [decoration?_eq_none (readHeading?_eq_none.mp hread)]
          exact ih (first + 1)
      | some heading =>
          obtain ⟨decoration, hdecorate, -, hline⟩ := decorate_of_readHeading? valid hread
          dsimp only
          rw [hdecorate, ih (first + 1), hline]
          rfl

theorem decorations_eq (valid : conv.config.Valid) (lines : List Text) :
    conv.decorations lines = .ok (conv.derived 0 lines) := decorationsFrom_eq valid 0 lines

/-- The decorations of a document are those of its headings, each with its own line. -/
theorem mapM_decorate_headings (valid : conv.config.Valid) (lines : List Text) :
    ((conv.headings lines).mapM fun heading => do
      decorate conv.config heading (← Lines.lookup lines heading.line)) =
      .ok (conv.derived 0 lines) := by
  -- the lines from some place on, with those above it
  have hfrom : ∀ rest above : List Text, lines = above ++ rest →
      ((conv.headingsFrom above.length rest).mapM fun heading => do
        decorate conv.config heading (← Lines.lookup lines heading.line)) =
        .ok (conv.derived above.length rest) := by
    intro rest
    induction rest with
    | nil =>
        intro above _
        rfl
    | cons line rest ih =>
        intro above hlines
        have hnext := ih (above ++ [line]) (by rw [hlines, List.append_assoc]; rfl)
        rw [List.length_append, List.length_singleton, Int.natCast_add, Int.natCast_one] at hnext
        rw [headingsFrom, derived_cons]
        cases hread : conv.readHeading? above.length line rest.head? with
        | none =>
            rw [decoration?_eq_none (readHeading?_eq_none.mp hread)]
            exact hnext
        | some heading =>
            obtain ⟨decoration, hdecorate, -, hline⟩ := decorate_of_readHeading? valid hread
            have hget : lines[above.length]? = some line := Lines.getElem?_split hlines
            dsimp only
            rw [List.mapM_cons, (readFrom_of_readHeading? hread).line_eq, Lines.lookup_ofNat hget,
              ok_bind, hdecorate, ok_bind, hnext, ok_bind, hline]
            rfl
  exact hfrom lines [] rfl

end Convention

/-! ## One decoration among others -/

variable {decoration : Decoration} {above below known : List Decoration}

theorem insertDecoration_append (h : ∀ other ∈ above, other.line < decoration.line)
    (known : List Decoration) :
    insertDecoration decoration (above ++ known) = above ++ insertDecoration decoration known := by
  induction above with
  | nil => rfl
  | cons other rest ih =>
      have hlt := h other (List.mem_cons_self ..)
      rw [List.cons_append, insertDecoration, if_neg (by omega), if_neg (by omega),
        ih fun o ho => h o (List.mem_cons_of_mem _ ho), List.cons_append]

theorem insertDecoration_of_lt (h : ∀ other ∈ below, decoration.line < other.line) :
    insertDecoration decoration below = decoration :: below := by
  cases below with
  | nil => rfl
  | cons other rest => rw [insertDecoration, if_pos (h other (List.mem_cons_self ..))]

namespace Convention

variable {conv : Convention} {lines above below : List Text} {old line : Text} {n : Nat}

theorem derived_middle (conv : Convention) (above below : List Text) (line : Text) :
    conv.derived 0 (above ++ line :: below) =
      conv.derived 0 above ++ (conv.decoration? above.length line).toList ++
        conv.derived (above.length + 1) below := by
  rw [derived_append, derived_cons, List.append_assoc, Int.zero_add]

theorem line_lt_of_mem_above {decoration : Decoration} (h : decoration ∈ conv.derived 0 above) :
    decoration.line < above.length := by
  have := (line_of_mem_derived h).2
  omega

theorem lt_line_of_mem_below {decoration : Decoration} (above : List Text)
    (h : decoration ∈ conv.derived (above.length + 1) below) :
    (above.length : Int) < decoration.line := by
  have := (line_of_mem_derived h).1
  omega

/-- Putting in the decoration of one line brings the decorations up to date with it. -/
theorem insertDecoration_derived {decoration : Decoration} (old : Text)
    (h : conv.decoration? above.length line = some decoration) :
    insertDecoration decoration (conv.derived 0 (above ++ old :: below)) =
      conv.derived 0 (above ++ line :: below) := by
  have hline := line_of_decoration? h
  rw [derived_middle, derived_middle, h, List.append_assoc, List.append_assoc,
    insertDecoration_append fun other hother => by
      rw [hline]
      exact line_lt_of_mem_above hother]
  congr 1
  have hbelow : ∀ other ∈ conv.derived (above.length + 1) below,
      decoration.line < other.line := by
    intro other hother
    rw [hline]
    exact lt_line_of_mem_below above hother
  cases hold : conv.decoration? above.length old with
  | none => exact insertDecoration_of_lt hbelow
  | some other =>
      have hother := line_of_decoration? hold
      rw [Option.toList_some, List.singleton_append, insertDecoration, if_neg (by omega),
        if_pos (by omega)]
      rfl

/-- Taking out the decoration of one line brings the decorations up to date when it is no heading
any more. -/
theorem filter_derived (old : Text) (h : conv.decoration? above.length line = none) :
    (conv.derived 0 (above ++ old :: below)).filter
        (fun decoration => decoration.line != (above.length : Int)) =
      conv.derived 0 (above ++ line :: below) := by
  rw [derived_middle, derived_middle, h, List.filter_append, List.filter_append]
  have habove : (conv.derived 0 above).filter
      (fun decoration => decoration.line != (above.length : Int)) =
      conv.derived 0 above := by
    rw [List.filter_eq_self]
    intro other hother
    have := line_lt_of_mem_above hother
    simp only [bne_iff_ne, ne_eq]
    omega
  have hbelow : (conv.derived (above.length + 1) below).filter
      (fun decoration => decoration.line != (above.length : Int)) =
      conv.derived (above.length + 1) below := by
    rw [List.filter_eq_self]
    intro other hother
    have := lt_line_of_mem_below above hother
    simp only [bne_iff_ne, ne_eq]
    omega
  have hmiddle : (conv.decoration? above.length old).toList.filter
      (fun decoration => decoration.line != (above.length : Int)) = [] := by
    rw [List.filter_eq_nil_iff]
    intro other hother
    have := line_of_decoration? (Option.mem_toList.mp hother)
    simp [this]
  rw [habove, hbelow, hmiddle]
  rfl

/-- Among the decorations of a document, the one of a line. -/
theorem decorationOf?_derived (conv : Convention) (above below : List Text) (line : Text) :
    decorationOf? (conv.derived 0 (above ++ line :: below)) above.length =
      conv.decoration? above.length line := by
  unfold decorationOf?
  rw [derived_middle, List.find?_append, List.find?_append]
  have habove : (conv.derived 0 above).find?
      (fun decoration => decoration.line == (above.length : Int)) = none := by
    rw [List.find?_eq_none]
    intro decoration hdecoration
    have := line_lt_of_mem_above hdecoration
    simp only [beq_iff_eq]
    omega
  have hbelow : (conv.derived (above.length + 1) below).find?
      (fun decoration => decoration.line == (above.length : Int)) = none := by
    rw [List.find?_eq_none]
    intro decoration hdecoration
    have := lt_line_of_mem_below above hdecoration
    simp only [beq_iff_eq]
    omega
  rw [habove, hbelow, Option.none_or, Option.or_none]
  cases hline : conv.decoration? above.length line with
  | none => rfl
  | some decoration => simp [line_of_decoration? hline]

end Convention

end SourceOutline
