import SourceOutline.Proofs.Decoration.Derived
import SourceOutline.Proofs.Document.Mark
import SourceOutline.Proofs.Document.Position

/-!
# The cache is up to date

A cache is *current* when what it holds is what is derived from the lines, and when it remembers the
number of lines of which it holds the decorations. It stays current when it answers
(`current_get…`), when everything is dropped, and when it follows an edit
(`Current.notify_replace`): an edit that is reported inside one line differs from the old lines in
that line only, and in every other case all decorations are derived anew.
-/

namespace SourceOutline

namespace Cache

/-- Whether a cache holds nothing but what is derived from the lines. -/
structure Current (c : Cache) (conv : Convention) (lines : List Text) : Prop where
  decorations : ∀ known ∈ c.decorations, known = conv.derived 0 lines ∧ c.lineCount = lines.length
  regions : ∀ regions ∈ c.regions, regions = conv.regions lines

variable {c : Cache} {conv : Convention} {config : Config} {d : Document} {lines : List Text}

/-- Without regions, only the decorations have to be current. -/
theorem current_without_regions {decorations : Option (List Decoration)} {lineCount : Nat}
    (h : ∀ known ∈ decorations, known = conv.derived 0 lines ∧ lineCount = lines.length) :
    ({ decorations, regions := none, lineCount } : Cache).Current conv lines where
  decorations := h
  regions := by
    intro regions hregions
    cases hregions

theorem current_invalidate (c : Cache) (conv : Convention) (lines : List Text) :
    c.invalidate.Current conv lines :=
  current_without_regions fun _ hknown => by cases hknown

theorem current_empty (d : Document) (conv : Convention) (lines : List Text) :
    (empty d).Current conv lines :=
  current_without_regions fun _ hknown => by cases hknown

/-! ## Answers -/

section Answers

variable (valid : config.Valid) (hconv : d.convention config = .ok conv)
include valid hconv

theorem deriveAll_eq (c : Cache) :
    c.deriveAll d config =
      ({ c with decorations := some (conv.derived 0 d.lines), lineCount := d.lineCount },
        .ok (conv.derived 0 d.lines)) := by
  obtain ⟨-, hconfig⟩ := Document.convention_eq_ok hconv
  have hall : (d.convention config >>= fun conv => conv.decorations d.lines) =
      .ok (conv.derived 0 d.lines) := by
    rw [hconv, ok_bind]
    exact Convention.decorations_eq (by rw [hconfig]; exact valid) d.lines
  unfold deriveAll
  dsimp only
  rw [hall]

theorem Current.getDecorations (h : c.Current conv d.lines) :
    (c.getDecorations d config).2 = .ok (conv.derived 0 d.lines) ∧
      (c.getDecorations d config).1.Current conv d.lines := by
  unfold Cache.getDecorations
  cases hknown : c.decorations with
  | some known =>
      obtain ⟨rfl, -⟩ := h.decorations known hknown
      exact ⟨rfl, h⟩
  | none =>
      dsimp only
      rw [deriveAll_eq valid hconv]
      refine ⟨rfl, ?_, h.regions⟩
      intro known hnew
      cases hnew
      exact ⟨rfl, rfl⟩

omit valid in
theorem Current.getRegions (h : c.Current conv d.lines) :
    (c.getRegions d config).2 = .ok (conv.regions d.lines) ∧
      (c.getRegions d config).1.Current conv d.lines := by
  unfold Cache.getRegions
  cases hknown : c.regions with
  | some regions =>
      rw [h.regions regions hknown]
      exact ⟨rfl, h⟩
  | none =>
      dsimp only
      rw [hconv]
      refine ⟨rfl, h.decorations, ?_⟩
      intro regions hnew
      cases hnew
      rfl

omit valid in
theorem Current.getBackgrounds (h : c.Current conv d.lines) :
    (c.getBackgrounds d config).1.Current conv d.lines := by
  have hregions := h.getRegions hconv
  unfold Cache.getBackgrounds
  split
  · rw [show c.getRegions d config =
        ((c.getRegions d config).1, (c.getRegions d config).2) from rfl,
      hregions.1]
    exact hregions.2
  · exact h

end Answers

/-! ## Edits -/

theorem notify_of_none (h : c.decorations = none) (d : Document) (config : Config)
    (position newLength : Int) :
    c.notify d config position newLength = ({ c with regions := none }, .ok []) := by
  simp [notify, h]

section Edits

variable (valid : config.Valid) (hconv : d.convention config = .ok conv)
include valid hconv

/-- Deriving one line anew never fails. -/
theorem deriveLine_eq {n : Nat} {line : Text} (hline : d.lines[n]? = some line)
    (known : List Decoration) :
    deriveLine known d config n =
      .ok (match conv.decoration? n line with
        | none => known.filter fun decoration => decoration.line != n
        | some decoration => insertDecoration decoration known) := by
  obtain ⟨-, hconfig⟩ := Document.convention_eq_ok hconv
  subst hconfig
  unfold deriveLine
  rw [hconv, ok_bind, Convention.headingAt_ofNat conv hline, ok_bind]
  cases hread : conv.readHeading? n line d.lines[n + 1]? with
  | none =>
      rw [Convention.decoration?_eq_none (Convention.readHeading?_eq_none.mp hread)]
      rfl
  | some heading =>
      obtain ⟨decoration, hdecorate, -, hone⟩ := Convention.decorate_of_readHeading? valid hread
      dsimp only
      rw [show d.line n = .ok line from Lines.lookup_ofNat hline, ok_bind, hdecorate, hone]
      rfl

theorem deriveLine_derived {above below : List Text} {line : Text} (old : Text)
    (hlines : d.lines = above ++ line :: below) :
    deriveLine (conv.derived 0 (above ++ old :: below)) d config above.length =
      .ok (conv.derived 0 d.lines) := by
  have hline : d.lines[above.length]? = some line := Lines.getElem?_split hlines
  rw [deriveLine_eq valid hconv hline, hlines]
  cases hdecoration : conv.decoration? above.length line with
  | none => exact congrArg Except.ok (Convention.filter_derived old hdecoration)
  | some decoration =>
      exact congrArg Except.ok (Convention.insertDecoration_derived old hdecoration)

theorem notify_across {known : List Decoration} {position newLength : Int}
    (hknown : c.decorations = some known)
    (h : ¬(d.lineCount = c.lineCount ∧
      (d.position position).line = (d.position (position + newLength)).line)) :
    c.notify d config position newLength =
      ({ decorations := some (conv.derived 0 d.lines), regions := none
         lineCount := d.lineCount }, .ok []) := by
  unfold notify
  dsimp only
  rw [hknown]
  dsimp only
  rw [if_neg h, deriveAll_eq valid hconv]

/-- A report inside one line has that line derived anew, unless it starts too far to the right. -/
theorem notify_inside {known : List Decoration} {position newLength : Int} {n : Nat} {line : Text}
    (hknown : c.decorations = some known) (hcount : d.lineCount = c.lineCount)
    (hsame : (d.position position).line = (d.position (position + newLength)).line)
    (hn : (d.position position).line = n) (hline : d.lines[n]? = some line) :
    ∃ decorations, deriveLine known d config n = .ok decorations ∧
      c.notify d config position newLength =
        if (d.position position).column ≤ editLimit known conv.mark line n then
          ({ c with decorations := some decorations, regions := none },
            .ok [.headingRederived n])
        else ({ c with regions := none }, .ok []) := by
  obtain ⟨hmark, -⟩ := Document.convention_eq_ok hconv
  have hderive := deriveLine_eq valid hconv hline known
  refine ⟨_, hderive, ?_⟩
  have hnotify : c.notify d config position newLength =
      ({ c with regions := none } : Cache).notifyLine known d config (d.position position) := by
    simp [notify, hknown, hcount, hsame]
  rw [hnotify]
  unfold notifyLine
  rw [hn, show d.line n = .ok line from Lines.lookup_ofNat hline, ok_bind, hmark, ok_bind, hderive]
  by_cases hlimit : (d.position position).column ≤ editLimit known conv.mark line n
  · rw [if_pos hlimit, if_pos hlimit]
    rfl
  · rw [if_neg hlimit, if_neg hlimit, hknown]
    rfl

/-- A cache of a document with a comment mark follows every report. -/
theorem notify_ok (hne : d.lines ≠ []) (c : Cache) (position newLength : Int) :
    ∃ events, (c.notify d config position newLength).2 = .ok events := by
  cases hknown : c.decorations with
  | none => exact ⟨[], congrArg Prod.snd (notify_of_none hknown d config position newLength)⟩
  | some known =>
      by_cases hwithin : d.lineCount = c.lineCount ∧
          (d.position position).line = (d.position (position + newLength)).line
      · obtain ⟨n, hn, hlt⟩ := Document.position_line hne position
        obtain ⟨decorations, -, hnotify⟩ := notify_inside valid hconv hknown hwithin.1 hwithin.2 hn
          (List.getElem?_eq_getElem hlt)
        rw [hnotify]
        split
        · exact ⟨_, rfl⟩
        · exact ⟨_, rfl⟩
      · exact ⟨[], congrArg Prod.snd (notify_across valid hconv hknown hwithin)⟩

theorem notify_replace_ok (c : Cache) (start stop : Int) (new : List Text) :
    ∃ events, (c.notify (d.replace start stop new).1 config (d.changeOf start stop new).position
      (d.changeOf start stop new).newLength).2 = .ok events := by
  have hnext : (d.replace start stop new).1.convention config = .ok conv :=
    (Document.convention_congr rfl config).trans hconv
  exact notify_ok valid hnext Document.replace_lines_ne_nil c _ _

/-- **A current cache follows every edit.** -/
theorem Current.notify_replace (h : c.Current conv d.lines) (start stop : Int) (new : List Text) :
    (c.notify (d.replace start stop new).1 config (d.changeOf start stop new).position
      (d.changeOf start stop new).newLength).1.Current conv (d.replace start stop new).1.lines := by
  have hnext : (d.replace start stop new).1.convention config = .ok conv :=
    (Document.convention_congr rfl config).trans hconv
  cases hknown : c.decorations with
  | none =>
      rw [notify_of_none hknown]
      exact current_without_regions fun known hnow => by
        rw [hknown] at hnow
        cases hnow
  | some known =>
      by_cases hwithin : (d.replace start stop new).1.lineCount = c.lineCount ∧
          ((d.replace start stop new).1.position (d.changeOf start stop new).position).line =
            ((d.replace start stop new).1.position ((d.changeOf start stop new).position +
              (d.changeOf start stop new).newLength)).line
      · obtain ⟨hcount, hsame⟩ := hwithin
        obtain ⟨rfl, hlength⟩ := h.decorations known hknown
        obtain ⟨above, below, old, line, hold, hnew, hline, hcolumn⟩ :=
          Document.replace_within_line (hcount.trans hlength) hsame
        have hget : (d.replace start stop new).1.lines[above.length]? = some line :=
          Lines.getElem?_split hnew
        obtain ⟨decorations, hderive, hnotify⟩ :=
          notify_inside valid hnext hknown hcount hsame hline hget
        rw [hnotify]
        split
        · refine current_without_regions fun known hnow => ?_
          cases hnow
          refine ⟨?_, hcount.symm⟩
          rw [hold, deriveLine_derived valid hnext old hnew] at hderive
          exact (Except.ok.inj hderive).symm
        · rename_i hlimit
          refine current_without_regions fun known hnow => ?_
          cases hknown.symm.trans hnow
          -- the first column is never too far to the right
          have hnonneg : 0 ≤ editLimit (conv.derived 0 d.lines) conv.mark line above.length := by
            unfold editLimit prefixLimit
            split <;> omega
          refine ⟨?_, hcount.symm⟩
          rw [hcolumn (by omega)]
      · rw [notify_across valid hnext hknown hwithin]
        exact current_without_regions fun known hnow => by
          cases hnow
          exact ⟨rfl, rfl⟩

end Edits

end Cache

end SourceOutline
