import SourceOutline.Proofs.Fold.Within
import SourceOutline.Proofs.Lines
import SourceOutline.Proofs.Session.Frame
import SourceOutline.Script.Document

/-!
# Sessions through replacements

View and point follow the text. A line that is not replaced has its place afterwards
(`Replacement.place`), and there it is as visible as before; point stays with it, in its column as
far as the line reaches. Main statement: so it is at each of any number of replacements in a row
(`replaceAll_followed`).
-/

namespace SourceOutline

/-- Whether a line is not among those that are replaced. -/
def Replacement.Outside (r : Replacement) (i : Int) : Prop := i < r.start ∨ r.stop ≤ i

def Replacement.growth (r : Replacement) : Int := r.new.length - (r.stop - r.start)

/-- The number of a line after a replacement that does not take it. -/
def Replacement.place (r : Replacement) (i : Int) : Int :=
  if i < r.start then i else i + r.growth

namespace Replacement

variable {r : Replacement} {i k : Int}

theorem place_above (h : i < r.start) : r.place i = i := if_pos h

theorem place_below (hle : r.start ≤ r.stop) (h : r.stop ≤ i) : r.place i = i + r.growth :=
  if_neg (by omega)

theorem place_of_growth (h : r.growth = 0) (i : Int) : r.place i = i := by
  unfold place
  rw [h, Int.add_zero, ite_self]

theorem place_inj (hle : r.start ≤ r.stop) (hi : r.Outside i) (hk : r.Outside k)
    (hsame : r.place i = r.place k) : i = k := by
  rcases hi with hi | hi <;> rcases hk with hk | hk
  · rwa [place_above hi, place_above hk] at hsame
  · rw [place_above hi, place_below hle hk, growth] at hsame
    omega
  · rw [place_below hle hi, place_above hk, growth] at hsame
    omega
  · rw [place_below hle hi, place_below hle hk] at hsame
    omega

end Replacement

/-! ## Lines -/

namespace Document

variable {d : Document} {r : Replacement} {i : Int} {text : Text}

/-- Whether a document has a line with a number, not counted from the end. -/
def HasLine (d : Document) (i : Int) : Prop := 0 ≤ i ∧ i < d.lineCount

theorem line_eq_ok (hi : d.HasLine i) : d.line i = .ok text ↔ d.lines[i.toNat]? = some text := by
  obtain ⟨n, rfl⟩ := Int.eq_ofNat_of_zero_le hi.1
  unfold line Lines.lookup
  rw [Lines.lookup?_ofNat, Int.toNat_natCast]
  cases d.lines[n]? with
  | none => simp
  | some other => simp

theorem exists_line (hi : d.HasLine i) : ∃ text, d.line i = .ok text := by
  have hlt : i.toNat < d.lines.length := by
    obtain ⟨hpos, hlt⟩ := hi
    unfold lineCount at hlt
    omega
  exact ⟨_, (line_eq_ok hi).mpr (List.getElem?_eq_getElem hlt)⟩

/-- A line that is not replaced is still there. -/
theorem replace_lines_of_outside (fits : d.Fits r.start r.stop) (hi : d.HasLine i)
    (hout : r.Outside i) : (d.replace r.start r.stop r.new).1.lines =
      d.lines.take r.start.toNat ++ r.new ++ d.lines.drop r.stop.toNat := by
  obtain ⟨first, last, hstart, hstop, hle, hlast⟩ := fits.exists_nat
  obtain ⟨hpos, hlt⟩ := hi
  unfold lineCount at hlt
  rw [replace_lines, hstart, hstop, splice_ofNat hle hlast, orEmptyLine_of_ne_nil]
  · rfl
  · intro hnil
    simp only [List.append_eq_nil_iff, List.take_eq_nil_iff, List.drop_eq_nil_iff] at hnil
    obtain ⟨⟨hfirst | hempty, -⟩, hrest⟩ := hnil
    · unfold Replacement.Outside at hout
      omega
    · rw [hempty, List.length_nil] at hlt
      omega

/-- **A line that is not replaced is found at its place.** -/
theorem line_place (fits : d.Fits r.start r.stop) (hi : d.HasLine i) (hout : r.Outside i) :
    (d.replace r.start r.stop r.new).1.HasLine (r.place i) ∧
      (d.replace r.start r.stop r.new).1.line (r.place i) = d.line i := by
  obtain ⟨text, htext⟩ := exists_line hi
  have hget := (line_eq_ok hi).mp htext
  have hlines := replace_lines_of_outside fits hi hout
  obtain ⟨hfirst, hle, hlast⟩ := fits
  obtain ⟨hpos, hlt⟩ := hi
  unfold lineCount at hlast hlt
  generalize hafter : (d.replace r.start r.stop r.new).1 = after at hlines ⊢
  have htake : (d.lines.take r.start.toNat).length = r.start.toNat := by
    rw [List.length_take]
    omega
  have hplace : 0 ≤ r.place i ∧ after.lines[(r.place i).toNat]? = some text := by
    rw [hlines, List.append_assoc]
    rcases hout with habove | hbelow
    · rw [Replacement.place_above habove, List.getElem?_append_left (by omega),
        List.getElem?_take_of_lt (by omega)]
      exact ⟨hpos, hget⟩
    · rw [Replacement.place_below hle hbelow, Replacement.growth]
      refine ⟨by omega, ?_⟩
      rw [List.getElem?_append_right (by omega), List.getElem?_append_right (by omega), htake,
        List.getElem?_drop, ← hget]
      congr 1
      omega
  obtain ⟨hnonneg, hfound⟩ := hplace
  obtain ⟨hinside, -⟩ := List.getElem?_eq_some_iff.mp hfound
  have hhas : after.HasLine (r.place i) := by
    refine ⟨hnonneg, ?_⟩
    unfold lineCount
    omega
  exact ⟨hhas, ((line_eq_ok hhas).mpr hfound).trans htext.symm⟩

theorem changeOf_replacement (fits : d.Fits r.start r.stop) :
    (d.changeOf r.start r.stop r.new).line = r.start ∧
      (d.changeOf r.start r.stop r.new).line + (d.changeOf r.start r.stop r.new).oldCount = r.stop ∧
      (d.changeOf r.start r.stop r.new).lineDelta = r.growth := by
  obtain ⟨first, last, hstart, hstop, hle, hlast⟩ := fits.exists_nat
  obtain ⟨hline, hold, -⟩ := changeOf_ofNat hle hlast r.new
  have hdelta := changeOf_lineDelta hle hlast r.new
  rw [← hstart, ← hstop] at hline hold hdelta
  refine ⟨hline, ?_, hdelta⟩
  rw [hline, hold]
  omega

/-- **Point stays with a line that is not replaced**, in its column as far as the line reaches. -/
theorem point_place (fits : d.Fits r.start r.stop) (hline : d.HasLine d.point.line)
    (hout : r.Outside d.point.line) (htext : d.line d.point.line = .ok text) :
    (d.replace r.start r.stop r.new).1.point =
      { line := r.place d.point.line, column := min d.point.column text.length } := by
  obtain ⟨hhas, hsame⟩ := line_place fits hline hout
  obtain ⟨-, hstop, hgrowth⟩ := changeOf_replacement fits
  have hget := (line_eq_ok hhas).mp (hsame.trans htext)
  have hmoved : (if (d.changeOf r.start r.stop r.new).lineDelta ≠ 0 ∧
        (d.changeOf r.start r.stop r.new).line + (d.changeOf r.start r.stop r.new).oldCount ≤
          d.point.line
      then d.point.line + (d.changeOf r.start r.stop r.new).lineDelta else d.point.line) =
        r.place d.point.line := by
    rw [hstop, hgrowth]
    rcases hout with habove | hbelow
    · have hle := fits.2.1
      rw [Replacement.place_above habove, if_neg (by omega)]
    · rw [Replacement.place_below fits.2.1 hbelow]
      split <;> omega
  have hinside : max 0 (min (r.place d.point.line)
      ((d.replace r.start r.stop r.new).1.lines.length - 1)) = r.place d.point.line := by
    obtain ⟨hpos, hlt⟩ := hhas
    unfold lineCount at hlt
    omega
  rw [replace_lines] at hinside hget
  show shiftPoint _ _ _ = _
  unfold shiftPoint
  dsimp only
  rw [hmoved, hinside, hget]
  rfl

end Document

/-! ## Views -/

namespace FoldView

variable {v : FoldView} {d : Document} {r : Replacement} {i : Int}

theorem follow_of_growth (fits : d.Fits r.start r.stop) (h : r.growth = 0) :
    v.follow (d.changeOf r.start r.stop r.new) = v := by
  obtain ⟨-, -, hgrowth⟩ := Document.changeOf_replacement fits
  unfold follow
  rw [hgrowth, if_pos h]

/-- After any other one those lines are hidden that have been hidden and are not replaced. -/
theorem mem_follow (fits : d.Fits r.start r.stop) (h : r.growth ≠ 0) :
    i ∈ (v.follow (d.changeOf r.start r.stop r.new)).hidden ↔
      ∃ k ∈ v.hidden, r.Outside k ∧ r.place k = i := by
  obtain ⟨hstart, hstop, hgrowth⟩ := Document.changeOf_replacement fits
  have hle := fits.2.1
  unfold follow
  rw [hgrowth, if_neg h, List.mem_filterMap]
  refine exists_congr fun k => and_congr_right fun _ => ?_
  unfold followLine
  rw [hstop, hstart, hgrowth]
  by_cases habove : k < r.start
  · rw [if_pos habove, Replacement.place_above habove, Option.some.injEq]
    exact (and_iff_right (Or.inl habove)).symm
  by_cases hbelow : r.stop ≤ k
  · rw [if_neg habove, if_pos hbelow, Replacement.place_below hle hbelow, Option.some.injEq]
    exact (and_iff_right (Or.inr hbelow)).symm
  · rw [if_neg habove, if_neg hbelow]
    refine iff_of_false (fun hnone => by cases hnone) ?_
    rintro ⟨habove' | hbelow', -⟩
    · exact habove habove'
    · exact hbelow hbelow'

/-- **A line that is not replaced is as visible at its place as before.** -/
theorem isHidden_place (fits : d.Fits r.start r.stop) (hout : r.Outside i) :
    (v.follow (d.changeOf r.start r.stop r.new)).isHidden (r.place i) = v.isHidden i := by
  by_cases hgrowth : r.growth = 0
  · rw [follow_of_growth fits hgrowth, Replacement.place_of_growth hgrowth]
  · rw [Bool.eq_iff_iff, isHidden_iff, isHidden_iff, mem_follow fits hgrowth]
    constructor
    · rintro ⟨k, hk, houtk, hsame⟩
      rwa [Replacement.place_inj fits.2.1 houtk hout hsame] at hk
    · intro hi
      exact ⟨i, hi, hout, rfl⟩

end FoldView

/-! ## Sessions -/

/-- Whether view and point of a session have followed the text through a replacement. -/
structure Replacement.Followed (r : Replacement) (s s' : Session) : Prop where
  /-- A line that is not replaced is at its place, and as visible as before. -/
  outside : ∀ i, s.document.HasLine i → r.Outside i →
    s'.document.HasLine (r.place i) ∧ s'.document.line (r.place i) = s.document.line i ∧
      s'.view.isHidden (r.place i) = s.view.isHidden i
  /-- When there are as many new lines as old ones, they are as visible as those. -/
  kept : (r.new.length : Int) = r.stop - r.start → ∀ i, r.start ≤ i → i < r.stop →
    s'.view.isHidden i = s.view.isHidden i
  /-- Else no line is hidden but those at their places, not even the empty line of a document that
  has been emptied. -/
  shown : (r.new.length : Int) ≠ r.stop - r.start → ∀ i, s'.document.HasLine i →
    (∀ k, s.document.HasLine k → r.Outside k → r.place k ≠ i) → s'.view.isHidden i = false
  /-- Point stays with a line that is not replaced, in its column or at the end of the line. -/
  point : s.document.HasLine s.document.point.line → r.Outside s.document.point.line →
    ∀ text, s.document.line s.document.point.line = .ok text →
      s'.document.point = { line := r.place s.document.point.line,
                            column := min s.document.point.column text.length }
  /-- Point is inside the document in any case. -/
  inside : 0 ≤ s.document.point.column → s'.document.PointInside

namespace Session

variable {s : Session} {config : Config} {r : Replacement} {edits : List Replacement}

/-- The session after a replacement, whatever the cache makes of it. -/
def replaced (config : Config) (s : Session) (r : Replacement) : Session :=
  (s.replaceLines config r.start r.stop r.new).1

def replaceAll (config : Config) (s : Session) (edits : List Replacement) : Session :=
  edits.foldl (replaced config) s

/-- Whether each of some replacements in a row fits the document that it finds. -/
inductive Fitting (config : Config) : Session → List Replacement → Prop
  | nil (s : Session) : Fitting config s []
  | cons {s : Session} {r : Replacement} {rest : List Replacement}
      (fits : s.document.Fits r.start r.stop) (later : Fitting config (replaced config s r) rest) :
      Fitting config s (r :: rest)

theorem replaced_document :
    (replaced config s r).document = (s.document.replace r.start r.stop r.new).1 :=
  replaceLines_document s config r.start r.stop r.new

theorem replaced_view :
    (replaced config s r).view = s.view.follow (s.document.changeOf r.start r.stop r.new) := by
  unfold replaced
  rw [replaceLines_eq]
  exact followChange_view _ _ _

theorem within_replaced (hview : s.view.Within s.document.lineCount)
    (fits : s.document.Fits r.start r.stop) :
    (replaced config s r).view.Within (replaced config s r).document.lineCount := by
  rw [replaced_view, replaced_document]
  exact hview.follow fits

/-- **View and point follow the text through a replacement.** -/
theorem followed_replaced (hview : s.view.Within s.document.lineCount)
    (fits : s.document.Fits r.start r.stop) : r.Followed s (replaced config s r) := by
  constructor
  · intro i hi hout
    rw [replaced_document, replaced_view]
    obtain ⟨hhas, hsame⟩ := Document.line_place fits hi hout
    exact ⟨hhas, hsame, FoldView.isHidden_place fits hout⟩
  · intro hcount i _ _
    have hgrowth : r.growth = 0 := by
      unfold Replacement.growth
      omega
    rw [replaced_view, FoldView.follow_of_growth fits hgrowth]
  · intro hcount i hi hnew
    have hgrowth : r.growth ≠ 0 := by
      unfold Replacement.growth
      omega
    rw [replaced_view, Bool.eq_false_iff, ne_eq, FoldView.isHidden_iff,
      FoldView.mem_follow fits hgrowth]
    rintro ⟨k, hk, hout, hplace⟩
    exact hnew k (hview k hk) hout hplace
  · intro hline hout text htext
    rw [replaced_document]
    exact Document.point_place fits hline hout htext
  · intro hcolumn
    rw [replaced_document]
    exact Document.replace_pointInside hcolumn

/-- **View and point follow the text through any number of replacements**, at each of them. -/
theorem replaceAll_followed (hview : s.view.Within s.document.lineCount)
    (hfitting : Fitting config s edits) :
    (replaceAll config s edits).view.Within (replaceAll config s edits).document.lineCount ∧
    ∀ before r after, edits = before ++ r :: after →
      r.Followed (replaceAll config s before) (replaceAll config s (before ++ [r])) := by
  induction hfitting with
  | nil s =>
      refine ⟨hview, fun before r after hsplit => ?_⟩
      simp at hsplit
  | @cons s first rest fits _ ih =>
      obtain ⟨hwithin, hlater⟩ := ih (within_replaced hview fits)
      refine ⟨hwithin, fun before r after hsplit => ?_⟩
      cases before with
      | nil =>
          cases hsplit
          exact followed_replaced hview fits
      | cons other before =>
          cases hsplit
          exact hlater before r after rfl

/-- Two lines are inserted above a hidden line and point, and then the first two lines become one. -/
theorem replaceAll_followed_hidden :
    let s : Session :=
      { (create (Document.ofText "a\nb\nc\nd".toList none none)).setPoint { line := 3, column := 1 }
        with view := { hidden := [2] } }
    let growing : Replacement := { start := 1, stop := 1, new := ["x".toList, "y".toList] }
    let shrinking : Replacement := { start := 0, stop := 2, new := ["z".toList] }
    let after := replaceAll {} s [growing, shrinking]
    s.view.Within s.document.lineCount ∧ Fitting {} s [growing, shrinking] ∧
      after.document.lines = ["z".toList, "y".toList, "b".toList, "c".toList, "d".toList] ∧
      after.view.hidden = [3] ∧ after.document.point = { line := 4, column := 1 } ∧
      growing.Followed s (replaceAll {} s [growing]) ∧
      shrinking.Followed (replaceAll {} s [growing]) after := by
  intro s growing shrinking after
  have hview : s.view.Within s.document.lineCount := by decide
  have hfitting : Fitting {} s [growing, shrinking] :=
    .cons (by decide) (.cons (by decide) (.nil _))
  obtain ⟨-, hfollowed⟩ := replaceAll_followed hview hfitting
  exact ⟨hview, hfitting, by decide, by decide, by decide,
    hfollowed [] growing [shrinking] rfl, hfollowed [growing] shrinking [] rfl⟩

/-- Point is behind the end of its line. An edit of another line brings it back to the end. -/
theorem replaced_moves_point :
    let s := (create (Document.ofText "a\nb".toList none none)).setPoint { line := 0, column := 9 }
    let edit : Replacement := { start := 1, stop := 2, new := ["c".toList] }
    s.view.Within s.document.lineCount ∧ s.document.Fits edit.start edit.stop ∧
      s.document.HasLine s.document.point.line ∧ edit.Outside s.document.point.line ∧
      (replaced {} s edit).document.point = { line := 0, column := 1 } ∧
      (replaced {} s edit).document.point ≠ s.document.point := by
  intro s edit
  refine ⟨by decide, by decide, ⟨by decide, by decide⟩, Or.inl (by decide), by decide, by decide⟩

end Session

end SourceOutline
