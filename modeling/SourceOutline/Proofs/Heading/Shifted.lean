import SourceOutline.Proofs.Edit.Fits
import SourceOutline.Proofs.Heading.Written

/-!
# Shifting a heading line

Promoting and demoting write the comment run of a heading line shorter or longer (`shifted`). The
scanner finds the other parts of such a line where they were (`runShifted_shifted`), and the line is
a heading on the level that it was shifted to unless it has become a closed line (`level?_shifted`).
What has stayed a heading is shifted back to the line that it was (`shifted_shifted`).
-/

namespace SourceOutline

def behindRun (mark line : Text) : Text :=
  line.drop ((indentation line).length + (openingRun mark line).length)

namespace Convention

variable {conv : Convention} {line other : Text} {level room delta : Int}

def shifted (conv : Convention) (delta : Int) (line : Text) : Text :=
  if conv.isHeading line then
    indentation line ++ repeatMark conv.mark ((openingRun conv.mark line).length + delta) ++
      behindRun conv.mark line
  else line

/-- Whether a heading's comment run that is `delta` characters longer is not too long to write. -/
def HasRoom (conv : Convention) (room delta : Int) (line : Text) : Prop :=
  conv.isHeading line = true → ¬TooLong room conv.mark ((openingRun conv.mark line).length + delta)

/-- Whether shifting a line by `delta` leaves a heading on level one or below. -/
def StaysBelow (conv : Convention) (delta : Int) (line : Text) : Prop :=
  ∀ level, conv.level? line = some level → 1 ≤ level + delta

/-- Whether a comment run that is `delta` characters longer makes a closed line of a heading. -/
def ClosesBy (conv : Convention) (delta : Int) (line : Text) : Prop :=
  ((openingRun conv.mark line).length : Int) + delta = 2 ∧
    closedLabel <+: (behindRun conv.mark line).unindent

instance (conv : Convention) (delta : Int) (line : Text) : Decidable (conv.ClosesBy delta line) :=
  inferInstanceAs (Decidable (_ ∧ _))

/-- Whether two lines differ in nothing but the length of the comment run. -/
structure RunShifted (conv : Convention) (delta : Int) (line other : Text) : Prop where
  indentation_eq : indentation other = indentation line
  length_run : ((openingRun conv.mark other).length : Int) =
    (openingRun conv.mark line).length + delta
  behindRun_eq : behindRun conv.mark other = behindRun conv.mark line

theorem shifted_of_not_heading (h : conv.isHeading line = false) (delta : Int) :
    conv.shifted delta line = line := by
  unfold shifted
  rw [h]
  rfl

/-- A heading line in its parts. -/
theorem exists_parts (h : conv.level? line = some level) : ∃ mark, conv.mark = [mark] ∧
    openingOf (indentation line) mark (openingRun conv.mark line).length ++
      behindRun conv.mark line = line ∧
    Separable (indentation line) mark (openingRun conv.mark line).length
      (behindRun conv.mark line) := by
  obtain ⟨heading, hread⟩ : ∃ heading, conv.readHeading? 0 line none = some heading := by
    unfold readHeading?
    rw [h]
    exact ⟨_, rfl⟩
  have hfrom := readFrom_of_readHeading? hread
  obtain ⟨mark, hmark, hline, -, hparts⟩ := hfrom.exists_written
  have hbehind : behindRun conv.mark line = line.drop heading.openingEnd := by
    unfold behindRun Heading.openingEnd
    rw [hfrom.indentation_eq, hfrom.run_eq]
  rw [← hbehind, hfrom.indentation_eq, hfrom.run_eq] at hline hparts
  exact ⟨mark, hmark, hline, hparts⟩

section Shifting

variable (hbase : 1 ≤ conv.config.baseLevel)
include hbase

/-! ## Reading a shifted line -/

theorem exists_shifted_eq (h : conv.level? line = some level) (hlevel : 1 ≤ level + delta) :
    ∃ (mark : Char) (run : Nat), conv.mark = [mark] ∧
      (run : Int) = (openingRun conv.mark line).length + delta ∧
      conv.shifted delta line =
        openingOf (indentation line) mark run ++ behindRun conv.mark line ∧
      Separable (indentation line) mark run (behindRun conv.mark line) := by
  obtain ⟨-, -, -, hown⟩ := level?_eq_some.mp h
  obtain ⟨run, hrun⟩ : ∃ run : Nat, (run : Int) = (openingRun conv.mark line).length + delta :=
    ⟨((openingRun conv.mark line).length + delta).toNat, by omega⟩
  obtain ⟨mark, hmark, -, hparts⟩ := exists_parts h
  refine ⟨mark, run, hmark, hrun, ?_, hparts.indenting, hparts.visible, by omega, hparts.stops⟩
  unfold shifted openingOf
  rw [if_pos (isHeading_iff.mpr ⟨level, h⟩), hrun, hmark]

/-- **The other parts of a shifted heading are found where they were.** -/
theorem runShifted_shifted (h : conv.level? line = some level) (hlevel : 1 ≤ level + delta) :
    conv.RunShifted delta line (conv.shifted delta line) := by
  obtain ⟨mark, run, hmark, hrun, hline, hparts⟩ := exists_shifted_eq hbase h hlevel
  have hindent := hparts.indentation_eq
  have hlength : (openingRun conv.mark (conv.shifted delta line)).length = run := by
    rw [hline]
    rw [hmark] at hparts ⊢
    rw [hparts.openingRun_eq, repeatMark_single, List.length_replicate]
  rw [← hline] at hindent
  refine ⟨hindent, by rw [hlength, hrun], ?_⟩
  rw [behindRun, hindent, hlength, hline, Separable.drop_eq]

/-- **A shifted heading is on the level that it was shifted to**, unless it has become a closed
line. -/
theorem level?_shifted (h : conv.level? line = some level) (hlevel : 1 ≤ level + delta) :
    conv.level? (conv.shifted delta line) =
      if conv.ClosesBy delta line then none else some (level + delta) := by
  obtain ⟨mark, run, hmark, hrun, hline, hparts⟩ := exists_shifted_eq hbase h hlevel
  obtain ⟨-, -, -, hown⟩ := level?_eq_some.mp h
  rw [hline, level?_written hmark hparts (by omega)]
  refine ite_congr (propext (and_congr_left' (by omega))) (fun _ => rfl) fun _ => ?_
  exact congrArg some (by omega)

/-- Keyword and title of a shifted heading are read as before, whatever stands below it then. -/
theorem readHeading?_shifted {heading : Heading} {number : Int} {below : Option Text}
    (h : conv.readHeading? number line below = some heading) (hlevel : 1 ≤ heading.level + delta)
    (after : Option Text) :
    conv.readHeading? number (conv.shifted delta line) after =
      if conv.ClosesBy delta line then none
      else some { heading with
        run := (heading.run + delta).toNat
        level := heading.level + delta
        closed := after.bind (closedMoment? conv.mark) } := by
  have hfrom := readFrom_of_readHeading? h
  have hshifted := runShifted_shifted hbase hfrom.level_eq hlevel
  have hbehind : (conv.shifted delta line).drop ((indentation line).length +
      (openingRun conv.mark (conv.shifted delta line)).length) = line.drop heading.openingEnd := by
    have hsame := hshifted.behindRun_eq
    unfold behindRun at hsame
    rw [hshifted.indentation_eq] at hsame
    rw [hsame, Heading.openingEnd, hfrom.indentation_eq, hfrom.run_eq]
  unfold readHeading?
  rw [level?_shifted hbase hfrom.level_eq hlevel]
  by_cases hclosed : conv.ClosesBy delta line
  · rw [if_pos hclosed, if_pos hclosed]
  · rw [if_neg hclosed, if_neg hclosed]
    dsimp only
    rw [hshifted.indentation_eq, hbehind, ← keyword_of_readHeading? h, ← title_of_readHeading? h,
      ← hfrom.indentation_eq, ← hfrom.line_eq, hfrom.run_eq, ← hshifted.length_run,
      Int.toNat_natCast]

theorem isHeading_shifted (hbelow : conv.StaysBelow delta line)
    (hopen : conv.isHeading line = true → ¬conv.ClosesBy delta line) :
    conv.isHeading (conv.shifted delta line) = conv.isHeading line := by
  cases hline : conv.isHeading line with
  | false => rw [shifted_of_not_heading hline, hline]
  | true =>
      obtain ⟨level, hlevel⟩ := isHeading_iff.mp hline
      rw [isHeading_iff, level?_shifted hbase hlevel (hbelow level hlevel),
        if_neg (hopen hline)]
      exact ⟨_, rfl⟩

/-- A shifted heading line is as much longer as its run. -/
theorem length_shifted (h : conv.level? line = some level) (hlevel : 1 ≤ level + delta) :
    ((conv.shifted delta line).length : Int) = line.length + delta := by
  obtain ⟨mark, run, hmark, hrun, hline, -⟩ := exists_shifted_eq hbase h hlevel
  obtain ⟨other, -, hparts, -⟩ := exists_parts h
  have hlength : ∀ (mark : Char) (run : Nat) (text : Text),
      (openingOf (indentation line) mark run ++ text).length =
        (indentation line).length + run + text.length := by
    intro mark run text
    simp [openingOf, repeatMark_single, Nat.add_assoc]
  have hold := congrArg List.length hparts
  rw [hlength] at hold
  rw [hline, hlength]
  omega

/-- **What has stayed a heading is shifted back to the line that it was.** -/
theorem shifted_shifted (hbelow : conv.StaysBelow delta line)
    (hheading : conv.isHeading (conv.shifted delta line) = conv.isHeading line) :
    conv.shifted (-delta) (conv.shifted delta line) = line := by
  cases hline : conv.isHeading line with
  | false => rw [shifted_of_not_heading hline, shifted_of_not_heading hline]
  | true =>
      obtain ⟨level, hlevel⟩ := isHeading_iff.mp hline
      have hshifted := runShifted_shifted hbase hlevel (hbelow level hlevel)
      obtain ⟨mark, hmark, hparts, -⟩ := exists_parts hlevel
      rw [hline] at hheading
      rw [shifted, if_pos hheading, hshifted.indentation_eq, hshifted.length_run,
        hshifted.behindRun_eq, Int.add_neg_cancel_right, hmark]
      rw [hmark] at hparts
      exact hparts

/-- Where there was room for a longer run there is room for the old one. -/
theorem HasRoom.neg (h : conv.HasRoom room delta line) (hbelow : conv.StaysBelow delta line)
    (hdelta : 0 ≤ delta) : conv.HasRoom room (-delta) (conv.shifted delta line) := by
  intro hshifted
  cases hline : conv.isHeading line with
  | false =>
      rw [shifted_of_not_heading hline, hline] at hshifted
      cases hshifted
  | true =>
      obtain ⟨level, hlevel⟩ := isHeading_iff.mp hline
      have hrun := (runShifted_shifted hbase hlevel (hbelow level hlevel)).length_run
      rw [hrun]
      exact fun hlong => h hline (hlong.mono (by omega))

/-! ## Writing a shifted line -/

/-- The line of a heading is shifted when there is room for the run. -/
theorem shiftRun_eq_ok_iff {heading : Heading} {number : Int}
    (h : heading.ReadFrom conv number line) (hlevel : 1 ≤ heading.level + delta) :
    Document.shiftRun conv room line heading delta = .ok other ↔
      conv.HasRoom room delta line ∧ other = conv.shifted delta line := by
  have hheading := isHeading_iff.mpr ⟨_, h.level_eq⟩
  have hrun := h.level_eq_run
  obtain ⟨mark, hmark, -⟩ := exists_parts h.level_eq
  have hroom : conv.HasRoom room delta line ↔ ¬TooLong room [mark] (heading.run + delta) := by
    unfold HasRoom
    rw [imp_iff_right hheading, ← h.run_eq, hmark]
  have hshifted : conv.shifted delta line = heading.indentation ++
      repeatMark [mark] (heading.run + delta) ++ line.drop heading.openingEnd := by
    unfold shifted behindRun Heading.openingEnd
    rw [if_pos hheading, ← h.run_eq, ← h.indentation_eq, hmark]
  unfold Document.shiftRun
  rw [map_eq_ok, hmark, hroom, hshifted]
  constructor
  · rintro ⟨run, hwrite, rfl⟩
    obtain ⟨hfits, rfl⟩ := (writeRun_eq_ok_iff (by omega)).mp hwrite
    exact ⟨hfits, rfl⟩
  · rintro ⟨hfits, rfl⟩
    exact ⟨_, (writeRun_eq_ok_iff (by omega)).mpr ⟨hfits, rfl⟩, rfl⟩

/-- **A line is shifted when there is room for it.** -/
theorem shiftLine_eq_ok_iff (hbelow : conv.StaysBelow delta line) :
    Document.shiftLine conv room delta line = .ok other ↔
      conv.HasRoom room delta line ∧ other = conv.shifted delta line := by
  unfold Document.shiftLine
  cases hread : conv.readHeading? 0 line none with
  | none =>
      have hline : conv.isHeading line = false := by
        unfold isHeading
        rw [readHeading?_eq_none.mp hread]
        rfl
      rw [shifted_of_not_heading hline]
      unfold HasRoom
      simp [hline, eq_comm]
  | some heading =>
      have hfrom := readFrom_of_readHeading? hread
      exact shiftRun_eq_ok_iff hbase hfrom (hbelow _ hfrom.level_eq)

end Shifting

end Convention

end SourceOutline
