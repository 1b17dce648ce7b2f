import SourceOutline.Proofs.Edit.Insertion
import SourceOutline.Proofs.Session.Frame

/-!
# Every decision fits

Whatever an editing command decides can be carried out: it replaces lines that are there, puts at
least one line in their place, and sends point to a place in one of the new lines. Where a command
fails instead, its document has no comment mark, the repeat count is below one, or the comment run
to write may be too long.
-/

namespace SourceOutline

/-! ## Comment runs that are too long -/

/-- Whether there is no text of `count` comment marks: its length is out of bounds, or there is no
room for it in memory. -/
def TooLong (room : Int) (mark : Text) (count : Int) : Prop :=
  countBound ≤ count ∨ countBound ≤ count * mark.length ∨ room < count * mark.length

instance (room : Int) (mark : Text) (count : Int) : Decidable (TooLong room mark count) :=
  inferInstanceAs (Decidable (_ ∨ _ ∨ _))

theorem TooLong.mono {room : Int} {mark : Text} {count other : Int}
    (h : TooLong room mark count) (hle : count ≤ other) : TooLong room mark other := by
  have hmul := Int.mul_le_mul_of_nonneg_right hle (Int.natCast_nonneg mark.length)
  unfold TooLong at h ⊢
  omega

/-- **A comment run is written exactly when it is not too long.** -/
theorem writeRun_eq_ok_iff {room : Int} {mark run : Text} {count : Int} (hcount : 0 ≤ count) :
    writeRun room mark count = .ok run ↔
      ¬TooLong room mark count ∧ run = repeatMark mark count := by
  have hbound : 0 < countBound := by decide
  unfold writeRun TooLong
  split
  · exact iff_of_false (fun h => by cases h) (by omega)
  split
  · exact iff_of_false (fun h => by cases h) (by omega)
  split
  · exact iff_of_false (fun h => by cases h) (by omega)
  · rw [Except.ok.injEq, eq_comm]
    exact (and_iff_right (by omega)).symm

theorem eq_repeatMark_of_writeRun {room : Int} {mark run : Text} {count : Int}
    (h : writeRun room mark count = .ok run) : run = repeatMark mark count := by
  unfold writeRun at h
  split at h
  · cases h
  split at h
  · cases h
  split at h
  · cases h
  · cases h
    rfl

/-- Only a run that is too long is not written. -/
theorem tooLong_of_writeRun {room : Int} {mark : Text} {count : Int} {fault : Fault}
    (hcount : 0 ≤ count) (h : writeRun room mark count = .error fault) :
    (fault = .countTooLarge ∨ fault = .textTooLong ∨ fault = .outOfMemory) ∧
      TooLong room mark count := by
  constructor
  · unfold writeRun at h
    split at h
    · cases h
      exact Or.inl rfl
    split at h
    · cases h
      exact Or.inr (Or.inl rfl)
    split at h
    · cases h
      exact Or.inr (Or.inr rfl)
    · cases h
  · by_contra hshort
    rw [(writeRun_eq_ok_iff hcount).mpr ⟨hshort, rfl⟩] at h
    cases h

/-! ## What a command may answer -/

def Command.asked : Command → Int
  | nextHeading count | previousHeading count => count
  | insertHeading level _ => level.getD 0
  | insertSubheading => 1
  | promote count | demote count | promoteSubtree count | demoteSubtree count => count
  | _ => 0

/-- Whether a replacement can be carried out: the lines are there, a line takes their place, and
point gets to a place in a new line. -/
def Decision.Fits (d : Document) : Decision → Prop
  | .refuse _ => True
  | .replace start stop new point _ =>
    d.Fits start stop ∧ new ≠ [] ∧
      ∀ p ∈ point, ∃ (i : Nat) (line : Text), new[i]? = some line ∧ p.line = start + i ∧
        0 ≤ p.column ∧ p.column ≤ line.length

namespace Document

/-- Whether a command that is asked with a number might have to write a comment run that is too
long: as long as a line, the base level and that number together. -/
def MayOverflow (d : Document) (config : Config) (room asked : Int) : Prop :=
  ∃ mark, d.mark config = .ok mark ∧
    ∃ line ∈ d.lines, TooLong room mark (asked + config.baseLevel + line.length)

/-- Whether a command that is asked with a number may fail with a fault. -/
def Allows (d : Document) (config : Config) (room asked : Int) : Fault → Prop
  | .noCommentSyntax _ => ∃ fault, d.mark config = .error fault
  | .repeatBelowOne count => count = asked ∧ asked < 1
  | .countTooLarge | .textTooLong | .outOfMemory => d.MayOverflow config room asked
  | _ => False

/-- Whether a decision fits, or the fault instead of it is allowed. -/
def Decided (d : Document) (config : Config) (room asked : Int) : Except Fault Decision → Prop
  | .error fault => d.Allows config room asked fault
  | .ok decision => decision.Fits d

variable {d : Document} {config : Config} {conv : Convention} {n : Nat} {line : Text}
  {heading : Heading} {room asked : Int}

theorem allows_of_unmarked (valid : config.Valid) {fault : Fault}
    (h : d.convention config = .error fault) : d.Allows config room asked fault := by
  obtain ⟨language, rfl⟩ := convention_eq_error valid h
  exact ⟨_, map_eq_error.mp h⟩

theorem allows_of_writeRun {mark : Text} {count : Int} {fault : Fault}
    (hmark : d.mark config = .ok mark) (hline : line ∈ d.lines) (hcount : 0 ≤ count)
    (hasked : count ≤ asked + config.baseLevel + line.length)
    (hwrite : writeRun room mark count = .error fault) : d.Allows config room asked fault := by
  obtain ⟨hfault, hlong⟩ := tooLong_of_writeRun hcount hwrite
  have hover : d.MayOverflow config room asked := ⟨mark, hmark, line, hline, hlong.mono hasked⟩
  rcases hfault with rfl | rfl | rfl
  · exact hover
  · exact hover
  · exact hover

/-- A comment run that a command writes: whether it is written or not, all is as allowed. -/
theorem decided_writeRun {mark : Text} {count : Int} {next : Text → Decision}
    (hmark : d.mark config = .ok mark) (hline : line ∈ d.lines) (hcount : 0 ≤ count)
    (hasked : count ≤ asked + config.baseLevel + line.length)
    (hnext : (next (repeatMark mark count)).Fits d) :
    d.Decided config room asked ((writeRun room mark count).map next) := by
  cases hwrite : writeRun room mark count with
  | ok run =>
      rw [eq_repeatMark_of_writeRun hwrite]
      exact hnext
  | error fault => exact allows_of_writeRun hmark hline hcount hasked hwrite

theorem fits_replace {first last : Nat} {new : List Text} (event : Event) (hle : first ≤ last)
    (hlast : last ≤ d.lines.length) (hnew : new ≠ []) :
    (Decision.replace first last new none event).Fits d :=
  ⟨fits_ofNat hle hlast, hnew, fun _ hp => by cases hp⟩

theorem AtHeading.run_le (h : d.AtHeading config conv n line heading) :
    (heading.run : Int) ≤ line.length := by
  have := h.readFrom.openingEnd_le
  unfold Heading.openingEnd at this
  omega

theorem decided_applyKeyword (h : d.AtHeading config conv n line heading) (now : Moment)
    (keyword : Option Text) :
    d.Decided config room asked (d.applyKeyword config now keyword conv heading) := by
  rw [h.applyKeyword_eq]
  obtain ⟨hlt, hbehind⟩ := behindClosed_bounds h.lt_length conv
  have hnext := h.lt_length
  split
  · exact fits_replace (.keywordSet n heading.keyword keyword) (by omega) hbehind
      (List.cons_ne_nil _ _)
  · exact fits_replace (.keywordSet n heading.keyword keyword) (by omega) hnext
      (List.cons_ne_nil _ _)

/-- Shifting a subtree. Its headings have runs at least as long as that of its root. -/
theorem decided_shiftSubtree (h : d.AtHeading config conv n line heading)
    {delta : Int} (hrun : 0 ≤ heading.run + delta)
    (hasked : delta ≤ asked + config.baseLevel) :
    d.Decided config room asked (d.shiftSubtree conv room heading delta) := by
  rw [h.shiftSubtree_eq]
  cases hshift : (line :: conv.subtreeLines heading.level (d.lines.drop (n + 1))).mapM
      (shiftLine conv room delta) with
  | ok shifted =>
      obtain ⟨hlength, -⟩ := mapM_eq_ok hshift
      have hnew : shifted ≠ [] := by
        rintro rfl
        cases hlength
      exact ⟨fits_ofNat (by omega) h.subtreeEnd_le, hnew, fun _ hp => by cases hp⟩
  | error fault =>
      obtain ⟨other, hother, hfault⟩ := mapM_eq_error hshift
      unfold shiftLine at hfault
      split at hfault
      · rename_i inner hread
        have hinner := Convention.readFrom_of_readHeading? hread
        have hlevel := h.level_le_of_mem_subtree hother hinner.level_eq
        rw [h.readFrom.level_eq_run, hinner.level_eq_run] at hlevel
        have hend := hinner.openingEnd_le
        unfold Heading.openingEnd at hend
        exact allows_of_writeRun h.mark_eq (h.mem_lines_of_mem_subtree hother) (by omega)
          (by omega) (map_eq_error.mp hfault)
      · cases hfault

/-- The level of an inserted heading is asked for or comes from a heading that is there. -/
theorem insertLevel_le (valid : config.Valid) (hconv : d.convention config = .ok conv)
    (hline : line ∈ d.lines) (level? : Option Int) :
    ∃ other ∈ d.lines, d.insertLevel conv level? + config.baseLevel - 1 ≤
      level?.getD 0 + config.baseLevel + other.length := by
  obtain ⟨-, hconfig⟩ := convention_eq_ok hconv
  have hpos := valid.baseLevel_pos
  unfold insertLevel
  cases level? with
  | some level => exact ⟨line, hline, by simp only [Option.getD_some]; omega⟩
  | none =>
      cases hreference : conv.enclosing? d.lines d.point.line with
      | none =>
          refine ⟨line, hline, ?_⟩
          simp only [Option.map_none, Option.getD_none]
          omega
      | some heading =>
          obtain ⟨i, other, hget, -, hread⟩ := Convention.enclosing?_eq_some hreference
          have hlevel := hread.level_eq_run
          have hend := hread.openingEnd_le
          unfold Heading.openingEnd at hend
          rw [hconfig] at hlevel
          refine ⟨other, List.mem_of_getElem? hget, ?_⟩
          simp only [Option.map_some, Option.getD_some, Option.getD_none]
          omega

theorem insertionAt_fits {spot : InsertionSpot} (h : d.Fits spot.start spot.stop)
    (opening : Text) (level : Int) : (insertionAt conv d.lines spot opening level).Fits d := by
  refine ⟨h, by simp, ?_⟩
  intro p hp
  cases hp
  refine ⟨(linesAbove conv d.lines spot level).length, opening ++ ' ' :: spot.title, ?_, rfl, ?_,
    ?_⟩
  · exact Lines.getElem?_split rfl
  · dsimp only
    omega
  · dsimp only
    rw [List.length_append, List.length_cons]
    omega

/-! ## Each command -/

section Commands

variable (valid : config.Valid) (inside : d.PointInside)
include valid inside

theorem decided_promote (count : Int) : d.Decided config room count (d.promote config room count) := by
  refine repeated_cases inside rfl (fun hcount => ⟨rfl, hcount⟩)
    (fun fault h => allows_of_unmarked valid h) trivial ?_
  intro hcount conv n line heading h
  rw [h.promote_eq hcount]
  have hlevel := h.readFrom.level_eq_run
  have hpos := valid.baseLevel_pos
  have hrun := h.run_le
  split
  · trivial
  · rw [h.config_eq] at hlevel
    exact decided_writeRun h.mark_eq (List.mem_of_getElem? h.get) (by omega) (by omega)
      (fits_replace _ (by omega) h.lt_length (List.cons_ne_nil _ _))

theorem decided_demote (count : Int) : d.Decided config room count (d.demote config room count) := by
  refine repeated_cases inside rfl (fun hcount => ⟨rfl, hcount⟩)
    (fun fault h => allows_of_unmarked valid h) trivial ?_
  intro hcount conv n line heading h
  rw [h.demote_eq hcount]
  have hpos := valid.baseLevel_pos
  have hrun := h.run_le
  exact decided_writeRun h.mark_eq (List.mem_of_getElem? h.get) (by omega) (by omega)
    (fits_replace _ (by omega) h.lt_length (List.cons_ne_nil _ _))

theorem decided_promoteSubtree (count : Int) :
    d.Decided config room count (d.promoteSubtree config room count) := by
  refine repeated_cases inside rfl (fun hcount => ⟨rfl, hcount⟩)
    (fun fault h => allows_of_unmarked valid h) trivial ?_
  intro hcount conv n line heading h
  rw [h.promoteSubtree_eq hcount]
  have hlevel := h.readFrom.level_eq_run
  have hpos := valid.baseLevel_pos
  split
  · trivial
  · rw [h.config_eq] at hlevel
    exact decided_shiftSubtree h (by omega) (by omega)

theorem decided_demoteSubtree (count : Int) :
    d.Decided config room count (d.demoteSubtree config room count) := by
  refine repeated_cases inside rfl (fun hcount => ⟨rfl, hcount⟩)
    (fun fault h => allows_of_unmarked valid h) trivial ?_
  intro hcount conv n line heading h
  rw [h.demoteSubtree_eq hcount]
  have hpos := valid.baseLevel_pos
  exact decided_shiftSubtree h (by omega) (by omega)

theorem decided_cycleTodo (direction : Int) (now : Moment) :
    d.Decided config room asked (d.cycleTodo config direction now) := by
  refine atHeading_cases inside rfl (fun fault h => allows_of_unmarked valid h) trivial ?_
  intro conv n line heading h
  unfold cycleTodo
  rw [h.decideAtHeading_eq]
  split
  · trivial
  · exact decided_applyKeyword h now _

theorem decided_setTodo (keyword : Option Text) (now : Moment) :
    d.Decided config room asked (d.setTodo config keyword now) := by
  refine atHeading_cases inside rfl (fun fault h => allows_of_unmarked valid h) trivial ?_
  intro conv n line heading h
  unfold setTodo
  rw [h.decideAtHeading_eq]
  split
  · exact decided_applyKeyword h now none
  · split
    · exact decided_applyKeyword h now _
    · trivial

theorem decided_insertSubheading : d.Decided config room 1 (d.insertSubheading config room) := by
  refine atHeading_cases inside rfl (fun fault h => allows_of_unmarked valid h) trivial ?_
  intro conv n line heading h
  rw [h.insertSubheading_eq]
  obtain ⟨-, hbehind⟩ := behindClosed_bounds h.lt_length conv
  have hpos := valid.baseLevel_pos
  have hrun := h.run_le
  refine decided_writeRun h.mark_eq (List.mem_of_getElem? h.get) (by omega) (by omega) ?_
  refine ⟨fits_ofNat (Nat.le_refl _) hbehind, List.cons_ne_nil _ _, ?_⟩
  intro p hp
  cases hp
  refine ⟨0, _, rfl, by simp, by dsimp only; omega, ?_⟩
  dsimp only
  simp only [List.length_append, List.length_singleton]
  omega

theorem decided_insertHeading (level? : Option Int) (respectContent : Bool) :
    d.Decided config room (level?.getD 0) (d.insertHeading config room level? respectContent) := by
  obtain ⟨n, line, hpoint, hline⟩ := inside.exists_line
  cases hconv : d.convention config with
  | error fault =>
      rw [insertHeading_unmarked hconv]
      exact allows_of_unmarked valid hconv
  | ok conv =>
      rw [insertHeading_eq hconv hpoint hline]
      split
      · trivial
      · rename_i hlevel
        have hpos := valid.baseLevel_pos
        obtain ⟨other, hother, hle⟩ :=
          insertLevel_le valid hconv (List.mem_of_getElem? hline) level?
        exact decided_writeRun (convention_eq_ok hconv).1 hother (by omega) hle
          (insertionAt_fits (insertSpot_fits hpoint hline conv respectContent) _ _)

/-- **Whatever an editing command decides fits, and it fails only as it may.** -/
theorem decided_of_decide? {command : Command} {decide : Document → Config → Int → Except Fault Decision}
    (h : command.decide? = some decide) (room : Int) :
    d.Decided config room command.asked (decide d config room) := by
  cases command with
  | insertHeading level respectContent =>
      cases h
      exact decided_insertHeading valid inside level respectContent
  | insertSubheading =>
      cases h
      exact decided_insertSubheading valid inside
  | promote count =>
      cases h
      exact decided_promote valid inside count
  | demote count =>
      cases h
      exact decided_demote valid inside count
  | promoteSubtree count =>
      cases h
      exact decided_promoteSubtree valid inside count
  | demoteSubtree count =>
      cases h
      exact decided_demoteSubtree valid inside count
  | cycleTodo direction now =>
      cases h
      exact decided_cycleTodo valid inside direction now
  | setTodo keyword now =>
      cases h
      exact decided_setTodo valid inside keyword now
  | _ => cases h

end Commands

end Document

end SourceOutline
