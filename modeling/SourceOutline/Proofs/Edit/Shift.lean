import SourceOutline.Proofs.Edit.Atomic
import SourceOutline.Proofs.Heading.Shifted
import SourceOutline.Proofs.Subtree

/-!
# Shifting headings

Four commands promote or demote the heading at point, by itself or with its subtree. They come to
the same: the headings from the line of point up to some line are shifted by some number of levels
(`Command.Shifts`), and all other lines stay (`run_shift`). Main statement: a subtree is shifted as
a whole, as far as its root allows, and only the runs of its headings change (`run_shiftSubtree`).
-/

namespace SourceOutline

/-- Which headings a command shifts whose heading at point, on line `n` and some level, has its
subtree end in front of line `stop`: those in front of line `last`, by `delta` levels. A promotion
goes as far as level one for the heading at point. -/
inductive Command.Shifts (n stop : Nat) (level : Int) :
    Command → (last : Nat) → (delta : Int) → Prop
  | demote {count : Int} : 1 ≤ count → Shifts n stop level (.demote count) (n + 1) count
  | promote {count : Int} : 1 ≤ count →
      Shifts n stop level (.promote count) (n + 1) (-min count (level - 1))
  | demoteSubtree {count : Int} : 1 ≤ count →
      Shifts n stop level (.demoteSubtree count) stop count
  | promoteSubtree {count : Int} : 1 ≤ count →
      Shifts n stop level (.promoteSubtree count) stop (-min count (level - 1))

namespace Command.Shifts

variable {n stop last : Nat} {level delta : Int} {command : Command}

theorem bounds (h : command.Shifts n stop level last delta) (hstop : n < stop) :
    n < last ∧ last ≤ stop := by
  cases h <;> omega

theorem one_le (h : command.Shifts n stop level last delta) (hlevel : 1 ≤ level) :
    1 ≤ level + delta := by
  cases h <;> omega

end Command.Shifts

/-! ## The lines -/

namespace Convention

variable {conv : Convention} {lines : List Text} {line : Text} {level room delta : Int}
  {first last n stop i : Nat}

def shiftedBlock (conv : Convention) (delta : Int) (first last : Nat) (lines : List Text) :
    List Text :=
  ((lines.take last).drop first).map (conv.shifted delta)

def shiftedLines (conv : Convention) (delta : Int) (first last : Nat) (lines : List Text) :
    List Text :=
  lines.mapIdx fun i line => if first ≤ i ∧ i < last then conv.shifted delta line else line

/-- Whether there is room to shift the headings from one line up to another. -/
def HasRoomIn (conv : Convention) (room delta : Int) (first last : Nat) (lines : List Text) : Prop :=
  ∀ i line, first ≤ i → i < last → lines[i]? = some line → conv.HasRoom room delta line

theorem length_shiftedBlock (hlast : last ≤ lines.length) :
    (conv.shiftedBlock delta first last lines).length = last - first := by
  unfold shiftedBlock
  rw [List.length_map, List.length_drop, List.length_take, Nat.min_eq_left hlast]

theorem shiftedBlock_ne_nil (hlt : first < last) (hlast : last ≤ lines.length) :
    conv.shiftedBlock delta first last lines ≠ [] := by
  apply List.ne_nil_of_length_pos
  rw [length_shiftedBlock hlast]
  omega

theorem length_shiftedLines : (conv.shiftedLines delta first last lines).length = lines.length :=
  List.length_mapIdx

theorem getElem?_shiftedLines_inside (hfirst : first ≤ i) (hlast : i < last) :
    (conv.shiftedLines delta first last lines)[i]? = lines[i]?.map (conv.shifted delta) := by
  unfold shiftedLines
  rw [List.getElem?_mapIdx]
  refine Option.map_congr fun line _ => ?_
  rw [if_pos ⟨hfirst, hlast⟩]

theorem getElem?_shiftedLines_outside (h : i < first ∨ last ≤ i) :
    (conv.shiftedLines delta first last lines)[i]? = lines[i]? := by
  unfold shiftedLines
  rw [List.getElem?_mapIdx]
  cases lines[i]? with
  | none => rfl
  | some line => exact congrArg some (if_neg (by omega))

theorem mem_block :
    line ∈ (lines.take last).drop first ↔ ∃ i, first ≤ i ∧ i < last ∧ lines[i]? = some line := by
  rw [List.mem_iff_getElem?]
  constructor
  · rintro ⟨k, hk⟩
    rw [List.getElem?_drop] at hk
    obtain ⟨hlt, -⟩ := List.getElem?_eq_some_iff.mp hk
    rw [List.length_take] at hlt
    rw [List.getElem?_take_of_lt (by omega)] at hk
    exact ⟨first + k, by omega, by omega, hk⟩
  · rintro ⟨i, hfirst, hlast, hi⟩
    refine ⟨i - first, ?_⟩
    rw [List.getElem?_drop, Nat.add_sub_cancel' hfirst, List.getElem?_take_of_lt hlast]
    exact hi

theorem Subtree.staysBelow (h : conv.Subtree lines n stop level) (hlevel : 1 ≤ level + delta)
    (hn : n ≤ i) (hstop : i < stop) (hline : lines[i]? = some line) :
    conv.StaysBelow delta line := by
  intro other hother
  have hown := (headingLevel?_of_get hline).trans hother
  rcases Nat.lt_or_eq_of_le hn with hlt | rfl
  · have := h.deeper i hlt hstop other hown
    omega
  · rw [h.heading] at hown
    cases hown
    exact hlevel

/-- Shifting lines of a subtree one by one gives them shifted when there is room for all. -/
theorem Subtree.mapM_shiftLine_eq_ok_iff (h : conv.Subtree lines n stop level)
    (hbase : 1 ≤ conv.config.baseLevel) (hlevel : 1 ≤ level + delta) (hle : last ≤ stop)
    {new : List Text} :
    ((lines.take last).drop n).mapM (Document.shiftLine conv room delta) = .ok new ↔
      conv.HasRoomIn room delta n last lines ∧ new = conv.shiftedBlock delta n last lines := by
  have hroom : (∀ member ∈ (lines.take last).drop n, conv.HasRoom room delta member) ↔
      conv.HasRoomIn room delta n last lines := by
    constructor
    · intro hall i member hn hi hget
      exact hall member (mem_block.mpr ⟨i, hn, hi, hget⟩)
    · intro hall member hmember
      obtain ⟨i, hn, hi, hget⟩ := mem_block.mp hmember
      exact hall i member hn hi hget
  rw [← hroom]
  refine mapM_eq_ok_iff fun member hmember result => ?_
  obtain ⟨i, hn, hi, hget⟩ := mem_block.mp hmember
  exact shiftLine_eq_ok_iff hbase
    (h.staysBelow hlevel hn (Nat.lt_of_lt_of_le hi hle) hget)

/-- Whether lines differ in nothing but the runs of the headings from one line up to another, which
are `delta` characters longer and still as long as headings have to be. -/
structure RunsShifted (conv : Convention) (delta : Int) (first last : Nat)
    (lines others : List Text) : Prop where
  length_eq : others.length = lines.length
  outside : ∀ i, i < first ∨ last ≤ i → others[i]? = lines[i]?
  plain : ∀ i line, first ≤ i → i < last → lines[i]? = some line → conv.isHeading line = false →
    others[i]? = some line
  heading : ∀ i line, first ≤ i → i < last → lines[i]? = some line → conv.isHeading line = true →
    ∃ other, others[i]? = some other ∧ conv.RunShifted delta line other ∧
      conv.config.baseLevel ≤ (openingRun conv.mark other).length

theorem Subtree.runsShifted (h : conv.Subtree lines n stop level)
    (hbase : 1 ≤ conv.config.baseLevel) (hlevel : 1 ≤ level + delta) :
    conv.RunsShifted delta n stop lines (conv.shiftedLines delta n stop lines) where
  length_eq := length_shiftedLines
  outside := fun i hi => getElem?_shiftedLines_outside hi
  plain := by
    intro i line hn hi hget hplain
    rw [getElem?_shiftedLines_inside hn hi, hget, Option.map_some, shifted_of_not_heading hplain]
  heading := by
    intro i line hn hi hget hheading
    obtain ⟨other, hother⟩ := isHeading_iff.mp hheading
    have hbelow := h.staysBelow hlevel hn hi hget other hother
    have hshifted := runShifted_shifted hbase hother hbelow
    have hrun := hshifted.length_run
    obtain ⟨-, -, -, hown⟩ := level?_eq_some.mp hother
    refine ⟨conv.shifted delta line, ?_, hshifted, by omega⟩
    rw [getElem?_shiftedLines_inside hn hi, hget, Option.map_some]

end Convention

/-! ## What commands decide -/

namespace Document

variable {d : Document} {config : Config} {conv : Convention} {n stop last : Nat} {line : Text}
  {heading : Heading} {room delta : Int} {command : Command}

theorem replace_shiftedBlock_lines {first : Nat} (hlt : first < last)
    (hlast : last ≤ d.lines.length) :
    (d.replace first last (conv.shiftedBlock delta first last d.lines)).1.lines =
      conv.shiftedLines delta first last d.lines := by
  refine List.ext_getElem? fun i => ?_
  rw [getElem?_replace (Nat.le_of_lt hlt) hlast (Convention.shiftedBlock_ne_nil hlt hlast)
    (Convention.length_shiftedBlock hlast)]
  by_cases hinside : first ≤ i ∧ i < last
  · rw [if_pos hinside, Convention.getElem?_shiftedLines_inside hinside.1 hinside.2,
      Convention.shiftedBlock, List.getElem?_map, List.getElem?_drop,
      Nat.add_sub_cancel' hinside.1, List.getElem?_take_of_lt hinside.2]
  · rw [if_neg hinside, Convention.getElem?_shiftedLines_outside (by omega)]

theorem follow_shiftedBlock {first : Nat} (hle : first ≤ last) (hlast : last ≤ d.lines.length)
    (view : FoldView) :
    view.follow (d.changeOf first last (conv.shiftedBlock delta first last d.lines)) = view := by
  unfold FoldView.follow
  rw [changeOf_lineDelta hle hlast, Convention.length_shiftedBlock hlast, if_pos (by omega)]

/-- A heading line is shifted as its heading is, whatever number the heading has. -/
theorem shiftLine_of_readFrom {number : Int} (h : heading.ReadFrom conv number line) :
    shiftLine conv room delta line = shiftRun conv room line heading delta := by
  unfold shiftLine
  cases hread : conv.readHeading? 0 line none with
  | none =>
      have hlevel := h.level_eq
      rw [Convention.readHeading?_eq_none.mp hread] at hlevel
      cases hlevel
  | some other =>
      have hother := Convention.readFrom_of_readHeading? hread
      dsimp only
      unfold shiftRun Heading.openingEnd
      rw [hother.indentation_eq, hother.run_eq, h.indentation_eq, h.run_eq]

namespace AtHeading

variable (h : d.AtHeading config conv n line heading)
include h

theorem baseLevel_pos (valid : config.Valid) : 1 ≤ conv.config.baseLevel := by
  rw [h.config_eq]
  exact valid.baseLevel_pos

theorem headingLevel?_eq : conv.headingLevel? d.lines n = some heading.level :=
  (Convention.headingLevel?_of_get h.get).trans h.readFrom.level_eq

theorem subtree_of_subtreeEnd (hstop : conv.subtreeEnd d.lines n = .ok (stop : Int)) :
    conv.Subtree d.lines n stop heading.level := by
  have hsub := Convention.subtree_of_heading h.headingLevel?_eq
  rw [hsub.subtreeEnd_eq] at hstop
  rw [← Int.ofNat_inj.mp (Except.ok.inj hstop)]
  exact hsub

theorem replace_shiftedBlock (hlt : n < last) (hlast : last ≤ d.lines.length) :
    (d.replace n last (conv.shiftedBlock delta n last d.lines)).1 =
      { d with
        lines := conv.shiftedLines delta n last d.lines
        point :=
          { line := n, column := min d.point.column (conv.shifted delta line).length } } := by
  have hlines := @replace_shiftedBlock_lines d conv last delta n hlt hlast
  have hget : (d.replace n last (conv.shiftedBlock delta n last d.lines)).1.lines[n]? =
      some (conv.shifted delta line) := by
    rw [hlines, Convention.getElem?_shiftedLines_inside (Nat.le_refl n) hlt, h.get]
    rfl
  have hpoint := replace_point h.point hlt hlast (Convention.shiftedBlock_ne_nil hlt hlast) hget
  rw [← hlines, ← hpoint]
  rfl

/-- What a command decides that shifts headings: to refuse when there is nothing to shift by, and
else to replace the lines. -/
theorem decide_shift (hsub : conv.Subtree d.lines n stop heading.level)
    (hshift : command.Shifts n stop heading.level last delta) :
    ∃ decide event, command.decide? = some decide ∧ decide d config room =
      if delta = 0 then .ok (.refuse .cannotPromote)
      else (((d.lines.take last).drop n).mapM (shiftLine conv room delta)).map fun new =>
        .replace n last new none event := by
  have hlevel := h.readFrom.level_pos
  -- a heading by itself is a block of one line
  have hone : ∀ delta event, ((writeRun room conv.mark (heading.run + delta)).map fun run =>
      Decision.replace n (n + 1 : Nat) [withRun line heading run] none event) =
      (((d.lines.take (n + 1)).drop n).mapM (shiftLine conv room delta)).map fun new =>
        .replace n (n + 1 : Nat) new none event := by
    intro delta event
    obtain ⟨hlt, hget⟩ := List.getElem?_eq_some_iff.mp h.get
    rw [List.drop_take, Nat.add_sub_cancel_left, List.drop_eq_getElem_cons hlt, hget,
      List.take_succ_cons, List.take_zero, List.mapM_cons, List.mapM_nil,
      shiftLine_of_readFrom h.readFrom]
    unfold shiftRun
    cases writeRun room conv.mark (heading.run + delta) <;> rfl
  have hblock : (d.lines.take stop).drop n =
      line :: conv.subtreeLines heading.level (d.lines.drop (n + 1)) := by
    rw [List.drop_take, ← h.take_subtree]
    congr 1
    have := hsub.stop_eq
    omega
  cases hshift with
  | demote hcount =>
      refine ⟨_, .headingDemoted n delta, rfl, ?_⟩
      rw [if_neg (by omega), ← hone]
      exact h.demote_eq hcount
  | @promote count hcount =>
      refine ⟨_, .headingPromoted n (min count (heading.level - 1)), rfl, ?_⟩
      rw [← hone]
      exact (h.promote_eq hcount).trans
        (ite_congr (propext (by omega)) (fun _ => rfl) fun _ => rfl)
  | demoteSubtree hcount =>
      refine ⟨_, .subtreeShifted n stop delta, rfl, ?_⟩
      have hdecide := (h.demoteSubtree_eq hcount).trans (h.shiftSubtree_eq room delta)
      rw [← hsub.stop_eq] at hdecide
      rw [if_neg (by omega), hblock]
      exact hdecide
  | @promoteSubtree count hcount =>
      refine ⟨_, .subtreeShifted n stop (-min count (heading.level - 1)), rfl, ?_⟩
      have hdecide := h.shiftSubtree_eq room (-min count (heading.level - 1))
      rw [← hsub.stop_eq] at hdecide
      rw [hblock]
      exact (h.promoteSubtree_eq hcount).trans
        (ite_congr (propext (by omega)) (fun _ => rfl) fun _ => hdecide)

end AtHeading

end Document

/-! ## What commands do -/

namespace Session

variable {s : Session} {config : Config} {conv : Convention} {n stop last : Nat} {line : Text}
  {heading : Heading} {delta count : Int} {command : Command}

/-- What a session and its answer are after the headings from the line of point up to another have
been shifted. -/
structure Shifted (s : Session) (conv : Convention) (delta : Int) (n last : Nat) (line : Text)
    (after : Session × Except Fault Answer) : Prop where
  answer : after.2 = .ok (.flag true)
  document : after.1.document =
    { s.document with
      lines := conv.shiftedLines delta n last s.document.lines
      point :=
        { line := n, column := min s.document.point.column (conv.shifted delta line).length } }
  view : after.1.view = s.view

/-- **A command that shifts headings** refuses when there is nothing to shift by, fails when a run
is too long to write, and else shifts them. -/
theorem run_shift (valid : config.Valid) (h : s.document.AtHeading config conv n line heading)
    (hsub : conv.Subtree s.document.lines n stop heading.level)
    (hshift : command.Shifts n stop heading.level last delta) :
    (delta = 0 ∧ (s.run config command).2 = .ok (.flag false)) ∨
    (delta ≠ 0 ∧ ¬conv.HasRoomIn s.room delta n last s.document.lines ∧
      ∃ fault, (s.run config command).2 = .error fault) ∨
    (delta ≠ 0 ∧ conv.HasRoomIn s.room delta n last s.document.lines ∧
      s.Shifted conv delta n last line (s.run config command)) := by
  obtain ⟨hlt, hle⟩ := hshift.bounds hsub.lt_stop
  have hlast : last ≤ s.document.lines.length := Nat.le_trans hle hsub.stop_le
  have hbase := h.baseLevel_pos valid
  have hlevel := hshift.one_le h.readFrom.level_pos
  obtain ⟨decide, event, hdecide, hdecision⟩ := h.decide_shift hsub hshift
  by_cases hzero : delta = 0
  · rw [if_pos hzero] at hdecision
    exact Or.inl ⟨hzero, run_of_refuse hdecide hdecision⟩
  right
  rw [if_neg hzero] at hdecision
  cases hmap : ((s.document.lines.take last).drop n).mapM (Document.shiftLine conv s.room delta) with
  | error fault =>
      rw [hmap] at hdecision
      refine Or.inl ⟨hzero, fun hroom => ?_, fault, run_of_error hdecide hdecision⟩
      rw [(hsub.mapM_shiftLine_eq_ok_iff hbase hlevel hle).mpr ⟨hroom, rfl⟩] at hmap
      cases hmap
  | ok new =>
      obtain ⟨hroom, rfl⟩ := (hsub.mapM_shiftLine_eq_ok_iff hbase hlevel hle).mp hmap
      rw [hmap] at hdecision
      obtain ⟨hanswer, hdocument, hview⟩ := run_of_replace valid h.convention hdecide hdecision
      refine Or.inr ⟨hzero, hroom, hanswer, ?_, ?_⟩
      · exact hdocument.trans (h.replace_shiftedBlock hlt hlast)
      · exact hview.trans (Document.follow_shiftedBlock (Nat.le_of_lt hlt) hlast _)

theorem run_shift_iff (valid : config.Valid)
    (h : s.document.AtHeading config conv n line heading)
    (hsub : conv.Subtree s.document.lines n stop heading.level)
    (hshift : command.Shifts n stop heading.level last delta) :
    ((s.run config command).2 = .ok (.flag false) ↔ delta = 0) ∧
      ((s.run config command).2 = .ok (.flag true) ↔
        delta ≠ 0 ∧ conv.HasRoomIn s.room delta n last s.document.lines) := by
  rcases run_shift valid h hsub hshift with
    ⟨hzero, hanswer⟩ | ⟨hzero, hroom, fault, hanswer⟩ | ⟨hzero, hroom, hshifted⟩
  · rw [hanswer]
    simp [hzero]
  · rw [hanswer]
    simp [hzero, hroom]
  · rw [hshifted.answer]
    simp [hzero, hroom]

/-! ## Shifting a subtree -/

/-- Whether a command, when it gets somewhere, shifts the headings from line `n` up to another by
`delta` and does nothing else to the lines, to the line of point and to what is hidden. It gets
somewhere when there is room for the runs. -/
structure ShiftsRuns (s : Session) (config : Config) (conv : Convention) (delta : Int)
    (n last : Nat) (command : Command) : Prop where
  succeeds_iff : (s.run config command).2 = .ok (.flag true) ↔
    conv.HasRoomIn s.room delta n last s.document.lines
  lines : (s.run config command).2 = .ok (.flag true) →
    conv.RunsShifted delta n last s.document.lines (s.run config command).1.document.lines
  point_line : (s.run config command).2 = .ok (.flag true) →
    (s.run config command).1.document.point.line = s.document.point.line
  view : (s.run config command).2 = .ok (.flag true) → (s.run config command).1.view = s.view

theorem shiftsRuns_of_shifts (valid : config.Valid)
    (h : s.document.AtHeading config conv n line heading)
    (hsub : conv.Subtree s.document.lines n stop heading.level)
    (hshift : command.Shifts n stop heading.level stop delta) (hzero : delta ≠ 0) :
    s.ShiftsRuns config conv delta n stop command := by
  have hsucceeds := (run_shift_iff valid h hsub hshift).2.trans (and_iff_right hzero)
  have hshifted : (s.run config command).2 = .ok (.flag true) →
      s.Shifted conv delta n stop line (s.run config command) := by
    intro hanswer
    rcases run_shift valid h hsub hshift with
      ⟨hrefused, -⟩ | ⟨-, hroom, -⟩ | ⟨-, -, hshifted⟩
    · exact absurd hrefused hzero
    · exact absurd (hsucceeds.mp hanswer) hroom
    · exact hshifted
  refine ⟨hsucceeds, fun hanswer => ?_, fun hanswer => ?_, fun hanswer => (hshifted hanswer).view⟩
  · rw [(hshifted hanswer).document]
    exact hsub.runsShifted (h.baseLevel_pos valid) (hshift.one_le h.readFrom.level_pos)
  · rw [(hshifted hanswer).document, h.point]

/-- **Subtrees are shifted as a whole.** Demoting a subtree shifts all its headings by the number of
levels asked for and is never refused. Promoting it shifts all of them by as many levels as the root
can go up, and is refused when the root is on level one, and only then. -/
theorem run_shiftSubtree (valid : config.Valid)
    (h : s.document.AtHeading config conv n line heading)
    (hstop : conv.subtreeEnd s.document.lines n = .ok (stop : Int)) (hcount : 1 ≤ count) :
    ((s.run config (.demoteSubtree count)).2 ≠ .ok (.flag false) ∧
      s.ShiftsRuns config conv count n stop (.demoteSubtree count)) ∧
    ((s.run config (.promoteSubtree count)).2 = .ok (.flag false) ↔ heading.level = 1) ∧
    (heading.level ≠ 1 → s.ShiftsRuns config conv (-min count (heading.level - 1)) n stop
      (.promoteSubtree count)) := by
  have hsub := h.subtree_of_subtreeEnd hstop
  have hlevel := h.readFrom.level_pos
  have hdown : (Command.demoteSubtree count).Shifts n stop heading.level stop count :=
    .demoteSubtree hcount
  have hup : (Command.promoteSubtree count).Shifts n stop heading.level stop
      (-min count (heading.level - 1)) := .promoteSubtree hcount
  refine ⟨⟨?_, shiftsRuns_of_shifts valid h hsub hdown (by omega)⟩, ?_, fun hone => ?_⟩
  · intro hrefused
    have := (run_shift_iff valid h hsub hdown).1.mp hrefused
    omega
  · rw [(run_shift_iff valid h hsub hup).1]
    omega
  · exact shiftsRuns_of_shifts valid h hsub hup (by omega)

/-- A subtree of two headings below another heading goes up by one level, as far as it can. -/
theorem run_shiftSubtree_promoted :
    let s := (create (Document.ofText "/// A\n//// B\ntext\n////// C\n//// D".toList
      (Language.named? "c".toList) none)).setPoint { line := 1 }
    ∃ conv heading, Config.Valid {} ∧
      s.document.AtHeading {} conv 1 "//// B".toList heading ∧
      conv.subtreeEnd s.document.lines 1 = .ok 4 ∧ (1 : Int) ≤ 5 ∧
      (s.run {} (.promoteSubtree 5)).2 = .ok (.flag true) ∧
      s.ShiftsRuns {} conv (-1) 1 4 (.promoteSubtree 5) := by
  intro s
  have valid : Config.Valid {} := Settings.valid_of_check (s := .defaults) rfl
  have h : s.document.AtHeading {} ⟨['/'], {}⟩ 1 "//// B".toList
      { line := 1, indentation := [], run := 4, level := 2, keyword := none,
        title := "B".toList, closed := none } := ⟨rfl, rfl, rfl, by decide⟩
  have hstop : Convention.subtreeEnd ⟨['/'], {}⟩ s.document.lines 1 = .ok 4 := by decide
  have hcount : (1 : Int) ≤ 5 := by decide
  exact ⟨_, _, valid, h, hstop, hcount, by decide,
    (run_shiftSubtree valid h hstop hcount).2.2 (by decide)⟩

end Session

end SourceOutline
