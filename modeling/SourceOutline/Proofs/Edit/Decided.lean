import SourceOutline.Edit
import SourceOutline.Proofs.Document.Replace
import SourceOutline.Proofs.Document.Mark
import SourceOutline.Proofs.Outline

/-!
# What editing commands decide

For a document whose point is inside, each editing command is given in closed form: which lines it
replaces by which, where point goes, and what may fail. Reading the heading at point never fails
once the comment mark is known, so what may fail is the mark, the repeat count, and writing a
comment run that is too long.
-/

namespace SourceOutline

namespace Document

/-- The heading that point is on: its number, its line, and how it is read. -/
structure AtHeading (d : Document) (config : Config) (conv : Convention) (n : Nat) (line : Text)
    (heading : Heading) : Prop where
  convention : d.convention config = .ok conv
  point : d.point.line = n
  get : d.lines[n]? = some line
  read : conv.readHeading? n line d.lines[n + 1]? = some heading

variable {d : Document} {config : Config} {conv : Convention} {n : Nat} {line : Text}
  {heading : Heading} {room : Int}

theorem headingAtPoint_of_get (hconv : d.convention config = .ok conv) (hpoint : d.point.line = n)
    (hget : d.lines[n]? = some line) :
    d.headingAtPoint config = .ok (conv, conv.readHeading? n line d.lines[n + 1]?) := by
  unfold headingAtPoint
  rw [hconv, ok_bind, hpoint, Convention.headingAt_ofNat conv hget]
  rfl

namespace AtHeading

variable (h : d.AtHeading config conv n line heading)
include h

theorem readFrom : heading.ReadFrom conv n line := Convention.readFrom_of_readHeading? h.read

theorem config_eq : conv.config = config := (convention_eq_ok h.convention).2

theorem mark_eq : d.mark config = .ok conv.mark := (convention_eq_ok h.convention).1

theorem lt_length : n < d.lines.length := (List.getElem?_eq_some_iff.mp h.get).1

theorem length_take : (d.lines.take n).length = n := by
  rw [List.length_take, Nat.min_eq_left (Nat.le_of_lt h.lt_length)]

theorem lookup_line : d.line heading.line = .ok line := by
  rw [h.readFrom.line_eq]
  exact Lines.lookup_ofNat h.get

theorem subtreeEnd_eq : conv.subtreeEnd d.lines heading.line =
    .ok (n + 1 + (conv.subtreeLines heading.level (d.lines.drop (n + 1))).length : Nat) := by
  rw [h.readFrom.line_eq]
  exact Convention.subtreeEnd_ofNat h.get h.readFrom.level_eq

theorem decideAtHeading_eq (decide : Convention → Heading → Except Fault Decision) :
    d.decideAtHeading config decide = decide conv heading := by
  unfold decideAtHeading
  rw [headingAtPoint_of_get h.convention h.point h.get, h.read]
  rfl

end AtHeading

theorem PointInside.exists_line (h : d.PointInside) :
    ∃ (n : Nat) (line : Text), d.point.line = n ∧ d.lines[n]? = some line := by
  obtain ⟨n, c, line, hpoint, hline, -⟩ := pointInside_iff.mp h
  exact ⟨n, line, by rw [hpoint], hline⟩

theorem decideAtHeading_unmarked {fault : Fault} (h : d.convention config = .error fault)
    (decide : Convention → Heading → Except Fault Decision) :
    d.decideAtHeading config decide = .error fault := by
  unfold decideAtHeading headingAtPoint
  rw [h]
  rfl

/-- A command on the heading at point fails without a comment mark, refuses off headings, and else
there is a heading. -/
theorem atHeading_cases {P : Except Fault Decision → Prop} (inside : d.PointInside)
    {result : Except Fault Decision} {decide : Convention → Heading → Except Fault Decision}
    (hresult : result = d.decideAtHeading config decide)
    (unmarked : ∀ fault, d.convention config = .error fault → P (.error fault))
    (refused : P (.ok (.refuse .notOnHeading)))
    (decided : ∀ conv n line heading, d.AtHeading config conv n line heading → P result) :
    P result := by
  cases hconv : d.convention config with
  | error fault =>
      rw [hresult, decideAtHeading_unmarked hconv]
      exact unmarked fault hconv
  | ok conv =>
      obtain ⟨n, line, hpoint, hline⟩ := inside.exists_line
      cases hread : conv.readHeading? n line d.lines[n + 1]? with
      | none =>
          have hdecide : d.decideAtHeading config decide = .ok (.refuse .notOnHeading) := by
            unfold decideAtHeading
            rw [headingAtPoint_of_get hconv hpoint hline, hread]
            rfl
          rw [hresult, hdecide]
          exact refused
      | some heading => exact decided conv n line heading ⟨hconv, hpoint, hline, hread⟩

/-! ## Promoting and demoting -/

def withRun (line : Text) (heading : Heading) (run : Text) : Text :=
  heading.indentation ++ run ++ line.drop heading.openingEnd

theorem checkRepeat_of_pos {count : Int} (h : 1 ≤ count) : checkRepeat count = .ok () := by
  unfold checkRepeat
  rw [if_neg (by omega)]

theorem checkRepeat_of_lt {count : Int} (h : count < 1) :
    checkRepeat count = .error (.repeatBelowOne count) := by
  unfold checkRepeat
  rw [if_pos h]

theorem checkRepeat_bind {count : Int} (h : 1 ≤ count) (result : Except Fault Decision) :
    (checkRepeat count >>= fun _ => result) = result := by
  rw [checkRepeat_of_pos h, ok_bind]

theorem repeated_cases {P : Except Fault Decision → Prop} (inside : d.PointInside) {count : Int}
    {result : Except Fault Decision} {decide : Convention → Heading → Except Fault Decision}
    (hresult : result = checkRepeat count >>= fun _ => d.decideAtHeading config decide)
    (below : count < 1 → P (.error (.repeatBelowOne count)))
    (unmarked : ∀ fault, d.convention config = .error fault → P (.error fault))
    (refused : P (.ok (.refuse .notOnHeading)))
    (decided : 1 ≤ count → ∀ conv n line heading, d.AtHeading config conv n line heading →
      P result) : P result := by
  by_cases hcount : 1 ≤ count
  · exact atHeading_cases inside (hresult.trans (checkRepeat_bind hcount _)) unmarked refused
      (decided hcount)
  · rw [hresult, checkRepeat_of_lt (by omega), error_bind]
    exact below (by omega)

namespace AtHeading

variable (h : d.AtHeading config conv n line heading)
include h

theorem promote_eq {count : Int} (hcount : 1 ≤ count) :
    d.promote config room count =
      if heading.level = 1 then .ok (.refuse .cannotPromote)
      else (writeRun room conv.mark (heading.run - min count (heading.level - 1))).map fun run =>
        .replace n (n + 1) [withRun line heading run] none
          (.headingPromoted n (min count (heading.level - 1))) := by
  have hlevel := h.readFrom.level_pos
  unfold promote
  rw [checkRepeat_of_pos hcount, ok_bind, h.decideAtHeading_eq]
  by_cases hone : heading.level = 1
  · rw [if_pos hone, if_pos (by omega)]
    rfl
  · rw [if_neg hone, if_neg (by omega), h.lookup_line, ok_bind, h.readFrom.line_eq]
    unfold shiftRun
    rw [show (heading.run : Int) + -min count (heading.level - 1) =
      heading.run - min count (heading.level - 1) by omega]
    cases writeRun room conv.mark (heading.run - min count (heading.level - 1)) <;> rfl

theorem demote_eq {count : Int} (hcount : 1 ≤ count) :
    d.demote config room count =
      (writeRun room conv.mark (heading.run + count)).map fun run =>
        .replace n (n + 1) [withRun line heading run] none (.headingDemoted n count) := by
  unfold demote
  rw [checkRepeat_of_pos hcount, ok_bind, h.decideAtHeading_eq, h.lookup_line, ok_bind,
    h.readFrom.line_eq]
  unfold shiftRun
  cases writeRun room conv.mark (heading.run + count) <;> rfl

theorem take_subtree :
    (d.lines.drop n).take (1 + (conv.subtreeLines heading.level (d.lines.drop (n + 1))).length) =
      line :: conv.subtreeLines heading.level (d.lines.drop (n + 1)) := by
  obtain ⟨hlt, hline⟩ := List.getElem?_eq_some_iff.mp h.get
  have hprefix : conv.subtreeLines heading.level (d.lines.drop (n + 1)) <+: d.lines.drop (n + 1) :=
    List.takeWhile_prefix _
  rw [List.drop_eq_getElem_cons hlt, hline, Nat.add_comm, List.take_succ_cons,
    ← List.prefix_iff_eq_take.mp hprefix]

theorem shiftSubtree_eq (room delta : Int) :
    d.shiftSubtree conv room heading delta =
      ((line :: conv.subtreeLines heading.level (d.lines.drop (n + 1))).mapM
        (shiftLine conv room delta)).map fun shifted =>
          .replace n (n + 1 + (conv.subtreeLines heading.level (d.lines.drop (n + 1))).length : Nat)
            shifted none (.subtreeShifted n
              (n + 1 + (conv.subtreeLines heading.level (d.lines.drop (n + 1))).length : Nat)
              delta) := by
  have htake := Lines.takeWhile_numbered_lt n (d.lines.drop n)
    (1 + (conv.subtreeLines heading.level (d.lines.drop (n + 1))).length)
  rw [show (n : Int) + (1 + (conv.subtreeLines heading.level (d.lines.drop (n + 1))).length : Nat) =
    (n + 1 + (conv.subtreeLines heading.level (d.lines.drop (n + 1))).length : Nat) by omega,
    h.take_subtree] at htake
  unfold shiftSubtree
  rw [h.subtreeEnd_eq, ok_bind, h.readFrom.line_eq, Lines.numberedFrom_ofNat, ok_bind, htake,
    Lines.mapM_numbered]
  cases (line :: conv.subtreeLines heading.level (d.lines.drop (n + 1))).mapM
    (shiftLine conv room delta) <;> rfl

theorem level_le_of_mem_subtree {other : Text} {level : Int}
    (hother : other ∈ line :: conv.subtreeLines heading.level (d.lines.drop (n + 1)))
    (hlevel : conv.level? other = some level) : heading.level ≤ level := by
  rcases List.mem_cons.mp hother with rfl | hinside
  · rw [h.readFrom.level_eq] at hlevel
    cases hlevel
    exact Int.le_refl _
  · have hall := List.all_eq_true.mp List.all_takeWhile other hinside
    unfold Convention.endsSubtree at hall
    rw [hlevel] at hall
    simp only [Bool.not_eq_true', decide_eq_false_iff_not] at hall
    omega

theorem mem_lines_of_mem_subtree {other : Text}
    (hother : other ∈ line :: conv.subtreeLines heading.level (d.lines.drop (n + 1))) :
    other ∈ d.lines := by
  rw [← h.take_subtree] at hother
  exact List.mem_of_mem_drop (List.mem_of_mem_take hother)

theorem subtreeEnd_le :
    n + 1 + (conv.subtreeLines heading.level (d.lines.drop (n + 1))).length ≤ d.lines.length := by
  have hlt := h.lt_length
  have := conv.length_subtreeLines_le heading.level (d.lines.drop (n + 1))
  rw [List.length_drop] at this
  omega

theorem promoteSubtree_eq {count : Int} (hcount : 1 ≤ count) :
    d.promoteSubtree config room count =
      if heading.level = 1 then .ok (.refuse .cannotPromote)
      else d.shiftSubtree conv room heading (-min count (heading.level - 1)) := by
  have hlevel := h.readFrom.level_pos
  unfold promoteSubtree
  rw [checkRepeat_of_pos hcount, ok_bind, h.decideAtHeading_eq]
  by_cases hone : heading.level = 1
  · rw [if_pos hone, if_pos (by omega)]
    rfl
  · rw [if_neg hone, if_neg (by omega)]

theorem demoteSubtree_eq {count : Int} (hcount : 1 ≤ count) :
    d.demoteSubtree config room count = d.shiftSubtree conv room heading count := by
  unfold demoteSubtree
  rw [checkRepeat_of_pos hcount, ok_bind, h.decideAtHeading_eq]

end AtHeading

/-! ## Keywords -/

def closedBelow (d : Document) (conv : Convention) (n : Nat) : Bool :=
  d.lines[n + 1]?.any conv.isClosed

/-- Where the closed line right below a line ends; right below the line when there is none. -/
def behindClosed (d : Document) (conv : Convention) (n : Nat) : Nat :=
  if d.closedBelow conv n then n + 2 else n + 1

theorem closedBelow_lt (h : d.closedBelow conv n = true) : n + 1 < d.lines.length := by
  unfold closedBelow at h
  cases hget : d.lines[n + 1]? with
  | none =>
      rw [hget] at h
      cases h
  | some line => exact (List.getElem?_eq_some_iff.mp hget).1

theorem behindClosed_bounds (h : n < d.lines.length) (conv : Convention) :
    n < d.behindClosed conv n ∧ d.behindClosed conv n ≤ d.lines.length := by
  unfold behindClosed
  split
  · rename_i hclosed
    have := closedBelow_lt hclosed
    omega
  · omega

theorem behindClosed_eq (d : Document) (conv : Convention) (n : Nat) :
    (if (if (n : Int) + 1 < d.lines.length then Lines.lookup? d.lines (n + 1) else none).any
        conv.isClosed then (n : Int) + 1 + 1 else n + 1) = d.behindClosed conv n := by
  rw [Lines.lookup?_below]
  unfold behindClosed closedBelow
  split
  · omega
  · omega

def finishes (config : Config) (keyword : Option Text) : Bool :=
  keyword == config.effectiveDoneKeyword && config.effectiveDoneKeyword.isSome

theorem exists_of_finishes {keyword : Option Text} (h : finishes config keyword = true) :
    ∃ word, keyword = some word ∧ config.effectiveDoneKeyword = some word := by
  unfold finishes at h
  rw [Bool.and_eq_true, beq_iff_eq] at h
  obtain ⟨hsame, hsome⟩ := h
  obtain ⟨word, hword⟩ := Option.isSome_iff_exists.mp hsome
  exact ⟨word, hsame.trans hword, hword⟩

namespace AtHeading

variable (h : d.AtHeading config conv n line heading)
include h

theorem applyKeyword_eq (now : Moment) (keyword : Option Text) :
    d.applyKeyword config now keyword conv heading =
      .ok (.replace n
        (if finishes config keyword || heading.keyword == config.effectiveDoneKeyword
          then d.behindClosed conv n else (n + 1 : Nat))
        (keywordLine conv line heading keyword ::
          if finishes config keyword then [closedLine heading conv.mark now] else [])
        none (.keywordSet n heading.keyword keyword)) := by
  unfold applyKeyword
  rw [h.lookup_line, ok_bind, h.readFrom.line_eq]
  dsimp only
  rw [behindClosed_eq]
  unfold finishes
  by_cases hdone : (keyword == config.effectiveDoneKeyword &&
      config.effectiveDoneKeyword.isSome) = true
  · rw [if_pos hdone, hdone]
    rfl
  · rw [if_neg hdone]
    rw [Bool.not_eq_true] at hdone
    rw [hdone, Bool.false_or]
    split
    · rfl
    · rfl

theorem insertSubheading_eq :
    d.insertSubheading config room =
      (writeRun room conv.mark (heading.run + 1)).map fun run =>
        .replace (d.behindClosed conv n) (d.behindClosed conv n)
          [heading.indentation ++ run ++ [' ']]
          (some { line := d.behindClosed conv n,
                  column := (heading.indentation ++ run).length + 1 })
          (.subheadingInserted (d.behindClosed conv n) (heading.level + 1)) := by
  have hlevel := h.readFrom.level_pos
  unfold insertSubheading
  rw [h.decideAtHeading_eq]
  dsimp only
  have hrun : level? (heading.run + 1) config.baseLevel = some (heading.level + 1) := by
    refine SourceOutline.level?_eq_some.mpr ⟨by omega, ?_⟩
    rw [h.readFrom.level_eq_run, h.config_eq]
    omega
  rw [h.readFrom.line_eq, behindClosed_eq, headingOpening_of_level? hrun]
  cases writeRun room conv.mark (heading.run + 1) with
  | error fault => rfl
  | ok run => simp

end AtHeading

end Document

end SourceOutline
