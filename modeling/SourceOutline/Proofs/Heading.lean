import SourceOutline.Heading

/-!
# Headings and their lines

A heading line is its indentation, its run of comment characters, and the rest. What a heading says
of its line is collected in `Heading.ReadFrom`; none of it but the closed time depends on the line
below.
-/

namespace SourceOutline

variable {conv : Convention} {line mark : Text} {below : Option Text} {number : Int}
  {heading : Heading}

/-! ## Lines in three parts -/

theorem openingRun_isPrefix (mark line : Text) : openingRun mark line <+: line.unindent := by
  unfold openingRun
  split
  · exact List.takeWhile_prefix _
  · exact List.nil_prefix

theorem exists_line_eq (mark line : Text) :
    ∃ rest, line = indentation line ++ openingRun mark line ++ rest := by
  obtain ⟨rest, hrest⟩ := openingRun_isPrefix mark line
  refine ⟨rest, ?_⟩
  rw [List.append_assoc, hrest, indentation_append_unindent]

theorem isIndenting_of_mem_indentation {c : Char} (h : c ∈ indentation line) :
    isIndenting c = true :=
  List.all_eq_true.mp List.all_takeWhile c h

theorem mem_openingRun {c : Char} {mark line : Text} (h : c ∈ openingRun mark line) :
    mark = [c] := by
  unfold openingRun at h
  split at h
  · rename_i d
    have := List.all_eq_true.mp (List.all_takeWhile (p := (· == d)) (l := line.unindent)) c h
    rw [beq_iff_eq] at this
    rw [this]
  · cases h

theorem run?_eq_some {n : Nat} :
    run? mark line = some n ↔ 0 < n ∧ (openingRun mark line).length = n := by
  unfold run?
  split
  · rename_i hnil
    simp only [hnil, List.length_nil]
    constructor
    · intro h
      cases h
    · omega
  · rename_i hne
    rw [Option.some.injEq]
    constructor
    · rintro rfl
      exact ⟨List.length_pos_iff.mpr hne, rfl⟩
    · exact fun h => h.2

theorem run?_nil (mark : Text) : run? mark [] = none := by
  have hrun : openingRun mark [] = [] := List.prefix_nil.mp (openingRun_isPrefix mark [])
  unfold run?
  rw [hrun]

theorem isClosedLine_visible (h : isClosedLine mark line = true) : line.isBlankText = false := by
  unfold isClosedLine at h
  rw [Bool.and_eq_true, List.isPrefixOf_iff_prefix] at h
  have hmem : 'C' ∈ Text.unindent (line.unindent.drop 2) := h.2.subset (by decide)
  have hline : 'C' ∈ line :=
    (List.dropWhile_sublist _).subset
      (List.mem_of_mem_drop ((List.dropWhile_sublist _).subset hmem))
  rw [Bool.eq_false_iff]
  intro hblank
  exact absurd ((Text.isBlankText_iff line).mp hblank 'C' hline) (by decide)

/-! ## Levels -/

namespace Convention

/-- When a line is a heading of some level. -/
theorem level?_eq_some {level : Int} :
    conv.level? line = some level ↔
      0 < (openingRun conv.mark line).length ∧ conv.isClosed line = false ∧
        conv.config.baseLevel ≤ (openingRun conv.mark line).length ∧
        level = (openingRun conv.mark line).length - conv.config.baseLevel + 1 := by
  unfold level? isClosed
  cases hrun : run? conv.mark line with
  | none =>
      have hempty : ¬0 < (openingRun conv.mark line).length := by
        intro hpos
        rw [run?_eq_some.mpr ⟨hpos, rfl⟩] at hrun
        cases hrun
      simp [hempty]
  | some run =>
      obtain ⟨hpos, hlen⟩ := run?_eq_some.mp hrun
      rw [hlen]
      dsimp only
      cases hclosed : isClosedLine conv.mark line with
      | true => simp
      | false =>
          rw [if_neg (by simp), SourceOutline.level?]
          split
          · simp only [reduceCtorEq, false_iff, not_and]
            omega
          · simp only [Option.some.injEq, true_and]
            omega

theorem level?_nil (conv : Convention) : conv.level? [] = none := by
  unfold level?
  rw [run?_nil]

theorem isClosed_nil (conv : Convention) : conv.isClosed [] = false := by
  unfold isClosed isClosedLine
  rw [run?_nil]
  rfl

theorem level?_of_isClosed (h : conv.isClosed line = true) : conv.level? line = none := by
  rw [Option.eq_none_iff_forall_not_mem]
  intro level hlevel
  rw [(level?_eq_some.mp hlevel).2.1] at h
  cases h

theorem level?_of_isBlankText {c : Char} (hmark : conv.mark = [c]) (hvisible : isBlank c = false)
    (hblank : line.isBlankText = true) : conv.level? line = none := by
  rw [Option.eq_none_iff_forall_not_mem]
  intro level hlevel
  obtain ⟨other, hmem⟩ := List.exists_mem_of_length_pos (level?_eq_some.mp hlevel).1
  obtain rfl : c = other := by simpa using hmark.symm.trans (mem_openingRun hmem)
  have hline : c ∈ line :=
    (List.dropWhile_sublist _).subset ((openingRun_isPrefix conv.mark line).subset hmem)
  rw [(Text.isBlankText_iff line).mp hblank c hline] at hvisible
  cases hvisible

theorem level?_pos {level : Int} (h : conv.level? line = some level) : 1 ≤ level := by
  obtain ⟨-, -, h₃, h₄⟩ := level?_eq_some.mp h
  omega

theorem isHeading_iff : conv.isHeading line = true ↔ ∃ level, conv.level? line = some level :=
  Option.isSome_iff_exists

end Convention

/-! ## Reading a heading -/

namespace Heading

/-- What a heading says of the line that it is read from. -/
structure ReadFrom (heading : Heading) (conv : Convention) (number : Int) (line : Text) :
    Prop where
  line_eq : heading.line = number
  indentation_eq : heading.indentation = SourceOutline.indentation line
  run_eq : heading.run = (openingRun conv.mark line).length
  level_eq : conv.level? line = some heading.level

namespace ReadFrom

variable (h : heading.ReadFrom conv number line)
include h

theorem indenting : ∀ c ∈ heading.indentation, isIndenting c = true := by
  intro c hc
  rw [h.indentation_eq] at hc
  exact isIndenting_of_mem_indentation hc

theorem run_pos : 0 < heading.run := by
  rw [h.run_eq]
  exact (Convention.level?_eq_some.mp h.level_eq).1

theorem level_eq_run : heading.level = heading.run - conv.config.baseLevel + 1 := by
  rw [h.run_eq]
  exact (Convention.level?_eq_some.mp h.level_eq).2.2.2

theorem level_pos : 1 ≤ heading.level := Convention.level?_pos h.level_eq

theorem take_openingEnd :
    line.take heading.openingEnd = heading.indentation ++ openingRun conv.mark line := by
  obtain ⟨rest, hrest⟩ := exists_line_eq conv.mark line
  have hlen : heading.openingEnd =
      (SourceOutline.indentation line ++ openingRun conv.mark line).length := by
    rw [openingEnd, h.indentation_eq, h.run_eq, List.length_append]
  have htake : (SourceOutline.indentation line ++ openingRun conv.mark line ++ rest).take
      (SourceOutline.indentation line ++ openingRun conv.mark line).length = _ := List.take_left
  rw [← hrest] at htake
  rw [hlen, h.indentation_eq, htake]

theorem openingEnd_le : heading.openingEnd ≤ line.length := by
  have := congrArg List.length h.take_openingEnd
  rw [List.length_take, List.length_append, ← h.run_eq] at this
  unfold openingEnd at this ⊢
  omega

theorem openingEnd_unique {other : Heading} {number' : Int}
    (hother : other.ReadFrom conv number' line) : heading.openingEnd = other.openingEnd := by
  unfold openingEnd
  rw [h.indentation_eq, h.run_eq, hother.indentation_eq, hother.run_eq]

theorem mark_ne_nil : conv.mark ≠ [] := by
  have hrun := h.run_pos
  rw [h.run_eq] at hrun
  obtain ⟨c, hc⟩ := List.exists_mem_of_length_pos hrun
  rw [mem_openingRun hc]
  exact List.cons_ne_nil _ _

theorem line_ne_nil : line ≠ [] := by
  rintro rfl
  have hend := h.openingEnd_le
  have hrun := h.run_pos
  rw [openingEnd, List.length_nil] at hend
  omega

end ReadFrom

end Heading

namespace Convention

theorem readHeading?_eq_none :
    conv.readHeading? number line below = none ↔ conv.level? line = none := by
  unfold readHeading?
  cases conv.level? line <;> simp

theorem readFrom_of_readHeading? (h : conv.readHeading? number line below = some heading) :
    heading.ReadFrom conv number line := by
  unfold readHeading? at h
  split at h
  · cases h
  · rename_i level hlevel
    cases h
    exact ⟨rfl, rfl, rfl, hlevel⟩

theorem readHeading?_moved (h : conv.readHeading? number line below = some heading)
    (number' : Int) (below' : Option Text) :
    conv.readHeading? number' line below' =
      some { heading with line := number', closed := below'.bind (closedMoment? conv.mark) } := by
  unfold readHeading? at h ⊢
  cases hlevel : conv.level? line with
  | none =>
      rw [hlevel] at h
      cases h
  | some level =>
      rw [hlevel] at h
      dsimp only at h ⊢
      rw [← Option.some.inj h]

theorem keyword_of_readHeading? (h : conv.readHeading? number line below = some heading) :
    heading.keyword =
      (splitKeyword conv.config.todoKeywords (line.drop heading.openingEnd)).1 := by
  unfold readHeading? at h
  split at h
  · cases h
  · cases h
    rfl

theorem title_of_readHeading? (h : conv.readHeading? number line below = some heading) :
    heading.title =
      (splitKeyword conv.config.todoKeywords (line.drop heading.openingEnd)).2 := by
  unfold readHeading? at h
  split at h
  · cases h
  · cases h
    rfl

theorem closed_of_readHeading? (h : conv.readHeading? number line below = some heading) :
    heading.closed = below.bind (closedMoment? conv.mark) := by
  unfold readHeading? at h
  split at h
  · cases h
  · cases h
    rfl

end Convention

end SourceOutline
