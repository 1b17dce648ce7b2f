import SourceOutline.Proofs.Document.Reopen
import SourceOutline.Proofs.Edit.Fits

/-!
# Editing commands keep documents storable

What an editing command writes is put together from pieces of the document's lines, comment runs,
keywords and stamps, and none of these contains a line break. A command that writes the last line of
a document does not leave it empty where a heading stood, so what can be written and read back
before a command can be so after it.
-/

namespace SourceOutline

/-! ## Lines that commands write -/

theorem splitKeyword_unbroken {text : Text} (h : text.Unbroken) (keywords : List Text) :
    (splitKeyword keywords text).2.Unbroken := by
  have hrest : Text.Unbroken (text.unindent.dropWhile isKeywordChar) :=
    h.unindent.of_subset (List.dropWhile_sublist _).subset
  unfold splitKeyword
  dsimp only
  split
  · exact hrest.trim
  · exact h.unindent.trim

theorem repeatMark_ne_nil {mark : Text} {count : Int} (hmark : mark ≠ []) (hcount : 1 ≤ count) :
    repeatMark mark count ≠ [] := by
  unfold repeatMark
  obtain ⟨n, hn⟩ : ∃ n, count.toNat = n + 1 := ⟨count.toNat - 1, by omega⟩
  rw [hn, List.replicate_succ, List.flatten_cons]
  exact List.append_ne_nil_of_left_ne_nil hmark _

theorem nextKeyword_mem {keywords : List Text} {forward : Bool} {keyword : Option Text}
    {next : Text} (h : Document.nextKeyword keywords forward keyword = some next) :
    next ∈ keywords := by
  have hslot := List.mem_of_getElem? (Option.join_eq_some_iff.mp h)
  rcases List.mem_cons.mp hslot with hnone | hword
  · cases hnone
  · obtain ⟨word, hmem, hsame⟩ := List.mem_map.mp hword
    cases hsame
    exact hmem

theorem Config.Valid.keyword_unbroken {config : Config} (valid : config.Valid) {keyword : Text}
    (h : keyword ∈ config.todoKeywords) : keyword.Unbroken := by
  have hword := valid.todoKeywords_words keyword h
  unfold isCapitalWord at hword
  rw [Bool.and_eq_true] at hword
  exact Text.unbroken_of_forall rfl rfl (List.all_eq_true.mp hword.2)

namespace Document

variable {d : Document} {config : Config} {conv : Convention} {n : Nat} {line run : Text}
  {heading : Heading} {new : List Text} {room : Int}

theorem withRun_unbroken {number : Int} (h : heading.ReadFrom conv number line)
    (hline : line.Unbroken) (hrun : run.Unbroken) : (withRun line heading run).Unbroken := by
  unfold withRun
  rw [h.indentation_eq, Text.unbroken_append, Text.unbroken_append]
  exact ⟨⟨hline.indentation, hrun⟩, hline.drop _⟩

theorem withRun_ne_nil (h : run ≠ []) : withRun line heading run ≠ [] := by
  unfold withRun
  exact List.append_ne_nil_of_left_ne_nil (List.append_ne_nil_of_right_ne_nil _ h) _

theorem shiftLine_unbroken {delta : Int} {shifted : Text} (hmark : conv.mark.Unbroken)
    (hline : line.Unbroken) (h : shiftLine conv room delta line = .ok shifted) : shifted.Unbroken := by
  unfold shiftLine at h
  split at h
  · rename_i heading hread
    obtain ⟨run, hwrite, hshifted⟩ := map_eq_ok.mp h
    rw [← hshifted, eq_repeatMark_of_writeRun hwrite]
    exact withRun_unbroken (Convention.readFrom_of_readHeading? hread) hline
      (Text.unbroken_repeatMark hmark _)
  · cases h
    exact hline

theorem shiftLine_ne_nil {delta : Int} {shifted : Text}
    (hrun : ∀ inner number, Heading.ReadFrom inner conv number line → 1 ≤ inner.run + delta)
    (hline : line ≠ []) (h : shiftLine conv room delta line = .ok shifted) : shifted ≠ [] := by
  unfold shiftLine at h
  split at h
  · rename_i inner hread
    have hinner := Convention.readFrom_of_readHeading? hread
    obtain ⟨run, hwrite, hshifted⟩ := map_eq_ok.mp h
    rw [← hshifted, eq_repeatMark_of_writeRun hwrite]
    exact withRun_ne_nil (repeatMark_ne_nil hinner.mark_ne_nil (hrun inner 0 hinner))
  · cases h
    exact hline

theorem AtHeading.keywordLine_unbroken (h : d.AtHeading config conv n line heading)
    (hmark : conv.mark.Unbroken) (hline : line.Unbroken) {keyword : Option Text}
    (hkeyword : ∀ word ∈ keyword, word.Unbroken) :
    (keywordLine conv line heading keyword).Unbroken := by
  have htitle : heading.title.Unbroken := by
    rw [Convention.title_of_readHeading? h.read]
    exact splitKeyword_unbroken (hline.drop _) _
  have hword : (keyword.getD []).Unbroken := by
    cases keyword with
    | none => exact Text.unbroken_nil
    | some word => exact hkeyword word rfl
  unfold keywordLine
  dsimp only
  split
  · exact hline.take _
  · rw [h.readFrom.indentation_eq, Text.unbroken_append, Text.unbroken_append, Text.unbroken_cons]
    refine ⟨⟨hline.indentation, Text.unbroken_repeatMark hmark _⟩, rfl, ?_⟩
    refine Text.unbroken_joinWith (Text.unbroken_cons.mpr ⟨rfl, Text.unbroken_nil⟩) ?_
    intro piece hpiece
    have hpiece := (List.mem_filter.mp hpiece).1
    simp only [List.mem_cons, List.not_mem_nil, or_false] at hpiece
    rcases hpiece with rfl | rfl
    · exact hword
    · exact htitle

theorem AtHeading.keywordLine_ne_nil (h : d.AtHeading config conv n line heading)
    (keyword : Option Text) : keywordLine conv line heading keyword ≠ [] := by
  have hrun := h.readFrom.run_pos
  have hend := h.readFrom.openingEnd_le
  unfold keywordLine
  dsimp only
  split
  · intro hnil
    have hlength := congrArg List.length hnil
    rw [List.length_take, List.length_nil] at hlength
    unfold Heading.openingEnd at hend hlength
    omega
  · exact List.append_ne_nil_of_right_ne_nil _ (List.cons_ne_nil _ _)

theorem AtHeading.closedLine_unbroken (h : d.AtHeading config conv n line heading)
    (hmark : conv.mark.Unbroken) (hline : line.Unbroken) (now : Moment) :
    (closedLine heading conv.mark now).Unbroken := by
  have hindentation : heading.indentation.Unbroken := by
    rw [h.readFrom.indentation_eq]
    exact hline.indentation
  have hwidth : closedIndentation.Unbroken := by decide
  have hlabel : closedLabel.Unbroken := by decide
  have hspace : isLineBreak ' ' = false := rfl
  simp [closedLine, hindentation, hwidth, hlabel, hspace, Text.unbroken_repeatMark hmark,
    now.stamp_unbroken]

theorem closedLine_ne_nil (heading : Heading) (mark : Text) (now : Moment) :
    closedLine heading mark now ≠ [] := by
  unfold closedLine
  exact List.append_ne_nil_of_right_ne_nil _ (List.cons_ne_nil _ _)

/-! ## Replacing lines of a document that can be stored -/

theorem getLast?_replaced {first last : Nat} (hnew : new ≠ []) :
    (d.lines.take first ++ new ++ d.lines.drop last).getLast? =
      if last < d.lines.length then d.lines.getLast? else new.getLast? := by
  rw [List.getLast?_append, List.getLast?_append, List.getLast?_drop]
  by_cases hlast : last < d.lines.length
  · have hlines : d.lines ≠ [] := List.ne_nil_of_length_pos (by omega)
    rw [if_neg (by omega), if_pos hlast, List.getLast?_eq_some_getLast hlines, Option.some_or]
  · rw [if_pos (by omega), if_neg hlast, List.getLast?_eq_some_getLast hnew, Option.some_or,
      Option.none_or]

theorem Storable.replace (h : d.Storable) {first last : Nat} (hle : first ≤ last)
    (hlast : last ≤ d.lines.length) (hnew : new ≠ []) (unbroken : ∀ line ∈ new, line.Unbroken)
    (endsOpen : EndsOpen d.lines → EndsOpen (d.lines.take first ++ new ++ d.lines.drop last)) :
    (d.replace first last new).1.Storable where
  lines_ne_nil := replace_lines_ne_nil
  unbroken := by
    rw [replace_lines_of_fits hle hlast hnew]
    intro line hline
    rw [List.mem_append, List.mem_append] at hline
    rcases hline with (habove | hinside) | hbelow
    · exact h.unbroken line (List.mem_of_mem_take habove)
    · exact unbroken line hinside
    · exact h.unbroken line (List.mem_of_mem_drop hbelow)
  lineBreak_mem := h.lineBreak_mem
  endsOpen := by
    intro hends
    rw [replace_lines_of_fits hle hlast hnew]
    exact endsOpen (h.endsOpen hends)

/-- A document that is not just an empty line can be stored after lines are put in whose last one is
not empty. -/
theorem Storable.replace_visible (h : d.Storable) {first last : Nat} (hle : first ≤ last)
    (hlast : last ≤ d.lines.length) (unbroken : ∀ line ∈ new, line.Unbroken)
    (hend : new.getLast? = some line) (visible : line ≠ []) (hempty : last = 0 → d.lines ≠ [[]]) :
    (d.replace first last new).1.Storable := by
  have hnew : new ≠ [] := by
    rintro rfl
    cases hend
  refine h.replace hle hlast hnew unbroken ?_
  intro hopen
  right
  rw [getLast?_replaced hnew]
  split
  · rename_i hlt
    refine hopen.getLast?_ne ?_
    intro hlines
    rw [hlines, List.length_singleton] at hlt
    exact hempty (by omega) hlines
  · rw [hend]
    intro hnil
    cases hnil
    exact visible rfl

/-! ## Each command -/

def StaysStorable (d : Document) : Except Fault Decision → Prop
  | .ok (.replace start stop new _ _) => (d.replace start stop new).1.Storable
  | _ => True

theorem staysStorable_writeRun {mark : Text} {count : Int} {next : Text → Decision}
    (hnext : d.StaysStorable (.ok (next (repeatMark mark count)))) :
    d.StaysStorable ((writeRun room mark count).map next) := by
  cases hwrite : writeRun room mark count with
  | error fault => trivial
  | ok run =>
      rw [eq_repeatMark_of_writeRun hwrite]
      exact hnext

namespace AtHeading

variable (h : d.AtHeading config conv n line heading)
include h

theorem lines_ne_empty : d.lines ≠ [[]] := by
  intro hlines
  have hline := List.mem_of_getElem? h.get
  rw [hlines, List.mem_singleton] at hline
  exact h.readFrom.line_ne_nil hline

variable (storable : d.Storable) (hmark : conv.mark.Unbroken)
include storable hmark

theorem storable_withRun {count : Int} (hcount : 1 ≤ count) :
    (d.replace n (n + 1) [withRun line heading (repeatMark conv.mark count)]).1.Storable := by
  have hline := storable.unbroken line (List.mem_of_getElem? h.get)
  refine storable.replace_visible (Nat.le_succ n) h.lt_length ?_ rfl
    (withRun_ne_nil (repeatMark_ne_nil h.readFrom.mark_ne_nil hcount)) (fun _ => h.lines_ne_empty)
  intro other hother
  rw [List.mem_singleton] at hother
  subst hother
  exact withRun_unbroken h.readFrom hline (Text.unbroken_repeatMark hmark count)

theorem shifted_unbroken {delta : Int} {shifted : List Text}
    (hshift : (line :: conv.subtreeLines heading.level (d.lines.drop (n + 1))).mapM
      (shiftLine conv room delta) = .ok shifted) : ∀ other ∈ shifted, other.Unbroken := by
  intro other hother
  obtain ⟨i, hi⟩ := List.mem_iff_getElem?.mp hother
  obtain ⟨old, hold, hshifted⟩ := exists_item_of_mapM hshift hi
  have hmem := h.mem_lines_of_mem_subtree (List.mem_of_getElem? hold)
  exact shiftLine_unbroken hmark (storable.unbroken old hmem) hshifted

omit storable hmark in
/-- A subtree that ends with the document does not end in an empty line after it is shifted. -/
theorem getLast?_shifted {delta : Int} (hrun : 1 ≤ heading.run + delta) {shifted : List Text}
    (hshift : (line :: conv.subtreeLines heading.level (d.lines.drop (n + 1))).mapM
      (shiftLine conv room delta) = .ok shifted)
    (hend : d.lines.length ≤
      n + 1 + (conv.subtreeLines heading.level (d.lines.drop (n + 1))).length)
    (hopen : EndsOpen d.lines) : shifted.getLast? ≠ some [] := by
  obtain ⟨hlength, -⟩ := mapM_eq_ok hshift
  have hle := h.subtreeEnd_le
  intro hlast
  rw [List.getLast?_eq_getElem?] at hlast
  obtain ⟨old, hold, hshifted⟩ := exists_item_of_mapM hshift hlast
  refine shiftLine_ne_nil ?_ ?_ hshifted rfl
  · intro inner number hinner
    have hlevel := h.level_le_of_mem_subtree (List.mem_of_getElem? hold) hinner.level_eq
    rw [h.readFrom.level_eq_run, hinner.level_eq_run] at hlevel
    omega
  · -- the last line of the subtree is the last line of the document
    rintro rfl
    refine hopen.getLast?_ne h.lines_ne_empty ?_
    rw [← h.take_subtree, hlength, List.length_cons, Nat.add_sub_cancel,
      List.getElem?_take_of_lt (by omega), List.getElem?_drop] at hold
    rw [List.getLast?_eq_getElem?, ← hold]
    congr 1
    omega

theorem storable_shiftSubtree {delta : Int} (hrun : 1 ≤ heading.run + delta) :
    d.StaysStorable (d.shiftSubtree conv room heading delta) := by
  rw [h.shiftSubtree_eq]
  cases hshift : (line :: conv.subtreeLines heading.level (d.lines.drop (n + 1))).mapM
      (shiftLine conv room delta) with
  | error fault => trivial
  | ok shifted =>
      obtain ⟨hlength, -⟩ := mapM_eq_ok hshift
      have hnew : shifted ≠ [] := by
        rintro rfl
        cases hlength
      refine storable.replace (by omega) h.subtreeEnd_le hnew
        (h.shifted_unbroken storable hmark hshift) ?_
      intro hopen
      right
      rw [getLast?_replaced hnew]
      split
      · exact hopen.getLast?_ne h.lines_ne_empty
      · exact h.getLast?_shifted hrun hshift (by omega) hopen

theorem storable_applyKeyword (now : Moment) {keyword : Option Text}
    (hkeyword : ∀ word ∈ keyword, word.Unbroken) :
    d.StaysStorable (d.applyKeyword config now keyword conv heading) := by
  have hline := storable.unbroken line (List.mem_of_getElem? h.get)
  have hkept := h.keywordLine_unbroken hmark hline hkeyword
  obtain ⟨hlt, hbehind⟩ := behindClosed_bounds h.lt_length conv
  have hnext := h.lt_length
  rw [h.applyKeyword_eq]
  generalize hnew : (keywordLine conv line heading keyword ::
    if finishes config keyword then [closedLine heading conv.mark now] else []) = new
  have unbroken : ∀ other ∈ new, other.Unbroken := by
    intro other hother
    rw [← hnew, List.mem_cons] at hother
    rcases hother with rfl | hclosed
    · exact hkept
    · split at hclosed
      · rw [List.mem_singleton] at hclosed
        rw [hclosed]
        exact h.closedLine_unbroken hmark hline now
      · cases hclosed
  obtain ⟨written, hend, visible⟩ : ∃ written, new.getLast? = some written ∧ written ≠ [] := by
    rw [← hnew]
    split
    · exact ⟨_, rfl, closedLine_ne_nil heading conv.mark now⟩
    · exact ⟨_, rfl, h.keywordLine_ne_nil keyword⟩
  split
  · exact storable.replace_visible (by omega) hbehind unbroken hend visible
      fun _ => h.lines_ne_empty
  · exact storable.replace_visible (by omega) hnext unbroken hend visible
      fun _ => h.lines_ne_empty

end AtHeading

/-- What an inserted heading takes from the line at point is unbroken, and it is not put in front of
the only line when that is empty. -/
theorem Storable.insertSpot_parts (storable : d.Storable) (hpoint : d.point.line = n)
    (hline : d.lines[n]? = some line) (conv : Convention) (respectContent : Bool) :
    (∀ kept ∈ (d.insertSpot conv n line respectContent).kept, kept.Unbroken) ∧
      (d.insertSpot conv n line respectContent).title.Unbroken ∧
      ((d.insertSpot conv n line respectContent).stop = 0 → d.lines ≠ [[]]) := by
  have hmem := List.mem_of_getElem? hline
  have unbroken := storable.unbroken line hmem
  have hshown : line.isBlankText = false → d.lines ≠ [[]] := by
    intro hvisible hlines
    rw [hlines, List.mem_singleton] at hmem
    subst hmem
    cases hvisible
  unfold Document.insertSpot
  split
  · have hpos := behindSubtree_pos storable.lines_ne_nil conv
    refine ⟨fun _ hkept => (by cases hkept), Text.unbroken_nil, ?_⟩
    dsimp only
    omega
  · rcases spotAtPoint_cases hpoint conv line (conv.readHeading? n line d.lines[n + 1]?) with
      ⟨first, last, hfirst, hle, -, hfront, hspot⟩ |
      ⟨cut, hvisible, hspot | ⟨closed, hclosed, hspot⟩⟩
    · rw [hspot]
      refine ⟨fun _ hkept => (by cases hkept), Text.unbroken_nil, ?_⟩
      intro hstop
      dsimp only at hstop
      exact hshown (hfront (by omega))
    · rw [hspot]
      refine ⟨?_, (unbroken.drop cut).trim, fun _ => hshown hvisible⟩
      intro kept hkept
      rw [List.mem_singleton] at hkept
      rw [hkept]
      exact (unbroken.take cut).trimEnd
    · rw [hspot]
      refine ⟨?_, (unbroken.drop cut).trim, fun _ => hshown hvisible⟩
      intro kept hkept
      simp only [List.mem_cons, List.not_mem_nil, or_false] at hkept
      rcases hkept with rfl | rfl
      · exact (unbroken.take cut).trimEnd
      · exact storable.unbroken _ (List.mem_of_getElem? hclosed)

theorem Storable.insertIndentation_unbroken (storable : d.Storable) (conv : Convention) :
    (d.insertIndentation conv).Unbroken := by
  unfold insertIndentation
  cases hreference : conv.enclosing? d.lines d.point.line with
  | none => exact Text.unbroken_nil
  | some heading =>
      obtain ⟨i, other, hget, -, hread⟩ := Convention.enclosing?_eq_some hreference
      have hother := storable.unbroken other (List.mem_of_getElem? hget)
      rw [Option.map_some, Option.getD_some, hread.indentation_eq]
      exact hother.indentation

theorem Storable.staysStorable_insertionAt (storable : d.Storable) {spot : InsertionSpot}
    (fits : d.Fits spot.start spot.stop) (hkept : ∀ kept ∈ spot.kept, kept.Unbroken)
    (htitle : spot.title.Unbroken) (hfront : spot.stop = 0 → d.lines ≠ [[]]) {opening : Text}
    (hopening : opening.Unbroken) (level : Int) :
    d.StaysStorable (.ok (insertionAt conv d.lines spot opening level)) := by
  obtain ⟨first, last, hstart, hstop, hle, hlast⟩ := fits.exists_nat
  unfold Document.insertionAt
  dsimp only [StaysStorable]
  rw [hstart, hstop]
  refine storable.replace_visible hle hlast ?_ List.getLast?_concat
    (List.append_ne_nil_of_right_ne_nil _ (List.cons_ne_nil _ _)) (fun h => hfront (by omega))
  intro other hother
  rw [List.mem_append, List.mem_singleton] at hother
  rcases hother with habove | rfl
  · unfold linesAbove at habove
    rcases List.mem_append.mp habove with hold | hblank
    · exact hkept other hold
    · split at hblank
      · rw [List.mem_singleton] at hblank
        rw [hblank]
        exact Text.unbroken_nil
      · cases hblank
  · exact Text.unbroken_append.mpr ⟨hopening, Text.unbroken_cons.mpr ⟨rfl, htitle⟩⟩

/-! ## All commands -/

section Commands

variable (inside : d.PointInside) (storable : d.Storable)
  (known : ∀ language ∈ d.language, language ∈ Language.known)
include inside storable known

theorem storable_promote (valid : config.Valid) (count : Int) :
    d.StaysStorable (d.promote config room count) := by
  refine repeated_cases inside rfl (fun _ => trivial) (fun _ _ => trivial) trivial ?_
  intro hcount conv n line heading h
  have hlevel := h.readFrom.level_eq_run
  have hpos := valid.baseLevel_pos
  rw [h.config_eq] at hlevel
  rw [h.promote_eq hcount]
  split
  · trivial
  · exact staysStorable_writeRun
      (h.storable_withRun storable (mark_unbroken known h.mark_eq) (by omega))

theorem storable_demote (count : Int) : d.StaysStorable (d.demote config room count) := by
  refine repeated_cases inside rfl (fun _ => trivial) (fun _ _ => trivial) trivial ?_
  intro hcount conv n line heading h
  rw [h.demote_eq hcount]
  exact staysStorable_writeRun
    (h.storable_withRun storable (mark_unbroken known h.mark_eq) (by omega))

theorem storable_promoteSubtree (valid : config.Valid) (count : Int) :
    d.StaysStorable (d.promoteSubtree config room count) := by
  refine repeated_cases inside rfl (fun _ => trivial) (fun _ _ => trivial) trivial ?_
  intro hcount conv n line heading h
  have hlevel := h.readFrom.level_eq_run
  have hpos := valid.baseLevel_pos
  rw [h.config_eq] at hlevel
  rw [h.promoteSubtree_eq hcount]
  split
  · trivial
  · exact h.storable_shiftSubtree storable (mark_unbroken known h.mark_eq) (by omega)

theorem storable_demoteSubtree (count : Int) :
    d.StaysStorable (d.demoteSubtree config room count) := by
  refine repeated_cases inside rfl (fun _ => trivial) (fun _ _ => trivial) trivial ?_
  intro hcount conv n line heading h
  rw [h.demoteSubtree_eq hcount]
  exact h.storable_shiftSubtree storable (mark_unbroken known h.mark_eq) (by omega)

theorem storable_cycleTodo (valid : config.Valid) (direction : Int) (now : Moment) :
    d.StaysStorable (d.cycleTodo config direction now) := by
  refine atHeading_cases inside rfl (fun _ _ => trivial) trivial ?_
  intro conv n line heading h
  unfold cycleTodo
  rw [h.decideAtHeading_eq]
  split
  · trivial
  · refine h.storable_applyKeyword storable (mark_unbroken known h.mark_eq) now ?_
    intro word hword
    exact valid.keyword_unbroken (nextKeyword_mem hword)

theorem storable_setTodo (valid : config.Valid) (keyword : Option Text) (now : Moment) :
    d.StaysStorable (d.setTodo config keyword now) := by
  refine atHeading_cases inside rfl (fun _ _ => trivial) trivial ?_
  intro conv n line heading h
  have hmark := mark_unbroken known h.mark_eq
  unfold setTodo
  rw [h.decideAtHeading_eq]
  split
  · exact h.storable_applyKeyword storable hmark now fun _ hword => by cases hword
  · split
    · rename_i word _ hknown
      refine h.storable_applyKeyword storable hmark now ?_
      rintro _ ⟨⟩
      exact valid.keyword_unbroken (List.contains_iff_mem.mp hknown)
    · trivial

theorem storable_insertSubheading : d.StaysStorable (d.insertSubheading config room) := by
  refine atHeading_cases inside rfl (fun _ _ => trivial) trivial ?_
  intro conv n line heading h
  have hline := storable.unbroken line (List.mem_of_getElem? h.get)
  obtain ⟨-, hbehind⟩ := behindClosed_bounds h.lt_length conv
  rw [h.insertSubheading_eq]
  refine staysStorable_writeRun (storable.replace_visible (Nat.le_refl _) hbehind ?_ rfl
    (List.append_ne_nil_of_right_ne_nil _ (List.cons_ne_nil _ _)) (fun _ => h.lines_ne_empty))
  intro other hother
  rw [List.mem_singleton] at hother
  rw [hother, h.readFrom.indentation_eq]
  have hrun := Text.unbroken_repeatMark (mark_unbroken known h.mark_eq) (heading.run + 1)
  exact Text.unbroken_append.mpr ⟨Text.unbroken_append.mpr ⟨hline.indentation, hrun⟩, by decide⟩

theorem storable_insertHeading (level? : Option Int) (respectContent : Bool) :
    d.StaysStorable (d.insertHeading config room level? respectContent) := by
  obtain ⟨n, line, hpoint, hline⟩ := inside.exists_line
  cases hconv : d.convention config with
  | error fault =>
      rw [insertHeading_unmarked hconv]
      trivial
  | ok conv =>
      rw [insertHeading_eq hconv hpoint hline]
      split
      · trivial
      · obtain ⟨hkept, htitle, hfront⟩ := storable.insertSpot_parts hpoint hline conv respectContent
        have hrun := Text.unbroken_repeatMark (mark_unbroken known (convention_eq_ok hconv).1)
          (d.insertLevel conv level? + config.baseLevel - 1)
        have hopening := Text.unbroken_append.mpr ⟨storable.insertIndentation_unbroken conv, hrun⟩
        exact staysStorable_writeRun
          (storable.staysStorable_insertionAt (insertSpot_fits hpoint hline conv respectContent)
            hkept htitle hfront hopening _)

/-- **Whatever an editing command decides, the document can be stored afterwards.** -/
theorem storable_of_decide? (valid : config.Valid) {command : Command}
    {decide : Document → Config → Int → Except Fault Decision} (h : command.decide? = some decide)
    (room : Int) : d.StaysStorable (decide d config room) := by
  cases command with
  | insertHeading level respectContent =>
      cases h
      exact storable_insertHeading inside storable known level respectContent
  | insertSubheading =>
      cases h
      exact storable_insertSubheading inside storable known
  | promote count =>
      cases h
      exact storable_promote inside storable known valid count
  | demote count =>
      cases h
      exact storable_demote inside storable known count
  | promoteSubtree count =>
      cases h
      exact storable_promoteSubtree inside storable known valid count
  | demoteSubtree count =>
      cases h
      exact storable_demoteSubtree inside storable known count
  | cycleTodo direction now =>
      cases h
      exact storable_cycleTodo inside storable known valid direction now
  | setTodo keyword now =>
      cases h
      exact storable_setTodo inside storable known valid keyword now
  | _ => cases h

end Commands

end Document

end SourceOutline
