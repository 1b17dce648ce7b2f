import SourceOutline.Proofs.Edit.Spot

/-!
# Text that is kept

Inserting a heading takes lines out of the document and puts others in their place, but it loses no
text: blanks apart, the characters of the document are afterwards those of before and the comment
run of the heading (`HeadingInserted.visible_perm`). Lines other than that at point are found whole
and in their old order where `placeIn` says, and of the line at point two pieces are left at most
(`PointLine`).
-/

namespace SourceOutline

/-! ## Characters that show -/

namespace Text

variable {t u : Text}

/-- The characters of a text that are no blanks. -/
def visible (t : Text) : Text := t.filter fun c => !isBlank c

@[simp] theorem visible_append (t u : Text) : visible (t ++ u) = t.visible ++ u.visible :=
  List.filter_append t u

theorem visible_of_blank (h : ∀ c ∈ t, isBlank c = true) : t.visible = [] := by
  unfold visible
  rw [List.filter_eq_nil_iff]
  intro c hc
  rw [h c hc]
  decide

@[simp] theorem visible_cons_space (t : Text) : visible (' ' :: t) = t.visible := rfl

@[simp] theorem visible_trimEnd (t : Text) : t.trimEnd.visible = t.visible := by
  obtain ⟨rest, ht, hrest⟩ := exists_trimEnd_append t
  conv_rhs => rw [ht, visible_append, visible_of_blank hrest, List.append_nil]

@[simp] theorem visible_trimStart (t : Text) : t.trimStart.visible = t.visible := by
  have hfront : ∀ c ∈ t.takeWhile isBlank, isBlank c = true :=
    List.all_eq_true.mp List.all_takeWhile
  have ht : t.visible = visible (t.takeWhile isBlank ++ t.trimStart) := by
    rw [trimStart, List.takeWhile_append_dropWhile]
  rw [ht, visible_append, visible_of_blank hfront, List.nil_append]

@[simp] theorem visible_trim (t : Text) : t.trim.visible = t.visible := by
  rw [trim, visible_trimEnd, visible_trimStart]

theorem visible_replicate {c : Char} (h : isBlank c = false) (n : Nat) :
    visible (List.replicate n c) = List.replicate n c := by
  unfold visible
  rw [List.filter_replicate, h]
  rfl

end Text

namespace Lines

/-- The characters of lines that are no blanks, in reading order. -/
def visible (lines : List Text) : Text := lines.flatMap Text.visible

@[simp] theorem visible_nil : visible [] = [] := rfl

@[simp] theorem visible_cons (line : Text) (lines : List Text) :
    visible (line :: lines) = line.visible ++ visible lines := rfl

@[simp] theorem visible_append (above below : List Text) :
    visible (above ++ below) = visible above ++ visible below := by
  unfold visible
  rw [List.flatMap_append]

theorem visible_take_drop (lines : List Text) (n : Nat) :
    visible lines = visible (lines.take n) ++ visible (lines.drop n) := by
  rw [← visible_append, List.take_append_drop]

end Lines

namespace Document

variable {d d' : Document} {conv : Convention} {n c i j first last : Nat} {line opening : Text}
  {respectContent blank : Bool} {spot : InsertionSpot}

theorem visible_drop (h : d.lines[i]? = some line) :
    Lines.visible (d.lines.drop i) = line.visible ++ Lines.visible (d.lines.drop (i + 1)) := by
  obtain ⟨hlt, hget⟩ := List.getElem?_eq_some_iff.mp h
  rw [List.drop_eq_getElem_cons hlt, hget, Lines.visible_cons]

theorem visible_split (line : Text) (c : Nat) :
    (keptOf line c).visible ++ (Text.trim (line.drop c)).visible = line.visible := by
  rw [keptOf, Text.visible_trimEnd, Text.visible_trim, ← Text.visible_append,
    List.take_append_drop]

/-- **No spot loses a character** of the lines that it takes: blanks apart, they are kept or are in
the title. -/
theorem SpotFor.visible_perm (hspot : d.SpotFor conv n c line respectContent spot)
    (hline : d.lines[n]? = some line) (hstart : spot.start = first) (hstop : spot.stop = last) :
    (Lines.visible spot.kept ++ spot.title.visible ++ Lines.visible (d.lines.drop last)).Perm
      (Lines.visible (d.lines.drop first)) := by
  cases hspot with
  | behind | belowClosed | above =>
      obtain rfl := Int.ofNat.inj hstart
      obtain rfl := Int.ofNat.inj hstop
      exact .refl _
  | blank opened blank =>
      obtain rfl := Int.ofNat.inj hstart
      obtain rfl := Int.ofNat.inj hstop
      rw [visible_drop hline, Text.visible_of_blank ((Text.isBlankText_iff line).mp blank)]
      exact .refl _
  | split =>
      obtain rfl := Int.ofNat.inj hstart
      obtain rfl := Int.ofNat.inj hstop
      rw [visible_drop hline, ← visible_split line c, Lines.visible_cons, Lines.visible_nil,
        List.append_nil]
  | @splitAttached _ closed read column get =>
      obtain rfl := Int.ofNat.inj hstart
      obtain rfl := Int.ofNat.inj hstop
      have hclosed : Lines.visible (d.lines.drop (n + 1)) =
          closed.visible ++ Lines.visible (d.lines.drop (n + 2)) := visible_drop get
      -- the title comes behind the closed line now
      rw [visible_drop hline, hclosed, ← visible_split line c, List.perm_iff_count]
      intro ch
      simp only [Lines.visible_cons, Lines.visible_nil, List.append_nil, List.count_append]
      omega

/-- **An insertion loses no character**, blanks apart, and adds those that open the heading. -/
theorem HeadingInserted.visible_perm (h : d.HeadingInserted d' spot first last blank opening)
    (hspot : d.SpotFor conv n c line respectContent spot) (hline : d.lines[n]? = some line)
    (hstart : spot.start = first) (hstop : spot.stop = last) :
    (Lines.visible d'.lines).Perm (Lines.visible d.lines ++ opening.visible) := by
  have hblank : Lines.visible (if blank then [[]] else []) = [] := by
    cases blank with
    | true => rfl
    | false => rfl
  have htaken := List.perm_iff_count.mp (hspot.visible_perm hline hstart hstop)
  rw [h.lines, Lines.visible_take_drop d.lines first, List.perm_iff_count]
  intro ch
  have hcount := htaken ch
  simp only [Lines.visible_append, Lines.visible_cons, Lines.visible_nil, hblank,
    Text.visible_append, Text.visible_cons_space, List.append_nil, List.count_append] at hcount ⊢
  omega

/-! ## Lines that stay -/

theorem SpotFor.stays (hspot : d.SpotFor conv n c line respectContent spot)
    (hstart : spot.start = first) (hstop : spot.stop = last) (hi : i ≠ n) :
    i < first + spot.kept.length ∨ last ≤ i := by
  cases hspot <;> dsimp only [List.length_nil, List.length_cons] at hstart hstop ⊢ <;> omega

theorem HeadingInserted.placeIn_lt (h : d.HeadingInserted d' spot first last blank opening)
    (hi : i < first + spot.kept.length ∨ last ≤ i) (hj : j < first + spot.kept.length ∨ last ≤ j)
    (hlt : i < j) : d.placeIn d' i < d.placeIn d' j := by
  have hkept := h.kept_le
  rcases hi with habove | hbelow
  · rw [h.placeIn_above habove]
    rcases hj with hj | hj
    · rwa [h.placeIn_above hj]
    · have := h.placeIn_below hj
      omega
  · have := h.placeIn_below hbelow
    have := h.placeIn_below (i := j) (by omega)
    omega

/-- **Every line other than that at point is found whole at its place.** -/
theorem HeadingInserted.getElem?_placeIn_of_ne
    (h : d.HeadingInserted d' spot first last blank opening)
    (hspot : d.SpotFor conv n c line respectContent spot) (hstart : spot.start = first)
    (hstop : spot.stop = last) (hi : i ≠ n) : d'.lines[d.placeIn d' i]? = d.lines[i]? := by
  by_cases houtside : i < first ∨ last ≤ i
  · exact h.getElem?_placeIn houtside
  -- the only other line that may be taken is the closed line of a heading that is split
  have hstays := hspot.stays hstart hstop hi
  cases hspot with
  | @splitAttached _ closed read column get =>
      obtain rfl := Int.ofNat.inj hstart
      obtain rfl := Int.ofNat.inj hstop
      obtain rfl : i = n + 1 := by omega
      have hplace : d.placeIn d' (n + 1) = n + 1 := h.placeIn_above (Nat.lt_succ_self (n + 1))
      rw [hplace, get]
      exact h.getElem?_kept (Nat.lt_succ_self 1)
  | _ =>
      dsimp only [List.length_nil, List.length_cons] at hstart hstop hstays
      omega

theorem HeadingInserted.lt_placeIn (h : d.HeadingInserted d' spot first last blank opening)
    (hi : last ≤ i) : first + spot.kept.length + blank.toNat < d.placeIn d' i := by
  have := h.placeIn_below hi
  omega

/-- What becomes of the line with point when a heading line is inserted, which is line `new` then. -/
inductive PointLine (d d' : Document) (conv : Convention) (n c new : Nat) (line : Text) : Prop
  /-- A blank line may be gone. -/
  | blank (blank : line.isBlankText = true)
  /-- The line stays whole and where it has been among the others. -/
  | whole (get : d'.lines[d.placeIn d' n]? = some line)
      (ordered : ∀ i j, i < j → d.placeIn d' i < d.placeIn d' j)
  /-- What is in front of point stays, and what is behind it becomes the title of the new heading.
  The lines below come behind both, but a closed line stays with the heading that is split. -/
  | split (front : d'.lines[n]? = some (keptOf line c))
      (back : ∃ opening, d'.lines[new]? = some (opening ++ ' ' :: Text.trim (line.drop c)))
      (above : ∀ i < n, d.placeIn d' i < n)
      (between : d.Attached conv n → n < d.placeIn d' (n + 1) ∧ d.placeIn d' (n + 1) < new)
      (below : ∀ i, n < i → (d.Attached conv n → i ≠ n + 1) → new < d.placeIn d' i)

theorem HeadingInserted.pointLine (h : d.HeadingInserted d' spot first last blank opening)
    (hspot : d.SpotFor conv n c line respectContent spot) (hline : d.lines[n]? = some line)
    (hstart : spot.start = first) (hstop : spot.stop = last) :
    d.PointLine d' conv n c (first + spot.kept.length + blank.toNat) line := by
  cases hspot with
  | behind | belowClosed | above =>
      obtain rfl := Int.ofNat.inj hstart
      obtain rfl := Int.ofNat.inj hstop
      -- no line is taken
      refine .whole ?_ fun i j => h.placeIn_lt (Nat.lt_or_ge i _) (Nat.lt_or_ge j _)
      rw [h.getElem?_placeIn (Nat.lt_or_ge n _), hline]
  | blank opened blank => exact .blank blank
  | split opened visible column detached =>
      obtain rfl := Int.ofNat.inj hstart
      obtain rfl := Int.ofNat.inj hstop
      refine .split (h.getElem?_first rfl) ⟨opening, h.getElem?_new⟩ (fun i hi => ?_)
        (fun hattached => absurd hattached detached) fun i hi _ => h.lt_placeIn hi
      rwa [h.placeIn_above (Nat.lt_succ_of_lt hi)]
  | splitAttached read column get closed_eq =>
      obtain rfl := Int.ofNat.inj hstart
      obtain rfl := Int.ofNat.inj hstop
      have hattached : d.Attached conv n :=
        ⟨⟨line, hline, Convention.isHeading_iff.mpr ⟨_, read.level_eq⟩⟩,
          closedBelow_iff.mpr ⟨_, get, closed_eq⟩⟩
      have hplace : d.placeIn d' (n + 1) = n + 1 := h.placeIn_above (Nat.lt_succ_self (n + 1))
      refine .split (h.getElem?_first rfl) ⟨opening, h.getElem?_new⟩ (fun i hi => ?_)
        (fun _ => ?_) fun i hi hne => h.lt_placeIn ?_
      · rwa [h.placeIn_above (Nat.lt_of_lt_of_le hi (Nat.le_add_right n 2))]
      · rw [hplace]
        exact ⟨Nat.lt_succ_self n, Nat.le_add_right (n + 2) blank.toNat⟩
      · have := hne hattached
        omega

/-- Whether a document is another one with a heading line `new` inserted, of some level and without
any loss, when point is on line `n` in column `c`. -/
structure Conserves (d d' : Document) (conv : Convention) (mark : Char) (level : Int)
    (n c new : Nat) (line : Text) : Prop where
  level_pos : 1 ≤ level
  /-- The new line is a heading of that level, unless its title makes it a closed line. -/
  heading : ∃ text, d'.lines[new]? = some text ∧
    (conv.isClosed text = false → conv.level? text = some level)
  /-- Blanks apart, the characters are those of before and the new comment run. -/
  visible : (Lines.visible d'.lines).Perm
    (Lines.visible d.lines ++ List.replicate (level + conv.config.baseLevel - 1).toNat mark)
  /-- Every other line is found whole at its place. -/
  found : ∀ i, i ≠ n → d'.lines[d.placeIn d' i]? = d.lines[i]?
  /-- The other lines are in their old order. -/
  ordered : ∀ i j, i ≠ n → j ≠ n → i < j → d.placeIn d' i < d.placeIn d' j
  pointLine : d.PointLine d' conv n c new line

end Document

namespace Session

open Document

variable {s : Session} {config : Config} {conv : Convention} {mark : Char}

/-- **Inserting a heading loses no text**, when the comment character is a single visible one:
blanks apart, the characters of all lines are those of before and the comment run of the heading,
and every line but that at point is there as before, in the old order. -/
theorem run_insertHeading_conserves (valid : config.Valid) (inside : s.document.PointInside)
    (hconv : s.document.convention config = .ok conv) (hmark : conv.mark = [mark])
    (hvisible : isBlank mark = false) {level? : Option Int} {respectContent : Bool}
    (hran : (s.run config (.insertHeading level? respectContent)).2 = .ok (.flag true)) :
    let d' := (s.run config (.insertHeading level? respectContent)).1.document
    ∃ (n c new : Nat) (line : Text), s.document.point = { line := n, column := c } ∧
      s.document.lines[n]? = some line ∧ d'.point.line = new ∧
      s.document.Conserves d' conv mark (s.document.insertLevel conv level?) n c new line := by
  obtain ⟨n, c, line, hpoint, hline, hcolumn⟩ := pointInside_iff.mp inside
  obtain ⟨hpos, first, last, run, hstart, hstop, hwrite, h⟩ :=
    run_insertHeading valid hconv hpoint hline hcolumn hran
  have hspot := spotFor_insertSpot hpoint hline hcolumn conv respectContent
  have hconfig := (convention_eq_ok hconv).2
  have hbase : 1 ≤ conv.config.baseLevel := hconfig ▸ valid.baseLevel_pos
  rw [← hconfig] at hwrite
  refine ⟨n, c, _, line, hpoint, hline, congrArg Point.line h.point, hpos, ?_, ?_,
    fun i => h.getElem?_placeIn_of_ne hspot hstart hstop,
    fun i j hi hj => h.placeIn_lt (hspot.stays hstart hstop hi) (hspot.stays hstart hstop hj),
    h.pointLine hspot hline hstart hstop⟩
  · refine ⟨_, h.getElem?_new, fun hopen => ?_⟩
    obtain ⟨new, hread, -, hlevel, -⟩ := (readHeading?_inserted hmark
      (isIndenting_eq_false hvisible) rfl hbase (fun _ => isIndenting_of_mem_insertIndentation)
      hpos hwrite _).2 hopen 0 none
    rw [← hlevel]
    exact (Convention.readFrom_of_readHeading? hread).level_eq
  · have hperm := h.visible_perm hspot hline hstart hstop
    have hindent : (s.document.insertIndentation conv).visible = [] :=
      Text.visible_of_blank fun ch hch =>
        isBlank_of_isIndenting (isIndenting_of_mem_insertIndentation hch)
    obtain ⟨count, hcount⟩ := Int.eq_ofNat_of_zero_le
      (show 0 ≤ s.document.insertLevel conv level? + conv.config.baseLevel - 1 by omega)
    rw [hcount, hmark] at hwrite
    rw [eq_repeatMark_of_writeRun hwrite, repeatMark_single, Text.visible_append, hindent,
      Text.visible_replicate hvisible, List.nil_append] at hperm
    rwa [hcount, Int.toNat_natCast]

/-- A finished heading is split, and its closed line stays between the two parts. -/
theorem run_insertHeading_conserves_closed :
    let s := (create (Document.ofText
      "//// DONE B c\n  // CLOSED: [2024-01-02 Tue 10:30]\nint x;".toList
      (Language.named? "c".toList) none)).setPoint { line := 0, column := 12 }
    let conv : Convention := ⟨['/'], {}⟩
    let d' := (s.run {} (.insertHeading none false)).1.document
    Config.Valid {} ∧ s.document.PointInside ∧ s.document.convention {} = .ok conv ∧
      conv.mark = ['/'] ∧ isBlank '/' = false ∧
      (s.run {} (.insertHeading none false)).2 = .ok (.flag true) ∧
      d'.lines = ["//// DONE B".toList, "  // CLOSED: [2024-01-02 Tue 10:30]".toList,
        "//// c".toList, "int x;".toList] ∧
      s.document.Conserves d' conv '/' 2 0 12 2 "//// DONE B c".toList := by
  intro s conv d'
  have valid : Config.Valid {} := Settings.valid_of_check (s := .defaults) rfl
  have inside : s.document.PointInside := by decide
  have hconv : s.document.convention {} = .ok conv := rfl
  have hran : (s.run {} (.insertHeading none false)).2 = .ok (.flag true) := by decide
  obtain ⟨n, c, new, line, hpoint, hline, hnew, hconserves⟩ :=
    run_insertHeading_conserves valid inside hconv rfl (by decide) hran
  have hstart : s.document.point = { line := 0, column := 12 } := rfl
  have hend : d'.point.line = 2 := by decide
  rw [hstart, Point.mk.injEq] at hpoint
  obtain rfl : 0 = n := Int.ofNat.inj hpoint.1
  obtain rfl : 12 = c := Int.ofNat.inj hpoint.2
  obtain rfl : 2 = new := Int.ofNat.inj (hend.symm.trans hnew)
  obtain rfl : "//// DONE B c".toList = line := Option.some.inj (Eq.trans rfl hline)
  rw [show s.document.insertLevel conv none = 2 by decide] at hconserves
  exact ⟨valid, inside, hconv, rfl, by decide, hran, by decide, hconserves⟩

end Session

end SourceOutline
