import SourceOutline.Proofs.Document.Reopen

/-!
# What loading and writing does to a text

A text is a sequence of *units*: its characters, where a carriage return and the line feed right
behind it are one. Its breaks are the units that break lines. Main statement: a text that is loaded
and written is the same unit by unit, but for its breaks, all of which become the first one
(`text_ofText_normalized`).
-/

namespace SourceOutline

namespace Document

variable {text rest lineBreak : Text} {language : Option Language} {name : Option Text} {c : Char}

/-- The characters of a text, where a carriage return and the line feed right behind it are one. -/
def units : Text → List Text
  | [] => []
  | '\r' :: '\n' :: rest => ['\r', '\n'] :: units rest
  | c :: rest => [c] :: units rest

def breaksOf (text : Text) : List Text := (units text).filter fun u => lineBreaks.contains u

/-- A text with another line break in the place of each of its own. -/
def withBreaks (lineBreak text : Text) : Text :=
  (units text).flatMap fun u => if lineBreaks.contains u then lineBreak else u

/-! ## Units and breaks -/

theorem flatten_units (text : Text) : (units text).flatten = text := by
  fun_induction units text with
  | case1 => rfl
  | case2 rest ih => rw [List.flatten_cons, ih]; rfl
  | case3 c rest _ ih => rw [List.flatten_cons, ih]; rfl

theorem contains_lineBreaks_single (c : Char) : lineBreaks.contains [c] = isLineBreak c := by
  rw [Bool.eq_iff_iff]
  simp [lineBreaks, isLineBreak]

theorem single_mem_lineBreaks (h : isLineBreak c = true) : [c] ∈ lineBreaks := by
  rw [← List.contains_iff_mem, contains_lineBreaks_single, h]

theorem unbroken_single (h : isLineBreak c = false) : Text.Unbroken [c] :=
  Text.unbroken_cons.mpr ⟨h, Text.unbroken_nil⟩

theorem head?_ne_of_single (hsingle : ∀ rest', c = '\r' → rest = '\n' :: rest' → False)
    (hreturn : [c] = ['\r']) : rest.head? ≠ some '\n' := by
  intro hfeed
  obtain ⟨rest', hrest⟩ := List.head?_eq_some_iff.mp hfeed
  exact hsingle rest' (List.singleton_inj.mp hreturn) hrest

/-- The first line break is the first of all breaks. -/
theorem firstBreak?_eq_head? (text : Text) : firstBreak? text = (breaksOf text).head? := by
  unfold breaksOf
  fun_induction units text with
  | case1 => rfl
  | case2 rest ih => rfl
  | case3 c rest hsingle ih =>
      rw [List.filter_cons, contains_lineBreaks_single]
      cases hbreak : isLineBreak c with
      | true =>
          rw [if_pos rfl, List.head?_cons]
          exact firstBreak?_lineBreak_append (single_mem_lineBreaks hbreak)
            (head?_ne_of_single hsingle)
      | false =>
          rw [if_neg Bool.false_ne_true, ← ih]
          exact firstBreak?_append_of_unbroken (unbroken_single hbreak) rest

theorem withBreaks_eq_self (h : ∀ other ∈ breaksOf text, other = lineBreak) :
    withBreaks lineBreak text = text := by
  have hunits : ∀ u ∈ units text, (if lineBreaks.contains u then lineBreak else u) = u := by
    intro u hu
    split
    · exact (h u (List.mem_filter.mpr ⟨hu, by assumption⟩)).symm
    · rfl
  rw [withBreaks, List.flatMap_def, List.map_congr_left hunits, List.map_id', flatten_units]

theorem breaksOf_eq_nil (hmem : lineBreak ∈ lineBreaks)
    (h : (withBreaks lineBreak text).Unbroken) : breaksOf text = [] := by
  rw [List.eq_nil_iff_forall_not_mem]
  intro other hother
  obtain ⟨hunit, hbreak⟩ := List.mem_filter.mp hother
  have hsub : lineBreak ⊆ withBreaks lineBreak text := by
    intro c hc
    exact List.mem_flatMap.mpr ⟨other, hunit, by rwa [if_pos hbreak]⟩
  have hbroken : ∀ other ∈ lineBreaks, ¬other.Unbroken := by decide
  exact hbroken lineBreak hmem (h.of_subset hsub)

/-! ## Splitting and joining -/

theorem atLineFeed_eq_false (h : text.head? ≠ some '\n') :
    (text.foldr LineSplit.cons {}).atLineFeed = false := by
  cases text with
  | nil => rfl
  | cons c rest =>
      have hfeed : c ≠ '\n' := fun hc => h (congrArg some hc)
      rw [List.foldr_cons, LineSplit.cons, if_neg (by simpa using hfeed)]
      split
      · split
        · rfl
        · rfl
      · rfl

/-- **Joining the lines of a text replaces its breaks.** -/
theorem joinWith_splitLines (lineBreak text : Text) :
    Text.joinWith lineBreak (splitLines text) = withBreaks lineBreak text := by
  unfold splitLines withBreaks Text.joinWith
  dsimp only
  fun_induction units text with
  | case1 => rfl
  | case2 rest ih =>
      have hmem : ['\r', '\n'] ∈ lineBreaks := by decide
      obtain ⟨_, hsplit, -⟩ := foldr_cons_lineBreak hmem (rest.foldr LineSplit.cons {})
        fun h => absurd h (by decide)
      rw [show ('\r' :: '\n' :: rest) = ['\r', '\n'] ++ rest from rfl, List.foldr_append, hsplit,
        List.intercalate_cons_cons, ih]
      rfl
  | case3 c rest hsingle ih =>
      rw [show c :: rest = [c] ++ rest from rfl, List.foldr_append, List.flatMap_cons,
        contains_lineBreaks_single, ← ih]
      cases hbreak : isLineBreak c with
      | true =>
          obtain ⟨_, hsplit, -⟩ := foldr_cons_lineBreak (single_mem_lineBreaks hbreak)
            (rest.foldr LineSplit.cons {})
            fun hreturn => atLineFeed_eq_false (head?_ne_of_single hsingle hreturn)
          rw [hsplit, List.intercalate_cons_cons, if_pos rfl, List.nil_append]
      | false =>
          obtain ⟨_, hsplit, -⟩ := foldr_cons_unbroken (unbroken_single hbreak)
            (rest.foldr LineSplit.cons {})
          rw [hsplit, if_neg Bool.false_ne_true]
          cases (rest.foldr LineSplit.cons {}).others with
          | nil => rfl
          | cons next others =>
              rw [List.intercalate_cons_cons, List.intercalate_cons_cons]
              simp

/-! ## Loading -/

/-- A loaded document is written as the lines that its text was split into. -/
theorem writtenLines_ofText (text : Text) (language : Option Language) (name : Option Text) :
    (ofText text language name).writtenLines = splitLines text := by
  unfold writtenLines ofText
  dsimp only
  split
  · rename_i hends
    rw [Bool.and_eq_true, decide_eq_true_eq, beq_iff_eq] at hends
    obtain ⟨hlength, hlast⟩ := hends
    obtain ⟨front, hfront⟩ := List.getLast?_eq_some_iff.mp hlast
    have hne : front ≠ [] := by
      rintro rfl
      rw [hfront] at hlength
      exact absurd hlength (by decide)
    rw [hfront, List.dropLast_concat, orEmptyLine_of_ne_nil hne]
  · have hne : splitLines text ≠ [] := List.cons_ne_nil _ _
    rw [List.append_nil, orEmptyLine_of_ne_nil hne]

theorem lineBreak_ofText (text : Text) (language : Option Language) (name : Option Text) :
    (ofText text language name).lineBreak = (breaksOf text).head?.getD ['\n'] := by
  rw [← firstBreak?_eq_head?]
  rfl

theorem text_ofText (text : Text) (language : Option Language) (name : Option Text) :
    (ofText text language name).text =
      withBreaks ((breaksOf text).head?.getD ['\n']) text := by
  rw [text_eq (storable_ofText text language name).lines_ne_nil, writtenLines_ofText,
    joinWith_splitLines, lineBreak_ofText]

/-- Loading what a loaded document is written as gives the same document. -/
theorem ofText_text_ofText (text : Text) (language : Option Language) (name : Option Text) :
    ofText (ofText text language name).text language name = ofText text language name := by
  have hstorable := storable_ofText text language name
  obtain ⟨hlines, hends, hbreak⟩ := hstorable.reopen language name
  have hsame : (ofText (ofText text language name).text language name).lineBreak =
      (ofText text language name).lineBreak := by
    by_cases hbroken : ∃ c ∈ (ofText text language name).text, isLineBreak c = true
    · exact hbreak hbroken
    · -- no break is written, so there was none
      have hunbroken : (ofText text language name).text.Unbroken :=
        fun c hc => Bool.eq_false_iff.mpr fun hc' => hbroken ⟨c, hc, hc'⟩
      have hnone : firstBreak? (ofText text language name).text = none := by
        have happend := firstBreak?_append_of_unbroken hunbroken []
        rwa [List.append_nil] at happend
      have hmem := hstorable.lineBreak_mem
      rw [text_ofText] at hunbroken
      rw [lineBreak_ofText] at hmem
      rw [lineBreak_ofText, ← firstBreak?_eq_head?, hnone, lineBreak_ofText,
        breaksOf_eq_nil hmem hunbroken]
      rfl
  refine Document.mk.injEq .. |>.mpr ⟨hlines, rfl, rfl, rfl, hends, hsame⟩

/-- **A text that is loaded and written has its first break in the place of every break**, and is
otherwise the same. So it is exactly the same when all its breaks are, and loading it once more gives
the same document again. No line that is loaded holds a part of a line break. -/
theorem text_ofText_normalized (text : Text) (language : Option Language) (name : Option Text) :
    let loaded := ofText text language name
    loaded.text = withBreaks ((breaksOf text).head?.getD ['\n']) text ∧
    ((∀ a ∈ breaksOf text, ∀ b ∈ breaksOf text, a = b) → loaded.text = text) ∧
    ofText loaded.text language name = loaded ∧
    ∀ line ∈ loaded.lines, '\r' ∉ line ∧ '\n' ∉ line := by
  intro loaded
  refine ⟨text_ofText text language name, fun hsame => ?_, ofText_text_ofText text language name,
    fun line hline => ?_⟩
  · rw [text_ofText text language name]
    refine withBreaks_eq_self fun other hother => ?_
    obtain ⟨first, others, hbreaks⟩ := List.exists_cons_of_ne_nil (List.ne_nil_of_mem hother)
    rw [hbreaks, List.head?_cons, Option.getD_some]
    exact hsame other hother first (by rw [hbreaks]; exact List.mem_cons_self)
  · have hunbroken := (storable_ofText text language name).unbroken line hline
    exact ⟨fun hreturn => absurd (hunbroken _ hreturn) (by decide),
      fun hfeed => absurd (hunbroken _ hfeed) (by decide)⟩

/-- A carriage return in front of a carriage return with a line feed is a break of its own. -/
example : (ofText "a\r\r\nb\n".toList none none).text = "a\r\rb\r".toList := by decide

end Document

end SourceOutline
