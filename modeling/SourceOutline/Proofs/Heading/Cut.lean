import SourceOutline.Proofs.Heading.Written

/-!
# The first piece of a heading line

When a line is split, its first piece stays behind, perhaps without blanks at the end. A piece that
holds the comment run of a heading is a heading on the same level, with a title and perhaps a
keyword of its own (`readHeading?_piece`); a piece of another line is neither a heading nor a closed
line (`level?_piece_eq_none`, `isClosedLine_of_piece`). Main statement: the keyword of a heading is
read from a piece that reaches to the end of the keyword, and from no shorter one
(`reads_keyword_iff`).
-/

namespace SourceOutline

variable {piece line mark : Text}

/-! ## Pieces of lines -/

theorem unindent_append (h : piece.unindent ≠ []) (tail : Text) :
    Text.unindent (piece ++ tail) = piece.unindent ++ tail := by
  unfold Text.unindent at h ⊢
  rw [List.dropWhile_append, if_neg (by simpa using h)]

theorem indentation_append (h : piece.unindent ≠ []) (tail : Text) :
    indentation (piece ++ tail) = indentation piece := by
  have hsplit := indentation_append_unindent (piece ++ tail)
  have hpiece := indentation_append_unindent piece
  rw [unindent_append h, ← List.append_assoc, List.append_cancel_right_eq] at hsplit
  exact List.append_cancel_right (hsplit.trans hpiece.symm)

theorem openingRun_append (h : (openingRun mark piece).length < piece.unindent.length)
    (tail : Text) : openingRun mark (piece ++ tail) = openingRun mark piece := by
  have hne : piece.unindent ≠ [] := List.ne_nil_of_length_pos (by omega)
  unfold openingRun at h ⊢
  rw [unindent_append hne]
  split
  · exact (List.takeWhile_append).trans (if_neg (by dsimp only at h; omega))
  · rfl

theorem length_openingRun_le (mark piece tail : Text) :
    (openingRun mark piece).length ≤ (openingRun mark (piece ++ tail)).length := by
  by_cases hne : piece.unindent = []
  · obtain ⟨rest, hrest⟩ := openingRun_isPrefix mark piece
    rw [hne, List.append_eq_nil_iff] at hrest
    rw [hrest.1]
    exact Nat.zero_le _
  · unfold openingRun
    rw [unindent_append hne]
    split
    · rw [List.takeWhile_append]
      split
      · rename_i hall
        rw [hall, List.length_append]
        omega
      · exact Nat.le_refl _
    · exact Nat.le_refl _

theorem closedLabel_prefix_append (h : closedLabel <+: piece.unindent) (tail : Text) :
    closedLabel <+: Text.unindent (piece ++ tail) := by
  have hne : piece.unindent ≠ [] := by
    intro hnil
    rw [hnil] at h
    exact absurd (List.prefix_nil.mp h) (by decide)
  rw [unindent_append hne]
  exact h.trans (List.prefix_append _ _)

/-- Only a closed line has a piece that is a closed line. -/
theorem isClosedLine_of_piece (hpiece : piece <+: line) (h : isClosedLine mark piece = true) :
    isClosedLine mark line = true := by
  obtain ⟨tail, rfl⟩ := hpiece
  unfold isClosedLine at h ⊢
  rw [Bool.and_eq_true, beq_iff_eq, run?_eq_some, List.isPrefixOf_iff_prefix] at h ⊢
  obtain ⟨⟨-, hrun⟩, hlabel⟩ := h
  -- the label stands behind the run, so the run ends inside the piece
  have hbehind : 2 < piece.unindent.length := by
    by_contra hshort
    rw [List.drop_eq_nil_of_le (by omega)] at hlabel
    exact absurd (List.prefix_nil.mp hlabel) (by decide)
  have hne : piece.unindent ≠ [] := List.ne_nil_of_length_pos (by omega)
  rw [openingRun_append (by omega), unindent_append hne,
    List.drop_append_of_le_length (by omega)]
  exact ⟨⟨by omega, hrun⟩, closedLabel_prefix_append hlabel tail⟩

namespace Convention

variable {conv : Convention} {below after : Option Text} {number : Int} {heading : Heading}
  {word : Text}

theorem level?_piece_eq_none (hpiece : piece <+: line) (hopen : conv.isClosed line = false)
    (h : conv.level? line = none) : conv.level? piece = none := by
  obtain ⟨tail, rfl⟩ := hpiece
  rw [Option.eq_none_iff_forall_not_mem]
  intro level hlevel
  obtain ⟨hpos, -, hbase, -⟩ := level?_eq_some.mp hlevel
  have hle := length_openingRun_le conv.mark piece tail
  rw [level?_eq_some.mpr ⟨by omega, hopen, by omega, rfl⟩] at h
  cases h

/-- A piece of a heading line falls into the parts of the line. -/
theorem exists_piece (h : heading.ReadFrom conv number line) (hpiece : piece <+: line)
    (hlong : heading.openingEnd ≤ piece.length) : ∃ mark, conv.mark = [mark] ∧
      openingOf heading.indentation mark heading.run ++ piece.drop heading.openingEnd = piece ∧
      piece.drop heading.openingEnd <+: line.drop heading.openingEnd ∧
      Separable heading.indentation mark heading.run (piece.drop heading.openingEnd) := by
  obtain ⟨mark, hmark, -, htake, hparts⟩ := h.exists_written
  obtain ⟨tail, rfl⟩ := hpiece
  rw [List.take_append_of_le_length hlong] at htake
  rw [List.drop_append_of_le_length hlong] at hparts ⊢
  refine ⟨mark, hmark, ?_, List.prefix_append _ _, hparts.indenting, hparts.visible,
    hparts.run_pos, ?_⟩
  · rw [← htake, List.take_append_drop]
  · intro c hc
    refine hparts.stops c ?_
    rw [List.head?_append, Option.mem_def.mp hc]
    rfl

/-- **A piece that holds the comment run of a heading is a heading on the same level.** -/
theorem readHeading?_piece (hread : conv.readHeading? number line below = some heading)
    (hpiece : piece <+: line) (hlong : heading.openingEnd ≤ piece.length)
    (after : Option Text) :
    conv.readHeading? number piece after = some
      { heading with
        keyword :=
          (splitKeyword conv.config.todoKeywords (piece.drop heading.openingEnd)).1
        title := (splitKeyword conv.config.todoKeywords (piece.drop heading.openingEnd)).2
        closed := after.bind (closedMoment? conv.mark) } := by
  have hfrom := readFrom_of_readHeading? hread
  obtain ⟨mark, hmark, hparts, hsuffix, hseparable⟩ := exists_piece hfrom hpiece hlong
  obtain ⟨-, hopen, hbase, -⟩ := level?_eq_some.mp hfrom.level_eq
  have hlevel := hfrom.level_eq_run
  rw [← hfrom.run_eq] at hbase
  -- a label in the piece would make a closed line of the whole line
  have hlabel : ¬(heading.run = 2 ∧
      closedLabel <+: Text.unindent (piece.drop heading.openingEnd)) := by
    intro hlabel
    have hclosed := (hseparable.isClosedLine_iff).mpr hlabel
    rw [hparts, ← hmark] at hclosed
    rw [isClosed, isClosedLine_of_piece hpiece hclosed] at hopen
    cases hopen
  have hwritten := readHeading?_written hmark hseparable hbase number after
  rw [hparts, if_neg hlabel, ← hlevel] at hwritten
  rw [hwritten, ← hfrom.line_eq]

end Convention

/-! ## Keywords in pieces -/

/-- A text with a keyword is its indentation, the keyword, and the rest, which is set off. -/
theorem exists_keyword_parts {keywords : List Text} {text word : Text}
    (h : (splitKeyword keywords text).1 = some word) :
    word ∈ keywords ∧ isCapitalWord word = true ∧
      ∃ rest, indentation text ++ word ++ rest = text ∧ ∀ c ∈ rest.head?, isIndenting c = true := by
  unfold splitKeyword at h
  dsimp only at h
  split at h
  · rename_i hsplit
    cases h
    simp only [Bool.and_eq_true, Bool.or_eq_true, List.contains_iff_mem] at hsplit
    obtain ⟨⟨hne, hmem⟩, hbehind⟩ := hsplit
    have hcapital : isCapitalWord (text.unindent.takeWhile isKeywordChar) = true := by
      unfold isCapitalWord
      rw [Bool.and_eq_true]
      exact ⟨hne, List.all_takeWhile⟩
    refine ⟨hmem, hcapital, text.unindent.dropWhile isKeywordChar, ?_, fun c hc => ?_⟩
    · rw [List.append_assoc, List.takeWhile_append_dropWhile, indentation_append_unindent]
    · cases hrest : text.unindent.dropWhile isKeywordChar with
      | nil => simp [hrest] at hc
      | cons first rest =>
          rw [hrest] at hbehind hc
          cases hc
          simpa using hbehind
  · cases h

/-- A piece of a text that reaches to the end of its keyword has the same keyword. -/
theorem splitKeyword_piece {keywords : List Text} {text word : Text}
    (h : (splitKeyword keywords text).1 = some word) (hpiece : piece <+: text)
    (hlong : (indentation text).length + word.length ≤ piece.length) :
    (splitKeyword keywords piece).1 = some word := by
  obtain ⟨hmem, hcapital, rest, hparts, hrest⟩ := exists_keyword_parts h
  obtain ⟨more, rfl⟩ : indentation text ++ word <+: piece :=
    List.prefix_of_prefix_length_le ⟨rest, hparts⟩ hpiece (by rwa [List.length_append])
  have hmore : more <+: rest := by
    rw [← List.prefix_append_right_inj, hparts]
    exact hpiece
  have hset : ∀ c ∈ more.head?, isIndenting c = true := by
    intro c hc
    obtain ⟨tail, rfl⟩ := hmore
    refine hrest c ?_
    rw [List.head?_append, Option.mem_def.mp hc]
    rfl
  rw [splitKeyword_word hmem hcapital hset
    (unindent_word (fun c hc => isIndenting_of_mem_indentation hc) hcapital more)]

theorem isBlank_of_isKeywordChar {c : Char} (h : isKeywordChar c = true) : isBlank c = false := by
  simp only [isKeywordChar, Bool.and_eq_true, decide_eq_true_eq] at h
  obtain ⟨hlow, hhigh⟩ := h
  have hlow : 65 ≤ c.toNat := hlow
  have hhigh : c.toNat ≤ 90 := hhigh
  simp only [isBlank, Bool.or_eq_false_iff, Bool.and_eq_false_iff, decide_eq_false_iff_not,
    beq_eq_false_iff_ne]
  omega

def Heading.keywordEnd (heading : Heading) (line : Text) : Nat :=
  heading.openingEnd + (SourceOutline.indentation (line.drop heading.openingEnd)).length +
    (heading.keyword.getD []).length

theorem Heading.ReadFrom.openingEnd_eq {conv : Convention} {heading other : Heading}
    {number number' : Int} {tail : Text} (h : heading.ReadFrom conv number (piece ++ tail))
    (hother : other.ReadFrom conv number' piece) (hinside : other.openingEnd < piece.length) :
    heading.openingEnd = other.openingEnd := by
  have hparts := congrArg List.length (indentation_append_unindent piece)
  rw [List.length_append] at hparts
  unfold openingEnd at hinside ⊢
  rw [hother.indentation_eq, hother.run_eq] at hinside ⊢
  rw [h.indentation_eq, h.run_eq, openingRun_append (by omega),
    indentation_append (List.ne_nil_of_length_pos (by omega))]

namespace Convention

variable {conv : Convention} {below after : Option Text} {number : Int} {heading : Heading}
  {word : Text}

/-- **Which pieces of a heading line keep its keyword**: those that reach to its end. -/
theorem reads_keyword_iff (hread : conv.readHeading? number line below = some heading)
    (hword : heading.keyword = some word) (hpiece : piece <+: line) (after : Option Text) :
    (∃ other, conv.readHeading? number piece after = some other ∧ other.keyword = some word) ↔
      heading.keywordEnd line ≤ piece.length := by
  have hfrom := readFrom_of_readHeading? hread
  unfold Heading.keywordEnd
  rw [hword, Option.getD_some]
  constructor
  · rintro ⟨other, hother, hkeyword⟩
    have hpart := readFrom_of_readHeading? hother
    rw [keyword_of_readHeading? hother] at hkeyword
    obtain ⟨-, hcapital, rest, hparts, -⟩ := exists_keyword_parts hkeyword
    have hlength := congrArg List.length hparts
    rw [List.length_append, List.length_append, List.length_drop] at hlength
    have hne := (forall_isKeywordChar hcapital).1
    have hpos := List.length_pos_iff.mpr hne
    obtain ⟨tail, rfl⟩ := hpiece
    have hvisible : Text.unindent (piece.drop other.openingEnd) ≠ [] := by
      rw [← hparts, unindent_word (fun c hc => isIndenting_of_mem_indentation hc) hcapital]
      exact List.append_ne_nil_of_left_ne_nil hne rest
    rw [hfrom.openingEnd_eq hpart (by omega), List.drop_append_of_le_length (by omega),
      indentation_append hvisible]
    omega
  · intro hlong
    obtain ⟨mark, -, -, hsuffix, -⟩ := exists_piece hfrom hpiece (by omega)
    rw [keyword_of_readHeading? hread] at hword
    refine ⟨_, readHeading?_piece hread hpiece (by omega) after, ?_⟩
    exact splitKeyword_piece hword hsuffix (by rw [List.length_drop]; omega)

end Convention

/-! ## What a split leaves of a heading line -/

def keptOf (line : Text) (column : Nat) : Text := Text.trimEnd (line.take column)

theorem keptOf_isPrefix (line : Text) (column : Nat) : keptOf line column <+: line :=
  (Text.trimEnd_isPrefix _).trans (List.take_prefix column line)

theorem Convention.isClosed_keptOf {conv : Convention} (h : conv.isClosed line = false)
    (column : Nat) : conv.isClosed (keptOf line column) = false := by
  rw [Bool.eq_false_iff] at h ⊢
  exact fun hclosed => h (isClosedLine_of_piece (keptOf_isPrefix line column) hclosed)

theorem length_keptOf_le (line : Text) (column : Nat) : (keptOf line column).length ≤ column := by
  have hle := (Text.trimEnd_isPrefix (line.take column)).length_le
  rw [List.length_take] at hle
  unfold keptOf
  omega

/-- A piece with a visible end is left when the line is split behind it. -/
theorem length_le_keptOf {last : Char} {column : Nat} (hpiece : piece <+: line)
    (hlast : piece.getLast? = some last) (hvisible : isBlank last = false)
    (hcolumn : piece.length ≤ column) : piece.length ≤ (keptOf line column).length := by
  have hne : piece ≠ [] := by
    rintro rfl
    cases hlast
  have hpos := List.length_pos_iff.mpr hne
  have hget : (line.take column)[piece.length - 1]? = some last := by
    rw [List.getElem?_take_of_lt (by omega), ← hlast, List.getLast?_eq_getElem?]
    exact (List.prefix_iff_getElem?.mp hpiece _ (by omega)).trans
      (List.getElem?_eq_getElem (by omega)).symm
  have := Text.lt_length_trimEnd hget hvisible
  unfold keptOf
  omega

namespace Heading.ReadFrom

variable {heading : Heading} {conv : Convention} {number : Int} {column : Nat}

/-- The comment run is left, if the comment character is visible. -/
theorem openingEnd_le_keptOf {mark : Char} (h : heading.ReadFrom conv number line)
    (hmark : conv.mark = [mark]) (hvisible : isBlank mark = false)
    (hcolumn : heading.openingEnd ≤ column) :
    heading.openingEnd ≤ (keptOf line column).length := by
  obtain ⟨other, hother, -, htake, -⟩ := h.exists_written
  obtain rfl : other = mark := by simpa using hother.symm.trans hmark
  have hrun := h.run_pos
  have hlength : (line.take heading.openingEnd).length = heading.openingEnd := by
    rw [List.length_take, Nat.min_eq_left h.openingEnd_le]
  have hlast : (line.take heading.openingEnd).getLast? = some other := by
    rw [htake, openingOf, repeatMark_single, List.getLast?_append, List.getLast?_replicate,
      if_neg (by omega)]
    rfl
  rw [← hlength] at hcolumn
  calc heading.openingEnd = (line.take heading.openingEnd).length := hlength.symm
    _ ≤ (keptOf line column).length :=
      length_le_keptOf (List.take_prefix _ _) hlast hvisible hcolumn

end Heading.ReadFrom

/-- The keyword of a heading is left when the line is split behind it. -/
theorem Convention.keywordEnd_le_keptOf_iff {conv : Convention} {heading : Heading}
    {number : Int} {below : Option Text} {word : Text} {column : Nat}
    (hread : conv.readHeading? number line below = some heading)
    (hword : heading.keyword = some word) :
    heading.keywordEnd line ≤ (keptOf line column).length ↔ heading.keywordEnd line ≤ column := by
  have hfrom := readFrom_of_readHeading? hread
  constructor
  · intro hle
    exact Nat.le_trans hle (length_keptOf_le line column)
  · intro hcolumn
    rw [keyword_of_readHeading? hread] at hword
    obtain ⟨-, hcapital, rest, hparts, -⟩ := exists_keyword_parts hword
    obtain ⟨hne, hchars⟩ := forall_isKeywordChar hcapital
    rw [← keyword_of_readHeading? hread] at hword
    have hpiece : line.take heading.openingEnd ++
        (indentation (line.drop heading.openingEnd) ++ word) <+: line := by
      refine ⟨rest, ?_⟩
      rw [List.append_assoc, hparts, List.take_append_drop]
    have hlength : (line.take heading.openingEnd ++
        (indentation (line.drop heading.openingEnd) ++ word)).length =
          heading.keywordEnd line := by
      unfold Heading.keywordEnd
      rw [hword, Option.getD_some, List.length_append, List.length_append, List.length_take,
        Nat.min_eq_left hfrom.openingEnd_le, Nat.add_assoc]
    have hlast : (line.take heading.openingEnd ++
        (indentation (line.drop heading.openingEnd) ++ word)).getLast? =
          some (word.getLast hne) := by
      rw [← List.append_assoc, List.getLast?_append, List.getLast?_eq_getLast_of_ne_nil hne]
      rfl
    rw [← hlength]
    exact length_le_keptOf hpiece hlast
      (isBlank_of_isKeywordChar (hchars _ (List.getLast_mem hne))) (by rwa [hlength])

end SourceOutline
