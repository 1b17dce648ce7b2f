import SourceOutline.Proofs.Subtree

/-!
# Sections

The section of a line reaches to the next heading of level one. `Convention.SectionEnds` says without
a search which of its lines is the last that is not blank; it is the one found (`sectionLast_eq`).
-/

namespace SourceOutline

namespace Convention

variable {conv : Convention} {lines : List Text} {h k m n : Nat}

/-- Whether line `k` is below line `h` and no heading of level one comes in between, nor is line `k`
one itself. -/
structure InSection (conv : Convention) (lines : List Text) (h k : Nat) : Prop where
  lt : h < k
  lt_length : k < lines.length
  inner : ∀ i, h < i → i ≤ k → conv.headingLevel? lines i ≠ some 1

/-- Whether line `m` is the last one of a section that is not blank, or the section's first line when
there is none below it. -/
structure SectionEnds (conv : Convention) (lines : List Text) (h m : Nat) : Prop where
  content : m = h ∨
    conv.InSection lines h m ∧ ∃ line, lines[m]? = some line ∧ line.isBlankText = false
  blank : ∀ k, m < k → conv.InSection lines h k →
    ∀ line, lines[k]? = some line → line.isBlankText = true

theorem SectionEnds.unique (hm : conv.SectionEnds lines h m) (hn : conv.SectionEnds lines h n) :
    m = n :=
  Lines.last_unique (fun _ hinside => hinside.lt) hm.content hm.blank hn.content hn.blank

def sectionContent (conv : Convention) (lines : List Text) (h : Nat) : List (Int × Text) :=
  (Lines.numbered ((h : Int) + 1)
    ((lines.drop (h + 1)).takeWhile fun line => conv.level? line != some 1)).filter
      fun entry => !entry.2.isBlankText

theorem inSection_iff : conv.InSection lines h k ↔ h < k ∧
    k ≤ h + ((lines.drop (h + 1)).takeWhile fun line => conv.level? line != some 1).length := by
  constructor
  · rintro ⟨hlt, hlength, hinner⟩
    refine ⟨hlt, (Lines.le_length_takeWhile_drop hlt).mpr ⟨hlength, ?_⟩⟩
    intro i hlow hhigh line hline
    rw [bne_iff_ne]
    intro hlevel
    exact hinner i hlow hhigh (headingLevel?_eq_some.mpr ⟨line, hline, hlevel⟩)
  · rintro ⟨hlt, hle⟩
    obtain ⟨hlength, hpass⟩ := (Lines.le_length_takeWhile_drop hlt).mp hle
    refine ⟨hlt, hlength, fun i hlow hhigh hlevel => ?_⟩
    obtain ⟨line, hline, hlevel⟩ := headingLevel?_eq_some.mp hlevel
    exact bne_iff_ne.mp (hpass i hlow hhigh line hline) hlevel

theorem mem_sectionContent {entry : Int × Text} :
    entry ∈ conv.sectionContent lines h ↔
      ∃ (k : Nat) (line : Text), conv.InSection lines h k ∧ lines[k]? = some line ∧
        line.isBlankText = false ∧ entry = ((k : Int), line) := by
  unfold sectionContent
  rw [List.mem_filter, Lines.mem_numbered_takeWhile_drop, Bool.not_eq_true']
  constructor
  · rintro ⟨⟨k, line, hlt, hle, hline, rfl⟩, hcontent⟩
    exact ⟨k, line, inSection_iff.mpr ⟨hlt, hle⟩, hline, hcontent, rfl⟩
  · rintro ⟨k, line, hinside, hline, hcontent, rfl⟩
    obtain ⟨hlt, hle⟩ := inSection_iff.mp hinside
    exact ⟨⟨k, line, hlt, hle, hline, rfl⟩, hcontent⟩

/-- **The last line of a section that is not blank is found.** -/
theorem sectionLast_eq (hn : n < lines.length) :
    ∃ m : Nat, conv.sectionLast lines n = .ok (m : Int) ∧ conv.SectionEnds lines n m := by
  unfold sectionLast
  by_cases hend : (lines.length : Int) ≤ n + 1
  · rw [if_pos hend]
    refine ⟨n, congrArg Except.ok (by omega), Or.inl rfl, fun k hk hinside => ?_⟩
    have hlength := hinside.lt_length
    omega
  · rw [if_neg hend, Lines.numberedFrom_add_one, ok_bind]
    dsimp only
    rw [Lines.takeWhile_numbered fun line => conv.level? line != some 1, ← sectionContent]
    have hblank : ∀ k, conv.InSection lines n k → ∀ line, lines[k]? = some line →
        ((k : Int), line) ∉ conv.sectionContent lines n → line.isBlankText = true := by
      intro k hinside line hline hnot
      by_contra hcontent
      exact hnot (mem_sectionContent.mpr
        ⟨k, line, hinside, hline, Bool.eq_false_iff.mpr hcontent, rfl⟩)
    cases hlast : (conv.sectionContent lines n).getLast? with
    | none =>
        rw [List.getLast?_eq_none_iff] at hlast
        refine ⟨n, rfl, Or.inl rfl, fun k _ hinside line hline => ?_⟩
        exact hblank k hinside line hline (by simp [hlast])
    | some entry =>
        have hsorted := (Lines.pairwise_numbered ((n : Int) + 1)
          ((lines.drop (n + 1)).takeWhile fun line => conv.level? line != some 1)).filter
            fun entry => !entry.2.isBlankText
        obtain ⟨hmem, hmax⟩ := (Lines.getLast?_eq_some_iff hsorted).mp hlast
        obtain ⟨m, last, hinside, hget, hcontent, rfl⟩ := mem_sectionContent.mp hmem
        refine ⟨m, rfl, Or.inr ⟨hinside, last, hget, hcontent⟩, fun k hk hbelow line hline => ?_⟩
        refine hblank k hbelow line hline fun hlater => ?_
        have hle := hmax _ hlater
        dsimp only at hle
        omega

end Convention

end SourceOutline
