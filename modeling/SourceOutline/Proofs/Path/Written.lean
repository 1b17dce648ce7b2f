import SourceOutline.FileTree.Basic

/-!
# How paths are written

A path that has been read has one of three roots, and components that are neither empty nor a single
dot and have no slash in them (`PathName.Normal`). Main statements: the operating system follows just
these components when it is given the written path (`steps_toText`), and the path without its last
components is written as the beginning of the path (`toText_isPrefix`).
-/

namespace SourceOutline

namespace Text

variable {separator : Char} {t piece : Text} {pieces : List Text}

theorem splitAtChar_of_not_mem (h : separator ∉ piece) : splitAtChar separator piece = [piece] := by
  induction piece with
  | nil => rfl
  | cons c rest ih =>
      obtain ⟨hc, hrest⟩ : separator ≠ c ∧ separator ∉ rest := by simpa using h
      have hne : (c == separator) = false := beq_eq_false_iff_ne.mpr (Ne.symm hc)
      simp [splitAtChar, hne, ih hrest]

theorem splitAtChar_append (h : separator ∉ piece) (t : Text) :
    splitAtChar separator (piece ++ separator :: t) = piece :: splitAtChar separator t := by
  induction piece with
  | nil => simp [splitAtChar]
  | cons c rest ih =>
      obtain ⟨hc, hrest⟩ : separator ≠ c ∧ separator ∉ rest := by simpa using h
      have hne : (c == separator) = false := beq_eq_false_iff_ne.mpr (Ne.symm hc)
      simp [splitAtChar, hne, ih hrest]

theorem not_mem_of_mem_splitAtChar (h : piece ∈ splitAtChar separator t) : separator ∉ piece := by
  induction t generalizing piece with
  | nil =>
      obtain rfl := List.mem_singleton.mp h
      exact List.not_mem_nil
  | cons c rest ih =>
      unfold splitAtChar at h
      split at h
      · obtain rfl | h := List.mem_cons.mp h
        · exact List.not_mem_nil
        · exact ih h
      · rename_i hc
        have hne : separator ≠ c := fun hsame => hc (beq_iff_eq.mpr hsame.symm)
        split at h
        · obtain rfl := List.mem_singleton.mp h
          exact List.not_mem_cons_of_ne_of_not_mem hne List.not_mem_nil
        · rename_i first others hsplit
          rw [hsplit] at ih
          obtain rfl | h := List.mem_cons.mp h
          · exact List.not_mem_cons_of_ne_of_not_mem hne (ih List.mem_cons_self)
          · exact ih (List.mem_cons_of_mem first h)

theorem splitAtChar_joinWith (hpieces : pieces ≠ []) (h : ∀ piece ∈ pieces, separator ∉ piece) :
    splitAtChar separator (joinWith [separator] pieces) = pieces := by
  unfold joinWith
  induction pieces with
  | nil => exact absurd rfl hpieces
  | cons piece rest ih =>
      obtain ⟨hpiece, hrest⟩ := List.forall_mem_cons.mp h
      cases rest with
      | nil => rw [List.intercalate_singleton, splitAtChar_of_not_mem hpiece]
      | cons next rest =>
          rw [List.intercalate_cons_cons, List.append_assoc, List.singleton_append,
            splitAtChar_append hpiece, ih (List.cons_ne_nil next rest) hrest]

/-- The pieces in front are joined to the beginning of what all pieces are joined to. -/
theorem joinWith_isPrefix (separator : Text) (front back : List Text) :
    joinWith separator front <+: joinWith separator (front ++ back) := by
  unfold joinWith
  induction front with
  | nil => exact List.nil_prefix
  | cons piece rest ih =>
      cases rest with
      | nil =>
          rw [List.intercalate_singleton]
          cases back with
          | nil =>
              have hsame : List.intercalate separator ([piece] ++ []) = piece := by
                rw [List.append_nil, List.intercalate_singleton]
              exact (congrArg (piece <+: ·) hsame).mpr List.prefix_rfl
          | cons next back =>
              rw [List.singleton_append, List.intercalate_cons_cons, List.append_assoc]
              exact List.prefix_append _ _
      | cons next rest =>
          rw [List.cons_append, List.cons_append, List.intercalate_cons_cons,
            List.intercalate_cons_cons]
          exact (List.prefix_append_right_inj _).mpr ih

theorem exists_joinWith_cons (separator piece : Text) (rest : List Text) :
    ∃ tail, joinWith separator (piece :: rest) = piece ++ tail := by
  obtain ⟨tail, htail⟩ := joinWith_isPrefix separator [piece] rest
  unfold joinWith at htail ⊢
  rw [List.intercalate_singleton] at htail
  exact ⟨tail, htail.symm⟩

theorem getLast?_joinWith {last : Text} (separator : Text) (front : List Text) (h : last ≠ []) :
    (joinWith separator (front ++ [last])).getLast? = last.getLast? := by
  unfold joinWith
  induction front with
  | nil => rw [List.nil_append, List.intercalate_singleton]
  | cons piece rest ih =>
      obtain ⟨next, others, hnext⟩ := List.exists_cons_of_ne_nil
        (List.append_ne_nil_of_right_ne_nil rest (List.cons_ne_nil last []))
      rw [List.cons_append, hnext, List.intercalate_cons_cons, ← hnext, List.getLast?_append, ih]
      rw [List.getLast?_eq_some_getLast h, Option.some_or]

end Text

structure IsPart (part : Text) : Prop where
  ne_nil : part ≠ []
  unslashed : '/' ∉ part
  ne_dot : part ≠ ['.']

namespace PathName

/-- Whether a path is as paths are read. -/
structure Normal (p : PathName) : Prop where
  root : p.root = [] ∨ p.root = ['/'] ∨ p.root = ['/', '/']
  parts : ∀ part ∈ p.parts, IsPart part

variable {p q : PathName}

theorem normal_ofText (t : Text) : (ofText t).Normal := by
  refine ⟨?_, fun part hpart => ?_⟩
  · change rootOf t = [] ∨ rootOf t = ['/'] ∨ rootOf t = ['/', '/']
    unfold rootOf
    split <;> simp
  · obtain ⟨hsplit, hkept⟩ := List.mem_filter.mp hpart
    rw [Bool.and_eq_true, Bool.not_eq_true', List.isEmpty_eq_false_iff, bne_iff_ne] at hkept
    exact ⟨hkept.1, Text.not_mem_of_mem_splitAtChar hsplit, hkept.2⟩

theorem Normal.append (hp : p.Normal) (hq : q.Normal) : (p.append q).Normal := by
  unfold PathName.append
  split
  · exact hq
  · refine ⟨hp.root, fun part hpart => ?_⟩
    obtain hpart | hpart := List.mem_append.mp hpart
    · exact hp.parts part hpart
    · exact hq.parts part hpart

theorem Normal.child {part : Text} (hp : p.Normal) (hpart : IsPart part) :
    (p.child part).Normal := by
  refine ⟨hp.root, fun other hother => ?_⟩
  obtain hother | hother := List.mem_append.mp hother
  · exact hp.parts other hother
  · rw [List.mem_singleton.mp hother]
    exact hpart

theorem isAbsolute_eq_false : p.isAbsolute = false ↔ p.root = [] := by
  simp [isAbsolute]

theorem toText_eq (h : p.root ≠ [] ∨ p.parts ≠ []) :
    p.toText = p.root ++ Text.joinWith ['/'] p.parts := by
  unfold toText
  split
  · rename_i hroot hparts
    obtain h | h := h
    · exact absurd hroot h
    · exact absurd hparts h
  · rfl

theorem toText_of_no_parts (hroot : p.root = [] ∨ p.root = ['/'] ∨ p.root = ['/', '/'])
    (h : p.parts = []) : p.toText = ['.'] ∨ p.toText = ['/'] ∨ p.toText = ['/', '/'] := by
  obtain ⟨root, parts⟩ := p
  obtain rfl := h
  obtain rfl | rfl | rfl := hroot
  · exact Or.inl rfl
  · exact Or.inr (Or.inl rfl)
  · exact Or.inr (Or.inr rfl)

theorem toText_isPrefix {front back : List Text} (hfront : front ≠ []) (hp : p.parts = front ++ back) :
    PathName.toText { p with parts := front } <+: p.toText := by
  have hparts : p.parts ≠ [] := by
    rw [hp]
    exact List.append_ne_nil_of_left_ne_nil hfront back
  rw [toText_eq (Or.inr hfront), toText_eq (Or.inr hparts), hp]
  exact (List.prefix_append_right_inj _).mpr (Text.joinWith_isPrefix _ front back)

/-- A written path starts with a slash if it is absolute. -/
theorem head?_toText (h : p.Normal) : (p.toText.head? == some '/') = p.isAbsolute := by
  cases habsolute : p.isAbsolute with
  | false =>
      rw [isAbsolute_eq_false] at habsolute
      cases hparts : p.parts with
      | nil =>
          unfold toText
          rw [habsolute, hparts]
          rfl
      | cons part rest =>
          have hpart := h.parts part (hparts ▸ List.mem_cons_self)
          obtain ⟨c, others, hothers⟩ := List.exists_cons_of_ne_nil hpart.ne_nil
          obtain ⟨tail, htail⟩ := Text.exists_joinWith_cons ['/'] part rest
          rw [toText_eq (Or.inr (hparts ▸ List.cons_ne_nil part rest)), habsolute, hparts,
            List.nil_append, htail, hothers, beq_eq_false_iff_ne]
          rintro ⟨⟩
          exact hpart.unslashed (hothers ▸ List.mem_cons_self)
  | true =>
      have hroot : p.root ≠ [] := fun hnil => by simp [isAbsolute, hnil] at habsolute
      rw [toText_eq (Or.inl hroot)]
      obtain hnil | hone | htwo := h.root
      · exact absurd hnil hroot
      · rw [hone]
        rfl
      · rw [htwo]
        rfl

theorem toText_ne_nil (h : p.Normal) : p.toText ≠ [] := by
  by_cases hparts : p.parts = []
  · obtain htext | htext | htext := toText_of_no_parts h.root hparts <;> simp [htext]
  · obtain ⟨part, rest, hrest⟩ := List.exists_cons_of_ne_nil hparts
    have hpart := h.parts part (hrest ▸ List.mem_cons_self)
    obtain ⟨tail, htail⟩ := Text.exists_joinWith_cons ['/'] part rest
    rw [toText_eq (Or.inr hparts), hrest, htail]
    simp [hpart.ne_nil]

end PathName

namespace FileTree

variable {p : PathName}

theorem steps_toText_of_no_parts (h : p.Normal) (hparts : p.parts = []) :
    steps p.toText = [['.']] ∨ steps p.toText = [[]] := by
  obtain htext | htext | htext := PathName.toText_of_no_parts h.root hparts <;>
    rw [htext] <;> decide

/-- Following a written path is following its components. -/
theorem steps_toText (h : p.Normal) (hparts : p.parts ≠ []) : steps p.toText = p.parts := by
  obtain ⟨root, parts⟩ := p
  have hsplit : (PathName.toText { root, parts }).splitAtChar '/' =
      (root.map fun _ => []) ++ parts := by
    rw [PathName.toText_eq (Or.inr hparts)]
    have hpieces := Text.splitAtChar_joinWith hparts fun part hpart => (h.parts part hpart).unslashed
    obtain hroot | hroot | hroot := h.root
    · obtain rfl : root = [] := hroot
      exact hpieces
    · obtain rfl : root = ['/'] := hroot
      exact congrArg (List.cons []) hpieces
    · obtain rfl : root = ['/', '/'] := hroot
      exact congrArg (fun pieces => [] :: [] :: pieces) hpieces
  have hfilter : ((PathName.toText { root, parts }).splitAtChar '/').filter
      (fun part => !part.isEmpty) = parts := by
    rw [hsplit, List.filter_append]
    have hroot : (root.map fun _ => ([] : Text)).filter (fun part => !part.isEmpty) = [] := by
      simp
    rw [hroot, List.nil_append, List.filter_eq_self]
    intro part hpart
    simpa using (h.parts part hpart).ne_nil
  have hlast : ((PathName.toText { root, parts }).getLast? == some '/') = false := by
    have hmem := h.parts (parts.getLast hparts) (List.getLast_mem hparts)
    have hend := Text.getLast?_joinWith ['/'] parts.dropLast hmem.ne_nil
    rw [List.dropLast_concat_getLast] at hend
    rw [PathName.toText_eq (Or.inr hparts), List.getLast?_append, hend]
    rw [List.getLast?_eq_some_getLast hmem.ne_nil, Option.some_or, beq_eq_false_iff_ne]
    exact fun hslash => hmem.unslashed (Option.some.inj hslash ▸ List.getLast_mem hmem.ne_nil)
  unfold steps
  dsimp only
  rw [hfilter, hlast, if_neg Bool.false_ne_true]

end FileTree

end SourceOutline
