import SourceOutline.Proofs.Subtree
import SourceOutline.Session

/-!
# Paths of ancestors

A heading's *ancestor path* leads from an outermost heading over parents down to the heading. Going
down an outline, the path of the heading before is cut where it comes to the level of the next one
(`AncestorPath.next`), and so is the list of titles that labels are made of, which has an entry for
every level (`Shows.next`). Main statement: a label is made of the titles on the ancestor path
(`exists_path_of_mem_labels`).
-/

namespace SourceOutline

namespace Convention

variable {conv : Convention} {lines : List Text} {i k n p count : Nat} {level : Int}
  {heading : Heading} {chain chain' : List Heading} {path : List Text}

/-! ## Paths -/

/-- The path from an outermost heading over parents down to the heading on some line. -/
inductive AncestorPath (conv : Convention) (lines : List Text) : Nat → List Heading → Prop
  | outermost {k : Nat} {heading : Heading} (hon : conv.headingOn? lines k = some heading)
      (hnone : ∀ p, ¬conv.Parent lines p k) : AncestorPath conv lines k [heading]
  | child {p k : Nat} {chain : List Heading} {heading : Heading}
      (hon : conv.headingOn? lines k = some heading) (hparent : conv.Parent lines p k)
      (hchain : AncestorPath conv lines p chain) : AncestorPath conv lines k (chain ++ [heading])

theorem readFrom_of_headingOn? (hon : conv.headingOn? lines k = some heading) :
    ∃ line, lines[k]? = some line ∧ heading.ReadFrom conv k line := by
  obtain ⟨line, hline, hread⟩ := Option.bind_eq_some_iff.mp hon
  exact ⟨line, hline, readFrom_of_readHeading? hread⟩

theorem headingLevel?_of_headingOn? (hon : conv.headingOn? lines k = some heading) :
    conv.headingLevel? lines k = some heading.level := by
  obtain ⟨line, hline, hfrom⟩ := readFrom_of_headingOn? hon
  exact headingLevel?_eq_some.mpr ⟨line, hline, hfrom.level_eq⟩

theorem exists_headingOn? (hlevel : conv.headingLevel? lines k = some level) :
    ∃ heading, conv.headingOn? lines k = some heading := by
  obtain ⟨line, hline, hlevel⟩ := headingLevel?_eq_some.mp hlevel
  rw [headingOn?_of_get hline]
  cases hread : conv.readHeading? k line lines[k + 1]? with
  | some heading => exact ⟨heading, rfl⟩
  | none =>
      rw [readHeading?_eq_none.mp hread] at hlevel
      cases hlevel

theorem AncestorPath.exists_last (h : conv.AncestorPath lines k chain) :
    ∃ heading, conv.headingOn? lines k = some heading := by
  cases h with
  | outermost hon => exact ⟨_, hon⟩
  | child hon => exact ⟨_, hon⟩

/-- A heading has one ancestor path. -/
theorem AncestorPath.unique (h : conv.AncestorPath lines k chain)
    (h' : conv.AncestorPath lines k chain') : chain = chain' := by
  induction h generalizing chain' with
  | outermost hon hnone =>
      cases h' with
      | outermost hon' => rw [Option.some.inj (hon.symm.trans hon')]
      | child hon' hparent => exact absurd hparent (hnone _)
  | child hon hparent _ ih =>
      cases h' with
      | outermost hon' hnone => exact absurd hparent (hnone _)
      | child hon' hparent' hchain' =>
          obtain rfl := hparent.unique hparent'
          rw [ih hchain', Option.some.inj (hon.symm.trans hon')]

/-- No heading on an ancestor path is deeper than the last. -/
theorem AncestorPath.level_le (h : conv.AncestorPath lines k chain)
    (hon : conv.headingOn? lines k = some heading) :
    ∀ ancestor ∈ chain, ancestor.level ≤ heading.level := by
  induction h generalizing heading with
  | outermost hon' =>
      intro ancestor hmem
      obtain rfl := Option.some.inj (hon'.symm.trans hon)
      exact Int.le_of_eq (congrArg Heading.level (List.mem_singleton.mp hmem))
  | child hon' hparent hchain ih =>
      intro ancestor hmem
      obtain rfl := Option.some.inj (hon'.symm.trans hon)
      rcases List.mem_append.mp hmem with habove | hself
      · obtain ⟨upper, lower, hupper, hlower, -, hlt, -⟩ := hparent
        obtain ⟨parent, hp⟩ := hchain.exists_last
        have hle := ih hp ancestor habove
        rw [headingLevel?_of_headingOn? hp] at hupper
        rw [headingLevel?_of_headingOn? hon'] at hlower
        cases hupper
        cases hlower
        omega
      · exact Int.le_of_eq (congrArg Heading.level (List.mem_singleton.mp hself))

theorem AncestorPath.next_of_lt {last : Heading} (h : conv.AncestorPath lines p chain)
    (hlast : conv.headingOn? lines p = some last) (hon : conv.headingOn? lines k = some heading)
    (hpk : p < k) (hbetween : ∀ i, p < i → i < k → ∀ other,
      conv.headingLevel? lines i = some other → heading.level ≤ other)
    (hlt : last.level < heading.level) :
    conv.AncestorPath lines k
      (chain.filter (fun ancestor => ancestor.level < heading.level) ++ [heading]) := by
  have hall : ∀ ancestor ∈ chain, decide (ancestor.level < heading.level) = true := by
    intro ancestor hmem
    have hle := h.level_le hlast ancestor hmem
    rw [decide_eq_true_eq]
    omega
  rw [List.filter_eq_self.mpr hall]
  exact .child hon ⟨last.level, heading.level, headingLevel?_of_headingOn? hlast,
    headingLevel?_of_headingOn? hon, hpk, hlt, hbetween⟩ h

/-- **The ancestor path of the next heading** keeps those headings on the path of one above it that
are less deep, when no heading in between is. -/
theorem AncestorPath.next (h : conv.AncestorPath lines p chain)
    (hon : conv.headingOn? lines k = some heading) (hpk : p < k)
    (hbetween : ∀ i, p < i → i < k → ∀ other, conv.headingLevel? lines i = some other →
      heading.level ≤ other) :
    conv.AncestorPath lines k
      (chain.filter (fun ancestor => ancestor.level < heading.level) ++ [heading]) := by
  have hlevel := headingLevel?_of_headingOn? hon
  induction h with
  | @outermost p last hlast hnone =>
      by_cases hlt : last.level < heading.level
      · exact (AncestorPath.outermost hlast hnone).next_of_lt hlast hon hpk hbetween hlt
      · rw [List.filter_cons_of_neg (by simpa using hlt)]
        exact .outermost hon (not_parent_of_le (headingLevel?_of_headingOn? hlast) hlevel hpk
          (Int.not_lt.mp hlt) hnone hbetween)
  | @child q p above last hlast hparent hchain ih =>
      by_cases hlt : last.level < heading.level
      · exact (AncestorPath.child hlast hparent hchain).next_of_lt hlast hon hpk hbetween hlt
      · rw [List.filter_append, List.filter_cons_of_neg (by simpa using hlt), List.filter_nil,
          List.append_nil]
        have hlastLevel := headingLevel?_of_headingOn? hlast
        obtain ⟨upper, lower, -, hlower, hqp, -, hinner⟩ := hparent
        obtain rfl := Option.some.inj (hlower.symm.trans hlastLevel)
        -- all headings below the parent of the last one are at least as deep as the new heading
        refine ih (by omega) fun i hqi hik other hother => ?_
        rcases Nat.lt_trichotomy i p with habove | rfl | hbelow
        · have := hinner i hqi habove other hother
          omega
        · rw [hlastLevel] at hother
          cases hother
          omega
        · exact hbetween i hbelow hik other hother

/-- The ancestor path of the last heading above a line, empty when there is none. -/
inductive PathAbove (conv : Convention) (lines : List Text) (k : Nat) : List Heading → Prop
  | first (hnone : ∀ i < k, conv.headingOn? lines i = none) : PathAbove conv lines k []
  | behind {p : Nat} {chain : List Heading} (hpk : p < k) (hchain : conv.AncestorPath lines p chain)
      (hbetween : ∀ i, p < i → i < k → conv.headingOn? lines i = none) :
      PathAbove conv lines k chain

theorem PathAbove.succ (h : conv.PathAbove lines k chain)
    (hplain : conv.headingOn? lines k = none) : conv.PathAbove lines (k + 1) chain := by
  cases h with
  | first hnone =>
      refine .first fun i hi => ?_
      rcases Nat.lt_succ_iff_lt_or_eq.mp hi with hlt | rfl
      · exact hnone i hlt
      · exact hplain
  | behind hpk hchain hbetween =>
      refine .behind (Nat.lt_succ_of_lt hpk) hchain fun i hpi hi => ?_
      rcases Nat.lt_succ_iff_lt_or_eq.mp hi with hlt | rfl
      · exact hbetween i hpi hlt
      · exact hplain

theorem PathAbove.ancestorPath (h : conv.PathAbove lines k chain)
    (hon : conv.headingOn? lines k = some heading) :
    conv.AncestorPath lines k
      (chain.filter (fun ancestor => ancestor.level < heading.level) ++ [heading]) := by
  have hplain : ∀ {i other}, conv.headingOn? lines i = none →
      conv.headingLevel? lines i ≠ some other := by
    intro i other hnone hother
    obtain ⟨found, hfound⟩ := exists_headingOn? hother
    rw [hnone] at hfound
    cases hfound
  cases h with
  | first hnone =>
      refine .outermost hon fun p hparent => ?_
      obtain ⟨upper, -, hupper, -, hpk, -⟩ := hparent
      exact hplain (hnone p hpk) hupper
  | behind hpk hchain hbetween =>
      exact hchain.next hon hpk fun i hpi hik other hother =>
        absurd hother (hplain (hbetween i hpi hik))

/-! ## Titles -/

def named (titles : List Text) : List Text := titles.filter fun title => !title.isEmpty

/-- The titles on a path from the outermost heading down, without the empty ones, between slashes. -/
def pathLabel (chain : List Heading) : Text :=
  Text.joinWith ['/'] (named (chain.map Heading.title))

/-- Whether a list with an entry for every level shows the titles on a path, and empty ones for the
levels that the path skips. -/
def Shows (path : List Text) (chain : List Heading) : Prop :=
  ∀ depth : Nat, named (path.take depth) =
    named ((chain.filter fun ancestor => ancestor.level ≤ (depth : Int)).map Heading.title)

/-- What becomes of the list of titles at the next heading. -/
def nextTitles (path : List Text) (heading : Heading) : List Text :=
  path.take (heading.level - 1).toNat ++
    List.replicate ((heading.level - 1).toNat - (path.take (heading.level - 1).toNat).length) [] ++
      [heading.title]

theorem named_append (first second : List Text) :
    named (first ++ second) = named first ++ named second :=
  List.filter_append first second

theorem named_replicate (count : Nat) : named (List.replicate count []) = [] := by
  simp [named]

theorem labels_cons (path : List Text) (heading : Heading) (rest : List Heading) :
    labels.go path (heading :: rest) =
      (heading.line, Text.joinWith ['/'] (named (nextTitles path heading))) ::
        labels.go (nextTitles path heading) rest :=
  rfl

theorem Shows.named_nextTitles (h : Shows path chain) (hpos : 1 ≤ heading.level) :
    named (nextTitles path heading) =
      named ((chain.filter (fun ancestor => ancestor.level < heading.level) ++
        [heading]).map Heading.title) := by
  have habove := h (heading.level - 1).toNat
  have hsame : (chain.filter fun ancestor => ancestor.level ≤ ((heading.level - 1).toNat : Int)) =
      chain.filter fun ancestor => ancestor.level < heading.level := by
    refine List.filter_congr fun ancestor _ => ?_
    rw [decide_eq_decide]
    omega
  rw [nextTitles, named_append, named_append, named_replicate, List.append_nil, habove, hsame,
    List.map_append, named_append]
  rfl

theorem length_nextTitles (path : List Text) (heading : Heading) :
    (nextTitles path heading).length = (heading.level - 1).toNat + 1 := by
  have hle := List.length_take_le (heading.level - 1).toNat path
  rw [nextTitles, List.length_append, List.length_append, List.length_replicate,
    List.length_singleton]
  omega

theorem take_nextTitles {depth : Nat} (h : depth ≤ (heading.level - 1).toNat) :
    named ((nextTitles path heading).take depth) = named (path.take depth) := by
  unfold nextTitles
  rw [List.take_append_of_le_length (by simp; omega), List.take_append, List.take_take,
    Nat.min_eq_left h, named_append, List.take_replicate, named_replicate, List.append_nil]

/-- **At the next heading the list of titles still shows the path.** -/
theorem Shows.next (h : Shows path chain) (hpos : 1 ≤ heading.level) :
    Shows (nextTitles path heading)
      (chain.filter (fun ancestor => ancestor.level < heading.level) ++ [heading]) := by
  intro depth
  by_cases hdepth : heading.level ≤ (depth : Int)
  · have hall : ∀ ancestor ∈ chain.filter (fun ancestor => ancestor.level < heading.level) ++
        [heading], decide (ancestor.level ≤ (depth : Int)) = true := by
      intro ancestor hmem
      rw [decide_eq_true_eq]
      rcases List.mem_append.mp hmem with hkept | hself
      · have hlt := (List.mem_filter.mp hkept).2
        rw [decide_eq_true_eq] at hlt
        omega
      · rwa [List.mem_singleton.mp hself]
    rw [List.filter_eq_self.mpr hall, List.take_of_length_le, h.named_nextTitles hpos]
    rw [length_nextTitles]
    omega
  · have hkept : ((chain.filter (fun ancestor => ancestor.level < heading.level) ++
        [heading]).filter fun ancestor => ancestor.level ≤ (depth : Int)) =
        chain.filter fun ancestor => ancestor.level ≤ (depth : Int) := by
      rw [List.filter_append, List.filter_cons_of_neg (by simpa using hdepth), List.filter_nil,
        List.append_nil, List.filter_filter]
      refine List.filter_congr fun ancestor _ => ?_
      rw [← Bool.decide_and, decide_eq_decide]
      omega
    rw [take_nextTitles (by omega), hkept]
    exact h depth

/-! ## Labels -/

/-- Continuing from some line with titles that show the path above it, each label comes from an
ancestor path. -/
theorem exists_path_of_mem_go {entry : Int × Text} (hshows : Shows path chain)
    (habove : conv.PathAbove lines k chain)
    (hentry : entry ∈ labels.go path ((List.range' k count).filterMap (conv.headingOn? lines))) :
    ∃ n chain, conv.AncestorPath lines n chain ∧ entry = ((n : Int), pathLabel chain) := by
  induction count generalizing k path chain with
  | zero => cases hentry
  | succ count ih =>
      rw [List.range'_succ, List.filterMap_cons] at hentry
      cases hon : conv.headingOn? lines k with
      | none =>
          rw [hon] at hentry
          exact ih hshows (habove.succ hon) hentry
      | some heading =>
          obtain ⟨line, -, hfrom⟩ := readFrom_of_headingOn? hon
          have hpath := habove.ancestorPath hon
          rw [hon] at hentry
          dsimp only at hentry
          rw [labels_cons] at hentry
          rcases List.mem_cons.mp hentry with rfl | hlater
          · refine ⟨k, _, hpath, ?_⟩
            rw [hfrom.line_eq, hshows.named_nextTitles hfrom.level_pos]
            rfl
          · refine ih (hshows.next hfrom.level_pos) (.behind (Nat.lt_succ_self k) hpath ?_) hlater
            intro i hki hik
            omega

/-- **Every label comes from an ancestor path.** -/
theorem exists_path_of_mem_labels {entry : Int × Text} (hentry : entry ∈ conv.labels lines) :
    ∃ n chain, conv.AncestorPath lines n chain ∧ entry = ((n : Int), pathLabel chain) := by
  rw [labels, headings_eq] at hentry
  exact exists_path_of_mem_go (fun depth => by rw [List.take_nil]; rfl) (.first fun i hi => by omega)
    hentry

theorem map_fst_labels (path : List Text) (headings : List Heading) :
    (labels.go path headings).map Prod.fst = headings.map Heading.line := by
  induction headings generalizing path with
  | nil => rfl
  | cons heading rest ih => rw [labels_cons, List.map_cons, List.map_cons, ih]

/-- Each heading has a label, and no other line has. -/
theorem exists_label_iff : (∃ label, ((n : Int), label) ∈ conv.labels lines) ↔
    ∃ level, conv.headingLevel? lines n = some level := by
  have hfst : (∃ label, ((n : Int), label) ∈ conv.labels lines) ↔
      (n : Int) ∈ (conv.headings lines).map Heading.line := by
    rw [← map_fst_labels [] (conv.headings lines), List.mem_map]
    constructor
    · rintro ⟨label, hmem⟩
      exact ⟨_, hmem, rfl⟩
    · rintro ⟨⟨number, label⟩, hmem, rfl⟩
      exact ⟨label, hmem⟩
  rw [hfst, List.mem_map]
  constructor
  · rintro ⟨heading, hmem, hline⟩
    obtain ⟨i, line, hget, hread⟩ := mem_headings.mp hmem
    have hfrom := readFrom_of_readHeading? hread
    obtain rfl : i = n := Int.ofNat_inj.mp (hfrom.line_eq.symm.trans hline)
    exact ⟨heading.level, headingLevel?_eq_some.mpr ⟨line, hget, hfrom.level_eq⟩⟩
  · rintro ⟨level, hlevel⟩
    obtain ⟨heading, hon⟩ := exists_headingOn? hlevel
    obtain ⟨line, hget, hread⟩ := Option.bind_eq_some_iff.mp hon
    exact ⟨heading, mem_headings.mpr ⟨n, line, hget, hread⟩,
      (readFrom_of_readHeading? hread).line_eq⟩

theorem pairwise_labels (conv : Convention) (lines : List Text) :
    (conv.labels lines).Pairwise fun a b => a.1 < b.1 := by
  have hsorted := pairwise_headings conv lines
  rw [← List.pairwise_map (f := Heading.line) (R := (· < ·)), ← map_fst_labels [],
    List.pairwise_map] at hsorted
  exact hsorted

end Convention

namespace Session

open Convention

variable {s : Session} {config : Config} {conv : Convention}

/-- **The headings to choose from are labelled with their ancestor paths.** They are listed in line
order, each heading once, and a label consists of the titles that are not empty on the way from the
outermost heading over parents down to the heading itself. -/
theorem headingCandidates_labelled (hconv : s.document.convention config = .ok conv) :
    ∃ candidates, s.headingCandidates config = .ok candidates ∧
      candidates.Pairwise (fun a b => a.1 < b.1) ∧
      (∀ n : Nat, (∃ label, ((n : Int), label) ∈ candidates) ↔
        ∃ level, conv.headingLevel? s.document.lines n = some level) ∧
      ∀ entry, entry ∈ candidates ↔ ∃ n chain,
        conv.AncestorPath s.document.lines n chain ∧ entry = ((n : Int), pathLabel chain) := by
  refine ⟨conv.labels s.document.lines, by rw [headingCandidates, hconv]; rfl,
    pairwise_labels conv s.document.lines, fun n => exists_label_iff, fun entry => ?_⟩
  constructor
  · exact exists_path_of_mem_labels
  · rintro ⟨n, chain, hpath, rfl⟩
    obtain ⟨heading, hon⟩ := hpath.exists_last
    obtain ⟨label, hmem⟩ := exists_label_iff.mpr ⟨_, headingLevel?_of_headingOn? hon⟩
    obtain ⟨m, chain', hpath', hentry⟩ := exists_path_of_mem_labels hmem
    -- the label that is listed comes from the same path
    obtain ⟨hline, rfl⟩ := Prod.mk.inj hentry
    obtain rfl : n = m := Int.ofNat_inj.mp hline
    rwa [hpath.unique hpath']

/-- The outline starts on level three, skips levels and has a heading without a title. -/
theorem headingCandidates_labelled_deep :
    let s := create (Document.ofText "///// Deep\n///\n//// A\n////// Skip\n///// B\n".toList
      (Language.named? "c".toList) none)
    let conv : Convention := ⟨['/'], {}⟩
    s.document.convention {} = .ok conv ∧
      s.headingCandidates {} = .ok [(0, "Deep".toList), (1, []), (2, "A".toList),
        (3, "A/Skip".toList), (4, "A/B".toList)] ∧
      ∃ chain, conv.AncestorPath s.document.lines 4 chain ∧ pathLabel chain = "A/B".toList := by
  intro s conv
  have hconv : s.document.convention {} = .ok conv := rfl
  have hlabels : s.headingCandidates {} = .ok [(0, "Deep".toList), (1, []), (2, "A".toList),
      (3, "A/Skip".toList), (4, "A/B".toList)] := rfl
  obtain ⟨candidates, hcandidates, -, -, hmem⟩ := headingCandidates_labelled hconv
  obtain rfl := Except.ok.inj (hlabels.symm.trans hcandidates)
  obtain ⟨n, chain, hpath, hentry⟩ := (hmem (4, "A/B".toList)).mp (by decide)
  obtain ⟨hline, hlabel⟩ := Prod.mk.inj hentry
  obtain rfl : n = 4 := Int.ofNat_inj.mp hline.symm
  exact ⟨hconv, hlabels, chain, hpath, hlabel.symm⟩

end Session

end SourceOutline
