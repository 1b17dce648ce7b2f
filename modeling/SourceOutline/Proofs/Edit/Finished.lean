import SourceOutline.Proofs.Edit.Spot

/-!
# Finished headings and insertions

A heading that carries the done keyword has a closed line right below it, which tells when it was
finished (`FinishedAt`). An insertion moves the closed line together with what stands above it. Main
statement: below it there is still a finished heading, unless the insertion has split the heading
behind its comment run and in front of the end of its keyword (`run_insertHeading_finished_iff`).
-/

namespace SourceOutline

namespace Document

variable {d d' : Document} {config : Config} {conv : Convention} {n c i k first last : Nat}
  {line other closed opening : Text} {heading : Heading} {respectContent blank : Bool}
  {spot : InsertionSpot}

/-- Whether the heading on line `i` carries the done keyword and has a closed line right below. -/
structure FinishedAt (d : Document) (config : Config) (conv : Convention) (i : Nat) (line : Text)
    (heading : Heading) (closed : Text) : Prop where
  get : d.lines[i]? = some line
  read : conv.readHeading? i line (some closed) = some heading
  finished : finishes config heading.keyword = true
  get_closed : d.lines[i + 1]? = some closed
  isClosed : conv.isClosed closed = true

namespace FinishedAt

variable (h : d.FinishedAt config conv i line heading closed)
include h

theorem readFrom : heading.ReadFrom conv i line := Convention.readFrom_of_readHeading? h.read

theorem attached : d.Attached conv i :=
  ⟨⟨line, h.get, Convention.isHeading_iff.mpr ⟨_, h.readFrom.level_eq⟩⟩,
    closedBelow_iff.mpr ⟨closed, h.get_closed, h.isClosed⟩⟩

theorem visible : line.isBlankText = false := by
  obtain ⟨word, hword, -⟩ := exists_of_finishes h.finished
  rw [Convention.keyword_of_readHeading? h.read] at hword
  obtain ⟨-, hcapital, rest, hparts, -⟩ := exists_keyword_parts hword
  obtain ⟨hne, hchars⟩ := forall_isKeywordChar hcapital
  obtain ⟨first, hfirst⟩ := List.exists_mem_of_ne_nil word hne
  have hmem : first ∈ line.drop heading.openingEnd := by
    rw [← hparts]
    exact List.mem_append_left _ (List.mem_append_right _ hfirst)
  rw [Bool.eq_false_iff]
  intro hblank
  have := (Text.isBlankText_iff line).mp hblank first (List.mem_of_mem_drop hmem)
  rw [isBlank_of_isKeywordChar (hchars first hfirst)] at this
  cases this

theorem moved (hget : d'.lines[k]? = some line) (hclosed : d'.lines[k + 1]? = some closed) :
    ∃ heading', d'.FinishedAt config conv k line heading' closed :=
  ⟨_, hget, Convention.readHeading?_moved h.read k (some closed), h.finished, hclosed, h.isClosed⟩

end FinishedAt

/-- **Which lines an insertion takes of a finished heading**: none of them, unless it splits the
heading. -/
theorem SpotFor.taken_cases (hspot : d.SpotFor conv n c other respectContent spot)
    (hpoint : d.point = { line := n, column := c }) (hline : d.lines[n]? = some other)
    (h : d.FinishedAt config conv i line heading closed) (hstart : spot.start = first)
    (hstop : spot.stop = last) :
    ¬d.SplitsAt respectContent heading ∧ (last ≤ i ∨ i + 1 < first) ∨
      d.SplitsAt respectContent heading ∧ i = n ∧ first = n ∧
        spot.kept = [keptOf line c, closed] := by
  rw [splitsAt_iff hpoint h.readFrom.line_eq]
  have hbetween := hspot.start_ne hline h.attached
  have hopened : conv.isClosed line = false :=
    (Convention.level?_eq_some.mp h.readFrom.level_eq).2.1
  have hsame : n = i → other = line := by
    rintro rfl
    exact Option.some.inj (hline.symm.trans h.get)
  have hbelow : conv.isClosed other = false → n ≠ i + 1 := by
    rintro hopen rfl
    obtain rfl := Option.some.inj (hline.symm.trans h.get_closed)
    rw [h.isClosed] at hopen
    cases hopen
  cases hspot
  all_goals dsimp only at hstart hstop hbetween
  case behind => exact Or.inl ⟨by simp, by omega⟩
  case belowClosed isClosed =>
    refine Or.inl ⟨?_, by omega⟩
    rintro ⟨-, hn, -⟩
    obtain rfl := hsame hn
    rw [hopened] at isClosed
    cases isClosed
  case blank opened blank =>
    have hne : n ≠ i := by
      intro hn
      obtain rfl := hsame hn
      rw [h.visible] at blank
      cases blank
    exact Or.inl ⟨fun hsplit => hne hsplit.2.1, by omega⟩
  case above opened visible column =>
    refine Or.inl ⟨?_, by omega⟩
    rintro ⟨-, rfl, hlt⟩
    obtain rfl := hsame rfl
    exact absurd (column heading h.readFrom) (by omega)
  case split opened visible column detached =>
    have hne : n ≠ i := by
      rintro rfl
      exact detached h.attached
    exact Or.inl ⟨fun hsplit => hne hsplit.2.1, by omega⟩
  case splitAttached read column get closed_eq =>
    by_cases hn : n = i
    · subst hn
      obtain rfl := hsame rfl
      obtain rfl := Option.some.inj (get.symm.trans h.get_closed)
      rw [read.openingEnd_unique h.readFrom] at column
      exact Or.inr ⟨⟨rfl, rfl, column⟩, rfl, by omega, rfl⟩
    · have hbelow := hbelow (Convention.level?_eq_some.mp read.level_eq).2.1
      -- the closed line that comes along is no heading
      have hne : i ≠ n + 1 := by
        rintro rfl
        obtain rfl := Option.some.inj (get.symm.trans h.get)
        rw [hopened] at closed_eq
        cases closed_eq
      exact Or.inl ⟨fun hsplit => hn hsplit.2.1, by omega⟩

/-- The keyword of a finished heading is read from a piece of its line that reaches to its end. -/
theorem FinishedAt.piece_iff (h : d.FinishedAt config conv i line heading closed)
    (hget : d'.lines[k]? = some (keptOf line c)) (hclosed : d'.lines[k + 1]? = some closed) :
    (∃ line' heading', d'.FinishedAt config conv k line' heading' closed) ↔
      heading.keywordEnd line ≤ c := by
  obtain ⟨word, hword, hdone⟩ := exists_of_finishes h.finished
  rw [← Convention.keywordEnd_le_keptOf_iff h.read hword,
    ← Convention.reads_keyword_iff h.read hword (keptOf_isPrefix line c) (some closed)]
  constructor
  · rintro ⟨line', other, hother⟩
    obtain rfl := Option.some.inj (hget.symm.trans hother.get)
    obtain ⟨word', hword', hdone'⟩ := exists_of_finishes hother.finished
    rw [hdone] at hdone'
    cases hdone'
    exact ⟨_, Convention.readHeading?_moved hother.read i (some closed), hword'⟩
  · rintro ⟨other, hother, hkeyword⟩
    refine ⟨_, _, hget, Convention.readHeading?_moved hother k (some closed), ?_, hclosed,
      h.isClosed⟩
    rw [← h.finished, hkeyword, hword]

end Document

namespace Session

open Document

variable {s : Session} {config : Config} {conv : Convention} {i : Nat} {line closed : Text}
  {heading : Heading}

/-- **When an insertion leaves a closed line with a finished heading.** The closed line of a
finished heading is not lost, and the heading right above it is a finished one, unless the heading
was split behind its comment run and in front of the end of its keyword. -/
theorem run_insertHeading_finished_iff (valid : config.Valid) (inside : s.document.PointInside)
    (hconv : s.document.convention config = .ok conv)
    (h : s.document.FinishedAt config conv i line heading closed) {level? : Option Int}
    {respectContent : Bool}
    (hran : (s.run config (.insertHeading level? respectContent)).2 = .ok (.flag true)) :
    let d := s.document
    let d' := (s.run config (.insertHeading level? respectContent)).1.document
    d'.convention config = .ok conv ∧ d'.lines[d.placeIn d' (i + 1)]? = some closed ∧
      ((∃ k line' heading', k + 1 = d.placeIn d' (i + 1) ∧
          d'.FinishedAt config conv k line' heading' closed) ↔
        ¬(d.SplitsAt respectContent heading ∧ d.point.column < heading.keywordEnd line)) := by
  intro d d'
  obtain ⟨n, c, other, hpoint, hline, hcolumn⟩ := pointInside_iff.mp inside
  obtain ⟨-, first, last, run, hstart, hstop, -, hinserted⟩ :=
    run_insertHeading valid hconv hpoint hline hcolumn hran
  change d.HeadingInserted d' _ first last _ _ at hinserted
  have hspot := spotFor_insertSpot hpoint hline hcolumn conv respectContent
  refine ⟨(convention_congr hinserted.language config).trans hconv, ?_⟩
  rcases hspot.taken_cases hpoint hline h hstart hstop with
    ⟨hwhole, htaken⟩ | ⟨hsplit, rfl, rfl, hkept⟩
  · have hplace := hinserted.placeIn_succ htaken.symm
    have hget := hinserted.getElem?_placeIn (i := i) (by omega)
    have hclosed := hinserted.getElem?_placeIn (i := i + 1) (by omega)
    rw [h.get] at hget
    rw [h.get_closed] at hclosed
    refine ⟨hclosed, iff_of_true ?_ fun hsplit => hwhole hsplit.1⟩
    rw [hplace] at hclosed ⊢
    obtain ⟨heading', hmoved⟩ := h.moved hget hclosed
    exact ⟨_, line, heading', rfl, hmoved⟩
  · have hplace : d.placeIn d' (first + 1) = first + 1 :=
      hinserted.placeIn_above (by rw [hkept]; exact Nat.lt_succ_self _)
    have hget := hinserted.getElem?_first (congrArg List.head? hkept)
    have hclosed := hinserted.getElem?_kept (k := 1) (by rw [hkept]; exact Nat.lt_succ_self _)
    rw [hkept] at hclosed
    rw [hplace, and_iff_right hsplit, Int.not_lt, hpoint, Int.ofNat_le, ← h.piece_iff hget hclosed]
    refine ⟨hclosed, ?_, ?_⟩
    · rintro ⟨k, line', heading', hk, hfinished⟩
      obtain rfl : k = first := by omega
      exact ⟨line', heading', hfinished⟩
    · rintro ⟨line', heading', hfinished⟩
      exact ⟨first, line', heading', rfl, hfinished⟩

/-- A finished heading is split behind its keyword. -/
theorem run_insertHeading_finished_iff_title :
    let s := (create (Document.ofText "/// DONE Ship\n  // CLOSED: [2024-01-02 Tue 10:30]".toList
      (Language.named? "c".toList) none)).setPoint { line := 0, column := 8 }
    let closed := "  // CLOSED: [2024-01-02 Tue 10:30]".toList
    ∃ conv heading, Config.Valid {} ∧ s.document.PointInside ∧
      s.document.convention {} = .ok conv ∧
      s.document.FinishedAt {} conv 0 "/// DONE Ship".toList heading closed ∧
      (s.run {} (.insertHeading none false)).2 = .ok (.flag true) ∧
      ∃ k line' heading',
        k + 1 = s.document.placeIn (s.run {} (.insertHeading none false)).1.document 1 ∧
        (s.run {} (.insertHeading none false)).1.document.FinishedAt {} conv k line' heading'
          closed := by
  intro s closed
  have valid : Config.Valid {} := Settings.valid_of_check (s := .defaults) rfl
  have inside : s.document.PointInside := by decide
  have hconv : s.document.convention {} = .ok ⟨['/'], {}⟩ := rfl
  have h : s.document.FinishedAt {} ⟨['/'], {}⟩ 0 "/// DONE Ship".toList
      { line := 0, indentation := [], run := 3, level := 1, keyword := some "DONE".toList,
        title := "Ship".toList,
        closed := some { year := 2024, month := 1, day := 2, hour := 10, minute := 30 } } closed :=
    ⟨rfl, by decide, by decide, rfl, by decide⟩
  have hran : (s.run {} (.insertHeading none false)).2 = .ok (.flag true) := by decide
  refine ⟨_, _, valid, inside, hconv, h, hran, ?_⟩
  exact (run_insertHeading_finished_iff valid inside hconv h hran).2.2.mpr (by decide)

/-- A finished heading is split in front of its keyword, which goes to the new heading. The closed
line stays behind, with a heading that has no keyword. -/
theorem run_insertHeading_strands_closed :
    let s := (create (Document.ofText "/// DONE Ship\n  // CLOSED: [2024-01-02 Tue 10:30]".toList
      (Language.named? "c".toList) none)).setPoint { line := 0, column := 4 }
    let closed := "  // CLOSED: [2024-01-02 Tue 10:30]".toList
    let d' := (s.run {} (.insertHeading none false)).1.document
    ∃ conv heading, Config.Valid {} ∧ s.document.PointInside ∧
      s.document.convention {} = .ok conv ∧
      s.document.FinishedAt {} conv 0 "/// DONE Ship".toList heading closed ∧
      (s.run {} (.insertHeading none false)).2 = .ok (.flag true) ∧
      d'.lines = ["///".toList, closed, "/// DONE Ship".toList] ∧
      ¬∃ k line' heading', d'.FinishedAt {} conv k line' heading' closed := by
  intro s closed d'
  have valid : Config.Valid {} := Settings.valid_of_check (s := .defaults) rfl
  have h : s.document.FinishedAt {} ⟨['/'], {}⟩ 0 "/// DONE Ship".toList
      { line := 0, indentation := [], run := 3, level := 1, keyword := some "DONE".toList,
        title := "Ship".toList,
        closed := some { year := 2024, month := 1, day := 2, hour := 10, minute := 30 } } closed :=
    ⟨rfl, by decide, by decide, rfl, by decide⟩
  have hlines : d'.lines = ["///".toList, closed, "/// DONE Ship".toList] := by decide
  have hplain : Convention.readHeading? ⟨['/'], {}⟩ (0 : Nat) "///".toList (some closed) = some
      { line := 0, indentation := [], run := 3, level := 1, keyword := none, title := [],
        closed := some { year := 2024, month := 1, day := 2, hour := 10, minute := 30 } } := by
    decide
  refine ⟨_, _, valid, by decide, rfl, h, by decide, hlines, ?_⟩
  rintro ⟨k, line', heading', hget, hread, hfinished, hclosed, -⟩
  rw [hlines] at hget hclosed
  match k with
  | 0 =>
      cases hget
      obtain rfl := Option.some.inj (hread.symm.trans hplain)
      cases hfinished
  | 1 => exact absurd hclosed (by decide)
  | k + 2 => cases hclosed

end Session

end SourceOutline
