import SourceOutline.Proofs.Edit.Shift

/-!
# Reading a shifted heading back

Promoting or demoting a heading writes its line anew, and the next command reads the heading from
that line. Main statement: the heading is read on the level that was asked for and otherwise as
before, and no other line has changed, unless the run gets too long to write or makes a closed line
(`run_relevels_iff`).
-/

namespace SourceOutline

namespace Session

variable {s : Session} {config : Config} {conv : Convention} {n stop last : Nat} {line : Text}
  {heading : Heading} {delta count : Int} {command : Command}
  {after : Session × Except Fault Answer}

/-! ## The document after a shift -/

namespace Shifted

variable (hshifted : s.Shifted conv delta n last line after)
include hshifted

theorem lines_eq :
    after.1.document.lines = conv.shiftedLines delta n last s.document.lines := by
  rw [hshifted.document]

theorem point_line : after.1.document.point.line = n := by
  rw [hshifted.document]

variable (h : s.document.AtHeading config conv n line heading)
include h

theorem convention_eq : after.1.document.convention config = .ok conv := by
  rw [← h.convention]
  exact Document.convention_congr (by rw [hshifted.document]) config

theorem get (hlt : n < last) : after.1.document.lines[n]? = some (conv.shifted delta line) := by
  rw [hshifted.lines_eq, Convention.getElem?_shiftedLines_inside (Nat.le_refl n) hlt, h.get]
  rfl

/-- A heading that has been shifted is still at point, unless it has become a closed line. -/
theorem atHeading (valid : config.Valid) (hlt : n < last) (hlevel : 1 ≤ heading.level + delta)
    (hopen : ¬conv.ClosesBy delta line) :
    after.1.document.AtHeading config conv n (conv.shifted delta line)
      { heading with
        run := (heading.run + delta).toNat
        level := heading.level + delta
        closed := after.1.document.lines[n + 1]?.bind (closedMoment? conv.mark) } where
  convention := hshifted.convention_eq h
  point := hshifted.point_line
  get := hshifted.get h hlt
  read := by
    rw [Convention.readHeading?_shifted (h.baseLevel_pos valid) h.read hlevel, if_neg hopen]

theorem headingAtPoint_eq (valid : config.Valid) (hlast : last = n + 1)
    (hlevel : 1 ≤ heading.level + delta) :
    after.1.document.headingAtPoint config =
      .ok (conv, if conv.ClosesBy delta line then none
        else some { heading with
          run := (heading.run + delta).toNat
          level := heading.level + delta }) := by
  -- the line below has stayed, and with it the closed time
  have hbelow : after.1.document.lines[n + 1]? = s.document.lines[n + 1]? := by
    rw [hshifted.lines_eq]
    exact Convention.getElem?_shiftedLines_outside (Or.inr (Nat.le_of_eq hlast))
  rw [Document.headingAtPoint_of_get (hshifted.convention_eq h) hshifted.point_line
    (hshifted.get h (by omega)), hbelow,
    Convention.readHeading?_shifted (h.baseLevel_pos valid) h.read hlevel,
    ← Convention.closed_of_readHeading? h.read]

end Shifted

/-! ## Headings by themselves -/

/-- Whether a command gets somewhere and leaves the heading at point on some level, with its run as
the only other thing about it that has changed, and all other lines as they were. -/
structure Relevels (s : Session) (config : Config) (conv : Convention) (n : Nat)
    (heading : Heading) (level : Int) (command : Command) : Prop where
  answer : (s.run config command).2 = .ok (.flag true)
  heading : ∃ run, (s.run config command).1.document.headingAtPoint config =
    .ok (conv, some { heading with run, level })
  others : ∀ i, i ≠ n → (s.run config command).1.document.lines[i]? = s.document.lines[i]?

theorem hasRoomIn_line (h : s.document.lines[n]? = some line) :
    conv.HasRoomIn s.room delta n (n + 1) s.document.lines ↔ conv.HasRoom s.room delta line := by
  constructor
  · exact fun hroom => hroom n line (Nat.le_refl n) (Nat.lt_succ_self n) h
  · intro hroom i other hfirst hlast hother
    obtain rfl : i = n := by omega
    rw [h] at hother
    cases hother
    exact hroom

theorem relevels_iff_of_shifts (valid : config.Valid)
    (h : s.document.AtHeading config conv n line heading)
    (hsub : conv.Subtree s.document.lines n stop heading.level)
    (hshift : command.Shifts n stop heading.level (n + 1) delta) (hzero : delta ≠ 0) :
    s.Relevels config conv n heading (heading.level + delta) command ↔
      conv.HasRoom s.room delta line ∧ ¬conv.ClosesBy delta line := by
  have hlevel := hshift.one_le h.readFrom.level_pos
  rcases run_shift valid h hsub hshift with
    ⟨hrefused, -⟩ | ⟨-, hroom, fault, hanswer⟩ | ⟨-, hroom, hshifted⟩
  · exact absurd hrefused hzero
  · rw [hasRoomIn_line h.get] at hroom
    refine iff_of_false (fun hrelevels => ?_) (fun hboth => hroom hboth.1)
    rw [hrelevels.answer] at hanswer
    cases hanswer
  · rw [hasRoomIn_line h.get] at hroom
    have hread := hshifted.headingAtPoint_eq h valid rfl hlevel
    constructor
    · intro hrelevels
      refine ⟨hroom, fun hclosed => ?_⟩
      obtain ⟨run, hheading⟩ := hrelevels.heading
      rw [hread, if_pos hclosed] at hheading
      cases hheading
    · rintro ⟨-, hopen⟩
      rw [if_neg hopen] at hread
      refine ⟨hshifted.answer, ⟨_, hread⟩, fun i hi => ?_⟩
      rw [hshifted.lines_eq]
      exact Convention.getElem?_shiftedLines_outside (by omega)

theorem hasRoom_iff (h : s.document.AtHeading config conv n line heading) :
    conv.HasRoom s.room delta line ↔ ¬TooLong s.room conv.mark (heading.run + delta) := by
  unfold Convention.HasRoom
  rw [imp_iff_right (Convention.isHeading_iff.mpr ⟨_, h.readFrom.level_eq⟩), h.readFrom.run_eq]

/-- **When a heading is read on the level that it was shifted to.** Demoting the heading at point
puts it `count` levels deeper, and promoting one below level one puts it `count` levels higher, as
far as level one. Both change nothing else about the heading and no other line, when the new run is
not too long to write and makes no closed line, and not otherwise. -/
theorem run_relevels_iff (valid : config.Valid)
    (h : s.document.AtHeading config conv n line heading) (hcount : 1 ≤ count) :
    (s.Relevels config conv n heading (heading.level + count) (.demote count) ↔
      ¬TooLong s.room conv.mark (heading.run + count) ∧ ¬conv.ClosesBy count line) ∧
    (1 < heading.level →
      (s.Relevels config conv n heading (max 1 (heading.level - count)) (.promote count) ↔
        ¬TooLong s.room conv.mark (heading.run - min count (heading.level - 1)) ∧
          ¬conv.ClosesBy (-min count (heading.level - 1)) line)) := by
  have hsub := Convention.subtree_of_heading h.headingLevel?_eq
  constructor
  · rw [← hasRoom_iff h]
    exact relevels_iff_of_shifts valid h hsub (.demote hcount) (by omega)
  · intro hlevel
    have hraised : max 1 (heading.level - count) =
        heading.level + -min count (heading.level - 1) := by omega
    have hrun : heading.run - min count (heading.level - 1) =
        heading.run + -min count (heading.level - 1) := by omega
    rw [hraised, hrun, ← hasRoom_iff h]
    exact relevels_iff_of_shifts valid h hsub (.promote hcount) (by omega)

/-- A heading on level two goes down by two levels, or up by the one that it can. -/
theorem run_relevels_iff_indented :
    let s := create (Document.ofText "  //// TODO A\n  // CLOSED: x".toList
      (Language.named? "c".toList) none)
    ∃ conv heading, Config.Valid {} ∧
      s.document.AtHeading {} conv 0 "  //// TODO A".toList heading ∧
      (1 : Int) ≤ 2 ∧ 1 < heading.level ∧
      s.Relevels {} conv 0 heading 4 (.demote 2) ∧ s.Relevels {} conv 0 heading 1 (.promote 2) := by
  intro s
  have valid : Config.Valid {} := Settings.valid_of_check (s := .defaults) rfl
  have h : s.document.AtHeading {} ⟨['/'], {}⟩ 0 "  //// TODO A".toList
      { line := 0, indentation := "  ".toList, run := 4, level := 2, keyword := some "TODO".toList,
        title := "A".toList, closed := none } := ⟨rfl, rfl, rfl, by decide⟩
  have hcount : (1 : Int) ≤ 2 := by decide
  have hlevel : (1 : Int) < 2 := by decide
  obtain ⟨hdown, hup⟩ := run_relevels_iff valid h hcount
  exact ⟨_, _, valid, h, hcount, hlevel, hdown.mpr (by decide), (hup hlevel).mpr (by decide)⟩

/-- Where one comment character is enough for a heading, demoting one whose title opens with the
label of closed lines makes a closed line of it. Promoting does not find a heading there again. -/
theorem run_demote_closes :
    let config : Config := { baseLevel := 1 }
    let s := create (Document.ofText "/ CLOSED: x".toList (Language.named? "c".toList) none)
    ∃ conv heading, config.Valid ∧
      s.document.AtHeading config conv 0 "/ CLOSED: x".toList heading ∧
      (s.run config (.demote 1)).2 = .ok (.flag true) ∧
      (s.run config (.demote 1)).1.document.lines = ["// CLOSED: x".toList] ∧
      (s.run config (.demote 1)).1.document.headingAtPoint config = .ok (conv, none) ∧
      ((s.run config (.demote 1)).1.run config (.promote 1)).2 = .ok (.flag false) ∧
      ¬s.Relevels config conv 0 heading (heading.level + 1) (.demote 1) := by
  intro config s
  have valid : Config.Valid { baseLevel := 1 } :=
    Settings.valid_of_check (s := .ofConfig { baseLevel := 1 }) rfl
  have hread : (s.run config (.demote 1)).1.document.headingAtPoint config =
      .ok (⟨['/'], config⟩, none) := by decide
  refine ⟨_,
    { line := 0, indentation := [], run := 1, level := 1, keyword := none,
      title := "CLOSED: x".toList, closed := none },
    valid, ⟨rfl, rfl, rfl, by decide⟩, by decide, by decide, hread, by decide, ?_⟩
  intro hrelevels
  obtain ⟨run, hheading⟩ := hrelevels.heading
  rw [hread] at hheading
  cases hheading

end Session

end SourceOutline
