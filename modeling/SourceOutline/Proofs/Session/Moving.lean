import SourceOutline.Proofs.Document.Replace
import SourceOutline.Proofs.Navigation.Ahead
import SourceOutline.Proofs.Session.Frame

/-!
# Moving over headings

A moving command either goes to the heading whose number among the headings ahead it was given
(`Landed`), or it tells that there are too few of them and leaves point where it was (`Stayed`). Main
statement: that is decided by the number of headings ahead alone, two moves in a row are one, and a
move from a heading can be taken back (`run_move_exact`).
-/

namespace SourceOutline

def Direction.command : Direction → Int → Command
  | .down, count => .nextHeading count
  | .up, count => .previousHeading count

namespace Session

variable {s s' : Session} {config : Config} {conv : Convention} {direction : Direction}
  {count more number : Int} {n times : Nat} {scroll : Bool} {notice : Notice} {landing : Int}
  {after after' : Session × Except Fault Answer}

/-- What is left of a session by a move to the heading on line `n`. A window is scrolled when it does
not show the end of a section that begins there. -/
structure Landed (s : Session) (conv : Convention) (n : Nat)
    (after : Session × Except Fault Answer) : Prop where
  answer : after.2 = .ok (.flag true)
  document : after.1.document = s.document.setPoint { line := n, column := 0 }
  notices : after.1.notices = s.notices
  scrolled : ∀ v, s.viewport = some v → conv.Scrolls s.document.lines v.shows n →
    after.1.viewport = some { v with top := n }
  still : (∀ v, s.viewport = some v → ¬conv.Scrolls s.document.lines v.shows n) →
    after.1.viewport = s.viewport

/-- What is left of a session by a move that there are too few headings for. -/
structure Stayed (s : Session) (direction : Direction)
    (after : Session × Except Fault Answer) : Prop where
  answer : after.2 = .ok (.flag false)
  document : after.1.document = s.document
  notices : after.1.notices = s.notices ++ [direction.notice]
  viewport : after.1.viewport = s.viewport

/-- Whether two sessions differ in their journals and windows only. -/
def SamePlace (s s' : Session) : Prop :=
  s' = { s with journal := s'.journal, viewport := s'.viewport }

/-! ## Single moves -/

def moved (s : Session) (command : Command) (number : Int) (scroll : Bool) : Session :=
  { s with
    document := s.document.setPoint { line := number, column := 0 }
    viewport := if scroll then s.viewport.map fun v => { v with top := number } else s.viewport
    journal := s.journal ++ [.command command.name s.document.name] ++ [.movedToHeading number]
    lastCommand := some command.name
    memory := none }

theorem perform_command (s : Session) (config : Config) (previous : Option CycleMemory)
    (direction : Direction) (count : Int) :
    s.perform config previous (direction.command count) =
      s.carryOutMove (s.document.moveHeadings config direction count s.shows?) := by
  cases direction <;> rfl

theorem name_command (direction : Direction) (first second : Int) :
    (direction.command first).name = (direction.command second).name := by
  cases direction <;> rfl

theorem samePlace_moved {first second both : Command} (hname : second.name = both.name)
    (hafter : s' = s.moved first landing scroll) (scroll₁ scroll₂ : Bool) :
    (s.moved both number scroll₁).SamePlace (s'.moved second number scroll₂) := by
  rw [hafter]
  unfold SamePlace moved
  rw [hname]
  rfl

theorem run_goTo (h : s.document.moveHeadings config direction count s.shows? =
    .ok (.goTo number scroll)) : s.run config (direction.command count) =
      (s.moved (direction.command count) number scroll, .ok (.flag true)) := by
  have hbegun : (s.begun (direction.command count)).document.moveHeadings config direction count
      (s.begun (direction.command count)).shows? = .ok (.goTo number scroll) := h
  unfold run
  dsimp only
  rw [← begun, perform_command, hbegun]
  rfl

theorem stayed_of_refuse (h : s.document.moveHeadings config direction count s.shows? =
    .ok (.refuse direction.notice)) :
    s.Stayed direction (s.run config (direction.command count)) := by
  have hbegun : (s.begun (direction.command count)).document.moveHeadings config direction count
      (s.begun (direction.command count)).shows? = .ok (.refuse direction.notice) := h
  unfold run
  dsimp only
  rw [← begun, perform_command, hbegun]
  exact ⟨rfl, rfl, rfl, rfl⟩

theorem landed_moved {command : Command} (hscroll : ∀ shows, s.shows? = some shows →
    (scroll = true ↔ conv.Scrolls s.document.lines shows n)) :
    s.Landed conv n (s.moved command n scroll, .ok (.flag true)) where
  answer := rfl
  document := rfl
  notices := rfl
  scrolled := by
    intro v hv hscrolls
    have htrue : scroll = true := (hscroll v.shows (by rw [shows?, hv]; rfl)).mpr hscrolls
    unfold moved
    dsimp only
    rw [if_pos htrue, hv, Option.map_some]
  still := by
    intro hstill
    unfold moved
    dsimp only
    cases hv : s.viewport with
    | none => exact ite_self _
    | some v =>
        have hnot : ¬scroll = true := fun htrue =>
          hstill v hv ((hscroll v.shows (by rw [shows?, hv]; rfl)).mp htrue)
        rw [if_neg hnot]

theorem Landed.viewport_eq (h : s.Landed conv n after) (h' : s'.Landed conv n after')
    (hlines : s'.document.lines = s.document.lines) (hviewport : s'.viewport = s.viewport) :
    after'.1.viewport = after.1.viewport := by
  by_cases hscrolls : ∃ v, s.viewport = some v ∧ conv.Scrolls s.document.lines v.shows n
  · obtain ⟨v, hv, hscrolls⟩ := hscrolls
    rw [h.scrolled v hv hscrolls, h'.scrolled v (hviewport.trans hv) (by rwa [hlines])]
  · have hstill : ∀ v, s.viewport = some v → ¬conv.Scrolls s.document.lines v.shows n :=
      fun v hv hv' => hscrolls ⟨v, hv, hv'⟩
    rw [h.still hstill, h'.still (by rwa [hlines, hviewport]), hviewport]

/-! ## Moving from a place of the document -/

section Inside

variable (hconv : s.document.convention config = .ok conv) (inside : s.document.PointInside)

include inside in
theorem headingAfter?_point (times : Nat) :
    conv.headingAfter? s.document.lines direction (times + 1) s.document.point.line =
      (conv.headingsAhead s.document.lines direction s.document.point.line)[times]? := by
  obtain ⟨hlow, hhigh, -⟩ := inside
  unfold Document.lineCount at hhigh
  exact Convention.headingAfter?_eq (by omega) (by omega) times

include hconv in
theorem run_landing (hafter : conv.headingAfter? s.document.lines direction (times + 1)
    s.document.point.line = some landing) :
    ∃ (n : Nat) (scroll : Bool), landing = n ∧ n < s.document.lines.length ∧
      s.run config (direction.command (times + 1 : Nat)) =
        (s.moved (direction.command (times + 1 : Nat)) n scroll, .ok (.flag true)) ∧
      s.Landed conv n (s.run config (direction.command (times + 1 : Nat))) := by
  obtain ⟨n, scroll, rfl, hn, hmove, hscroll⟩ :=
    Document.moveHeadings_of_some hconv hafter s.shows?
  refine ⟨n, scroll, rfl, hn, run_goTo hmove, ?_⟩
  rw [run_goTo hmove]
  exact landed_moved hscroll

include hconv in
theorem run_staying (hafter : conv.headingAfter? s.document.lines direction (times + 1)
    s.document.point.line = none) :
    s.Stayed direction (s.run config (direction.command (times + 1 : Nat))) :=
  stayed_of_refuse (Document.moveHeadings_of_none hconv hafter s.shows?)

include hconv in
theorem exists_landing
    (hrun : (s.run config (direction.command (times + 1 : Nat))).2 = .ok (.flag true)) :
    ∃ landing, conv.headingAfter? s.document.lines direction (times + 1) s.document.point.line =
      some landing := by
  cases hafter : conv.headingAfter? s.document.lines direction (times + 1)
      s.document.point.line with
  | some landing => exact ⟨landing, rfl⟩
  | none =>
      have hanswer := (run_staying hconv hafter).answer
      rw [hrun] at hanswer
      cases hanswer

include hconv in
/-- **Two moves in a row are one.** Only the window may tell them apart, where the first of them has
scrolled it. -/
theorem run_run (first second : Nat)
    (hrun : (s.run config (direction.command (first + 1 + (second + 1) : Nat))).2 =
      .ok (.flag true)) :
    let after := s.run config (direction.command (first + 1 : Nat))
    let both := s.run config (direction.command (first + 1 + (second + 1) : Nat))
    let next := after.1.run config (direction.command (second + 1 : Nat))
    after.2 = .ok (.flag true) ∧ next.2 = .ok (.flag true) ∧ both.1.SamePlace next.1 ∧
      (after.1.viewport = s.viewport → next.1.viewport = both.1.viewport) := by
  intro after both next
  have hrun' : (s.run config (direction.command (first + 1 + second + 1 : Nat))).2 =
      .ok (.flag true) := hrun
  obtain ⟨landing, hafter⟩ := exists_landing hconv hrun'
  obtain ⟨n, scroll, rfl, -, hboth, hlanded⟩ := run_landing hconv hafter
  rw [Nat.add_assoc, Convention.headingAfter?_add] at hafter
  obtain ⟨between, hfirst, hsecond⟩ := Option.bind_eq_some_iff.mp hafter
  obtain ⟨k, scroll₁, rfl, -, hmoved, hlanded₁⟩ := run_landing hconv hfirst
  -- the second move starts where the first one has landed
  have hsecond' : conv.headingAfter? after.1.document.lines direction (second + 1)
      after.1.document.point.line = some (n : Int) := by
    rw [hlanded₁.document]
    exact hsecond
  have hconv' : after.1.document.convention config = .ok conv := by
    rw [hlanded₁.document]
    exact hconv
  obtain ⟨m, scroll₂, hm, -, hnext, hlanded₂⟩ := run_landing hconv' hsecond'
  obtain rfl : n = m := Int.ofNat_inj.mp hm
  refine ⟨hlanded₁.answer, hlanded₂.answer, ?_, fun hsame => ?_⟩
  · show (s.run config (direction.command (first + 1 + second + 1 : Nat))).1.SamePlace
      (after.1.run config (direction.command (second + 1 : Nat))).1
    rw [hboth, hnext]
    exact samePlace_moved (name_command direction _ _) (congrArg Prod.fst hmoved) scroll scroll₂
  · refine hlanded.viewport_eq hlanded₂ ?_ hsame
    rw [hlanded₁.document]
    rfl

include hconv inside in
/-- **A move from a heading is taken back by as many moves in the other direction.** -/
theorem run_back (hheading : s.document.point.line ∈ conv.positions s.document.lines)
    (hrun : (s.run config (direction.command (times + 1 : Nat))).2 = .ok (.flag true)) :
    let after := s.run config (direction.command (times + 1 : Nat))
    let back := after.1.run config (direction.opposite.command (times + 1 : Nat))
    back.2 = .ok (.flag true) ∧
      back.1.document = s.document.setPoint { line := s.document.point.line, column := 0 } := by
  intro after back
  obtain ⟨landing, hafter⟩ := exists_landing hconv hrun
  obtain ⟨n, scroll, rfl, hn, -, hlanded⟩ := run_landing hconv hafter
  have inside' : after.1.document.PointInside := by
    rw [hlanded.document]
    exact Document.setPoint_pointInside (List.getElem?_eq_getElem hn) (Nat.zero_le _)
  have hback : conv.headingAfter? after.1.document.lines direction.opposite (times + 1)
      after.1.document.point.line = some s.document.point.line := by
    rw [headingAfter?_point inside] at hafter
    rw [headingAfter?_point inside', hlanded.document]
    exact Convention.headingsAhead_back hheading hafter
  have hconv' : after.1.document.convention config = .ok conv := by
    rw [hlanded.document]
    exact hconv
  obtain ⟨m, -, hm, -, -, hlanded'⟩ := run_landing hconv' hback
  refine ⟨hlanded'.answer, ?_⟩
  rw [hm, hlanded'.document, hlanded.document]
  rfl

end Inside

/-- **A moving command is exact and can be taken back.** It succeeds when there are as many headings
ahead as it was asked to move over, and then goes to the start of the last of them, where every
window is scrolled that does not show the end of a section beginning there; else it tells so and
nothing else happens. Two moves in a row are one. A move from a heading is undone by the same move
in the other direction. -/
theorem run_move_exact (hconv : s.document.convention config = .ok conv)
    (inside : s.document.PointInside) (direction : Direction) (hcount : 1 ≤ count) :
    let ahead := conv.headingsAhead s.document.lines direction s.document.point.line
    let after := s.run config (direction.command count)
    (after.2 = .ok (.flag true) ↔ count ≤ ahead.length) ∧
    (count ≤ ahead.length → ∃ n : Nat, ahead[count.toNat - 1]? = some (n : Int) ∧
      s.Landed conv n after ∧ ∀ shows, ∃ scroll,
        s.document.moveHeadings config direction count (some shows) = .ok (.goTo n scroll) ∧
        (scroll = true ↔ conv.Scrolls s.document.lines shows n)) ∧
    (ahead.length < count → s.Stayed direction after) ∧
    (∀ more, 1 ≤ more →
      let both := s.run config (direction.command (count + more))
      let next := after.1.run config (direction.command more)
      both.2 = .ok (.flag true) →
        after.2 = .ok (.flag true) ∧ next.2 = .ok (.flag true) ∧ both.1.SamePlace next.1 ∧
          (after.1.viewport = s.viewport → next.1.viewport = both.1.viewport)) ∧
    (s.document.point.line ∈ conv.positions s.document.lines → after.2 = .ok (.flag true) →
      let back := after.1.run config (direction.opposite.command count)
      back.2 = .ok (.flag true) ∧
        back.1.document = s.document.setPoint { line := s.document.point.line, column := 0 }) := by
  obtain ⟨times, rfl⟩ : ∃ times : Nat, count = (times + 1 : Nat) := ⟨count.toNat - 1, by omega⟩
  intro ahead after
  have hafter : conv.headingAfter? s.document.lines direction (times + 1) s.document.point.line =
      ahead[times]? := headingAfter?_point inside times
  have hlands : ((times + 1 : Nat) : Int) ≤ ahead.length → ∃ n : Nat,
      ahead[times]? = some (n : Int) ∧ s.Landed conv n after := by
    intro hle
    rw [List.getElem?_eq_getElem (by omega)] at hafter
    obtain ⟨n, -, hn, -, -, hlanded⟩ := run_landing hconv hafter
    exact ⟨n, by rw [List.getElem?_eq_getElem (by omega), hn], hlanded⟩
  have hstays : (ahead.length : Int) < ((times + 1 : Nat) : Int) → s.Stayed direction after := by
    intro hlt
    rw [List.getElem?_eq_none (by omega)] at hafter
    exact run_staying hconv hafter
  refine ⟨⟨fun hsuccess => ?_, fun hle => ?_⟩, fun hle => ?_, hstays, fun more hmore => ?_,
    fun hheading hsuccess => run_back hconv inside hheading hsuccess⟩
  · by_contra hlt
    have hanswer := (hstays (by omega)).answer
    rw [hsuccess] at hanswer
    cases hanswer
  · obtain ⟨n, -, hlanded⟩ := hlands hle
    exact hlanded.answer
  · obtain ⟨n, hn, hlanded⟩ := hlands hle
    refine ⟨n, by simpa using hn, hlanded, fun shows => ?_⟩
    obtain ⟨m, scroll, hm, -, hmove, hscroll⟩ :=
      Document.moveHeadings_of_some hconv (hafter.trans hn) (some shows)
    obtain rfl : n = m := Int.ofNat_inj.mp hm
    exact ⟨scroll, hmove, hscroll shows rfl⟩
  · obtain ⟨second, rfl⟩ : ∃ second : Nat, more = (second + 1 : Nat) :=
      ⟨more.toNat - 1, by omega⟩
    rw [show ((times + 1 : Nat) : Int) + ((second + 1 : Nat) : Int) =
      ((times + 1 + (second + 1) : Nat) : Int) from (Int.natCast_add _ _).symm]
    exact run_run hconv times second

/-- Down over two headings onto one of level one whose section ends behind the window. -/
theorem run_move_exact_scrolled :
    let s := create (Document.ofText "/// A\n//// B\n/// C\ntext\n".toList
      (Language.named? "c".toList) none) (some { top := 0, height := 3 })
    let conv : Convention := ⟨['/'], {}⟩
    s.document.convention {} = .ok conv ∧ s.document.PointInside ∧
      conv.headingsAhead s.document.lines .down 0 = [1, 2] ∧ (1 : Int) ≤ 2 ∧
      s.Landed conv 2 (s.run {} (Direction.down.command 2)) ∧
      (s.run {} (Direction.down.command 2)).1.viewport = some { top := 2, height := 3 } ∧
      ((s.run {} (Direction.down.command 2)).1.run {} (Direction.up.command 2)).1.document =
        s.document := by
  intro s conv
  have hconv : s.document.convention {} = .ok conv := rfl
  have hinside : s.document.PointInside := by decide
  have hahead : conv.headingsAhead s.document.lines .down 0 = [1, 2] := by decide
  obtain ⟨-, hlands, -, -, hback⟩ := run_move_exact hconv hinside .down
    (show (1 : Int) ≤ 2 by decide)
  obtain ⟨n, hn, hlanded, -⟩ := hlands (by decide)
  obtain rfl : n = 2 := by
    rw [show conv.headingsAhead s.document.lines .down s.document.point.line = [1, 2] from hahead]
      at hn
    exact Int.ofNat_inj.mp (Option.some.inj hn).symm
  obtain ⟨-, hdocument⟩ := hback (by decide) hlanded.answer
  have hpoint : s.document.setPoint { line := s.document.point.line, column := 0 } = s.document :=
    rfl
  rw [hpoint, show Direction.down.opposite = .up from rfl] at hdocument
  exact ⟨hconv, hinside, hahead, by decide, hlanded, by decide, hdocument⟩

end Session

end SourceOutline
