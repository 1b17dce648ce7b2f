import SourceOutline.Navigation
import SourceOutline.Proofs.Document.Mark
import SourceOutline.Proofs.Section

/-!
# Moving ends on headings

Moving at least once ends on a heading line of the document, and the window is scrolled there when
the end of a section of level one is out of sight (`scrollsTo_eq`). A moving command fails only
without a comment mark or for a count below one (`moveHeadings_cases`).
-/

namespace SourceOutline

def Direction.notice : Direction → Notice
  | .down => .noNextHeading
  | .up => .noPreviousHeading

namespace Convention

variable {conv : Convention} {lines : List Text} {line : Text} {n : Nat} {direction : Direction}
  {number landing : Int}

theorem mem_positions_of_nearestHeading?
    (h : conv.nearestHeading? lines direction number = some landing) :
    landing ∈ conv.positions lines := by
  cases direction with
  | down =>
      unfold nearestHeading? at h
      dsimp only at h
      split at h
      · exact List.mem_of_find?_eq_some h
      · cases h
  | up =>
      unfold nearestHeading? at h
      dsimp only at h
      split at h
      · exact (List.mem_filter.mp (List.mem_of_getLast? h)).1
      · cases h

theorem mem_positions_of_headingAfter? {count : Nat}
    (h : conv.headingAfter? lines direction (count + 1) number = some landing) :
    landing ∈ conv.positions lines := by
  induction count generalizing number with
  | zero =>
      obtain ⟨next, hnext, hlanding⟩ := Option.bind_eq_some_iff.mp h
      cases hlanding
      exact mem_positions_of_nearestHeading? hnext
  | succ count ih =>
      obtain ⟨next, -, hlanding⟩ := Option.bind_eq_some_iff.mp h
      exact ih hlanding

/-- Whether landing on line `n` scrolls a window that shows some lines: the line is a heading of
level one, and the end of its section is out of sight. -/
def Scrolls (conv : Convention) (lines : List Text) (shows : Int → Bool) (n : Nat) : Prop :=
  conv.headingLevel? lines n = some 1 ∧ ∃ m, conv.SectionEnds lines n m ∧ shows m = false

end Convention

namespace Document

variable {d : Document} {config : Config} {conv : Convention} {n : Nat} {line : Text}

/-- **When a window is scrolled.** -/
theorem scrollsTo_eq (hline : d.lines[n]? = some line) (conv : Convention)
    (shows? : Option (Int → Bool)) :
    ∃ scroll, d.scrollsTo conv shows? n = .ok scroll ∧
      ∀ shows, shows? = some shows → (scroll = true ↔ conv.Scrolls d.lines shows n) := by
  obtain ⟨m, hlast, hends⟩ := conv.sectionLast_eq (List.getElem?_eq_some_iff.mp hline).1
  have hlevel : conv.headingLevel? d.lines n = conv.level? line :=
    Convention.headingLevel?_of_get hline
  unfold scrollsTo
  cases shows? with
  | none => exact ⟨false, rfl, fun shows hshows => by cases hshows⟩
  | some shows =>
      simp only [Option.some.injEq, forall_eq']
      rw [Convention.levelAt_ofNat conv hline, ok_bind, Convention.Scrolls, hlevel]
      by_cases hone : conv.level? line = some 1
      · rw [if_pos (by simp [hone]), hlast, ok_bind]
        refine ⟨!shows m, rfl, ?_⟩
        rw [Bool.not_eq_true']
        constructor
        · intro hhidden
          exact ⟨hone, m, hends, hhidden⟩
        · rintro ⟨-, other, hother, hhidden⟩
          rw [hends.unique hother]
          exact hhidden
      · rw [if_neg (by simpa using hone)]
        refine ⟨false, rfl, ?_⟩
        simp [hone]

variable {direction : Direction} {times : Nat} {landing : Int}

theorem moveHeadings_of_some (hconv : d.convention config = .ok conv)
    (hlanding : conv.headingAfter? d.lines direction (times + 1) d.point.line = some landing)
    (shows? : Option (Int → Bool)) :
    ∃ (n : Nat) (scroll : Bool), landing = n ∧ n < d.lines.length ∧
      d.moveHeadings config direction (times + 1 : Nat) shows? = .ok (.goTo n scroll) ∧
      ∀ shows, shows? = some shows → (scroll = true ↔ conv.Scrolls d.lines shows n) := by
  obtain ⟨n, line, rfl, hline, -⟩ := Convention.mem_positions.mp
    (Convention.mem_positions_of_headingAfter? hlanding)
  obtain ⟨scroll, hscroll, hiff⟩ := scrollsTo_eq hline conv shows?
  refine ⟨n, scroll, rfl, (List.getElem?_eq_some_iff.mp hline).1, ?_, hiff⟩
  unfold moveHeadings
  rw [if_neg (by omega), Int.toNat_natCast]
  simp [hconv, hlanding, hscroll]

theorem moveHeadings_of_none (hconv : d.convention config = .ok conv)
    (hlanding : conv.headingAfter? d.lines direction (times + 1) d.point.line = none)
    (shows? : Option (Int → Bool)) :
    d.moveHeadings config direction (times + 1 : Nat) shows? = .ok (.refuse direction.notice) := by
  unfold moveHeadings
  rw [if_neg (by omega), Int.toNat_natCast]
  cases direction with
  | down => simp [hconv, hlanding, Direction.notice]
  | up => simp [hconv, hlanding, Direction.notice]

/-- What a moving command comes to: a count below one or a missing comment mark stops it, and else
it goes to a heading line or refuses. -/
theorem moveHeadings_cases (d : Document) (config : Config) (direction : Direction) (count : Int)
    (shows? : Option (Int → Bool)) :
    (count < 1 ∧ d.moveHeadings config direction count shows? =
        .error (.repeatBelowOne count)) ∨
      (∃ fault, d.convention config = .error fault ∧
        d.moveHeadings config direction count shows? = .error fault) ∨
      (∃ notice, d.moveHeadings config direction count shows? = .ok (.refuse notice)) ∨
      ∃ (n : Nat) (scroll : Bool), n < d.lines.length ∧
        d.moveHeadings config direction count shows? = .ok (.goTo n scroll) := by
  by_cases hcount : count < 1
  · left
    unfold moveHeadings
    rw [if_pos hcount]
    exact ⟨hcount, rfl⟩
  · right
    obtain ⟨times, rfl⟩ : ∃ times : Nat, count = (times + 1 : Nat) :=
      ⟨count.toNat - 1, by omega⟩
    cases hconv : d.convention config with
    | error fault =>
        left
        unfold moveHeadings
        rw [if_neg hcount]
        exact ⟨fault, rfl, by rw [hconv]; rfl⟩
    | ok conv =>
        right
        cases hlanding : conv.headingAfter? d.lines direction (times + 1) d.point.line with
        | none => exact Or.inl ⟨_, moveHeadings_of_none hconv hlanding shows?⟩
        | some landing =>
            obtain ⟨n, scroll, -, hn, hmove, -⟩ := moveHeadings_of_some hconv hlanding shows?
            exact Or.inr ⟨n, scroll, hn, hmove⟩

end Document

end SourceOutline
