import SourceOutline.Proofs.Navigation

/-!
# The headings ahead

Moving goes from heading to heading. The headings *ahead* of a line are those that lie in the
direction of the move, the nearest first. Main statements: a number of moves leads to the heading
with that number among those ahead (`headingAfter?_eq`), and the same number of moves leads back
from there to the heading that one came from (`headingsAhead_back`).
-/

namespace SourceOutline

def Direction.leads : Direction → Int → Int → Bool
  | .down, a, b => a < b
  | .up, a, b => b < a

def Direction.opposite : Direction → Direction
  | .down => .up
  | .up => .down

theorem Direction.leads_opposite (direction : Direction) (a b : Int) :
    direction.opposite.leads a b = direction.leads b a := by
  cases direction <;> rfl

theorem Direction.leads_irrefl (direction : Direction) (a : Int) : direction.leads a a = false := by
  cases direction <;> simp [leads]

theorem Direction.leads_trans {direction : Direction} {a b c : Int}
    (hab : direction.leads a b = true) (hbc : direction.leads b c = true) :
    direction.leads a c = true := by
  cases direction <;> simp only [leads, decide_eq_true_eq] at * <;> omega

theorem Direction.leads_asymm {direction : Direction} {a b : Int}
    (hab : direction.leads a b = true) : ¬direction.leads b a = true := by
  intro hba
  have haa := Direction.leads_trans hab hba
  rw [Direction.leads_irrefl] at haa
  cases haa

namespace Convention

variable {conv : Convention} {lines : List Text} {direction : Direction} {count : Nat}
  {number next landing : Int} {before behind rest : List Int}

/-- The positions of headings in the order in which a direction comes by them. -/
def inOrder (conv : Convention) (lines : List Text) : Direction → List Int
  | .down => conv.positions lines
  | .up => (conv.positions lines).reverse

def headingsAhead (conv : Convention) (lines : List Text) (direction : Direction) (number : Int) :
    List Int :=
  (conv.inOrder lines direction).filter fun position => direction.leads number position

theorem inOrder_opposite (conv : Convention) (lines : List Text) (direction : Direction) :
    conv.inOrder lines direction.opposite = (conv.inOrder lines direction).reverse := by
  cases direction with
  | down => rfl
  | up => exact (List.reverse_reverse _).symm

theorem mem_inOrder : number ∈ conv.inOrder lines direction ↔ number ∈ conv.positions lines := by
  cases direction with
  | down => exact Iff.rfl
  | up => exact List.mem_reverse

theorem pairwise_inOrder (conv : Convention) (lines : List Text) (direction : Direction) :
    (conv.inOrder lines direction).Pairwise fun a b => direction.leads a b = true := by
  cases direction with
  | down => simpa [inOrder, Direction.leads] using conv.pairwise_positions lines
  | up => simpa [inOrder, Direction.leads, List.pairwise_reverse] using conv.pairwise_positions lines

/-! ## Going on -/

/-- The nearest heading is the first of those ahead. -/
theorem nearestHeading?_eq (hlow : 0 ≤ number + 1) (hhigh : number ≤ lines.length) :
    conv.nearestHeading? lines direction number =
      (conv.headingsAhead lines direction number).head? := by
  cases direction with
  | down =>
      unfold nearestHeading?
      dsimp only
      rw [if_pos hlow]
      exact List.head?_filter.symm
  | up =>
      unfold nearestHeading?
      dsimp only
      rw [if_pos hhigh, ← List.head?_reverse, ← List.filter_reverse]
      rfl

/-- Behind the nearest heading ahead, the others are still ahead. -/
theorem headingsAhead_next (hahead : conv.headingsAhead lines direction number = next :: rest) :
    conv.headingsAhead lines direction next = rest := by
  have hsorted := (conv.pairwise_inOrder lines direction).filter
    fun position => direction.leads number position
  rw [← headingsAhead, hahead, List.pairwise_cons] at hsorted
  have hnext : direction.leads number next = true := by
    have hmem : next ∈ conv.headingsAhead lines direction number := by simp [hahead]
    exact (List.mem_filter.mp hmem).2
  calc conv.headingsAhead lines direction next
      = (conv.headingsAhead lines direction number).filter fun position =>
          direction.leads next position := by
        rw [headingsAhead, headingsAhead, List.filter_filter]
        refine List.filter_congr fun position _ => ?_
        cases hleads : direction.leads next position with
        | true => rw [Direction.leads_trans hnext hleads, Bool.and_self]
        | false => rw [Bool.false_and]
    _ = rest := by
        rw [hahead, List.filter_cons_of_neg (by simp [Direction.leads_irrefl])]
        exact List.filter_eq_self.mpr hsorted.1

/-- **A number of moves leads to the heading with that number among those ahead.** -/
theorem headingAfter?_eq (hlow : 0 ≤ number + 1) (hhigh : number ≤ lines.length) (count : Nat) :
    conv.headingAfter? lines direction (count + 1) number =
      (conv.headingsAhead lines direction number)[count]? := by
  induction count generalizing number with
  | zero =>
      rw [headingAfter?, nearestHeading?_eq hlow hhigh]
      cases conv.headingsAhead lines direction number with
      | nil => rfl
      | cons next rest => rfl
  | succ count ih =>
      rw [headingAfter?, nearestHeading?_eq hlow hhigh]
      cases hahead : conv.headingsAhead lines direction number with
      | nil => rfl
      | cons next rest =>
          have hmem : next ∈ conv.headingsAhead lines direction number := by simp [hahead]
          obtain ⟨i, line, rfl, hline, -⟩ :=
            mem_positions.mp (mem_inOrder.mp (List.mem_filter.mp hmem).1)
          have hlt := (List.getElem?_eq_some_iff.mp hline).1
          rw [List.head?_cons, Option.bind_some, ih (by omega) (by omega),
            headingsAhead_next hahead, List.getElem?_cons_succ]

theorem headingAfter?_add (first second : Nat) :
    conv.headingAfter? lines direction (first + second) number =
      (conv.headingAfter? lines direction first number).bind
        (conv.headingAfter? lines direction second) := by
  induction first generalizing number with
  | zero => rw [Nat.zero_add, headingAfter?, Option.bind_some]
  | succ first ih =>
      rw [Nat.succ_add, headingAfter?, headingAfter?, Option.bind_assoc]
      exact congrArg _ (funext fun next => ih)

/-! ## Going back -/

/-- Seen from a heading, the others are ahead of it or behind it. -/
theorem headingsAhead_of_split
    (hsplit : conv.inOrder lines direction = before ++ number :: behind) :
    conv.headingsAhead lines direction number = behind ∧
      conv.headingsAhead lines direction.opposite number = before.reverse := by
  have hsorted := conv.pairwise_inOrder lines direction
  rw [hsplit, List.pairwise_append, List.pairwise_cons] at hsorted
  obtain ⟨-, ⟨hbehind, -⟩, hbefore⟩ := hsorted
  have hnumber : ∀ a ∈ before, direction.leads a number = true :=
    fun a ha => hbefore a ha number List.mem_cons_self
  have hself : ¬direction.leads number number = true := by simp [Direction.leads_irrefl]
  constructor
  · rw [headingsAhead, hsplit, List.filter_append, List.filter_cons_of_neg hself,
      List.filter_eq_nil_iff.mpr fun a ha => Direction.leads_asymm (hnumber a ha), List.filter_eq_self.mpr hbehind,
      List.nil_append]
  · have hfilter : before.filter (fun position => direction.leads position number) ++
        (number :: behind).filter (fun position => direction.leads position number) = before := by
      rw [List.filter_eq_self.mpr hnumber, List.filter_cons_of_neg (by simpa using hself),
        List.filter_eq_nil_iff.mpr fun a ha => Direction.leads_asymm (hbehind a ha), List.append_nil]
    rw [headingsAhead, inOrder_opposite, List.filter_reverse, hsplit]
    simp only [Direction.leads_opposite]
    rw [List.filter_append, hfilter]

/-- **The way back from a heading ahead is as long as the way there.** -/
theorem headingsAhead_back (hnumber : number ∈ conv.positions lines)
    (hlanding : (conv.headingsAhead lines direction number)[count]? = some landing) :
    (conv.headingsAhead lines direction.opposite landing)[count]? = some number := by
  obtain ⟨before, behind, hsplit⟩ := List.append_of_mem (mem_inOrder.mpr hnumber)
  rw [(headingsAhead_of_split hsplit).1] at hlanding
  -- the headings between the two are passed on both ways
  have hbetween : behind = behind.take count ++ landing :: behind.drop (count + 1) := by
    obtain ⟨hlt, rfl⟩ := List.getElem?_eq_some_iff.mp hlanding
    rw [← List.drop_eq_getElem_cons hlt, List.take_append_drop]
  have hlength : (behind.take count).length = count := by
    have hlt := (List.getElem?_eq_some_iff.mp hlanding).1
    rw [List.length_take, Nat.min_eq_left (Nat.le_of_lt hlt)]
  have hresplit : conv.inOrder lines direction =
      (before ++ number :: behind.take count) ++ landing :: behind.drop (count + 1) := by
    rw [hsplit, List.append_assoc, List.cons_append, ← hbetween]
  rw [(headingsAhead_of_split hresplit).2, List.reverse_append, List.reverse_cons,
    List.append_assoc, List.getElem?_append_right (by simp [hlength])]
  simp [hlength]

end Convention

end SourceOutline
