import Mathlib.Tactic.ByContra
import SourceOutline.Lines
import SourceOutline.Proofs.Outcome

/-!
# Lists of numbered lines

Which line has a number, which numbers a piece of a list has, and at which number a search through
numbered lines ends.
-/

namespace SourceOutline

namespace Lines

variable {α : Type}

theorem lookup_ofNat {items : List α} {n : Nat} {item : α} (h : items[n]? = some item) :
    lookup items n = .ok item := by
  unfold lookup
  rw [lookup?_ofNat, h]

theorem lookup?_add_one (items : List α) (n : Nat) :
    lookup? items ((n : Int) + 1) = items[n + 1]? := by
  rw [show (n : Int) + 1 = ((n + 1 : Nat) : Int) by omega, lookup?_ofNat]

theorem lookup?_below (items : List α) (n : Nat) :
    (if (n : Int) + 1 < items.length then lookup? items (n + 1) else none) = items[n + 1]? := by
  split
  · exact lookup?_add_one items n
  · exact (List.getElem?_eq_none (by omega)).symm

theorem numberedFrom_add_one (items : List α) (n : Nat) :
    numberedFrom items ((n : Int) + 1) = .ok (numbered (n + 1) (items.drop (n + 1))) := by
  rw [show (n : Int) + 1 = ((n + 1 : Nat) : Int) by omega, numberedFrom_ofNat]

theorem exists_split {items : List α} {n : Nat} {item : α} (h : items[n]? = some item) :
    ∃ above below, items = above ++ item :: below ∧ above.length = n := by
  obtain ⟨hlt, rfl⟩ := List.getElem?_eq_some_iff.mp h
  refine ⟨items.take n, items.drop (n + 1), ?_, ?_⟩
  · rw [List.getElem_cons_drop, List.take_append_drop]
  · rw [List.length_take, Nat.min_eq_left (Nat.le_of_lt hlt)]

theorem getElem?_split {items above below : List α} {item : α}
    (h : items = above ++ item :: below) : items[above.length]? = some item := by
  rw [h, List.getElem?_append_right (Nat.le_refl _), Nat.sub_self]
  rfl

theorem mem_numbered {first : Int} {items : List α} {entry : Int × α} :
    entry ∈ numbered first items ↔
      ∃ (i : Nat) (item : α), items[i]? = some item ∧ entry = (first + i, item) := by
  induction items generalizing first with
  | nil => simp [numbered_nil]
  | cons item rest ih =>
      rw [numbered_cons, List.mem_cons, ih]
      constructor
      · rintro (rfl | ⟨i, other, hget, rfl⟩)
        · exact ⟨0, item, rfl, by simp⟩
        · exact ⟨i + 1, other, hget, by rw [Prod.mk.injEq]; exact ⟨by omega, rfl⟩⟩
      · rintro ⟨i, other, hget, rfl⟩
        cases i with
        | zero =>
            left
            cases hget
            simp
        | succ i => exact Or.inr ⟨i, other, hget, by rw [Prod.mk.injEq]; exact ⟨by omega, rfl⟩⟩

theorem numbered_append (first : Int) (above below : List α) :
    numbered first (above ++ below) =
      numbered first above ++ numbered (first + above.length) below := by
  induction above generalizing first with
  | nil => simp [numbered_nil]
  | cons item above ih =>
      rw [List.cons_append, numbered_cons, numbered_cons, ih, List.cons_append, List.length_cons,
        show first + 1 + (above.length : Int) = first + ((above.length + 1 : Nat) : Int) by omega]

/-- The number at which a search stops: the first line looked for, or the line after the last. -/
theorem find?_numbered (p : α → Bool) (first : Int) (items : List α) :
    (match (numbered first items).find? fun entry => p entry.2 with
      | some entry => entry.1
      | none => first + items.length) =
      first + (items.takeWhile fun item => !p item).length := by
  induction items generalizing first with
  | nil => rfl
  | cons item rest ih =>
      rw [numbered_cons]
      cases hp : p item with
      | true => simp [hp]
      | false =>
          have := ih (first + 1)
          simp only [List.find?_cons, hp, List.takeWhile_cons, Bool.not_false, if_true,
            List.length_cons, Int.natCast_add, Int.natCast_one] at this ⊢
          rw [show first + ((rest.length : Int) + 1) = first + 1 + rest.length by omega, this]
          omega

theorem takeWhile_numbered_lt (first : Int) (items : List α) (count : Nat) :
    (numbered first items).takeWhile (fun entry => decide (entry.1 < first + count)) =
      numbered first (items.take count) := by
  induction items generalizing first count with
  | nil => simp [numbered_nil]
  | cons item rest ih =>
      rw [numbered_cons]
      cases count with
      | zero => simp [numbered_nil]
      | succ count =>
          rw [List.takeWhile_cons, List.take_succ_cons, numbered_cons, ← ih (first + 1) count,
            if_pos (by simp only [decide_eq_true_eq]; omega)]
          congr 1
          apply congrArg (fun p => List.takeWhile p (numbered (first + 1) rest))
          funext entry
          congr 1
          rw [eq_iff_iff]
          omega

/-- A line stands in front of the first one that a search stops at, if it and all lines above it
are passed over. -/
theorem lt_length_takeWhile {p : α → Bool} {items : List α} {i : Nat} :
    i < (items.takeWhile p).length ↔
      i < items.length ∧ ∀ k ≤ i, ∀ item, items[k]? = some item → p item = true := by
  induction items generalizing i with
  | nil => simp
  | cons first rest ih =>
      by_cases hfirst : p first = true
      · rw [List.takeWhile_cons_of_pos hfirst, List.length_cons, List.length_cons]
        cases i with
        | zero =>
            constructor
            · intro _
              refine ⟨Nat.succ_pos _, fun k hk item hitem => ?_⟩
              obtain rfl : k = 0 := by omega
              cases hitem
              exact hfirst
            · intro _
              exact Nat.succ_pos _
        | succ i =>
            rw [Nat.add_lt_add_iff_right, Nat.add_lt_add_iff_right, ih]
            refine and_congr_right fun _ => ⟨?_, ?_⟩
            · intro h k hk item hitem
              cases k with
              | zero =>
                  cases hitem
                  exact hfirst
              | succ k => exact h k (by omega) item hitem
            · intro h k hk item hitem
              exact h (k + 1) (by omega) item hitem
      · rw [List.takeWhile_cons_of_neg hfirst]
        constructor
        · intro h
          cases h
        · rintro ⟨-, h⟩
          exact absurd (h 0 (Nat.zero_le i) first rfl) hfirst

/-- A line below another one is reached by a search that goes down from there, if no line on the way
stops it. -/
theorem le_length_takeWhile_drop {p : α → Bool} {items : List α} {h k : Nat} (hlt : h < k) :
    k ≤ h + ((items.drop (h + 1)).takeWhile p).length ↔
      k < items.length ∧ ∀ i, h < i → i ≤ k → ∀ item, items[i]? = some item → p item = true := by
  rw [show k ≤ h + ((items.drop (h + 1)).takeWhile p).length ↔
    k - (h + 1) < ((items.drop (h + 1)).takeWhile p).length by omega, lt_length_takeWhile,
    List.length_drop]
  refine and_congr (by omega) ⟨fun hpass i hi hik item hitem => ?_, fun hpass i hik item hitem => ?_⟩
  · refine hpass (i - (h + 1)) (by omega) item ?_
    rwa [List.getElem?_drop, Nat.add_sub_cancel' hi]
  · rw [List.getElem?_drop] at hitem
    exact hpass (h + 1 + i) (by omega) (by omega) item hitem

theorem getElem?_takeWhile_drop {p : α → Bool} {items : List α} {h k : Nat}
    (hk : k < ((items.drop (h + 1)).takeWhile p).length) :
    ((items.drop (h + 1)).takeWhile p)[k]? = items[h + 1 + k]? := by
  have hprefix : (items.drop (h + 1)).takeWhile p <+: items.drop (h + 1) := List.takeWhile_prefix p
  rw [List.getElem?_eq_getElem hk, ← List.getElem?_drop]
  exact (List.prefix_iff_getElem?.mp hprefix k hk).symm

/-- What a search that goes down from a line comes by before it stops. -/
theorem mem_numbered_takeWhile_drop {p : α → Bool} {items : List α} {h : Nat} {entry : Int × α} :
    entry ∈ numbered ((h : Int) + 1) ((items.drop (h + 1)).takeWhile p) ↔
      ∃ (k : Nat) (item : α), h < k ∧ k ≤ h + ((items.drop (h + 1)).takeWhile p).length ∧
        items[k]? = some item ∧ entry = ((k : Int), item) := by
  rw [mem_numbered]
  constructor
  · rintro ⟨i, item, hitem, rfl⟩
    have hi := (List.getElem?_eq_some_iff.mp hitem).1
    rw [getElem?_takeWhile_drop hi] at hitem
    refine ⟨h + 1 + i, item, by omega, by omega, hitem, ?_⟩
    rw [Prod.mk.injEq]
    exact ⟨by omega, rfl⟩
  · rintro ⟨k, item, hlt, hle, hitem, rfl⟩
    refine ⟨k - (h + 1), item, ?_, ?_⟩
    · rw [getElem?_takeWhile_drop (by omega), Nat.add_sub_cancel' hlt]
      exact hitem
    · rw [Prod.mk.injEq]
      exact ⟨by omega, rfl⟩

theorem pairwise_numbered (first : Int) (items : List α) :
    (numbered first items).Pairwise fun a b => a.1 < b.1 := by
  induction items generalizing first with
  | nil => exact List.Pairwise.nil
  | cons item rest ih =>
      rw [numbered_cons, List.pairwise_cons]
      refine ⟨?_, ih (first + 1)⟩
      intro entry hentry
      obtain ⟨i, other, -, rfl⟩ := mem_numbered.mp hentry
      dsimp only
      omega

/-- The last of some items in the order of their numbers is the one with the greatest number. -/
theorem getLast?_eq_some_iff {key : α → Int} {items : List α} {item : α}
    (hsorted : items.Pairwise fun a b => key a < key b) :
    items.getLast? = some item ↔ item ∈ items ∧ ∀ other ∈ items, key other ≤ key item := by
  constructor
  · intro hlast
    refine ⟨List.mem_of_getLast? hlast, fun other hother => ?_⟩
    obtain ⟨front, rfl⟩ := List.getLast?_eq_some_iff.mp hlast
    rcases List.mem_append.mp hother with hfront | hsame
    · exact Int.le_of_lt ((List.pairwise_append.mp hsorted).2.2 other hfront item
        (List.mem_singleton_self item))
    · exact Int.le_of_eq (congrArg key (List.mem_singleton.mp hsame))
  · rintro ⟨hmem, hmax⟩
    rcases List.eq_nil_or_concat items with rfl | ⟨front, last, rfl⟩
    · cases hmem
    · rw [List.concat_eq_append] at hmem hmax hsorted ⊢
      rcases List.mem_append.mp hmem with hfront | hsame
      · have hlt := (List.pairwise_append.mp hsorted).2.2 item hfront last
          (List.mem_singleton_self last)
        have hle := hmax last (List.mem_append_right front (List.mem_singleton_self last))
        omega
      · rw [List.mem_singleton.mp hsame, List.getLast?_append]
        rfl

/-- A stretch of lines below line `h` has one last line that is not blank, line `h` standing in for
it when there is none. -/
theorem last_unique {items : List α} {blank : α → Bool} {inside : Nat → Prop} {h m n : Nat}
    (hbelow : ∀ k, inside k → h < k)
    (hm : m = h ∨ inside m ∧ ∃ item, items[m]? = some item ∧ blank item = false)
    (hm' : ∀ k, m < k → inside k → ∀ item, items[k]? = some item → blank item = true)
    (hn : n = h ∨ inside n ∧ ∃ item, items[n]? = some item ∧ blank item = false)
    (hn' : ∀ k, n < k → inside k → ∀ item, items[k]? = some item → blank item = true) : m = n := by
  have hle : ∀ {a b : Nat}, (a = h ∨ inside a ∧ ∃ item, items[a]? = some item ∧ blank item = false) →
      (b = h ∨ inside b) →
      (∀ k, b < k → inside k → ∀ item, items[k]? = some item → blank item = true) → a ≤ b := by
    rintro a b (rfl | ⟨hinside, item, hitem, hvisible⟩) hb hblank
    · rcases hb with rfl | hb
      · exact Nat.le_refl _
      · exact Nat.le_of_lt (hbelow b hb)
    · by_contra hlt
      rw [hblank a (by omega) hinside item hitem] at hvisible
      cases hvisible
  exact Nat.le_antisymm (hle hm (hn.imp_right And.left) hn') (hle hn (hm.imp_right And.left) hm')

theorem takeWhile_numbered (p : α → Bool) (first : Int) (items : List α) :
    (numbered first items).takeWhile (fun entry => p entry.2) =
      numbered first (items.takeWhile p) := by
  induction items generalizing first with
  | nil => simp [numbered_nil]
  | cons item rest ih =>
      rw [numbered_cons, List.takeWhile_cons, List.takeWhile_cons]
      dsimp only
      split
      · rw [ih, numbered_cons]
      · exact (numbered_nil first).symm

theorem mapM_numbered {ε β : Type} (f : α → Except ε β) (first : Int) (items : List α) :
    ((numbered first items).mapM fun entry => f entry.2) = items.mapM f := by
  have hmap := congrArg (List.mapM f) (map_snd_numbered first items)
  rw [List.mapM_map] at hmap
  exact hmap

end Lines

end SourceOutline
