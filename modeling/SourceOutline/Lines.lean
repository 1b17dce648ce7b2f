import SourceOutline.Fault

/-!
# Numbered lines

Lines are numbered from zero, and a negative number counts from the end: the last line is number
-1. This module looks up lines under that convention, lists them in reading order from a number on,
and cuts a list of lines at such numbers.

Main statements: on a number that does not count from the end, `lookup?` is the list's own indexing
(`lookup?_ofNat`), and `numberedFrom` drops the lines above (`numberedFrom_ofNat`).
-/

namespace SourceOutline

namespace Lines

/-- The item with a number, counted from the end when negative. -/
def lookup? {α : Type} (items : List α) (number : Int) : Option α :=
  if 0 ≤ number then items[number.toNat]?
  else if -(items.length : Int) ≤ number then items[(items.length + number).toNat]?
  else none

def lookup {α : Type} (items : List α) (number : Int) : Except Fault α :=
  match lookup? items number with
  | some item => .ok item
  | none => .error .lineOutOfRange

/-- The items with their numbers, from `first` on. -/
def numbered {α : Type} (first : Int) (items : List α) : List (Int × α) :=
  items.zipIdx.map fun entry => (first + entry.2, entry.1)

/-- The items numbered `first`, `first + 1` and so on to the last. From a negative number the count
reaches zero after the last item and goes on with the first; below `-length` there is no item. -/
def numberedFrom {α : Type} (items : List α) (first : Int) : Except Fault (List (Int × α)) :=
  if 0 ≤ first then .ok (numbered first (items.drop first.toNat))
  else if -(items.length : Int) ≤ first then
    .ok (numbered first (items.drop (items.length + first).toNat ++ items))
  else .error .lineOutOfRange

/-- The place in a list at which a cut at some number falls: from the end when negative, and never
outside the list. -/
def cutAt (length : Nat) (number : Int) : Nat :=
  if 0 ≤ number then min number.toNat length else (length + number).toNat

theorem lookup?_ofNat {α : Type} (items : List α) (n : Nat) : lookup? items n = items[n]? := by
  simp [lookup?]

theorem numberedFrom_ofNat {α : Type} (items : List α) (n : Nat) :
    numberedFrom items n = .ok (numbered n (items.drop n)) := by
  simp [numberedFrom]

theorem cutAt_ofNat {length n : Nat} (h : n ≤ length) : cutAt length n = n := by
  simp [cutAt, h]

theorem numbered_nil {α : Type} (first : Int) : numbered first ([] : List α) = [] := rfl

theorem numbered_cons {α : Type} (first : Int) (item : α) (rest : List α) :
    numbered first (item :: rest) = (first, item) :: numbered (first + 1) rest := by
  have shift : ∀ (n : Nat), (rest.zipIdx (n + 1)).map (fun entry => (first + (entry.2 : Int), entry.1))
      = (rest.zipIdx n).map fun entry => (first + 1 + (entry.2 : Int), entry.1) := by
    intro n
    rw [List.zipIdx_succ]
    simp only [List.map_map]
    refine List.map_congr_left fun entry _ => ?_
    show (first + ((entry.2 + 1 : Nat) : Int), entry.1) = (first + 1 + (entry.2 : Int), entry.1)
    rw [show first + ((entry.2 + 1 : Nat) : Int) = first + 1 + (entry.2 : Int) by omega]
  show (first + ((0 : Nat) : Int), item) :: _ = _
  rw [shift 0]
  simp [numbered]

theorem map_snd_numbered {α : Type} (first : Int) (items : List α) :
    (numbered first items).map Prod.snd = items := by
  induction items generalizing first with
  | nil => rfl
  | cons item rest ih => rw [numbered_cons, List.map_cons, ih]

end Lines

end SourceOutline
