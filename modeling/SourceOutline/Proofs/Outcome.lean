/-!
# Computations that may fail

A command that may fail is a chain of steps, each of which gives a value or a fault. The lemmas here
take such a chain apart: it succeeds when every step does, and its fault is that of its first step
that fails.
-/

namespace SourceOutline

variable {ε α β : Type}

theorem bind_eq_ok {x : Except ε α} {f : α → Except ε β} {b : β} :
    (x >>= f) = .ok b ↔ ∃ a, x = .ok a ∧ f a = .ok b := by
  cases x <;> simp [bind, Except.bind]

theorem bind_eq_error {x : Except ε α} {f : α → Except ε β} {e : ε} :
    (x >>= f) = .error e ↔ x = .error e ∨ ∃ a, x = .ok a ∧ f a = .error e := by
  cases x <;> simp [bind, Except.bind]

theorem map_eq_ok {x : Except ε α} {f : α → β} {b : β} :
    x.map f = .ok b ↔ ∃ a, x = .ok a ∧ f a = b := by
  cases x <;> simp [Except.map]

theorem map_eq_error {x : Except ε α} {f : α → β} {e : ε} :
    x.map f = .error e ↔ x = .error e := by
  cases x <;> simp [Except.map]

theorem mapError_eq_ok {f : ε → β} {x : Except ε α} {a : α} :
    x.mapError f = .ok a ↔ x = .ok a := by
  cases x with
  | ok b =>
      have hmap : (Except.ok b : Except ε α).mapError f = .ok b := rfl
      rw [hmap, Except.ok.injEq, Except.ok.injEq]
  | error e =>
      constructor
      · intro h
        cases h
      · intro h
        cases h

theorem toOption_eq_some {x : Except ε α} {a : α} : x.toOption = some a ↔ x = .ok a := by
  cases x <;> simp [Except.toOption]

@[simp] theorem ok_bind (a : α) (f : α → Except ε β) : (Except.ok a >>= f) = f a := rfl

@[simp] theorem error_bind (e : ε) (f : α → Except ε β) :
    ((Except.error e : Except ε α) >>= f) = .error e := rfl

@[simp] theorem pure_eq_ok (a : α) : (pure a : Except ε α) = .ok a := rfl

@[simp] theorem mapError_ok {ε' : Type _} (a : α) (f : ε → ε') :
    (Except.ok a : Except ε α).mapError f = .ok a := rfl

@[simp] theorem map_ok (a : α) (f : α → β) : (Except.ok a : Except ε α).map f = .ok (f a) := rfl

/-! ## The same for each item of a list -/

section Lists

variable {f : α → Except ε β} {items : List α}

theorem forM_eq_ok {f : α → Except ε Unit} (h : ∀ item ∈ items, f item = .ok ()) :
    items.forM f = .ok () := by
  induction items with
  | nil => rfl
  | cons first rest ih =>
      show (f first >>= fun _ => rest.forM f) = _
      rw [h first List.mem_cons_self, ok_bind]
      exact ih fun item hitem => h item (List.mem_cons_of_mem first hitem)

/-- When all items have a value, the values stand in the order of the items. -/
theorem mapM_eq_ok {values : List β} (h : items.mapM f = .ok values) :
    values.length = items.length ∧
      ∀ (i : Nat) (item : α), items[i]? = some item →
        ∃ value, values[i]? = some value ∧ f item = .ok value := by
  induction items generalizing values with
  | nil =>
      cases h
      exact ⟨rfl, fun i item hi => by cases hi⟩
  | cons first rest ih =>
      rw [List.mapM_cons] at h
      obtain ⟨value, hvalue, h⟩ := bind_eq_ok.mp h
      obtain ⟨others, hothers, h⟩ := bind_eq_ok.mp h
      cases h
      obtain ⟨hlength, hall⟩ := ih hothers
      refine ⟨by rw [List.length_cons, List.length_cons, hlength], ?_⟩
      intro i item hi
      cases i with
      | zero =>
          cases hi
          exact ⟨value, rfl, hvalue⟩
      | succ i => exact hall i item hi

theorem exists_item_of_mapM {values : List β} (h : items.mapM f = .ok values) {i : Nat} {value : β}
    (hi : values[i]? = some value) : ∃ item, items[i]? = some item ∧ f item = .ok value := by
  obtain ⟨hlength, hvalues⟩ := mapM_eq_ok h
  obtain ⟨hlt, -⟩ := List.getElem?_eq_some_iff.mp hi
  have hitem := List.getElem?_eq_getElem (l := items) (i := i) (by omega)
  obtain ⟨other, hother, hvalue⟩ := hvalues i _ hitem
  rw [hi] at hother
  cases hother
  exact ⟨_, hitem, hvalue⟩

theorem mapM_eq_error {e : ε} (h : items.mapM f = .error e) :
    ∃ item ∈ items, f item = .error e := by
  induction items with
  | nil => cases h
  | cons first rest ih =>
      rw [List.mapM_cons] at h
      rcases bind_eq_error.mp h with hfirst | ⟨value, -, h⟩
      · exact ⟨first, List.mem_cons_self, hfirst⟩
      · rcases bind_eq_error.mp h with hrest | ⟨others, -, h⟩
        · obtain ⟨item, hitem, hfault⟩ := ih hrest
          exact ⟨item, List.mem_cons_of_mem first hitem, hfault⟩
        · cases h

/-- When it is known of each item whether it has a value, and which, the same is known of all. -/
theorem mapM_eq_ok_iff {value : α → β} {succeeds : α → Prop} {values : List β}
    (h : ∀ item ∈ items, ∀ result, f item = .ok result ↔ succeeds item ∧ result = value item) :
    items.mapM f = .ok values ↔ (∀ item ∈ items, succeeds item) ∧ values = items.map value := by
  induction items generalizing values with
  | nil =>
      rw [List.mapM_nil, pure_eq_ok, Except.ok.injEq]
      simp [eq_comm]
  | cons first rest ih =>
      have hrest := fun others =>
        @ih others fun item hitem => h item (List.mem_cons_of_mem first hitem)
      rw [List.mapM_cons, List.forall_mem_cons, List.map_cons]
      constructor
      · intro hall
        obtain ⟨result, hresult, hall⟩ := bind_eq_ok.mp hall
        obtain ⟨others, hothers, hall⟩ := bind_eq_ok.mp hall
        cases hall
        obtain ⟨hfirst, rfl⟩ := (h first List.mem_cons_self result).mp hresult
        obtain ⟨hsucceed, rfl⟩ := (hrest others).mp hothers
        exact ⟨⟨hfirst, hsucceed⟩, rfl⟩
      · rintro ⟨⟨hfirst, hsucceed⟩, rfl⟩
        rw [(h first List.mem_cons_self _).mpr ⟨hfirst, rfl⟩, ok_bind,
          (hrest _).mpr ⟨hsucceed, rfl⟩, ok_bind, pure_eq_ok]

end Lists

end SourceOutline
