/-
Taking apart computations that may fail.

If a computation made of several succeeds, each part of it has succeeded; its result tells
what each part has come to.  Reading a list item by item is such a computation: it fails as the
first item does that cannot be read, whatever comes after it.
-/

namespace VacancyLedger

variable {ε α β : Type}

/-- A computation that succeeds has succeeded in its first part. -/
theorem bind_ok {first : Except ε α} {rest : α → Except ε β} {b : β}
    (h : first >>= rest = .ok b) : ∃ a, first = .ok a ∧ rest a = .ok b := by
  cases first with
  | error e => cases h
  | ok a => exact ⟨a, rfl, h⟩

/-- A computation that fails has failed in its first part, or in the rest. -/
theorem bind_error {first : Except ε α} {rest : α → Except ε β} {e : ε}
    (h : first >>= rest = .error e) :
    first = .error e ∨ ∃ a, first = .ok a ∧ rest a = .error e := by
  cases first with
  | error e' =>
      cases h
      exact .inl rfl
  | ok a => exact .inr ⟨a, rfl, h⟩

theorem map_ok {x : Except ε α} {f : α → β} {b : β} (h : x.map f = .ok b) :
    ∃ a, x = .ok a ∧ f a = b := by
  cases x with
  | error e => cases h
  | ok a => exact ⟨a, rfl, Except.ok.inj h⟩

theorem map_error {x : Except ε α} {f : α → β} {e : ε} (h : x.map f = .error e) :
    x = .error e := by
  cases x with
  | error e' => rw [Except.error.inj h]
  | ok a => cases h

theorem ok_of_toOption {x : Except ε α} {a : α} (h : x.toOption = some a) : x = .ok a := by
  cases x with
  | error e => cases h
  | ok b => rw [Option.some.inj h]

@[simp] theorem ok_mapError {ε' : Type} (a : α) (f : ε → ε') :
    (Except.ok a : Except ε α).mapError f = .ok a := rfl

@[simp] theorem error_mapError {ε' : Type} (e : ε) (f : ε → ε') :
    (Except.error e : Except ε α).mapError f = .error (f e) := rfl

theorem mapError_error {ε' : Type} {x : Except ε α} {f : ε → ε'} {e' : ε'}
    (h : x.mapError f = .error e') : ∃ e, x = .error e ∧ f e = e' := by
  cases x with
  | error e => exact ⟨e, rfl, Except.error.inj h⟩
  | ok a => cases h

theorem mapError_ok {ε' : Type} {x : Except ε α} {f : ε → ε'} {a : α}
    (h : x.mapError f = .ok a) : x = .ok a := by
  cases x with
  | error e => cases h
  | ok b => rw [Except.ok.inj h]

/-! ### Lists that are read item by item -/

section

variable {f : α → Except ε β} {g : α → β} {items : List α} {e : ε}

theorem mapM_of_ok (h : ∀ item ∈ items, f item = .ok (g item)) :
    items.mapM f = .ok (items.map g) := by
  induction items with
  | nil => rfl
  | cons item items ih =>
      obtain ⟨hitem, hitems⟩ := List.forall_mem_cons.mp h
      rw [List.mapM_cons, hitem, ih hitems]
      rfl

theorem mapM_of_error {before after : List α} {item : α}
    (hbefore : ∀ b ∈ before, f b = .ok (g b)) (hitem : f item = .error e) :
    (before ++ item :: after).mapM f = .error e := by
  rw [List.mapM_append, mapM_of_ok hbefore, List.mapM_cons, hitem]
  rfl

theorem exists_ok_of_mapM_ok {results : List β} (h : items.mapM f = .ok results) :
    ∀ item ∈ items, ∃ b, f item = .ok b := by
  induction items generalizing results with
  | nil => nofun
  | cons item items ih =>
      rw [List.mapM_cons] at h
      obtain ⟨b, hitem, h⟩ := bind_ok h
      obtain ⟨others, hitems, -⟩ := bind_ok h
      exact List.forall_mem_cons.mpr ⟨⟨b, hitem⟩, ih hitems⟩

/-- The first item that cannot be read, if there is one. -/
theorem exists_first_error (f : α → Except ε β) (items : List α) :
    (∀ item ∈ items, ∃ b, f item = .ok b) ∨
      ∃ before item after e, items = before ++ item :: after ∧
        (∀ b ∈ before, ∃ c, f b = .ok c) ∧ f item = .error e := by
  induction items with
  | nil => exact .inl nofun
  | cons item items ih =>
      cases hitem : f item with
      | error e => exact .inr ⟨[], item, items, e, rfl, nofun, hitem⟩
      | ok b =>
          rcases ih with hall | ⟨before, bad, after, e, rfl, hbefore, hbad⟩
          · exact .inl (List.forall_mem_cons.mpr ⟨⟨b, hitem⟩, hall⟩)
          · exact .inr ⟨item :: before, bad, after, e, rfl,
              List.forall_mem_cons.mpr ⟨⟨b, hitem⟩, hbefore⟩, hbad⟩

end

end VacancyLedger
