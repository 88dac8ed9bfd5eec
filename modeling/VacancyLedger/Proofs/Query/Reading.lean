/-
Reading the items of a query, step by step.

`readItems` recurses on a fuel and may stop with a fault.  `Reading` says what a reading that
comes through has done: which token stood next, what was read after it, and what the items
after it were.  With more fuel than tokens the two agree, so every law of the reader is
proved by induction on `Reading`, where there is neither fuel nor fault.
-/
import VacancyLedger.Proofs.Outcome
import VacancyLedger.Query.Tree

namespace VacancyLedger.Query

/-- A sequence ends with the tokens or before a closing parenthesis. -/
def Ends (tokens : List Token) : Prop :=
  ∀ token ∈ tokens.head?, token.kind = .closing

theorem ends_nil : Ends [] := by simp [Ends]

theorem ends_closing (position : Nat) (rest : List Token) :
    Ends (⟨.closing, position⟩ :: rest) := by
  simp [Ends]

theorem Ends.cons_iff {token : Token} {rest : List Token} :
    Ends (token :: rest) ↔ token.kind = .closing := by
  simp [Ends]

/-- The tokens are read as items: `count` items have been read before, and `pending` is the position
of an "or" that waits for its second item. -/
inductive Reading : Nat → Option Nat → List Token → Items → Prop
  | stop {count : Nat} {rest : List Token} (h : Ends rest) :
      Reading count none rest ⟨[], [], count, rest⟩
  | or {count position : Nat} {word : String} {rest : List Token} {items : Items}
      (hcount : count ≠ 0) (h : Reading count (some position) rest items) :
      Reading count none (⟨.or word, position⟩ :: rest) items
  | wanted {count position : Nat} {pending : Option Nat} {t : Term} {rest : List Token}
      {items : Items} (h : Reading (count + 1) none rest items) :
      Reading count pending (⟨.term t false, position⟩ :: rest) (items.cons (some (.term t)) [])
  | unwanted {count position : Nat} {pending : Option Nat} {t : Term} {rest : List Token}
      {items : Items} (h : Reading (count + 1) none rest items) :
      Reading count pending (⟨.term t true, position⟩ :: rest) (items.cons none [t])
  | group {count position stop : Nat} {pending : Option Nat} {inside rest : List Token}
      {group items : Items} (hgroup : Reading 0 none inside group) (hcount : group.count ≠ 0)
      (hrest : group.rest = ⟨.closing, stop⟩ :: rest)
      (h : Reading (count + 1) none rest items) :
      Reading count pending (⟨.opening, position⟩ :: inside)
        (items.cons group.node? group.excluded)

namespace Reading

variable {count : Nat} {pending : Option Nat} {tokens : List Token} {items : Items}

theorem rest_ends (h : Reading count pending tokens items) : Ends items.rest := by
  induction h with
  | stop h => exact h
  | or _ _ ih | wanted _ ih | unwanted _ ih | group _ _ _ _ _ ih => exact ih

theorem count_le (h : Reading count pending tokens items) : count ≤ items.count := by
  induction h with
  | stop _ => exact Nat.le_refl _
  | or _ _ ih => exact ih
  | wanted _ ih | unwanted _ ih | group _ _ _ _ _ ih => exact Nat.le_of_succ_le ih

/-- What is left is part of what was there. -/
theorem length_rest_le (h : Reading count pending tokens items) :
    items.rest.length ≤ tokens.length := by
  induction h with
  | stop _ => exact Nat.le_refl _
  | or _ _ ih | wanted _ ih | unwanted _ ih =>
      simp only [List.length_cons, Items.cons]
      omega
  | group _ _ hrest _ ihGroup ih =>
      rw [hrest, List.length_cons] at ihGroup
      simp only [List.length_cons, Items.cons]
      omega

end Reading

/-! ### The fuel suffices -/

theorem finish_ok_iff {count : Nat} {pending : Option Nat} {rest : List Token} {items : Items} :
    readItems.finish count pending rest = .ok items ↔
      pending = none ∧ items = ⟨[], [], count, rest⟩ := by
  cases pending with
  | none => simp [readItems.finish, eq_comm]
  | some position => simp [readItems.finish]

/-- What is read is a reading. -/
theorem reading_of_readItems {fuel : Nat} :
    ∀ {count : Nat} {pending : Option Nat} {tokens : List Token} {items : Items},
      tokens.length < fuel → readItems fuel count pending tokens = .ok items →
      Reading count pending tokens items := by
  induction fuel with
  | zero => intro _ _ _ _ hfuel; omega
  | succ fuel ih =>
      intro count pending tokens items hfuel h
      match tokens with
      | [] =>
          obtain ⟨rfl, rfl⟩ := finish_ok_iff.mp h
          exact .stop ends_nil
      | ⟨.closing, position⟩ :: rest =>
          obtain ⟨rfl, rfl⟩ := finish_ok_iff.mp h
          exact .stop (ends_closing position rest)
      | ⟨.or word, position⟩ :: rest =>
          simp only [List.length_cons] at hfuel
          simp only [readItems] at h
          split at h
          · cases h
          · rename_i hplace
            rw [not_or] at hplace
            obtain rfl : pending = none := by simpa using hplace.2
            exact .or hplace.1 (ih (by omega) h)
      | ⟨.term t negated, position⟩ :: rest =>
          simp only [List.length_cons] at hfuel
          obtain ⟨after, hafter, hitems⟩ := bind_ok h
          have hreading := ih (by omega) hafter
          cases negated with
          | false => cases hitems; exact .wanted hreading
          | true => cases hitems; exact .unwanted hreading
      | ⟨.opening, position⟩ :: inside =>
          simp only [List.length_cons] at hfuel
          obtain ⟨group, hgroup, hclose⟩ := bind_ok h
          have hinside := ih (by omega) hgroup
          have hlength := hinside.length_rest_le
          have hends := hinside.rest_ends
          by_cases hcount : group.count = 0
          · simp only [hcount, if_true] at hclose
            split at hclose <;> cases hclose
          · simp only [hcount, if_false] at hclose
            split at hclose
            · cases hclose
            · rename_i closer rest hrest
              obtain ⟨kind, stop⟩ := closer
              rw [hrest] at hends hlength
              obtain rfl : kind = .closing := Ends.cons_iff.mp hends
              obtain ⟨after, hafter, hitems⟩ := bind_ok hclose
              cases hitems
              simp only [List.length_cons] at hlength
              exact .group hinside hcount hrest (ih (by omega) hafter)

/-- A reading is what is read. -/
theorem Reading.readItems {count : Nat} {pending : Option Nat} {tokens : List Token} {items : Items}
    (h : Reading count pending tokens items) :
    ∀ fuel, tokens.length < fuel → Query.readItems fuel count pending tokens = .ok items := by
  induction h with
  | @stop count rest h =>
      intro fuel hfuel
      obtain ⟨fuel, rfl⟩ := Nat.exists_eq_add_one.mpr (Nat.zero_lt_of_lt hfuel)
      match rest with
      | [] => rfl
      | ⟨kind, position⟩ :: rest =>
          obtain rfl : kind = .closing := Ends.cons_iff.mp h
          rfl
  | or hcount _ ih =>
      intro fuel hfuel
      obtain ⟨fuel, rfl⟩ := Nat.exists_eq_add_one.mpr (Nat.zero_lt_of_lt hfuel)
      simp only [List.length_cons] at hfuel
      simp [Query.readItems, hcount, ih fuel (by omega)]
  | wanted _ ih | unwanted _ ih =>
      intro fuel hfuel
      obtain ⟨fuel, rfl⟩ := Nat.exists_eq_add_one.mpr (Nat.zero_lt_of_lt hfuel)
      simp only [List.length_cons] at hfuel
      simp [Query.readItems, ih fuel (by omega), bind, Except.bind, pure, Except.pure]
  | group hgroup hcount hrest _ ihGroup ih =>
      intro fuel hfuel
      obtain ⟨fuel, rfl⟩ := Nat.exists_eq_add_one.mpr (Nat.zero_lt_of_lt hfuel)
      have hlength := hgroup.length_rest_le
      rw [hrest] at hlength
      simp only [List.length_cons] at hfuel hlength
      simp [Query.readItems, ihGroup fuel (by omega), hcount, hrest,
        ih fuel (by omega), bind, Except.bind, pure, Except.pure]

/-- Tokens make a query exactly if they are read as items to the last one. -/
theorem ofTokens_ok_iff {tokens : List Token} {q : Query} :
    ofTokens tokens = .ok q ↔ ∃ items, Reading 0 none tokens items ∧ items.rest = [] ∧
      q = ⟨items.node?, items.excluded⟩ := by
  constructor
  · intro h
    obtain ⟨items, hitems, hq⟩ := bind_ok h
    match hrest : items.rest with
    | [] =>
        rw [hrest] at hq
        cases hq
        exact ⟨items, reading_of_readItems (Nat.lt_succ_self _) hitems, hrest, rfl⟩
    | token :: rest =>
        rw [hrest] at hq
        cases hq
  · rintro ⟨items, hreading, hrest, rfl⟩
    simp [ofTokens, hreading.readItems _ (Nat.lt_succ_self _), hrest, bind, Except.bind, pure,
      Except.pure]

end VacancyLedger.Query
