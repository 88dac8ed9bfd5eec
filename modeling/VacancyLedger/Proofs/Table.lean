/-
What inserting does to a table.

A table is a list of pairs, so nothing in its type keeps a key from standing in it twice.
`insert` never makes that happen: it either replaces the value of a key in its place or
puts a key that is new at the end.  So a table made by insertions alone holds each of its
keys once, and a look-up finds the pair that is there.
-/
import Mathlib.Data.List.Induction
import Mathlib.Data.List.Nodup
import VacancyLedger.Table

namespace VacancyLedger.Table

variable {κ α : Type}

theorem mem_keys {t : Table κ α} {key : κ} : key ∈ keys t ↔ ∃ value, (key, value) ∈ t := by
  simp [keys]

section

variable [BEq κ]

theorem get?_nil (key : κ) : get? ([] : Table κ α) key = none := rfl

/-- A key stays in its place or comes last. -/
theorem keys_insert (t : Table κ α) (key : κ) (value : α) :
    keys (insert t key value) = if t.any (·.1 == key) then keys t else keys t ++ [key] := by
  unfold insert
  split
  · simp only [keys, List.map_map]
    refine List.map_congr_left fun entry _ => ?_
    simp only [Function.comp_apply]
    split <;> rfl
  · simp [keys]

/-- There are no more keys in a table than were put in. -/
theorem length_foldl_insert_le (pairs : List (κ × α)) :
    ∀ t : Table κ α,
      (pairs.foldl (fun t (k, v) => insert t k v) t).length ≤ t.length + pairs.length := by
  induction pairs with
  | nil => intro t; exact Nat.le_refl _
  | cons pair rest ih =>
      intro t
      have hstep : (insert t pair.1 pair.2).length ≤ t.length + 1 := by
        unfold insert
        split <;> simp
      refine Nat.le_trans (ih (insert t pair.1 pair.2)) ?_
      rw [List.length_cons]
      omega

theorem length_ofPairs_le (pairs : List (κ × α)) : (ofPairs pairs).length ≤ pairs.length := by
  simpa [ofPairs] using length_foldl_insert_le pairs []

theorem ofPairs_append (pairs : List (κ × α)) (pair : κ × α) :
    ofPairs (pairs ++ [pair]) = insert (ofPairs pairs) pair.1 pair.2 := by
  simp [ofPairs, List.foldl_append]

end

variable [BEq κ] [LawfulBEq κ]

theorem any_key_iff {t : Table κ α} {key : κ} : t.any (·.1 == key) = true ↔ key ∈ keys t := by
  simp [keys]

theorem nodup_keys_insert {t : Table κ α} (h : (keys t).Nodup) (key : κ) (value : α) :
    (keys (insert t key value)).Nodup := by
  rw [keys_insert]
  split
  · exact h
  · rename_i hany
    rw [any_key_iff] at hany
    refine List.nodup_append.mpr ⟨h, List.nodup_singleton key, ?_⟩
    intro a ha b hb hab
    rw [List.mem_singleton] at hb
    exact hany (hb ▸ hab ▸ ha)

/-- Nothing is in a table after an insertion but what was in it and what was put in. -/
theorem mem_insert {t : Table κ α} {key : κ} {value : α} {entry : κ × α}
    (h : entry ∈ insert t key value) : entry = (key, value) ∨ entry ∈ t := by
  unfold insert at h
  split at h
  · obtain ⟨⟨k, v⟩, hold, hval⟩ := List.mem_map.mp h
    simp only at hval
    split at hval
    · rename_i hk
      rw [← hval, eq_of_beq hk]
      exact Or.inl rfl
    · exact Or.inr (hval ▸ hold)
  · rcases List.mem_append.mp h with hin | hnew
    · exact Or.inr hin
    · exact Or.inl (List.mem_singleton.mp hnew)

theorem get?_cons_self (key : κ) (value : α) (t : Table κ α) :
    get? ((key, value) :: t) key = some value :=
  List.lookup_cons_self

theorem get?_cons_of_ne {key other : κ} (h : key ≠ other) (value : α) (t : Table κ α) :
    get? ((other, value) :: t) key = get? t key := by
  have hbeq : (key == other) = false := by simpa using h
  rw [get?, List.lookup_cons, hbeq]
  rfl

/-- In a table that holds each key once, a look-up finds the pair that is there. -/
theorem get?_eq_some_iff {t : Table κ α} (h : (keys t).Nodup) {key : κ} {value : α} :
    get? t key = some value ↔ (key, value) ∈ t := by
  induction t with
  | nil => simp [get?_nil]
  | cons entry rest ih =>
      obtain ⟨hnew, hrest⟩ := List.nodup_cons.mp h
      obtain ⟨k, v⟩ := entry
      by_cases hk : key = k
      · subst hk
        have hout : (key, value) ∉ rest := fun hin => hnew (mem_keys.mpr ⟨value, hin⟩)
        simp [get?_cons_self, hout, eq_comm]
      · rw [get?_cons_of_ne hk, ih hrest]
        simp [hk]

theorem get?_eq_none_iff {t : Table κ α} {key : κ} : get? t key = none ↔ key ∉ keys t := by
  rw [get?, List.lookup_eq_none_iff, keys, List.mem_map]
  constructor
  · rintro h ⟨entry, hin, rfl⟩
    simpa using h entry hin
  · intro h entry hin
    have hne : key ≠ entry.1 := fun heq => h ⟨entry, hin, heq.symm⟩
    simpa using hne

theorem get?_insert_self (t : Table κ α) (key : κ) (value : α) :
    get? (insert t key value) key = some value := by
  unfold insert
  split
  · rename_i hany
    obtain ⟨found, hfound⟩ := mem_keys.mp (any_key_iff.mp hany)
    clear hany
    induction t with
    | nil => cases hfound
    | cons entry rest ih =>
        obtain ⟨k, v⟩ := entry
        rw [List.map_cons]
        by_cases hk : key = k
        · subst hk
          simp only [beq_self_eq_true, if_true]
          exact get?_cons_self key value _
        · have hbeq : (k == key) = false := by simpa using Ne.symm hk
          simp only [hbeq, Bool.false_eq_true, if_false]
          rw [get?_cons_of_ne hk]
          refine ih ((List.mem_cons.mp hfound).resolve_left fun h => hk ?_)
          exact congrArg Prod.fst h
  · rename_i hnone
    rw [any_key_iff, ← get?_eq_none_iff] at hnone
    rw [get?, List.lookup_append]
    rw [get?] at hnone
    rw [hnone, Option.none_or]
    exact List.lookup_cons_self

theorem get?_insert_of_ne {key other : κ} (h : other ≠ key) (t : Table κ α) (value : α) :
    get? (insert t key value) other = get? t other := by
  have hbeq : (other == key) = false := by simpa using h
  unfold insert
  split
  · rename_i hany
    clear hany
    induction t with
    | nil => rfl
    | cons entry rest ih =>
        obtain ⟨k, v⟩ := entry
        rw [List.map_cons]
        generalize List.map _ rest = mapped at ih ⊢
        by_cases hk : other = k
        · subst hk
          simp only [hbeq, Bool.false_eq_true, if_false]
          rw [get?_cons_self, get?_cons_self]
        · rw [get?_cons_of_ne hk, ← ih]
          cases hkey : k == key with
          | true =>
              simp only [hkey, if_true]
              exact get?_cons_of_ne hk value mapped
          | false =>
              simp only [hkey, Bool.false_eq_true, if_false]
              exact get?_cons_of_ne hk v mapped
  · rw [get?, List.lookup_append, List.lookup_cons, hbeq]
    exact Option.or_none

/-! ### Erasing -/

theorem erase_cons_self (t : Table κ α) (key : κ) (value : α) :
    erase ((key, value) :: t) key = erase t key := by
  simp [erase]

theorem erase_cons_of_ne {key other : κ} (h : other ≠ key) (value : α) (t : Table κ α) :
    erase ((other, value) :: t) key = (other, value) :: erase t key := by
  simp [erase, h]

theorem get?_erase_self (t : Table κ α) (key : κ) : get? (erase t key) key = none := by
  induction t with
  | nil => rfl
  | cons entry rest ih =>
      obtain ⟨k, v⟩ := entry
      by_cases hk : k = key
      · rw [hk, erase_cons_self, ih]
      · rw [erase_cons_of_ne hk, get?_cons_of_ne (Ne.symm hk), ih]

theorem get?_erase_of_ne {key other : κ} (h : other ≠ key) (t : Table κ α) :
    get? (erase t key) other = get? t other := by
  induction t with
  | nil => rfl
  | cons entry rest ih =>
      obtain ⟨k, v⟩ := entry
      by_cases hk : k = key
      · rw [hk, erase_cons_self, get?_cons_of_ne h, ih]
      · rw [erase_cons_of_ne hk]
        by_cases hother : other = k
        · rw [hother, get?_cons_self, get?_cons_self]
        · rw [get?_cons_of_ne hother, get?_cons_of_ne hother, ih]

/-! ### Tables made by insertions -/

theorem foldl_insert_nodup (pairs : List (κ × α)) :
    ∀ {t : Table κ α}, (keys t).Nodup →
      (keys (pairs.foldl (fun t (k, v) => insert t k v) t)).Nodup := by
  induction pairs with
  | nil => intro t h; exact h
  | cons pair rest ih => intro t h; exact ih (nodup_keys_insert h pair.1 pair.2)

theorem mem_foldl_insert (pairs : List (κ × α)) {entry : κ × α} :
    ∀ {t : Table κ α}, entry ∈ pairs.foldl (fun t (k, v) => insert t k v) t →
      entry ∈ pairs ∨ entry ∈ t := by
  induction pairs with
  | nil => intro t h; exact Or.inr h
  | cons pair rest ih =>
      intro t h
      rcases ih h with hrest | hin
      · exact Or.inl (List.mem_cons_of_mem _ hrest)
      · rcases mem_insert hin with heq | hold
        · exact Or.inl (heq ▸ List.mem_cons_self)
        · exact Or.inr hold

theorem nodup_keys_ofPairs (pairs : List (κ × α)) : (keys (ofPairs pairs)).Nodup :=
  foldl_insert_nodup pairs List.nodup_nil

theorem mem_ofPairs {pairs : List (κ × α)} {entry : κ × α} (h : entry ∈ ofPairs pairs) :
    entry ∈ pairs := by
  rcases mem_foldl_insert pairs h with hin | hnil
  · exact hin
  · simp at hnil

/-- The keys stand in the order in which each was first put in. -/
theorem keys_ofPairs (pairs : List (κ × α)) :
    keys (ofPairs pairs) = (pairs.map (·.1)).eraseDups := by
  induction pairs using List.reverseRecOn with
  | nil => rfl
  | append_singleton pairs pair ih =>
      have hin : (ofPairs pairs).any (·.1 == pair.1) = true ↔ pair.1 ∈ pairs.map (·.1) := by
        rw [any_key_iff, ih, List.mem_eraseDups]
      rw [ofPairs_append, keys_insert, ih, List.map_append, List.map_singleton,
        List.eraseDups_append]
      by_cases hold : pair.1 ∈ pairs.map (·.1)
      · have hnone : [pair.1].removeAll (pairs.map (·.1)) = [] := by
          simpa [List.removeAll] using hold
        rw [if_pos (hin.mpr hold), hnone]
        simp
      · have hone : [pair.1].removeAll (pairs.map (·.1)) = [pair.1] := by
          simpa [List.removeAll] using hold
        rw [if_neg fun h => hold (hin.mp h), hone]
        rfl

/-- Under a key stands what was put in under it last. -/
theorem get?_ofPairs (pairs : List (κ × α)) (key : κ) :
    get? (ofPairs pairs) key = (pairs.filter (·.1 == key)).getLast?.map (·.2) := by
  induction pairs using List.reverseRecOn with
  | nil => rfl
  | append_singleton pairs pair ih =>
      rw [ofPairs_append, List.filter_append]
      by_cases hkey : pair.1 = key
      · subst hkey
        simp [get?_insert_self]
      · have hother : [pair].filter (·.1 == key) = [] := by simp [hkey]
        rw [get?_insert_of_ne (Ne.symm hkey), ih, hother, List.append_nil]

/-- In a table stand the pairs that were put in last under their keys. -/
theorem mem_ofPairs_filterMap {β : Type} {f : β → Option (κ × α)} {items : List β}
    {entry : κ × α} :
    entry ∈ ofPairs (items.filterMap f) ↔
      ∃ before item after, items = before ++ item :: after ∧ f item = some entry ∧
        ∀ later ∈ after, ∀ other, f later = some other → other.1 ≠ entry.1 := by
  obtain ⟨key, value⟩ := entry
  have hlast : ((ofPairs (items.filterMap f)).get? key = some value) ↔
      items.reverse.findSome? (fun item => (f item).filter (·.1 == key)) = some (key, value) := by
    rw [get?_ofPairs, List.filter_filterMap, List.getLast?_filterMap]
    constructor
    · intro h
      obtain ⟨found, hfound, rfl⟩ := Option.map_eq_some_iff.mp h
      obtain ⟨item, -, hitem⟩ := List.exists_of_findSome?_eq_some hfound
      have hkey : found.1 = key := by simpa using (Option.filter_eq_some_iff.mp hitem).2
      rw [hfound, ← hkey]
    · intro h
      rw [h]
      rfl
  rw [← get?_eq_some_iff (nodup_keys_ofPairs _), hlast, List.findSome?_eq_some_iff]
  constructor
  · rintro ⟨after, item, before, hitems, hitem, hafter⟩
    refine ⟨before.reverse, item, after.reverse, ?_, (Option.filter_eq_some_iff.mp hitem).1, ?_⟩
    · rw [← List.reverse_reverse items, hitems]
      simp
    · intro later hlater other hother hkey
      have hnone := hafter later (List.mem_reverse.mp hlater)
      simp [hother, hkey] at hnone
  · rintro ⟨before, item, after, rfl, hitem, hafter⟩
    refine ⟨after.reverse, item, before.reverse, by simp, by simp [hitem], ?_⟩
    intro later hlater
    cases hother : f later with
    | none => rfl
    | some other => simp [hafter later (List.mem_reverse.mp hlater) other hother]
/-- A table that holds each key once is made of its own pairs. -/
theorem ofPairs_eq_self {t : Table κ α} (h : (keys t).Nodup) : ofPairs t = t := by
  induction t using List.reverseRecOn with
  | nil => rfl
  | append_singleton t pair ih =>
      rw [keys, List.map_append, List.nodup_append] at h
      obtain ⟨hrest, -, hnew⟩ := h
      have hout : ¬ t.any (·.1 == pair.1) = true := fun hany =>
        hnew _ (any_key_iff.mp hany) _ (List.mem_singleton_self _) rfl
      rw [ofPairs_append, ih hrest, insert, if_neg hout]

end VacancyLedger.Table
