/-
What a search of the ledger shows.

The rows that are asked for come sorted, and the search goes through them and stops as soon
as it has enough.  Sorting keeps rows of equal rank in their order, so it makes no difference
whether rows are left out before it or after it: a search shows the first of all rows that
match, sorted.  Nothing that matches is left out for something that ranks below it.
-/
import Mathlib.Data.List.Perm.Subperm
import Mathlib.Data.String.Basic
import VacancyLedger.Ledger.Search
import VacancyLedger.Proofs.Outcome
import VacancyLedger.Proofs.Text.Scan

namespace VacancyLedger.Ledger

/-! ### Sorting what is left over -/

section

variable {α : Type} {le : α → α → Bool}

/-- Where a row is put among sorted rows is a matter of rank alone: after all that do not rank
before it. -/
theorem cut_of_sorted {a : α} {before after : List α} (hbefore : ∀ b ∈ before, (!le a b) = true)
    (hsorted : (before ++ a :: after).Pairwise fun b c => le b c = true) :
    before = (before ++ after).takeWhile (fun b => !le a b) ∧
      after = (before ++ after).dropWhile (fun b => !le a b) := by
  have hle := (List.pairwise_cons.mp (List.pairwise_append.mp hsorted).2.1).1
  have hafter : ∀ b ∈ after.head?, (!le a b) = false := by
    intro b hb
    simp [hle b (List.mem_of_head? hb)]
  exact ⟨(Text.takeWhile_run hbefore hafter).symm, (Text.dropWhile_run hbefore hafter).symm⟩

/-- Rows can be left out after sorting as well as before. -/
theorem filter_mergeSort (htrans : ∀ a b c, le a b = true → le b c = true → le a c = true)
    (htotal : ∀ a b, (le a b || le b a) = true) (p : α → Bool) (l : List α) :
    (l.mergeSort le).filter p = (l.filter p).mergeSort le := by
  induction l with
  | nil => simp
  | cons a l ih =>
      obtain ⟨before, after, hall, hrest, hbefore⟩ := List.mergeSort_cons htrans htotal a l
      by_cases hp : p a = true
      · obtain ⟨before', after', hall', hrest', hbefore'⟩ :=
          List.mergeSort_cons htrans htotal a (l.filter p)
        have hsorted := (List.pairwise_mergeSort htrans htotal (a :: l)).filter p
        rw [hall, List.filter_append, List.filter_cons_of_pos hp] at hsorted
        have hsorted' := List.pairwise_mergeSort htrans htotal (a :: l.filter p)
        rw [hall'] at hsorted'
        -- Without `a` the two are the same, so they are cut in the same place.
        have hsame : before.filter p ++ after.filter p = before' ++ after' := by
          rw [← List.filter_append, ← hrest, ih, hrest']
        have hcut := cut_of_sorted (fun b hb => hbefore b (List.mem_of_mem_filter hb)) hsorted
        have hcut' := cut_of_sorted hbefore' hsorted'
        rw [hsame] at hcut
        rw [List.filter_cons_of_pos hp, hall, hall', List.filter_append,
          List.filter_cons_of_pos hp, hcut.1, hcut.2, ← hcut'.1, ← hcut'.2]
      · rw [List.filter_cons_of_neg hp, hall, List.filter_append, List.filter_cons_of_neg hp,
          ← List.filter_append, ← hrest, ih]

end

/-! ### The order of the rows -/

theorem showsBefore_iff {p q : Posting} :
    showsBefore p q = true ↔ q.lastSeen < p.lastSeen ∨ p.lastSeen = q.lastSeen ∧ q.id ≤ p.id := by
  simp [showsBefore]

theorem showsBefore_total (p q : Posting) : (showsBefore p q || showsBefore q p) = true := by
  rw [Bool.or_eq_true, showsBefore_iff, showsBefore_iff]
  rcases lt_trichotomy p.lastSeen q.lastSeen with h | h | h
  · exact .inr (.inl h)
  · rcases Nat.le_total q.id p.id with hid | hid
    · exact .inl (.inr ⟨h, hid⟩)
    · exact .inr (.inr ⟨h.symm, hid⟩)
  · exact .inl (.inl h)

theorem showsBefore_trans (p q r : Posting) (hpq : showsBefore p q = true)
    (hqr : showsBefore q r = true) : showsBefore p r = true := by
  rw [showsBefore_iff] at *
  rcases hpq with hpq | ⟨hpq, hid⟩
  · rcases hqr with hqr | ⟨hqr, -⟩
    · exact .inl (hqr.trans hpq)
    · exact .inl (hqr ▸ hpq)
  · rcases hqr with hqr | ⟨hqr, hid'⟩
    · exact .inl (hpq ▸ hqr)
    · exact .inr ⟨hpq.trans hqr, hid'.trans hid⟩

/-! ### Going through the rows -/

/-- The first rows that are wanted are gathered, and at least one. -/
theorem gather_eq {limit : Int} {wanted : Posting → Bool} {rows : List Posting} :
    ∀ {found : List Posting}, gather limit wanted found rows =
      found.reverse ++ (rows.filter wanted).take (max 1 (limit - found.length).toNat) := by
  induction rows with
  | nil => simp [gather]
  | cons p rows ih =>
      intro found
      rw [gather]
      by_cases hp : wanted p = true
      · rw [if_pos hp, List.filter_cons_of_pos hp]
        split
        · rename_i hlimit
          rw [List.length_cons] at hlimit
          have hone : max 1 (limit - found.length).toNat = 1 := by omega
          rw [hone]
          simp
        · rename_i hlimit
          rw [List.length_cons] at hlimit
          have hmore : max 1 (limit - found.length).toNat =
              max 1 (limit - (p :: found).length).toNat + 1 := by
            rw [List.length_cons]
            omega
          rw [ih, hmore, List.take_succ_cons, List.reverse_cons, List.append_assoc]
          rfl
      · rw [if_neg hp, List.filter_cons_of_neg hp, ih]

theorem search_ok_iff {l : Ledger} {f : Filter} {limit : Int} {wanted : Posting → Bool}
    (hlimit : 1 ≤ limit) {found : List Posting} :
    l.search f limit wanted = .ok found ↔ ∃ rows, l.committedPostings = .ok rows ∧
      found = ((rows.filter fun p => f.accepts p && wanted p).mergeSort showsBefore).take
        limit.toNat := by
  have hmax : max 1 (limit - ([] : List Posting).length).toNat = limit.toNat := by
    simp
    omega
  have hgather : ∀ rows : List Posting,
      gather limit wanted [] ((rows.filter f.accepts).mergeSort showsBefore) =
        ((rows.filter fun p => f.accepts p && wanted p).mergeSort showsBefore).take
          limit.toNat := by
    intro rows
    rw [gather_eq, hmax, filter_mergeSort showsBefore_trans showsBefore_total, List.filter_filter]
    simp [Bool.and_comm]
  constructor
  · intro h
    obtain ⟨rows, hrows, hfound⟩ := bind_ok h
    cases hfound
    exact ⟨rows, hrows, hgather rows⟩
  · rintro ⟨rows, hrows, rfl⟩
    rw [search, hrows, ← hgather]
    rfl

/-! ### Rank -/

/-- A posting ranks above another that was seen before it last was, or that was last seen when it
was and has a smaller number. -/
def RanksAbove (p q : Posting) : Prop :=
  q.lastSeen < p.lastSeen ∨ p.lastSeen = q.lastSeen ∧ q.id < p.id

theorem not_ranksAbove {p q : Posting} (h : showsBefore p q = true) : ¬RanksAbove q p := by
  rw [showsBefore_iff] at h
  rintro (hrank | ⟨hrank, hid⟩)
  · rcases h with h | ⟨h, -⟩
    · exact lt_asymm hrank h
    · exact lt_irrefl _ (h ▸ hrank)
  · rcases h with h | ⟨-, h⟩
    · exact lt_irrefl _ (hrank ▸ h)
    · exact Nat.lt_irrefl _ (Nat.lt_of_lt_of_le hid h)

/-- What is shown of the postings that match: the first `limit` of them by rank. -/
structure Shows (matching : List Posting) (limit : Nat) (found : List Posting) : Prop where
  eq_take : found = (matching.mergeSort showsBefore).take limit
  sorted : found.Pairwise fun p q => ¬RanksAbove q p
  /-- What is left out ranks above nothing that is shown. -/
  outranked : ∀ p ∈ matching, p ∉ found → ∀ q ∈ found, ¬RanksAbove p q
  /-- Only what matches counts towards the limit. -/
  length_eq : found.length = min limit matching.length
  /-- No posting is shown more often than it is there. -/
  subperm : found.Subperm matching

theorem shows_take (matching : List Posting) (limit : Nat) :
    Shows matching limit ((matching.mergeSort showsBefore).take limit) := by
  have hperm := List.mergeSort_perm matching showsBefore
  have hsorted := List.pairwise_mergeSort showsBefore_trans showsBefore_total matching
  refine ⟨rfl, ?_, ?_, ?_, ?_⟩
  · exact (hsorted.sublist (List.take_sublist _ _)).imp not_ranksAbove
  · intro p hp hnot q hq
    rw [← List.take_append_drop limit (matching.mergeSort showsBefore),
      List.pairwise_append] at hsorted
    have hdrop : p ∈ (matching.mergeSort showsBefore).drop limit := by
      have hmem := hperm.mem_iff.mpr hp
      rw [← List.take_append_drop limit (matching.mergeSort showsBefore), List.mem_append] at hmem
      exact hmem.resolve_left hnot
    exact not_ranksAbove (hsorted.2.2 q hq p hdrop)
  · rw [List.length_take, hperm.length_eq]
  · exact (List.take_sublist _ _).subperm.trans hperm.subperm

end VacancyLedger.Ledger
