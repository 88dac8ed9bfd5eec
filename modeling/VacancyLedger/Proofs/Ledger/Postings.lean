/-
What the schema says of the postings.

Postings are numbered and no number is given twice, and a company has at most one posting
under a key.  Every update of the ledger picks its row by number or by company and key, so
these constraints are what makes it an update of one row: to look a posting up and then
write the row of its number is to write the row of its company and key.
-/
import Mathlib.Data.List.Nodup
import Mathlib.Data.List.Count
import VacancyLedger.Ledger.Writer

namespace VacancyLedger

namespace Posting

/-- What a posting is looked up by. -/
def place (p : Posting) : String × String := (p.company, p.key)

theorem isAt_iff {p : Posting} {company key : String} :
    p.isAt company key = true ↔ p.company = company ∧ p.key = key := by
  simp [isAt]

theorem isAt_place {p : Posting} {company key : String} :
    p.isAt company key = true ↔ p.place = (company, key) := by
  simp [isAt, place]

end Posting

namespace Ledger

/-- The constraints of the schema on the table of postings. -/
structure Constrained (table : Numbered Posting) : Prop where
  /-- Numbers were given in order. -/
  ids_le : ∀ p ∈ table.rows, p.id ≤ table.lastId
  /-- No number was given twice. -/
  ids_nodup : (table.rows.map (·.id)).Nodup
  /-- A company has at most one posting under a key. -/
  places_nodup : (table.rows.map (·.place)).Nodup

theorem constrained_empty : Constrained .empty :=
  ⟨by simp [Numbered.empty], by simp [Numbered.empty], by simp [Numbered.empty]⟩

section

variable {rows : List Posting} {company key : String}

theorem eq_of_place (h : (rows.map (·.place)).Nodup) {p q : Posting} (hp : p ∈ rows)
    (hq : q ∈ rows) (hplace : p.place = q.place) : p = q :=
  List.inj_on_of_nodup_map h hp hq hplace

/-- What a look-up finds is a row of the company and the key. -/
theorem find?_isAt_some {p : Posting} (h : rows.find? (·.isAt company key) = some p) :
    p ∈ rows ∧ p.company = company ∧ p.key = key := by
  have hat : p.isAt company key = true := by simpa using List.find?_some h
  exact ⟨List.mem_of_find?_eq_some h, Posting.isAt_iff.mp hat⟩

theorem find?_isAt_none_iff :
    rows.find? (·.isAt company key) = none ↔ ∀ p ∈ rows, p.isAt company key = false := by
  simp [List.find?_eq_none]

/-- Where a posting is, it is the only one. -/
theorem filter_isAt (h : (rows.map (·.place)).Nodup) {p : Posting} (hp : p ∈ rows)
    (hat : p.isAt company key = true) : rows.filter (·.isAt company key) = [p] := by
  induction rows with
  | nil => simp at hp
  | cons q rest ih =>
      rw [List.map_cons] at h
      obtain ⟨hnew, hrest⟩ := List.nodup_cons.mp h
      have hsame : ∀ r : Posting, r.isAt company key = true → r.place = p.place := fun r hr => by
        rw [Posting.isAt_place.mp hr, Posting.isAt_place.mp hat]
      rcases List.mem_cons.mp hp with heq | hin
      · subst heq
        have hout : ∀ r ∈ rest, ¬ r.isAt company key = true := fun r hr hrat =>
          hnew (List.mem_map.mpr ⟨r, hr, hsame r hrat⟩)
        simp [hat, List.filter_eq_nil_iff.mpr hout]
      · have hne : q.isAt company key = false := by
          by_contra hqat
          rw [Bool.not_eq_false] at hqat
          exact hnew (List.mem_map.mpr ⟨p, hin, (hsame q hqat).symm⟩)
        simp only [List.filter_cons, hne, Bool.false_eq_true, if_false]
        exact ih hrest hin

/-- At most one posting of a company and a key passes a test. -/
theorem countP_isAt (company key : String) (h : (rows.map (·.place)).Nodup)
    (test : Posting → Bool) :
    rows.countP (fun p => test p && p.isAt company key)
      = if rows.any (fun p => test p && p.isAt company key) then 1 else 0 := by
  by_cases hany : rows.any (fun p => test p && p.isAt company key) = true
  · rw [if_pos hany]
    obtain ⟨p, hp, hpass⟩ := List.any_eq_true.mp hany
    rw [Bool.and_eq_true] at hpass
    rw [← List.countP_filter, filter_isAt h hp hpass.2]
    simp [hpass.1]
  · rw [if_neg hany, List.countP_eq_zero]
    intro p hp hpass
    exact hany (List.any_eq_true.mpr ⟨p, hp, hpass⟩)

/-- The row with the number of a posting is the row of its company and key. -/
theorem id_eq_iff_isAt {table : Numbered Posting} (h : Constrained table) {p q : Posting}
    (hp : p ∈ table.rows) (hat : p.isAt company key = true) (hq : q ∈ table.rows) :
    (q.id == p.id) = q.isAt company key := by
  rw [Bool.eq_iff_iff, beq_iff_eq]
  constructor
  · intro hid
    rw [List.inj_on_of_nodup_map h.ids_nodup hq hp hid]
    exact hat
  · intro hqat
    have hplace : q.place = p.place := by
      rw [Posting.isAt_place.mp hqat, Posting.isAt_place.mp hat]
    rw [eq_of_place h.places_nodup hq hp hplace]

end

/-! ### Statements -/

section

variable {t : Tables} {table : Numbered Posting} {company key : String}

/-- The tables with other postings. -/
def Tables.withPostings (t : Tables) (table : Numbered Posting) : Tables :=
  { t with postings := some table }

@[simp] theorem Tables.withPostings_withPostings (t : Tables) (a b : Numbered Posting) :
    (t.withPostings a).withPostings b = t.withPostings b := rfl

theorem Tables.withPostings_self (h : t.postings = some table) : t.withPostings table = t := by
  rw [Tables.withPostings, ← h]

theorem find_eq (h : t.postings = some table) :
    t.find company key = .ok (table.rows.find? (·.isAt company key)) := by
  simp [Tables.find, Tables.postingRows, requireTable, h, bind, Except.bind, Except.map, pure,
    Except.pure]

theorem updatePostings_eq (h : t.postings = some table) (test : Posting → Bool)
    (f : Posting → Posting) :
    t.updatePostings test f = .ok (t.withPostings
      { table with rows := table.rows.map fun q => if test q then f q else q }) := by
  simp [Tables.updatePostings, requireTable, h, bind, Except.bind, pure, Except.pure,
    Tables.withPostings]

theorem close_eq (h : t.postings = some table) (now : String) :
    t.close company key now =
      .ok (table.rows.any (fun p => p.isAt company key && p.isActive), t.withPostings
        { table with rows := table.rows.map fun q =>
            if q.isAt company key && q.isActive then q.closed now else q }) := by
  simp [Tables.close, Tables.postingRows, updatePostings_eq h, requireTable, h, bind, Except.bind,
    Except.map, pure, Except.pure]

/-- A posting of a company that is stored is inserted if there is none in its place. -/
theorem insert_eq (h : t.postings = some table) {companies : List Company}
    (hcompanies : t.companies = some companies) (hstored : ∃ c ∈ companies, c.id = company)
    {listing : Listing} (hnew : table.rows.find? (·.isAt company listing.key) = none)
    (now : String) :
    t.insert company listing now = .ok (table.lastId + 1, t.withPostings
      ⟨table.rows ++ [.fresh (table.lastId + 1) company listing now], table.lastId + 1⟩) := by
  have hfree : table.rows.any (·.isAt company listing.key) = false := by
    rw [List.any_eq_false]
    intro p hp
    rw [find?_isAt_none_iff.mp hnew p hp]
    exact Bool.false_ne_true
  have hknown : companies.any (·.id == company) = true := by
    obtain ⟨c, hc, hid⟩ := hstored
    exact List.any_eq_true.mpr ⟨c, hc, by simpa using hid⟩
  simp [Tables.insert, requireTable, h, hcompanies, hfree, hknown, bind, Except.bind, pure,
    Except.pure, Tables.withPostings]

end

end Ledger
end VacancyLedger
