/-
Companies in the order of their identifiers.

Listing puts every company in its place and loses none.  The place is told by the identifier
alone, so a change that keeps the identifiers is seen in a list exactly where it is made.
-/
import Mathlib.Data.List.Perm.Basic
import Mathlib.Data.String.Basic
import VacancyLedger.Ledger.Companies

namespace VacancyLedger.Ledger

theorem insertById_perm (c : Company) (rows : List Company) :
    (insertById c rows).Perm (c :: rows) := by
  induction rows with
  | nil => exact .refl _
  | cons d rest ih =>
      unfold insertById
      split
      · exact .refl _
      · exact (ih.cons d).trans (.swap c d rest)

theorem insertById_sorted (c : Company) {rows : List Company}
    (h : rows.Pairwise fun c d => c.id ≤ d.id) :
    (insertById c rows).Pairwise fun c d => c.id ≤ d.id := by
  induction rows with
  | nil => exact List.pairwise_singleton _ _
  | cons d rest ih =>
      obtain ⟨hfirst, hrest⟩ := List.pairwise_cons.mp h
      unfold insertById
      split
      · rename_i hlt
        refine List.pairwise_cons.mpr ⟨fun x hx => ?_, h⟩
        rcases List.mem_cons.mp hx with rfl | hin
        · exact le_of_lt hlt
        · exact (le_of_lt hlt).trans (hfirst x hin)
      · rename_i hle
        refine List.pairwise_cons.mpr ⟨fun x hx => ?_, ih hrest⟩
        rcases List.mem_cons.mp ((insertById_perm c rest).mem_iff.mp hx) with rfl | hin
        · exact le_of_not_gt hle
        · exact hfirst x hin

theorem sortedById_perm (rows : List Company) : (rows.foldr insertById []).Perm rows := by
  induction rows with
  | nil => exact .refl _
  | cons c rest ih => exact (insertById_perm c _).trans (ih.cons c)

theorem listCompanies_all {l : Ledger} {rows : List Company} (hconnected : l.connected = true)
    (hrows : l.view.companies = some rows) :
    l.listCompanies false = .ok (rows.foldr insertById []) := by
  have hall : (fun c : Company => !false || c.source.enabled) = fun _ => true := rfl
  simp only [listCompanies, companyRows, writable, hconnected, hrows, requireTable, bind,
    Except.bind, pure, Except.pure, if_true, hall, List.filter_true]

/-- The companies that are enabled are listed by their identifiers. -/
theorem listCompanies_enabled {l : Ledger} {rows : List Company} (hconnected : l.connected = true)
    (hrows : l.view.companies = some rows) :
    ∃ listed, l.listCompanies true = .ok listed ∧
      listed.Perm (rows.filter (·.source.enabled)) ∧ listed.Pairwise fun c d => c.id ≤ d.id := by
  refine ⟨(rows.filter (·.source.enabled)).foldr insertById [], ?_, sortedById_perm _, ?_⟩
  · simp [listCompanies, companyRows, writable, hconnected, hrows, requireTable, bind, Except.bind,
      pure, Except.pure]
  · induction rows.filter (·.source.enabled) with
    | nil => exact .nil
    | cons c rest ih => exact insertById_sorted c ih

/-! ### Changes that keep the identifiers -/

section

variable {f : Company → Company}

theorem insertById_map (hid : ∀ c, (f c).id = c.id) (c : Company) (rows : List Company) :
    insertById (f c) (rows.map f) = (insertById c rows).map f := by
  induction rows with
  | nil => rfl
  | cons d rest ih =>
      rw [List.map_cons, insertById, insertById, hid, hid, apply_ite (List.map f), ih]
      rfl

theorem sortedById_map (hid : ∀ c, (f c).id = c.id) (rows : List Company) :
    (rows.map f).foldr insertById [] = (rows.foldr insertById []).map f := by
  induction rows with
  | nil => rfl
  | cons c rest ih =>
      rw [List.map_cons, List.foldr_cons, List.foldr_cons, ih, insertById_map hid]

/-- What is seen in a list has been done to the companies, and what is not has not. -/
theorem sortedById_map_eq_iff (hid : ∀ c, (f c).id = c.id) (rows : List Company) :
    (rows.map f).foldr insertById [] = rows.foldr insertById [] ↔ rows.map f = rows := by
  rw [sortedById_map hid]
  constructor
  · intro hsame
    have hkept : ∀ c ∈ rows.foldr insertById [], f c = id c :=
      List.map_inj_left.mp (hsame.trans (List.map_id _).symm)
    have hrows : ∀ c ∈ rows, f c = id c := fun c hc =>
      hkept c ((sortedById_perm rows).mem_iff.mpr hc)
    exact (List.map_congr_left hrows).trans (List.map_id rows)
  · intro hsame
    rw [← sortedById_map hid, hsame]

end

end VacancyLedger.Ledger
