/-
What a page does to the number of postings.

A page that is applied brings postings in, takes some up again and closes others, and this is
what it counts.  So the number of postings a company has grows by what was created, and the
number of those that are active by what was created and reopened less what was closed; other
companies have as many as before.

The rounds of the first loop each count one listing as created, renewed or reopened, and count
it as updated only if they count it as renewed.  Since applying a page is settling it, this
bounds what settling counts as well.
-/
import VacancyLedger.Proofs.Ledger.Apply

namespace VacancyLedger.Ledger

variable {table : Numbered Posting} {rows : List Posting} {company now : String} {d : Difference}
  {page seen : Page}

/-- How many postings a company has. -/
def storedCount (rows : List Posting) (company : String) : Nat :=
  rows.countP (·.company == company)

/-- How many active postings a company has. -/
def activeCount (rows : List Posting) (company : String) : Nat :=
  rows.countP fun p => p.company == company && p.isActive

/-! ### Newcomers -/

theorem storedCount_append (rows others : List Posting) (company : String) :
    storedCount (rows ++ others) company = storedCount rows company + storedCount others company :=
  List.countP_append

theorem activeCount_append (rows others : List Posting) (company : String) :
    activeCount (rows ++ others) company = activeCount rows company + activeCount others company :=
  List.countP_append

/-- Newcomers are active postings of the company whose page they are on. -/
theorem storedCount_freshRows (company now other : String) (listings : List Listing) :
    ∀ lastId, storedCount (freshRows lastId company now listings) other =
        (if company = other then listings.length else 0) ∧
      activeCount (freshRows lastId company now listings) other =
        if company = other then listings.length else 0 := by
  induction listings with
  | nil =>
      intro lastId
      simp [freshRows, storedCount, activeCount]
  | cons listing rest ih =>
      intro lastId
      obtain ⟨hstored, hactive⟩ := ih (lastId + 1)
      simp only [storedCount, activeCount] at hstored hactive ⊢
      by_cases h : company = other
      · subst h
        simp only [if_true] at hstored hactive
        simp [freshRows, Posting.fresh, hstored, hactive]
      · simp [freshRows, Posting.fresh, hstored, hactive, h]

/-! ### Taking a page in -/

theorem company_walked (p : Posting) (company now : String) (seen : Page) :
    (p.walked company seen now).company = p.company :=
  congrArg Prod.fst Posting.walked_place

theorem company_swept (p : Posting) (company now : String) (gone : List String) :
    (p.swept company gone now).company = p.company :=
  congrArg Prod.fst Posting.swept_place

/-- A posting is active after it was seen, and else it is as it was. -/
theorem isActive_walked (p : Posting) (company now : String) (seen : Page) :
    (p.walked company seen now).isActive = (p.isActive || (p.listing? company seen).isSome) := by
  unfold Posting.walked
  cases p.listing? company seen with
  | none => simp
  | some listing =>
      simp only [Posting.sighted]
      split
      · rename_i hactive
        simp [hactive]
      · simp

/-- A posting that has a listing is of the company whose page lists it. -/
theorem company_of_listing? {p : Posting} (h : (p.listing? company seen).isSome = true) :
    p.company = company := by
  unfold Posting.listing? at h
  split at h
  · assumption
  · cases h

theorem storedCount_walked (table : Numbered Posting) (company now other : String) (seen : Page) :
    storedCount (table.walked company seen now).rows other =
      storedCount table.rows other +
        if company = other then (newcomers table.rows company seen).length else 0 := by
  have hmap : storedCount (table.rows.map (·.walked company seen now)) other
      = storedCount table.rows other := by
    simp [storedCount, List.countP_map, Function.comp_def, company_walked]
  unfold Numbered.walked
  rw [storedCount_append, hmap, (storedCount_freshRows company now other _ _).1]

theorem activeCount_walked (table : Numbered Posting) (company now other : String) (seen : Page) :
    activeCount (table.walked company seen now).rows other =
      activeCount table.rows other +
        if company = other then
          (newcomers table.rows company seen).length +
            tally table.rows company seen fun p _ => !p.isActive
        else 0 := by
  have hmap : activeCount (table.rows.map (·.walked company seen now)) other
      = activeCount table.rows other +
        if company = other then tally table.rows company seen fun p _ => !p.isActive else 0 := by
    have hreopened : table.rows.countP (fun p =>
        p.company == other && !p.isActive && (p.listing? company seen).isSome)
          = if company = other then tally table.rows company seen fun p _ => !p.isActive
            else 0 := by
      split
      · rename_i hsame
        refine List.countP_congr fun p _ => ?_
        cases hlisted : p.listing? company seen with
        | none => simp
        | some listing =>
            have hcompany : p.company = company := company_of_listing? (by rw [hlisted]; rfl)
            simp [hcompany, hsame]
      · rename_i hother
        refine List.countP_eq_zero.mpr fun p _ hp => ?_
        simp only [Bool.and_eq_true, beq_iff_eq] at hp
        exact hother ((company_of_listing? hp.2).symm.trans hp.1.1)
    rw [← hreopened]
    unfold activeCount
    rw [List.countP_map]
    refine countP_or (fun p _ => ?_) (fun p _ => ?_)
    · simp only [Function.comp_apply, company_walked, isActive_walked]
      cases p.isActive <;> simp
    · cases p.isActive <;> simp
  unfold Numbered.walked
  rw [activeCount_append, hmap, (storedCount_freshRows company now other _ _).2]
  split <;> omega

/-! ### Closing what is gone -/

theorem storedCount_swept (table : Numbered Posting) (company now other : String)
    (gone : List String) :
    storedCount (table.swept company gone now).rows other = storedCount table.rows other := by
  simp [storedCount, Numbered.swept, List.countP_map, Function.comp_def, company_swept]

theorem activeCount_swept (table : Numbered Posting) (company now other : String)
    (gone : List String) :
    activeCount table.rows other =
      activeCount (table.swept company gone now).rows other +
        if company = other then table.rows.countP (·.isLeaving company gone) else 0 := by
  have hleaving : table.rows.countP (fun p => p.company == other && p.isLeaving company gone)
      = if company = other then table.rows.countP (·.isLeaving company gone) else 0 := by
    split
    · rename_i hsame
      refine List.countP_congr fun p _ => ?_
      simp only [Posting.isLeaving, Bool.and_eq_true, beq_iff_eq, decide_eq_true_eq, hsame]
      tauto
    · rename_i hother
      refine List.countP_eq_zero.mpr fun p _ hp => ?_
      simp only [Posting.isLeaving, Bool.and_eq_true, beq_iff_eq, decide_eq_true_eq] at hp
      exact hother (hp.2.2.1.symm.trans hp.1)
  rw [← hleaving]
  unfold activeCount Numbered.swept
  rw [List.countP_map]
  refine countP_or (fun p _ => ?_) (fun p _ => ?_)
  · simp only [Function.comp_apply, Posting.swept]
    cases h : p.isLeaving company gone with
    | false => simp
    | true =>
        have hactive : p.isActive = true := by
          simp only [Posting.isLeaving, Bool.and_eq_true] at h
          exact h.1
        simp [hactive]
  · rintro ⟨hstays, hleaves⟩
    simp only [Function.comp_apply, Posting.swept, Bool.and_eq_true] at hstays hleaves
    rw [if_pos hleaves.2] at hstays
    exact Bool.false_ne_true hstays.2

/-! ### What settling a page does -/

/-- The number of postings grows by what is counted as created. -/
theorem storedCount_settled (table : Numbered Posting) (company now other : String)
    (d : Difference) (page : Page) :
    (storedCount (table.settled company d page now).rows other : Int) =
      storedCount table.rows other +
        if company = other then (settledCounts table company d page now).created else 0 := by
  unfold Numbered.settled
  rw [storedCount_swept, storedCount_walked]
  simp only [settledCounts, walkedCounts]
  split <;> simp

/-- The number of active postings grows by what is counted as created and reopened, less what is
counted as closed. -/
theorem activeCount_settled (table : Numbered Posting) (company now other : String)
    (d : Difference) (page : Page) :
    (activeCount (table.settled company d page now).rows other : Int) =
      activeCount table.rows other +
        if company = other then
          (settledCounts table company d page now).created +
            (settledCounts table company d page now).reopened -
            (settledCounts table company d page now).closed
        else 0 := by
  have hwalked := activeCount_walked table company now other (seenListings d page)
  have hswept := activeCount_swept (table.walked company (seenListings d page) now) company now
    other d.close
  unfold Numbered.settled
  simp only [settledCounts, walkedCounts]
  split
  · rename_i hsame
    rw [if_pos hsame] at hwalked hswept
    omega
  · rename_i hother
    rw [if_neg hother] at hwalked hswept
    omega

/-! ### What is counted -/

/-- Taking listings in counts each once, and updates only what it renews. -/
structure Counted (counts : Counts) (n : Nat) : Prop where
  each : counts.created + counts.reopened + counts.renewed = n
  updated : counts.updated ≤ counts.renewed

theorem counted_zero : Counted .zero 0 := ⟨rfl, Int.le_refl 0⟩

theorem counted_observe {trouble : Nat → Option Fault} {n k : Nat} {key : String}
    {listing : Listing} {counts : Counts} {t : Tables} {result : Counts × Tables}
    (hcounts : Counted counts k)
    (h : observe trouble n company now key listing counts t = .ok result) :
    Counted result.1 (k + 1) := by
  obtain ⟨heach, hupdated⟩ := hcounts
  obtain ⟨counts', after⟩ := result
  cases (observe_ok h).2 with
  | created _ _ => exact ⟨by dsimp only; omega, hupdated⟩
  | @renewed _ changed _ _ _ _ => cases changed <;> constructor <;> dsimp only <;> omega
  | reopened _ _ _ => exact ⟨by dsimp only; omega, hupdated⟩

/-- A transaction counts each listing that was seen once. -/
theorem counted_writeDifference {trouble : Trouble} {t : Tables} {result : Counts × Tables}
    (h : writeDifference trouble company d page now t = .ok result) :
    Counted result.1 (seenListings d page).length := by
  unfold writeDifference at h
  obtain ⟨seen, hseen, hrest⟩ := bind_ok h
  obtain ⟨written, hwritten, hcommit⟩ := bind_ok hrest
  have hwalked := observeAll_keeps (motive := fun k _ counts _ => Counted counts k)
    (fun hcounts hobserve => counted_observe hcounts hobserve) _ counted_zero hseen
  rw [Nat.zero_add] at hwalked
  rw [← Except.ok.inj (attempt_ok hcommit).2]
  refine closeAll_keeps (k := 0)
    (motive := fun _ _ counts _ => Counted counts (seenListings d page).length)
    (fun hcounts _ => ?_) _ hwalked hwritten
  split
  · exact ⟨hcounts.each, hcounts.updated⟩
  · exact hcounts

theorem counted_settledCounts (h : Constrained table) (hpage : page.Maps) (company now : String)
    (d : Difference) :
    Counted (settledCounts table company d page now) (seenListings d page).length := by
  have hwritten := writeDifference_eq (t := ⟨some [bareCompany company], some table, none⟩) rfl h
    rfl ⟨bareCompany company, List.mem_singleton_self _, rfl⟩ hpage d now
  exact counted_writeDifference hwritten

end VacancyLedger.Ledger
