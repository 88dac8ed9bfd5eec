/-
A page that is seen again.

After a page was applied the rows of its company are up to date with it: every key of the page
has a row, which is active and does not differ from its listing, and no other row of the company
is active.  That is all there is to know for what the page would do once more.  There is nothing
to create, to reopen, to replace or to close, and what is left is to say when the listings were
last seen.  Why a row does not differ from a listing that was put into it is the change
detector's business: it compares less than is written, so a row that was written agrees, and a
row that was not written had agreed before.

Being up to date is said of the rows of one company and of the listings under their keys, so it
does not matter what else is in the table, nor in which order the page lists its keys.
-/
import VacancyLedger.Proofs.Ledger.Bystanders

namespace VacancyLedger

namespace Posting

variable {p : Posting} {listing : Listing} {company now : String} {page : Page}

/-- A posting after a page was seen again that had nothing new to say: if it is listed, that is when
it was last seen, unless it was seen later. -/
def seenAgain (p : Posting) (company : String) (page : Page) (now : String) : Posting :=
  if p.company = company ∧ p.key ∈ Table.keys page then { p with lastSeen := max p.lastSeen now }
  else p

@[simp] theorem seenAgain_company : (p.seenAgain company page now).company = p.company := by
  unfold seenAgain
  split <;> rfl

@[simp] theorem seenAgain_isActive : (p.seenAgain company page now).isActive = p.isActive := by
  unfold seenAgain
  split <;> rfl

/-- A posting that a listing was put into does not differ from it. -/
theorem differs_sighted : (p.sighted listing now).differs listing = false := by
  unfold sighted
  split
  · cases hdiffers : p.differs listing with
    | true => simp [differs]
    | false => simpa [differs] using hdiffers
  · simp [differs]

theorem lastSeen_sighted : (p.sighted listing now).lastSeen = max p.lastSeen now := by
  unfold sighted
  split <;> rfl

/-- An active posting that does not differ from a listing is renewed by it and nothing else. -/
theorem sighted_of_same (hactive : p.isActive = true) (hsame : p.differs listing = false) :
    p.sighted listing now = { p with lastSeen := max p.lastSeen now } := by
  rw [sighted, if_pos hactive, hsame]
  rfl

end Posting

namespace Ledger

variable {rows other : List Posting} {table before : Numbered Posting} {company now time : String}
  {page again : Page}

/-! ### Rows and a page -/

/-- The rows of a company are what its page says, and those it lists were not last seen before
`time`. -/
structure UpToDate (rows : List Posting) (company : String) (page : Page) (time : String) :
    Prop where
  stored : ∀ key ∈ Table.keys page, ∃ p ∈ rows, p.isAt company key = true
  listed : ∀ p ∈ rows, p.company = company → ∀ listing, Table.get? page p.key = some listing →
    p.isActive = true ∧ p.differs listing = false ∧ time ≤ p.lastSeen
  missed : ∀ p ∈ rows, p.company = company → Table.get? page p.key = none → p.isActive = false

/-- What is up to date with a page is so by the rows of its company alone. -/
theorem UpToDate.of_rowsOf (h : UpToDate rows company page time)
    (hrows : rowsOf other company = rowsOf rows company) : UpToDate other company page time := by
  have hmem : ∀ {p : Posting}, p.company = company → (p ∈ other ↔ p ∈ rows) := by
    intro p hp
    have hin : p ∈ rowsOf other company ↔ p ∈ rowsOf rows company := by rw [hrows]
    simpa [mem_rowsOf, hp] using hin
  refine ⟨fun key hkey => ?_, fun p hp hcompany => h.listed p ((hmem hcompany).mp hp) hcompany,
    fun p hp hcompany => h.missed p ((hmem hcompany).mp hp) hcompany⟩
  obtain ⟨p, hp, hat⟩ := h.stored key hkey
  exact ⟨p, (hmem (Posting.isAt_iff.mp hat).1).mpr hp, hat⟩

theorem mem_keys_of_same (hsame : ∀ key, Table.get? again key = Table.get? page key)
    {key : String} : key ∈ Table.keys again ↔ key ∈ Table.keys page := by
  rw [← not_iff_not, ← Table.get?_eq_none_iff, ← Table.get?_eq_none_iff, hsame]

/-- Pages with the same listings under the same keys have as many keys. -/
theorem length_keys_of_same (hpage : page.Maps) (hagain : again.Maps)
    (hsame : ∀ key, Table.get? again key = Table.get? page key) :
    (Table.keys again).length = (Table.keys page).length :=
  ((List.perm_ext_iff_of_nodup hagain.keys_nodup hpage.keys_nodup).mpr fun _ =>
    mem_keys_of_same hsame).length_eq

theorem seenAgain_of_same (hsame : ∀ key, Table.get? again key = Table.get? page key)
    (p : Posting) : p.seenAgain company again now = p.seenAgain company page now := by
  simp only [Posting.seenAgain, mem_keys_of_same hsame]

/-- What is up to date with a page is so with any that has the same listings under the same keys. -/
theorem UpToDate.of_same (h : UpToDate rows company page time)
    (hsame : ∀ key, Table.get? again key = Table.get? page key) :
    UpToDate rows company again time := by
  refine ⟨fun key hkey => h.stored key ((mem_keys_of_same hsame).mp hkey), ?_, ?_⟩
  · intro p hp hcompany listing hlisting
    rw [hsame] at hlisting
    exact h.listed p hp hcompany listing hlisting
  · intro p hp hcompany hmissed
    rw [hsame] at hmissed
    exact h.missed p hp hcompany hmissed

/-! ### Once -/

/-- After a page was applied, the rows of its company are up to date with it. -/
theorem upToDate_settled (before : Numbered Posting) (company now : String) (hpage : page.Maps) :
    UpToDate (before.settled company (pageDifference before company page) page now).rows company
      page now := by
  refine ⟨fun key hkey => ?_, fun p hp hcompany listing hlisting => ?_,
    fun p hp hcompany hmissed => ?_⟩
  · exact (stored_settled before company now hpage company key).mpr (Or.inr ⟨rfl, hkey⟩)
  · rw [settled_rows before company now hpage] at hp
    rcases List.mem_append.mp hp with hold | hfresh
    · obtain ⟨q, -, rfl⟩ := List.mem_map.mp hold
      obtain ⟨hsame, hkey⟩ := Prod.mk.inj (settledPosting_place q)
      obtain rfl := hsame.symm.trans hcompany
      rw [hkey] at hlisting
      rw [settledPosting_listed hlisting]
      refine ⟨Posting.isActive_sighted, Posting.differs_sighted, ?_⟩
      rw [Posting.lastSeen_sighted]
      exact le_max_right _ _
    · obtain ⟨id, own, hnew, rfl⟩ := mem_freshRows hfresh
      have hown := (Table.get?_eq_some_iff hpage.keys_nodup).mpr ((mem_newcomers hpage).mp hnew).1
      obtain rfl := Option.some.inj (hown.symm.trans hlisting)
      exact ⟨rfl, by simp [Posting.differs, Posting.fresh], le_refl now⟩
  · rw [settled_rows before company now hpage] at hp
    rcases List.mem_append.mp hp with hold | hfresh
    · obtain ⟨q, hq, rfl⟩ := List.mem_map.mp hold
      obtain ⟨hsame, hkey⟩ := Prod.mk.inj (settledPosting_place q)
      obtain rfl := hsame.symm.trans hcompany
      rw [hkey] at hmissed
      rw [settledPosting_missed hq hmissed]
      split
      · rfl
      · rename_i hclosed
        exact Bool.eq_false_iff.mpr hclosed
    · obtain ⟨id, own, hnew, rfl⟩ := mem_freshRows hfresh
      have hown := (Table.get?_eq_some_iff hpage.keys_nodup).mpr ((mem_newcomers hpage).mp hnew).1
      cases hown.symm.trans hmissed

/-! ### Once more -/

/-- Nothing on the page is new. -/
theorem UpToDate.newcomers_eq_nil (h : UpToDate rows company page time) (hpage : page.Maps) :
    newcomers rows company page = [] := by
  refine List.eq_nil_iff_forall_not_mem.mpr fun listing hnew => ?_
  obtain ⟨hentry, hfree⟩ := (mem_newcomers hpage).mp hnew
  obtain ⟨p, hp, hat⟩ := h.stored listing.key (Table.mem_keys.mpr ⟨listing, hentry⟩)
  cases (hfree p hp).symm.trans hat

/-- A row that is up to date with a page is what it was, and was seen again if the page lists it. -/
theorem UpToDate.settledPosting_eq (h : UpToDate table.rows company page time) {p : Posting}
    (hp : p ∈ table.rows) :
    settledPosting table company page now p = p.seenAgain company page now := by
  unfold Posting.seenAgain
  by_cases hcompany : p.company = company
  · subst hcompany
    cases hlisted : Table.get? page p.key with
    | some listing =>
        have hkey : p.key ∈ Table.keys page := by
          by_contra hout
          cases (Table.get?_eq_none_iff.mpr hout).symm.trans hlisted
        obtain ⟨hactive, hsame, -⟩ := h.listed p hp rfl listing hlisted
        rw [settledPosting_listed hlisted, if_pos ⟨rfl, hkey⟩,
          Posting.sighted_of_same hactive hsame]
    | none =>
        have hout := Table.get?_eq_none_iff.mp hlisted
        rw [settledPosting_missed hp hlisted, h.missed p hp rfl hlisted,
          if_neg Bool.false_ne_true, if_neg fun hboth => hout hboth.2]
  · rw [settledPosting_other hcompany, if_neg fun hboth => hcompany hboth.1]

/-- A page that the rows are up to date with changes nothing but when they were last seen. -/
theorem UpToDate.settled_eq (h : UpToDate table.rows company page time) (hpage : page.Maps)
    (now : String) :
    table.settled company (pageDifference table company page) page now =
      { table with rows := table.rows.map (·.seenAgain company page now) } := by
  have hnew := h.newcomers_eq_nil hpage
  have hrows : (table.settled company (pageDifference table company page) page now).rows =
      table.rows.map (·.seenAgain company page now) := by
    rw [settled_rows table company now hpage, hnew]
    simpa [freshRows] using List.map_congr_left fun p hp => h.settledPosting_eq hp
  have hlast : (table.settled company (pageDifference table company page) page now).lastId =
      table.lastId := by
    simp [Numbered.settled, Numbered.swept, Numbered.walked, seenListings_between, hnew]
  rw [← hrows, ← hlast]

/-- A page that was seen no later than the rows say changes nothing at all. -/
theorem UpToDate.seenAgain_eq_self (h : UpToDate rows company page time) (hle : now ≤ time) :
    rows.map (·.seenAgain company page now) = rows := by
  refine (List.map_congr_left fun p hp => ?_).trans (List.map_id rows)
  unfold Posting.seenAgain
  split
  · rename_i hlisted
    obtain ⟨hcompany, hkey⟩ := hlisted
    obtain ⟨listing, hlisting⟩ := Option.ne_none_iff_exists'.mp
      (mt Table.get?_eq_none_iff.mp (not_not.mpr hkey))
    obtain ⟨-, -, hseen⟩ := h.listed p hp hcompany listing hlisting
    rw [max_eq_left (hle.trans hseen)]
    rfl
  · rfl

/-- A row that is up to date with a page passes no test with its listing that an active row that
says the same does not pass. -/
theorem UpToDate.tally_eq_zero (h : UpToDate rows company page time)
    {test : Posting → Listing → Bool}
    (htest : ∀ p listing, p.isActive = true → p.differs listing = false →
      test p listing = false) : tally rows company page test = 0 := by
  refine List.countP_eq_zero.mpr fun p hp => ?_
  cases hlisted : p.listing? company page with
  | none => simp
  | some listing =>
      unfold Posting.listing? at hlisted
      split at hlisted
      · rename_i hcompany
        obtain ⟨hactive, hsame, -⟩ := h.listed p hp hcompany listing hlisted
        simp [htest p listing hactive hsame]
      · cases hlisted

/-- A page that the rows are up to date with renews as many of them as it has keys, and counts
nothing else. -/
theorem UpToDate.settledCounts_eq (h : UpToDate table.rows company page time)
    (hschema : Constrained table) (hpage : page.Maps) (now : String) :
    settledCounts table company (pageDifference table company page) page now =
      ⟨0, (Table.keys page).length, 0, 0, 0⟩ := by
  have hcreated : (settledCounts table company (pageDifference table company page) page
      now).created = 0 := by
    simp [settledCounts, walkedCounts, seenListings_between, h.newcomers_eq_nil hpage]
  have hreopened : (settledCounts table company (pageDifference table company page) page
      now).reopened = 0 := by
    have hnone : tally table.rows company page (fun p _ => !p.isActive) = 0 :=
      h.tally_eq_zero fun p listing hactive _ => by rw [hactive]; rfl
    simp [settledCounts, walkedCounts, seenListings_between, hnone]
  have hupdated : (settledCounts table company (pageDifference table company page) page
      now).updated = 0 := by
    have hnone : tally table.rows company page (fun p l => p.isActive && p.differs l) = 0 :=
      h.tally_eq_zero fun p listing _ hsame => by rw [hsame, Bool.and_false]
    simp [settledCounts, walkedCounts, seenListings_between, hnone]
  -- As many rows are active as before, so none was closed.
  have hclosed : (settledCounts table company (pageDifference table company page) page
      now).closed = 0 := by
    have hbalance := activeCount_settled table company now company
      (pageDifference table company page) page
    have hkept : activeCount (table.rows.map (·.seenAgain company page now)) company =
        activeCount table.rows company := by
      simp [activeCount, List.countP_map, Function.comp_def]
    rw [h.settled_eq hpage, hkept, if_pos rfl, hcreated, hreopened] at hbalance
    omega
  have hrenewed := (counted_settledCounts hschema hpage company now
    (pageDifference table company page)).each
  rw [seenListings_between, hcreated, hreopened] at hrenewed
  have hkeys : (Table.keys page).length = page.length := List.length_map _
  generalize settledCounts table company (pageDifference table company page) page now = counts at *
  cases counts
  simp_all

end Ledger
end VacancyLedger
