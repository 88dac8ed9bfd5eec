/-
What the tables hold of one company.

The companies share three tables, and the numbers that rows are given as they come in.  The
share of a company is what is left of the tables when the rows of the others are put aside and
the numbers blotted out.  Whatever is written for a company changes its own share by what that
share and nothing else says, and leaves the shares of the others as they were; so the numbers
alone tell a company that it is not on its own.

A posting is walked and swept in the same way whatever its number, and a page is new to a
company by the postings of that company alone.  That is all there is to it for the postings;
companies and history are written row by row.
-/
import VacancyLedger.Proofs.Ledger.Balance
import VacancyLedger.Proofs.Ledger.Chronicle
import VacancyLedger.Proofs.Ledger.Sightings

namespace VacancyLedger

/-- What changes nothing that a test looks at can be done before the test or after it. -/
theorem filter_map_of_kept {α : Type} {test : α → Bool} {f : α → α} (h : ∀ a, test (f a) = test a)
    (rows : List α) : (rows.map f).filter test = (rows.filter test).map f := by
  rw [List.filter_map, show test ∘ f = test from funext h]

/-! ### Postings without their numbers -/

namespace Posting

/-- A posting with its number blotted out. -/
def unnumbered (p : Posting) : Posting := { p with id := 0 }

variable {p : Posting} {company now : String} {seen : Page} {gone : List String}

@[simp] theorem unnumbered_company : p.unnumbered.company = p.company := rfl

@[simp] theorem unnumbered_key : p.unnumbered.key = p.key := rfl

@[simp] theorem unnumbered_isActive : p.unnumbered.isActive = p.isActive := rfl

@[simp] theorem unnumbered_unnumbered : p.unnumbered.unnumbered = p.unnumbered := rfl

@[simp] theorem unnumbered_differs (listing : Listing) :
    p.unnumbered.differs listing = p.differs listing := rfl

@[simp] theorem unnumbered_listing? :
    p.unnumbered.listing? company seen = p.listing? company seen := rfl

@[simp] theorem unnumbered_isLeaving :
    p.unnumbered.isLeaving company gone = p.isLeaving company gone := rfl

theorem unnumbered_sighted (listing : Listing) :
    (p.sighted listing now).unnumbered = p.unnumbered.sighted listing now := by
  unfold sighted
  rw [unnumbered_isActive]
  split <;> rfl

theorem unnumbered_walked :
    (p.walked company seen now).unnumbered = p.unnumbered.walked company seen now := by
  unfold walked
  rw [unnumbered_listing?]
  split
  · exact unnumbered_sighted _
  · rfl

theorem unnumbered_swept :
    (p.swept company gone now).unnumbered = p.unnumbered.swept company gone now := by
  unfold swept
  rw [unnumbered_isLeaving]
  split <;> rfl

/-- A page of another company has no listing of a posting. -/
theorem walked_other (h : p.company ≠ company) : p.walked company seen now = p :=
  walked_eq_self (if_neg h)

theorem isLeaving_other (h : p.company ≠ company) : p.isLeaving company gone = false := by
  simp [isLeaving, h]

theorem swept_other (h : p.company ≠ company) : p.swept company gone now = p := by
  rw [swept, isLeaving_other h]
  rfl

end Posting

namespace Ledger

variable {rows : List Posting} {table other : Numbered Posting} {company stranger now : String}
  {d : Difference} {page seen : Page}

/-! ### The postings of a company -/

/-- The postings of a company, in order and without their numbers. -/
def ownRows (rows : List Posting) (company : String) : List Posting :=
  (rows.filter (·.company == company)).map (·.unnumbered)

theorem ownRows_append (rows more : List Posting) (company : String) :
    ownRows (rows ++ more) company = ownRows rows company ++ ownRows more company := by
  simp [ownRows]

/-- What is done to postings whatever their numbers is done to those of a company. -/
theorem ownRows_map {f : Posting → Posting} (hcompany : ∀ p, (f p).company = p.company)
    (hnumber : ∀ p, (f p).unnumbered = f p.unnumbered) :
    ownRows (rows.map f) company = (ownRows rows company).map f := by
  unfold ownRows
  rw [filter_map_of_kept (fun p => congrArg (· == company) (hcompany p)), List.map_map,
    List.map_map]
  exact List.map_congr_left fun p _ => hnumber p

theorem ownRows_map_other {f : Posting → Posting} (hcompany : ∀ p, (f p).company = p.company)
    (hsame : ∀ p : Posting, p.company = stranger → f p = p) :
    ownRows (rows.map f) stranger = ownRows rows stranger := by
  unfold ownRows
  rw [filter_map_of_kept (fun p => congrArg (· == stranger) (hcompany p)), List.map_map]
  refine List.map_congr_left fun p hp => ?_
  rw [Function.comp_apply, hsame p (by simpa using (List.mem_filter.mp hp).2)]

/-- Newcomers are postings of the company whose page they are on. -/
theorem ownRows_freshRows (company now : String) (listings : List Listing) :
    ∀ lastId : Nat, ownRows (freshRows lastId company now listings) company =
      listings.map (Posting.fresh 0 company · now) := by
  induction listings with
  | nil => exact fun lastId => rfl
  | cons listing rest ih =>
      intro lastId
      have hown : ownRows [Posting.fresh (lastId + 1) company listing now] company =
          [Posting.fresh 0 company listing now] := by
        simp [ownRows, Posting.fresh, Posting.unnumbered]
      rw [freshRows, List.map_cons, ← ih (lastId + 1), ← List.singleton_append, ownRows_append,
        hown]
      rfl

theorem ownRows_freshRows_other (hother : stranger ≠ company) (now : String)
    (listings : List Listing) (lastId : Nat) :
    ownRows (freshRows lastId company now listings) stranger = [] := by
  unfold ownRows
  rw [List.map_eq_nil_iff, List.filter_eq_nil_iff]
  intro p hp
  obtain ⟨id, listing, -, rfl⟩ := mem_freshRows hp
  simpa [Posting.fresh] using hother.symm

/-- Which postings of a company pass a test can be counted without the others. -/
theorem countP_ownRows {test : Posting → Bool}
    (hother : ∀ p : Posting, p.company ≠ company → test p = false)
    (hnumber : ∀ p : Posting, test p.unnumbered = test p) :
    rows.countP test = (ownRows rows company).countP test := by
  unfold ownRows
  rw [List.countP_map, List.countP_filter]
  refine List.countP_congr fun p _ => ?_
  by_cases h : p.company = company
  · simp [hnumber, h]
  · simp [hother p h, h]

/-- Whether a company has a posting under a key can be said without the others. -/
theorem any_isAt_ownRows (rows : List Posting) (company key : String) :
    rows.any (·.isAt company key) = (ownRows rows company).any (·.isAt company key) := by
  rw [Bool.eq_iff_iff]
  simp only [List.any_eq_true, ownRows, List.mem_map, List.mem_filter, Posting.isAt_iff,
    beq_iff_eq]
  constructor
  · rintro ⟨p, hp, hplace⟩
    exact ⟨p.unnumbered, ⟨p, ⟨hp, hplace.1⟩, rfl⟩, hplace⟩
  · rintro ⟨-, ⟨p, ⟨hp, -⟩, rfl⟩, hplace⟩
    exact ⟨p, hp, hplace⟩

theorem newcomers_ownRows (rows : List Posting) (company : String) (seen : Page) :
    newcomers rows company seen = newcomers (ownRows rows company) company seen := by
  unfold newcomers
  congr 1
  exact List.filter_congr fun entry _ => congrArg (!·) (any_isAt_ownRows rows company entry.1)

/-! ### A page that is settled -/

/-- The postings of a company after the listings on its page were seen. -/
def walkedShare (rows : List Posting) (company : String) (seen : Page) (now : String) :
    List Posting :=
  rows.map (·.walked company seen now) ++
    (newcomers rows company seen).map (Posting.fresh 0 company · now)

theorem ownRows_walked (table : Numbered Posting) (company : String) (seen : Page) (now : String) :
    ownRows (table.walked company seen now).rows company =
      walkedShare (ownRows table.rows company) company seen now := by
  unfold Numbered.walked walkedShare
  rw [ownRows_append, ownRows_freshRows, ← newcomers_ownRows,
    ownRows_map (fun p => company_walked p company now seen) fun p => Posting.unnumbered_walked]

/-- A page changes the postings of its company by what these and nothing else say. -/
theorem ownRows_settled (table : Numbered Posting) (company : String) (d : Difference)
    (page : Page) (now : String) :
    ownRows (table.settled company d page now).rows company =
      (walkedShare (ownRows table.rows company) company (seenListings d page) now).map
        (·.swept company d.close now) := by
  rw [← ownRows_walked]
  exact ownRows_map (fun p => company_swept p company now d.close) fun p => Posting.unnumbered_swept

/-- A page changes nothing of the postings of other companies. -/
theorem ownRows_settled_other (hother : stranger ≠ company) (table : Numbered Posting)
    (d : Difference) (page : Page) (now : String) :
    ownRows (table.settled company d page now).rows stranger = ownRows table.rows stranger := by
  have hswept : ownRows (table.settled company d page now).rows stranger =
      ownRows (table.walked company (seenListings d page) now).rows stranger :=
    ownRows_map_other (fun p => company_swept p company now d.close) fun p hp =>
      Posting.swept_other (hp.trans_ne hother)
  rw [hswept]
  unfold Numbered.walked
  rw [ownRows_append, ownRows_freshRows_other hother, List.append_nil,
    ownRows_map_other (fun p => company_walked p company now _) fun p hp =>
      Posting.walked_other (hp.trans_ne hother)]

theorem tally_ownRows (rows : List Posting) (company : String) (seen : Page)
    {test : Posting → Listing → Bool}
    (hnumber : ∀ (p : Posting) (listing : Listing), test p.unnumbered listing = test p listing) :
    tally rows company seen test = tally (ownRows rows company) company seen test := by
  refine countP_ownRows (fun p hp => ?_) fun p => ?_
  · rw [show p.listing? company seen = none from if_neg hp]
    rfl
  · rw [Posting.unnumbered_listing?]
    congr 1
    funext listing
    exact hnumber p listing

/-- What a page counts is said by the postings of its company alone. -/
theorem settledCounts_of_ownRows (h : ownRows table.rows company = ownRows other.rows company)
    (d : Difference) (page : Page) (now : String) :
    settledCounts table company d page now = settledCounts other company d page now := by
  have hcreated : newcomers table.rows company (seenListings d page) =
      newcomers other.rows company (seenListings d page) := by
    rw [newcomers_ownRows, h, ← newcomers_ownRows]
  have htally : ∀ test : Posting → Listing → Bool,
      (∀ (p : Posting) (listing : Listing), test p.unnumbered listing = test p listing) →
      tally table.rows company (seenListings d page) test =
        tally other.rows company (seenListings d page) test := by
    intro test hnumber
    rw [tally_ownRows _ _ _ hnumber, h, ← tally_ownRows _ _ _ hnumber]
  have hclosed : (table.walked company (seenListings d page) now).rows.countP
        (·.isLeaving company d.close) =
      (other.walked company (seenListings d page) now).rows.countP
        (·.isLeaving company d.close) := by
    rw [countP_ownRows (fun p hp => Posting.isLeaving_other hp) fun p => rfl, ownRows_walked, h,
      ← ownRows_walked, ← countP_ownRows (fun p hp => Posting.isLeaving_other hp) fun p => rfl]
  unfold settledCounts walkedCounts
  rw [hcreated, hclosed, htally _ fun _ _ => rfl, htally _ fun _ _ => rfl, htally _ fun _ _ => rfl]

theorem activeKeys_eq (table : Numbered Posting) (company : String) :
    activeKeys table company = ((ownRows table.rows company).filter (·.isActive)).map (·.key) := by
  unfold activeKeys ownRows
  rw [List.filter_map, List.map_map, List.filter_filter]
  congr 1
  refine List.filter_congr fun p _ => ?_
  exact Bool.and_comm _ _

/-- What a page changes is said by the postings of its company alone. -/
theorem pageDifference_of_ownRows (h : ownRows table.rows company = ownRows other.rows company)
    (page : Page) : pageDifference table company page = pageDifference other company page := by
  unfold pageDifference
  rw [activeKeys_eq, h, ← activeKeys_eq]

/-! ### Numbers in order -/

/-- Rows that are numbered as they came in. -/
structure InOrder {α : Type} (id : α → Nat) (table : Numbered α) : Prop where
  ids_lt : table.rows.Pairwise fun a b => id a < id b
  ids_le : ∀ row ∈ table.rows, id row ≤ table.lastId

theorem inOrder_empty {α : Type} (id : α → Nat) : InOrder id .empty := ⟨.nil, nofun⟩

theorem InOrder.append {α : Type} {id : α → Nat} {table : Numbered α} (h : InOrder id table)
    {row : α} {n : Nat} (hid : id row = n) (hnew : table.lastId < n) :
    InOrder id ⟨table.rows ++ [row], n⟩ := by
  refine ⟨List.pairwise_append.mpr ⟨h.ids_lt, List.pairwise_singleton _ _, ?_⟩, ?_⟩
  · intro old hold new hin
    rw [List.mem_singleton.mp hin, hid]
    exact Nat.lt_of_le_of_lt (h.ids_le old hold) hnew
  · intro r hr
    rcases List.mem_append.mp hr with hold | hin
    · exact Nat.le_of_lt (Nat.lt_of_le_of_lt (h.ids_le r hold) hnew)
    · rw [List.mem_singleton.mp hin]
      exact Nat.le_of_eq hid

theorem InOrder.map {α : Type} {id : α → Nat} {table : Numbered α} (h : InOrder id table)
    {f : α → α} (hid : ∀ row, id (f row) = id row) :
    InOrder id ⟨table.rows.map f, table.lastId⟩ := by
  refine ⟨?_, ?_⟩
  · rw [List.pairwise_map]
    exact h.ids_lt.imp fun hab => by rwa [hid, hid]
  · intro row hrow
    obtain ⟨old, hold, rfl⟩ := List.mem_map.mp hrow
    rw [hid]
    exact h.ids_le old hold

theorem InOrder.freshRows (company now : String) (listings : List Listing) :
    ∀ {table : Numbered Posting}, InOrder (·.id) table →
      InOrder (·.id) ⟨table.rows ++ Ledger.freshRows table.lastId company now listings,
        table.lastId + listings.length⟩ := by
  induction listings with
  | nil =>
      intro table h
      rw [Ledger.freshRows, List.append_nil]
      exact h
  | cons listing rest ih =>
      intro table h
      have hone : InOrder (·.id) ⟨table.rows ++ [.fresh (table.lastId + 1) company listing now],
          table.lastId + 1⟩ :=
        h.append rfl (Nat.lt_succ_self _)
      have hrest := ih hone
      rw [List.append_assoc, List.singleton_append, Nat.add_right_comm] at hrest
      exact hrest

/-- The postings keep their order, and newcomers come last. -/
theorem InOrder.settled (h : InOrder (·.id) table) (company : String) (d : Difference)
    (page : Page) (now : String) : InOrder (·.id) (table.settled company d page now) :=
  have hwalked : InOrder (·.id) (⟨table.rows.map (·.walked company (seenListings d page) now),
      table.lastId⟩ : Numbered Posting) :=
    h.map fun _ => Posting.walked_id
  (hwalked.freshRows company now (newcomers table.rows company (seenListings d page))).map
    fun _ => Posting.swept_id

end Ledger
end VacancyLedger
