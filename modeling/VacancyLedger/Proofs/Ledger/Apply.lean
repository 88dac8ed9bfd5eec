/-
Applying a page is settling it.

`apply` is two loops of statements in a transaction: look each key up, then insert, reopen
or renew its posting; then close the postings of the keys that are gone.  One round of the
first loop takes in a page of one listing, and the schema holds after it, so by induction
the loop takes in the page.  The second loop closes key by key what is to be closed.
-/
import Mathlib.Data.String.Basic
import VacancyLedger.Ledger.Companies
import VacancyLedger.Proofs.Ledger.Settlement
import VacancyLedger.Proofs.Ledger.Trouble

namespace VacancyLedger.Ledger

variable {table : Numbered Posting} {company key now : String} {listing : Listing} {seen : Page}

/-! ### One round of the loop -/

variable {t : Tables} {companies : List Company}

/-- The row that a look-up has found is the one that is written. -/
theorem update_found (h : Constrained table) {stored : Posting}
    (hfound : table.rows.find? (·.isAt company key) = some stored) (f : Posting → Posting)
    (hf : f stored = stored.sighted listing now) :
    { table with rows := table.rows.map fun q => if q.id == stored.id then f q else q }
      = table.walked company [(key, listing)] now := by
  obtain ⟨hmem, hcompany, hkey⟩ := find?_isAt_some hfound
  have hat : stored.isAt company key = true := Posting.isAt_iff.mpr ⟨hcompany, hkey⟩
  have hany : table.rows.any (·.isAt company key) = true :=
    List.any_eq_true.mpr ⟨stored, hmem, hat⟩
  have hrows : table.rows.map (fun q => if q.id == stored.id then f q else q)
      = table.rows.map (·.walked company [(key, listing)] now) := by
    refine List.map_congr_left fun q hq => ?_
    rw [id_eq_iff_isAt h hmem hat hq, Posting.walked_singleton]
    by_cases hqat : q.isAt company key = true
    · have hsame : q = stored := eq_of_place h.places_nodup hq hmem
        ((Posting.isAt_place.mp hqat).trans (Posting.isAt_place.mp hat).symm)
      rw [if_pos hqat, if_pos hqat, hsame, hf]
    · rw [if_neg hqat, if_neg hqat]
  unfold Numbered.walked
  rw [newcomers_singleton, if_pos hany, hrows]
  simp [freshRows]

/-- The only posting that can be counted is the one that a look-up has found. -/
theorem tally_found (h : Constrained table) {stored : Posting}
    (hfound : table.rows.find? (·.isAt company key) = some stored)
    (test : Posting → Listing → Bool) :
    tally table.rows company [(key, listing)] test = if test stored listing then 1 else 0 := by
  obtain ⟨hmem, hcompany, hkey⟩ := find?_isAt_some hfound
  have hat : stored.isAt company key = true := Posting.isAt_iff.mpr ⟨hcompany, hkey⟩
  rw [tally_singleton h.places_nodup]
  have hany : table.rows.any (fun p => test p listing && p.isAt company key)
      = test stored listing := by
    rw [Bool.eq_iff_iff, List.any_eq_true]
    constructor
    · rintro ⟨p, hp, hpass⟩
      rw [Bool.and_eq_true] at hpass
      have hsame : p = stored := eq_of_place h.places_nodup hp hmem
        ((Posting.isAt_place.mp hpass.2).trans (Posting.isAt_place.mp hat).symm)
      exact hsame ▸ hpass.1
    · intro hpass
      exact ⟨stored, hmem, by rw [hpass, hat]; rfl⟩
  rw [hany]

/-- Renewing a posting that a look-up has found: whether its content was replaced, and the rows
after it. -/
theorem renew_eq (h : t.postings = some table) (hschema : Constrained table) {stored : Posting}
    (hfound : table.rows.find? (·.isAt company key) = some stored)
    (hactive : stored.isActive = true) :
    t.renew stored listing now = .ok (stored.differs listing,
      t.withPostings (table.walked company [(key, listing)] now)) := by
  unfold Tables.renew
  by_cases hd : stored.differs listing = true
  · have hagree : stored.content.agrees listing.content = false := by
      rw [Posting.differs_eq] at hd
      simpa using hd
    have hf : stored.withContent listing.content now = stored.sighted listing now := by
      simp [Posting.withContent, Posting.seen, Posting.sighted, hactive, hd, laterText_eq_max]
    have hupdate := update_found hschema hfound (·.withContent listing.content now) hf
    rw [hagree, if_neg Bool.false_ne_true, updatePostings_eq h, hupdate, hd]
    rfl
  · have hagree : stored.content.agrees listing.content = true := by
      rw [Posting.differs_eq] at hd
      simpa using hd
    have hf : stored.seen now = stored.sighted listing now := by
      simp [Posting.seen, Posting.sighted, hactive, hd, laterText_eq_max]
    have hupdate := update_found hschema hfound (·.seen now) hf
    rw [hagree, if_pos rfl, updatePostings_eq h, hupdate, Bool.eq_false_iff.mpr hd]
    rfl

theorem reopen_eq (h : t.postings = some table) (hschema : Constrained table) {stored : Posting}
    (hfound : table.rows.find? (·.isAt company key) = some stored)
    (hactive : stored.isActive = false) :
    t.reopen stored listing now =
      .ok (t.withPostings (table.walked company [(key, listing)] now)) := by
  have hf : stored.reopened listing.content now = stored.sighted listing now := by
    simp [Posting.reopened, Posting.withContent, Posting.seen, Posting.sighted, hactive,
      laterText_eq_max]
  have hupdate := update_found hschema hfound (·.reopened listing.content now) hf
  unfold Tables.reopen
  rw [updatePostings_eq h, hupdate]

/-- Where nothing is stored a newcomer is added. -/
theorem walked_free (listing : Listing) (now : String)
    (hfree : table.rows.find? (·.isAt company key) = none) :
    table.walked company [(key, listing)] now =
      ⟨table.rows ++ [.fresh (table.lastId + 1) company listing now], table.lastId + 1⟩ ∧
    walkedCounts table.rows company [(key, listing)] = { Counts.zero with created := 1 } := by
  have hnone := find?_isAt_none_iff.mp hfree
  have hany : table.rows.any (·.isAt company key) = false := by
    simpa [List.any_eq_false] using hnone
  have hmap : table.rows.map (·.walked company [(key, listing)] now) = table.rows := by
    conv_rhs => rw [← List.map_id table.rows]
    refine List.map_congr_left fun p hp => ?_
    rw [Posting.walked_singleton, hnone p hp]
    rfl
  have htally : ∀ test, tally table.rows company [(key, listing)] test = 0 := by
    intro test
    refine List.countP_eq_zero.mpr fun p hp => ?_
    rw [Posting.listing?_singleton, hnone p hp]
    simp
  constructor
  · unfold Numbered.walked
    rw [newcomers_singleton, hany, hmap]
    rfl
  · unfold walkedCounts
    rw [newcomers_singleton, hany]
    simp [htally, Counts.zero]

/-- One round takes in a page of one listing. -/
theorem observe_eq (h : t.postings = some table) (hschema : Constrained table)
    (hcompanies : t.companies = some companies) (hstored : ∃ c ∈ companies, c.id = company)
    (hown : listing.key = key) (n : Nat) (counts : Counts) :
    observe (fun _ => none) n company now key listing counts t =
      .ok (counts.add (walkedCounts table.rows company [(key, listing)]),
        t.withPostings (table.walked company [(key, listing)] now)) := by
  unfold observe
  rw [attempt_none, find_eq h]
  cases hfound : table.rows.find? (·.isAt company key) with
  | none =>
      obtain ⟨hwalked, hcounts⟩ := walked_free listing now hfound
      rw [attempt_none, hwalked, hcounts]
      simp only [bind, Except.bind]
      rw [insert_eq h hcompanies hstored (by rw [hown]; exact hfound) now]
      simp [Counts.add, Counts.zero, pure, Except.pure]
  | some stored =>
      have hmem := (find?_isAt_some hfound).1
      have hat : stored.isAt company key = true := Posting.isAt_iff.mpr (find?_isAt_some hfound).2
      have hcreated : newcomers table.rows company [(key, listing)] = [] := by
        rw [newcomers_singleton, if_pos (List.any_eq_true.mpr ⟨stored, hmem, hat⟩)]
      have hcounts : walkedCounts table.rows company [(key, listing)] =
          { Counts.zero with
            renewed := if stored.isActive then 1 else 0
            reopened := if stored.isActive then 0 else 1
            updated := if stored.isActive && stored.differs listing then 1 else 0 } := by
        unfold walkedCounts
        rw [hcreated, tally_found hschema hfound, tally_found hschema hfound,
          tally_found hschema hfound]
        cases stored.isActive <;> cases stored.differs listing <;> rfl
      simp only [bind, Except.bind, attempt_none]
      cases hactive : stored.isActive with
      | true =>
          rw [if_pos rfl, renew_eq h hschema hfound hactive, hcounts, hactive]
          cases stored.differs listing <;>
            simp [Counts.add, Counts.zero, pure, Except.pure]
      | false =>
          rw [if_neg Bool.false_ne_true, reopen_eq h hschema hfound hactive, hcounts, hactive]
          simp [Counts.add, Counts.zero, pure, Except.pure]

/-! ### The schema holds after every round -/

theorem constrained_map (h : Constrained table) {f : Posting → Posting}
    (hid : ∀ p, (f p).id = p.id) (hplace : ∀ p, (f p).place = p.place) :
    Constrained { table with rows := table.rows.map f } := by
  have hids : (table.rows.map f).map (·.id) = table.rows.map (·.id) := by
    simp [Function.comp_def, hid]
  have hplaces : (table.rows.map f).map (·.place) = table.rows.map (·.place) := by
    simp [Function.comp_def, hplace]
  refine ⟨?_, ?_, ?_⟩
  · intro q hq
    obtain ⟨p, hp, rfl⟩ := List.mem_map.mp hq
    rw [hid]
    exact h.ids_le p hp
  · rw [hids]
    exact h.ids_nodup
  · rw [hplaces]
    exact h.places_nodup

/-- A posting with the next number may come into a place that is free. -/
theorem constrained_append (h : Constrained table) {p : Posting} (hid : p.id = table.lastId + 1)
    (hfree : ∀ q ∈ table.rows, q.place ≠ p.place) :
    Constrained ⟨table.rows ++ [p], table.lastId + 1⟩ := by
  refine ⟨?_, ?_, ?_⟩
  · intro q hq
    rcases List.mem_append.mp hq with hold | hnew
    · exact Nat.le_succ_of_le (h.ids_le q hold)
    · rw [List.mem_singleton.mp hnew, hid]
  · rw [List.map_append, List.nodup_append]
    refine ⟨h.ids_nodup, List.nodup_singleton _, ?_⟩
    intro a ha b hb hab
    obtain ⟨q, hq, rfl⟩ := List.mem_map.mp ha
    rw [List.map_singleton, List.mem_singleton] at hb
    have hle := h.ids_le q hq
    omega
  · rw [List.map_append, List.nodup_append]
    refine ⟨h.places_nodup, List.nodup_singleton _, ?_⟩
    intro a ha b hb hab
    obtain ⟨q, hq, rfl⟩ := List.mem_map.mp ha
    rw [List.map_singleton, List.mem_singleton] at hb
    exact hfree q hq (hab.trans hb)

theorem constrained_walked_singleton (h : Constrained table) (hown : listing.key = key) :
    Constrained (table.walked company [(key, listing)] now) := by
  cases hfound : table.rows.find? (·.isAt company key) with
  | none =>
      rw [(walked_free listing now hfound).1]
      refine constrained_append h rfl fun q hq hplace => ?_
      have hat : q.isAt company key = true := by
        rw [Posting.isAt_place, hplace, ← hown]
        rfl
      rw [find?_isAt_none_iff.mp hfound q hq] at hat
      exact Bool.false_ne_true hat
  | some stored =>
      rw [← update_found h hfound (·.sighted listing now) rfl]
      refine constrained_map h (fun p => ?_) (fun p => ?_)
      · split <;> simp
      · split <;> simp

theorem walked_nil (table : Numbered Posting) (company now : String) :
    table.walked company [] now = table := by
  have hmap : table.rows.map (·.walked company [] now) = table.rows :=
    List.map_id'' (fun _ => Posting.walked_eq_self Posting.listing?_nil) _
  unfold Numbered.walked
  rw [hmap]
  simp [newcomers, freshRows]

theorem constrained_walked (hmaps : seen.Maps) :
    ∀ {table : Numbered Posting}, Constrained table →
      Constrained (table.walked company seen now) := by
  induction seen with
  | nil => intro table h; rw [walked_nil]; exact h
  | cons entry rest ih =>
      intro table h
      obtain ⟨hown, hnew, hrest⟩ := hmaps.uncons
      rw [walked_cons hown hnew]
      exact ih hrest (constrained_walked_singleton h hown)

theorem constrained_swept (h : Constrained table) (gone : List String) :
    Constrained (table.swept company gone now) :=
  constrained_map h (fun _ => Posting.swept_id) (fun _ => Posting.swept_place)

theorem constrained_settled (h : Constrained table) {page : Page} (hmaps : page.Maps)
    (d : Difference) : Constrained (table.settled company d page now) :=
  constrained_swept (constrained_walked (hmaps.filter _) h) d.close

/-! ### The loops -/

/-- The first loop takes in the page. -/
theorem observeAll_eq (hstored : ∃ c ∈ companies, c.id = company) (hmaps : seen.Maps) :
    ∀ {t : Tables} {table : Numbered Posting}, t.companies = some companies →
      t.postings = some table → Constrained table → ∀ (n : Nat) (counts : Counts),
      observeAll (fun _ => none) n company now counts t seen =
        .ok (counts.add (walkedCounts table.rows company seen),
          t.withPostings (table.walked company seen now)) := by
  induction seen with
  | nil =>
      intro t table _ h _ n counts
      have hzero : walkedCounts table.rows company [] = .zero := by
        simp [walkedCounts, newcomers, tally_nil, Counts.zero]
      rw [walked_nil, Tables.withPostings_self h, hzero, Counts.add_zero]
      rfl
  | cons entry rest ih =>
      intro t table hcompanies h hschema n counts
      obtain ⟨hown, hnew, hrest⟩ := hmaps.uncons
      have hnext : (t.withPostings (table.walked company [entry] now)).companies
          = some companies := hcompanies
      unfold observeAll
      rw [observe_eq h hschema hcompanies hstored hown]
      simp only [bind, Except.bind]
      rw [ih hrest hnext rfl (constrained_walked_singleton hschema hown),
        Counts.add_assoc, ← walkedCounts_cons hown hnew, ← walked_cons hown hnew,
        Tables.withPostings_withPostings]

end Ledger

namespace Posting

variable {p : Posting} {company key now : String} {gone : List String}

theorem swept_nil : p.swept company [] now = p := by
  simp [swept, isLeaving]

theorem swept_singleton :
    p.swept company [key] now =
      if p.isAt company key && p.isActive then p.closed now else p := by
  by_cases hat : p.isAt company key = true
  · obtain ⟨hc, hk⟩ := isAt_iff.mp hat
    simp [swept, isLeaving, isAt, hc, hk, closed]
  · have hno : ¬ (p.company = company ∧ p.key = key) := fun h => hat (isAt_iff.mpr h)
    simp [swept, isLeaving, hat, hno]

/-- A posting that was closed is not closed again. -/
theorem isLeaving_cons (now : String) :
    p.isLeaving company (key :: gone) =
      ((p.isActive && p.isAt company key) ||
        (p.swept company [key] now).isLeaving company gone) := by
  rw [swept_singleton]
  by_cases hc : p.company = company <;> by_cases hk : p.key = key <;>
    cases hactive : p.isActive <;> simp [isLeaving, isAt, closed, hc, hk, hactive]

theorem not_isLeaving_swept (h : (p.isActive && p.isAt company key) = true) :
    (p.swept company [key] now).isLeaving company gone = false := by
  rw [Bool.and_eq_true] at h
  simp [swept_singleton, h.1, h.2, isLeaving, closed]

theorem swept_cons :
    p.swept company (key :: gone) now =
      (p.swept company [key] now).swept company gone now := by
  by_cases h : (p.isActive && p.isAt company key) = true
  · have hleaving : p.isLeaving company (key :: gone) = true := by
      rw [isLeaving_cons now, h]
      rfl
    have hstays : (p.swept company [key] now).swept company gone now
        = p.swept company [key] now := by
      rw [swept, not_isLeaving_swept h]
      rfl
    rw [hstays, swept_singleton, swept, hleaving, Bool.and_comm, h]
    rfl
  · have hsame : p.swept company [key] now = p := by
      rw [swept_singleton, Bool.and_comm, if_neg h]
    have hleaving : p.isLeaving company (key :: gone) = p.isLeaving company gone := by
      rw [isLeaving_cons now, hsame, Bool.eq_false_iff.mpr h, Bool.false_or]
    rw [hsame, swept, swept, hleaving]

end Posting

namespace Ledger

variable {table : Numbered Posting} {company now : String} {t : Tables} {companies : List Company}

/-- The second loop closes what is gone. -/
theorem closeAll_eq (company now : String) (gone : List String) :
    ∀ (t : Tables) (table : Numbered Posting), t.postings = some table → Constrained table →
      ∀ (n : Nat) (counts : Counts),
      closeAll (fun _ => none) n company now counts t gone =
        .ok ({ counts with closed :=
            counts.closed + (table.rows.countP (·.isLeaving company gone) : Nat) },
          t.withPostings (table.swept company gone now)) := by
  induction gone with
  | nil =>
      intro t table h _ n counts
      have hmap : table.swept company [] now = table := by
        simp [Numbered.swept, Posting.swept_nil]
      have hcount : table.rows.countP (·.isLeaving company []) = 0 := by
        simp [Posting.isLeaving]
      rw [hmap, hcount, Tables.withPostings_self h]
      simp [closeAll]
  | cons key rest ih =>
      intro t table h hschema n counts
      have hmap : table.rows.map (fun q =>
          if q.isAt company key && q.isActive then q.closed now else q)
          = (table.swept company [key] now).rows :=
        List.map_congr_left fun q _ => Posting.swept_singleton.symm
      have hswept : (table.swept company [key] now).swept company rest now
          = table.swept company (key :: rest) now := by
        unfold Numbered.swept
        simp only [List.map_map]
        congr 1
        exact List.map_congr_left fun p _ => Posting.swept_cons.symm
      -- What this round closes is not active any more, so no later round counts it again.
      have hcount : table.rows.countP (·.isLeaving company (key :: rest))
          = (if table.rows.any (fun p => p.isAt company key && p.isActive) then 1 else 0)
            + (table.swept company [key] now).rows.countP (·.isLeaving company rest) := by
        have hany : table.rows.any (fun p => p.isAt company key && p.isActive)
            = table.rows.any (fun p => p.isActive && p.isAt company key) := by
          congr 1
          exact funext fun p => Bool.and_comm _ _
        rw [hany, ← countP_isAt company key hschema.places_nodup, Numbered.swept, List.countP_map]
        refine countP_or (fun p _ => Posting.isLeaving_cons now) (fun p _ => ?_)
        rintro ⟨hat, hleaving⟩
        rw [Function.comp_apply, Posting.not_isLeaving_swept hat] at hleaving
        exact Bool.false_ne_true hleaving
      unfold closeAll
      rw [attempt_none, close_eq h now, hmap]
      simp only [bind, Except.bind]
      rw [ih _ (table.swept company [key] now) rfl (constrained_swept hschema _), hcount, hswept,
        Tables.withPostings_withPostings]
      split <;> simp [Int.add_assoc]

/-- The work of the transaction. -/
theorem writeDifference_eq (h : t.postings = some table) (hschema : Constrained table)
    (hcompanies : t.companies = some companies) (hstored : ∃ c ∈ companies, c.id = company)
    {page : Page} (hpage : page.Maps) (d : Difference) (now : String) :
    writeDifference .none company d page now t =
      .ok (settledCounts table company d page now,
        t.withPostings (table.settled company d page now)) := by
  have hmaps : Page.Maps (seenListings d page) := hpage.filter _
  -- The keys that are gone are closed in sorted order, and to close them no order matters.
  have hgone : ∀ p : Posting, p.isLeaving company (Text.sorted d.close)
      = p.isLeaving company d.close := by
    intro p
    simp only [Posting.isLeaving, Text.mem_sorted]
  have hswept : ∀ a : Numbered Posting, a.swept company (Text.sorted d.close) now
      = a.swept company d.close now := by
    intro a
    simp only [Numbered.swept, Posting.swept, hgone]
  unfold writeDifference
  simp only [bind, Except.bind, Trouble.none]
  rw [observeAll_eq hstored hmaps hcompanies h hschema]
  simp only []
  rw [closeAll_eq company now _ _ _ rfl (constrained_walked hmaps hschema)]
  simp only [hgone, hswept, Tables.withPostings_withPostings, attempt_none]
  simp [settledCounts, Numbered.settled, walkedCounts, Counts.add, Counts.zero]

/-! ### The transaction -/

/-- Every listing of a page is observed. -/
theorem seenListings_between (existing : List String) (page : Page) :
    seenListings (.between existing (Table.keys page)) page = page := by
  unfold seenListings
  rw [List.filter_eq_self]
  intro entry hentry
  exact Difference.observes_between.mpr (Table.mem_keys.mpr ⟨entry.2, hentry⟩)

/-- A transaction that succeeds settles the page, whatever trouble it might have met. -/
theorem applyUnder_settles {ε : Type} {l after : Ledger} {trouble : Trouble} {d : Difference}
    {page : Page} {counts : Counts} (hpostings : l.view.postings = some table)
    (hschema : Constrained table) (hcompanies : l.view.companies = some companies)
    (hstored : ∃ c ∈ companies, c.id = company) (hpage : page.Maps)
    (h : (l.applyUnder trouble company d page now : Except (Abort ε) Counts × Ledger) =
      (.ok counts, after)) :
    counts = settledCounts table company d page now ∧
      after =
        { l with
          committed := l.view.withPostings (table.settled company d page now)
          pending := none } := by
  obtain ⟨-, t, hwrite, rfl⟩ := applyUnder_ok h
  have hsettled := writeDifference_eq hpostings hschema hcompanies hstored hpage d now
  cases (writeDifference_none_of_ok hwrite).symm.trans hsettled
  exact ⟨rfl, rfl⟩

/-- A page of which a listing is refused is not applied. -/
theorem not_applied_of_refusing {ε : Type} {l after : Ledger} {trouble : Trouble} {page : Page}
    {existing : List String} {n : Nat} {complaint : Text.Unencodable} {counts : Counts}
    (hn : n < 2 * page.length) :
    (l.applyUnder (trouble.refusing n complaint) company (.between existing (Table.keys page)) page
      now : Except (Abort ε) Counts × Ledger) ≠ (.ok counts, after) := by
  intro h
  obtain ⟨-, t, hwrite, -⟩ := applyUnder_ok h
  have hcount : n < statementCount (.between existing (Table.keys page)) page := by
    rw [statementCount, seenListings_between]
    omega
  have hspared := (writeDifference_untroubled hwrite).1 n hcount
  simp [Trouble.refusing] at hspared

/-- A listing of which nothing but its key and title is said. -/
def bareListing (key title : String) : Listing := ⟨key, { (default : Content) with title }⟩

/-- A company of which nothing but its identifier is said. -/
def bareCompany (id : String) : Company :=
  .ofSource { (default : Source) with company := id } "2026-01-01"

/-- Two companies with a key in common; one posting is closed. -/
def sampleTable : Numbered Posting where
  rows :=
    [{ Posting.fresh 1 "acme" (bareListing "a" "Cook") "2026-01-02" with lastSeen := "2026-01-09" },
     .fresh 2 "zeta" (bareListing "a" "Smith") "2026-01-03",
     (Posting.fresh 5 "acme" (bareListing "b" "Nurse") "2026-01-04").closed "2026-01-05"]
  lastId := 7

/-- The ledger with the postings of two companies. -/
def sampleLedger : Ledger where
  committed := ⟨some [bareCompany "acme", bareCompany "zeta"], some sampleTable, some .empty⟩
  pending := none
  connected := true

/--
**Applying a page commits its settlement and nothing else.**  Whatever keys the difference
creates, renews and closes, every posting becomes what the page makes of it, newcomers are
added in the order of the page, and no other table is touched.
-/
theorem apply_eq_settled {ε : Type} (l : Ledger) (company : String) (d : Difference) (page : Page)
    (now : String) {table : Numbered Posting} {companies : List Company}
    (hconnected : l.connected = true) (hpending : l.pending = none)
    (hpostings : l.committed.postings = some table) (hschema : Constrained table)
    (hcompanies : l.committed.companies = some companies)
    (hstored : ∃ c ∈ companies, c.id = company) (hpage : page.Maps) :
    (l.apply company d page now : Except (Abort ε) Counts × Ledger) =
      (.ok (settledCounts table company d page now),
        { l with
          committed := l.committed.withPostings (table.settled company d page now) }) := by
  have hview : l.view = l.committed := by rw [view, hpending]; rfl
  unfold apply applyUnder transaction
  simp only [hconnected, hview, writeDifference_eq hpostings hschema hcompanies hstored hpage]
  simp [commit, view, hpending]

/-- A difference that is not the one between what is stored and the page: a key is in all of its
sets, and keys stand in it that nobody has seen. -/
theorem apply_overlapping :
    (sampleLedger.apply "acme" ⟨["a", "c"], ["a", "b"], ["a", "d"]⟩
        [("c", bareListing "c" "Baker"), ("b", bareListing "b" "Nurse"),
          ("a", bareListing "a" "Chef"), ("e", bareListing "e" "Driver")] "2026-01-06" :
        Except (Abort Empty) Counts × Ledger) =
      (.ok ⟨1, 1, 1, 1, 1⟩,
        { sampleLedger with
          committed := sampleLedger.committed.withPostings
            ⟨[{ Posting.fresh 1 "acme" (bareListing "a" "Chef") "2026-01-02" with
                lastSeen := "2026-01-09", isActive := false, closedAt := some "2026-01-06" },
              .fresh 2 "zeta" (bareListing "a" "Smith") "2026-01-03",
              { Posting.fresh 5 "acme" (bareListing "b" "Nurse") "2026-01-04" with
                lastSeen := "2026-01-06" },
              .fresh 8 "acme" (bareListing "c" "Baker") "2026-01-06"], 8⟩ }) := by
  rw [apply_eq_settled sampleLedger "acme" _ _ _ rfl rfl rfl ⟨by decide, by decide, by decide⟩ rfl
    ⟨bareCompany "acme", List.mem_cons_self, rfl⟩ ⟨by decide, by decide⟩]
  rfl

end Ledger
end VacancyLedger
