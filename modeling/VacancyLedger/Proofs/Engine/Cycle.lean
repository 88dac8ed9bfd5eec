/-
What a cycle does, and what it leaves alone.

A cycle of a company that is free goes through its steps and ends in one of two ways.  If it
gets to the end it has seen a page and applied it; if anything stops it on the way, the
ledger is as it was, or what was pending in it is forgotten.  Only then is the cycle
recorded.  All that is said here of cycles follows from these two cases, whatever the
fetcher and the extractors do and whenever the database gives trouble.
-/
import VacancyLedger.Engine.Cycle
import VacancyLedger.Proofs.Ledger.Apply
import VacancyLedger.Proofs.Ledger.History
import VacancyLedger.Proofs.Listing.Tears

namespace VacancyLedger.Engine

variable {φ : Type}

/-! ### What a cycle sees -/

/-- The adverts that a cycle reads off the page of a source, if it gets that far. -/
def adverts? (e : Engine φ) (fetcher : Fetcher φ) (source : Source) : Option (List Advert) :=
  match (fetcher e.now source e.memory).1 with
  | .page page => (e.registry.read source page.body).toOption
  | _ => none

/-- The page of listings that a cycle of a source sees, if it gets that far.  A page may list
nothing, but not because all its adverts were discarded, and no listing of it is torn. -/
def page? (e : Engine φ) (fetcher : Fetcher φ) (source : Source) : Option Page :=
  match e.adverts? fetcher source with
  | none => none
  | some adverts =>
    match Advert.listings adverts source.base with
    | .error _ => none
    | .ok (listings, _) =>
      if !adverts.isEmpty && listings.isEmpty then none
      else if (Advert.pageTear? adverts source.base).isSome then none
      else some (Page.ofListings listings)

variable {e after : Engine φ} {trouble : Ledger.Trouble} {fetcher : Fetcher φ} {source : Source}
  {now : Option Time.Stamp} {run : CycleRun} {counts : Counts}

theorem adverts?_some {adverts : List Advert} (h : e.adverts? fetcher source = some adverts) :
    ∃ fetched, (fetcher e.now source e.memory).1 = .page fetched ∧
      e.registry.read source fetched.body = .ok adverts := by
  unfold adverts? at h
  split at h
  · rename_i fetched hfetch
    refine ⟨fetched, hfetch, ?_⟩
    cases hread : e.registry.read source fetched.body with
    | error failure => simp [hread, Except.toOption] at h
    | ok read =>
        rw [hread] at h
        rw [Option.some.inj h]
  · cases h

/-- A page that a cycle sees lists what its adverts make. -/
theorem page?_some {page : Page} (h : e.page? fetcher source = some page) :
    ∃ adverts listings discarded, e.adverts? fetcher source = some adverts ∧
      Advert.listings adverts source.base = .ok (listings, discarded) ∧
      (adverts ≠ [] → listings ≠ []) ∧ Advert.pageTear? adverts source.base = none ∧
      page = Page.ofListings listings := by
  unfold page? at h
  split at h
  · cases h
  · rename_i adverts hadverts
    split at h
    · cases h
    · rename_i listings discarded hlistings
      split at h
      · cases h
      · rename_i hkept
        split at h
        · cases h
        · rename_i hwhole
          refine ⟨adverts, listings, discarded, hadverts, hlistings, ?_,
            Option.not_isSome_iff_eq_none.mp hwhole, (Option.some.inj h).symm⟩
          simpa using hkept

/-! ### The steps of a cycle -/

theorem outcomeOfAbort_ne_done (abort : Ledger.Abort Empty) (counts : Counts) :
    outcomeOfAbort abort ≠ .done counts := by
  cases abort with
  | persistence _ => exact CycleOutcome.noConfusion
  | fault _ => exact CycleOutcome.noConfusion
  | other x => exact x.elim

section

variable {company : String} {page : Page} {active : List Posting} {time : String}
  {ledger : Ledger}
  (hactive : e.ledger.activePostingsUnder trouble.reading company =
    (.ok active : Except (Ledger.Abort Empty) (List Posting)))
  (htime : e.cycleTime now = .ok time)

include hactive htime

/-- A page is applied by its transaction. -/
theorem applyPage_of_ok
    (h : e.ledger.applyUnder trouble company
        (.between (active.map (·.key)) (Table.keys page)) page time =
      ((.ok counts, ledger) : Except (Ledger.Abort Empty) Counts × Ledger)) :
    e.applyPage trouble company page now = (.done counts, { e with ledger }) := by
  unfold applyPage
  simp only [hactive, htime, h]

/-- A page whose transaction is aborted is not applied. -/
theorem applyPage_of_error {abort : Ledger.Abort Empty}
    (h : e.ledger.applyUnder trouble company
        (.between (active.map (·.key)) (Table.keys page)) page time =
      ((.error abort, ledger) : Except (Ledger.Abort Empty) Counts × Ledger)) :
    e.applyPage trouble company page now = (outcomeOfAbort abort, { e with ledger }) := by
  unfold applyPage
  simp only [hactive, htime, h]

end

/-- A page that was applied was applied in a transaction, to the postings that were active. -/
theorem applyPage_done {company : String} {page : Page}
    (h : e.applyPage trouble company page now = (.done counts, after)) :
    ∃ active time ledger,
      e.ledger.activePostingsUnder trouble.reading company =
        (.ok active : Except (Ledger.Abort Empty) (List Posting)) ∧
      e.cycleTime now = .ok time ∧
      e.ledger.applyUnder trouble company
          (.between (active.map (·.key)) (Table.keys page)) page time =
        ((.ok counts, ledger) : Except (Ledger.Abort Empty) Counts × Ledger) ∧
      after = { e with ledger } := by
  unfold applyPage at h
  split at h
  · exact absurd (congrArg Prod.fst h) (outcomeOfAbort_ne_done _ _)
  · rename_i active hactive
    split at h
    · simp at h
    · rename_i time htime
      simp only at h
      split at h
      · exact absurd (congrArg Prod.fst h) (outcomeOfAbort_ne_done _ _)
      · rename_i counts' ledger happly
        simp only [Prod.mk.injEq, CycleOutcome.done.injEq] at h
        obtain ⟨rfl, rfl⟩ := h
        exact ⟨active, time, ledger, hactive, htime, happly, rfl⟩

/-- A page that was not applied has left nothing in the ledger. -/
theorem applyPage_not_done {company : String} {page : Page} {outcome : CycleOutcome}
    (h : e.applyPage trouble company page now = (outcome, after))
    (hdone : ∀ counts, outcome ≠ .done counts) :
    ∃ ledger, (ledger = e.ledger ∨ ledger = e.ledger.rollback) ∧ after = { e with ledger } := by
  unfold applyPage at h
  split at h
  · cases h
    exact ⟨e.ledger, Or.inl rfl, rfl⟩
  · split at h
    · cases h
      exact ⟨e.ledger, Or.inl rfl, rfl⟩
    · simp only at h
      split at h
      · rename_i abort ledger happly
        cases h
        exact ⟨ledger, Ledger.applyUnder_error happly, rfl⟩
      · cases h
        exact absurd rfl (hdone _)

/-- A page of which a listing is refused is not applied. -/
theorem applyPage_refusing {company : String} {page : Page} {n : Nat}
    {complaint : Text.Unencodable} {outcome : CycleOutcome} (hn : n < 2 * page.length)
    (h : e.applyPage (trouble.refusing n complaint) company page now = (outcome, after))
    (counts : Counts) : outcome ≠ .done counts := by
  rintro rfl
  obtain ⟨active, time, ledger, -, -, hledger, -⟩ := applyPage_done h
  exact Ledger.not_applied_of_refusing hn hledger

/-- The engine after the page of a source was fetched. -/
def fetched (e : Engine φ) (fetcher : Fetcher φ) (source : Source) : Engine φ :=
  { e with memory := (fetcher e.now source e.memory).2 }

/-- The courses that the steps of a cycle can take. -/
inductive Course (e : Engine φ) (trouble : Ledger.Trouble) (fetcher : Fetcher φ) (source : Source)
    (now : Option Time.Stamp) : CycleRun → Engine φ → Prop
  | lost {crash : Crawl.FetchCrash} (h : (fetcher e.now source e.memory).1 = .crashed crash) :
      Course e trouble fetcher source now ⟨0, 0, .crashed (.fetch crash)⟩ (e.fetched fetcher source)
  | unfetched {error : Crawl.FetchError} (h : (fetcher e.now source e.memory).1 = .failed error) :
      Course e trouble fetcher source now ⟨0, 0, .failed (.fetch error)⟩ (e.fetched fetcher source)
  | unread {page : Crawl.Fetched} {failure : CycleFailure}
      (hpage : (fetcher e.now source e.memory).1 = .page page)
      (h : e.registry.read source page.body = .error failure) :
      Course e trouble fetcher source now ⟨0, 0, .failed failure⟩ (e.fetched fetcher source)
  | rejected {adverts : List Advert} {obstacle : Advert.Obstacle}
      (hread : e.adverts? fetcher source = some adverts)
      (h : Advert.listings adverts source.base = .error obstacle) :
      Course e trouble fetcher source now ⟨adverts.length, 0, .crashed (.advert obstacle)⟩
        (e.fetched fetcher source)
  | discarded {adverts : List Advert} {discarded : Nat}
      (hread : e.adverts? fetcher source = some adverts) (hsome : adverts ≠ [])
      (h : Advert.listings adverts source.base = .ok ([], discarded)) :
      Course e trouble fetcher source now
        ⟨adverts.length, discarded, .failed (.allDiscarded adverts.length)⟩
        (e.fetched fetcher source)
  | torn {adverts : List Advert} {listings : List Listing} {discarded : Nat}
      {tear : Listing.Tear} (hread : e.adverts? fetcher source = some adverts)
      (h : Advert.listings adverts source.base = .ok (listings, discarded))
      (htear : Advert.pageTear? adverts source.base = some tear)
      {outcome : CycleOutcome} {after : Engine φ}
      (happly : (e.fetched fetcher source).applyPage
        (trouble.refusing tear.statement tear.complaint) source.company
        (Page.ofListings listings) now = (outcome, after)) :
      Course e trouble fetcher source now ⟨adverts.length, discarded, outcome⟩ after
  | applied {adverts : List Advert} {listings : List Listing} {discarded : Nat}
      (hread : e.adverts? fetcher source = some adverts)
      (h : Advert.listings adverts source.base = .ok (listings, discarded))
      (hpage : e.page? fetcher source = some (Page.ofListings listings))
      {outcome : CycleOutcome} {after : Engine φ}
      (happly : (e.fetched fetcher source).applyPage trouble source.company
        (Page.ofListings listings) now = (outcome, after)) :
      Course e trouble fetcher source now ⟨adverts.length, discarded, outcome⟩ after

/-- The steps of a cycle take one of the courses. -/
theorem runClaimed_course (h : e.runClaimed trouble fetcher source now = (run, after)) :
    Course e trouble fetcher source now run after := by
  unfold runClaimed at h
  simp only at h
  split at h
  · rename_i crash hcrash
    cases h
    exact .lost hcrash
  · rename_i error herror
    cases h
    exact .unfetched herror
  · rename_i page hpage
    split at h
    · rename_i failure hread
      cases h
      exact .unread hpage hread
    · rename_i adverts hread
      have hadverts : e.adverts? fetcher source = some adverts := by
        simp [adverts?, hpage, hread, Except.toOption]
      unfold takeIn at h
      simp only at h
      split at h
      · rename_i rejection hlistings
        cases h
        exact .rejected hadverts hlistings
      · rename_i listings discarded hlistings
        split at h
        · rename_i hdiscarded
          cases h
          obtain ⟨hsome, hnone⟩ : adverts ≠ [] ∧ listings = [] := by simpa using hdiscarded
          exact .discarded hadverts hsome (hnone ▸ hlistings)
        · rename_i hkept
          cases htear : Advert.pageTear? adverts source.base with
          | some tear =>
              simp only [troubleWith, htear] at h
              cases h
              exact .torn hadverts hlistings htear rfl
          | none =>
              have hsees : e.page? fetcher source = some (Page.ofListings listings) := by
                simp only [page?, hadverts, hlistings, htear]
                rw [if_neg hkept, if_neg (by simp)]
              simp only [troubleWith, htear] at h
              cases h
              exact .applied hadverts hlistings hsees rfl

/-- A torn page is not applied. -/
theorem not_done_of_torn {adverts : List Advert} {listings : List Listing} {discarded : Nat}
    {tear : Listing.Tear} {outcome : CycleOutcome}
    (h : Advert.listings adverts source.base = .ok (listings, discarded))
    (htear : Advert.pageTear? adverts source.base = some tear)
    (happly : e.applyPage (trouble.refusing tear.statement tear.complaint) source.company
      (Page.ofListings listings) now = (outcome, after)) (counts : Counts) :
    outcome ≠ .done counts :=
  applyPage_refusing ((Advert.pageTear?_eq_some htear).2 _ _ h) happly counts

/-- A cycle that was done has seen a page and applied it. -/
theorem runClaimed_done (h : e.runClaimed trouble fetcher source now = (run, after))
    (hdone : run.outcome = .done counts) :
    ∃ page active time ledger, e.page? fetcher source = some page ∧
      e.ledger.activePostingsUnder trouble.reading source.company =
        (.ok active : Except (Ledger.Abort Empty) (List Posting)) ∧
      e.cycleTime now = .ok time ∧
      e.ledger.applyUnder trouble source.company
          (.between (active.map (·.key)) (Table.keys page)) page time =
        ((.ok counts, ledger) : Except (Ledger.Abort Empty) Counts × Ledger) ∧
      after = { e.fetched fetcher source with ledger } := by
  cases runClaimed_course h with
  | lost _ | unfetched _ | unread _ _ | rejected _ _ | discarded _ _ _ => cases hdone
  | torn _ hlistings htear happly => exact absurd hdone (not_done_of_torn hlistings htear happly _)
  | applied hread hlistings hpage happly =>
      cases hdone
      obtain ⟨active, time, ledger, hactive, htime, hledger, hafter⟩ := applyPage_done happly
      exact ⟨_, active, time, ledger, hpage, hactive, htime, hledger, hafter⟩

/-- A cycle that was not done has left nothing in the ledger. -/
theorem runClaimed_not_done (h : e.runClaimed trouble fetcher source now = (run, after))
    (hdone : ∀ counts, run.outcome ≠ .done counts) :
    ∃ ledger, (ledger = e.ledger ∨ ledger = e.ledger.rollback) ∧
      after = { e.fetched fetcher source with ledger } := by
  cases runClaimed_course h with
  | lost _ | unfetched _ | unread _ _ | rejected _ _ | discarded _ _ _ =>
      exact ⟨e.ledger, Or.inl rfl, rfl⟩
  | torn _ _ _ happly | applied _ _ _ happly => exact applyPage_not_done happly hdone

/-! ### From the steps to the end of a cycle -/

/-- A cycle has ended well. -/
def EndsOk (result : Except Crash CycleReport) : Prop :=
  ∃ report, result = .ok report ∧ report.status = .ok

theorem not_endsOk_crash (crash : Crash) : ¬ EndsOk (.error crash) := by
  rintro ⟨report, hreport, -⟩
  cases hreport

@[simp] theorem endsOk_report {report : CycleReport} :
    EndsOk (.ok report) ↔ report.status = .ok := by
  constructor
  · rintro ⟨report', hreport, hstatus⟩
    rw [Except.ok.inj hreport]
    exact hstatus
  · intro hstatus
    exact ⟨report, rfl, hstatus⟩

/-- Finishing a cycle writes to the ledger and counts. -/
theorem finish_eq (e : Engine φ) (report : CycleReport) :
    (e.finish report).2 =
      { e with
        ledger := (e.ledger.record report e.now.text).2
        metrics := (e.finish report).2.metrics } := by
  unfold finish
  split
  · rename_i fault ledger hrecord
    rw [hrecord]
  · rename_i id ledger hrecord
    rw [hrecord]
    rfl

theorem finish_ledger (e : Engine φ) (report : CycleReport) :
    (e.finish report).2.ledger = (e.ledger.record report e.now.text).2 := by
  rw [finish_eq]

/-- The engine while a cycle of a company is running. -/
def claimed (e : Engine φ) (company : String) : Engine φ :=
  { e with inFlight := company :: e.inFlight }

/-- What a cycle has come to before it is recorded: its report, unless it has crashed. -/
def reported (e : Engine φ) (trouble : Ledger.Trouble) (fetcher : Fetcher φ) (c : Company)
    (now : Option Time.Stamp) : Except Crash CycleReport × Engine φ :=
  if c.id ∈ e.inFlight then (.ok (e.blankReport c.id .skipped (some skippedMessage) none), e)
  else
    let (run, after) := (e.claimed c.id).runClaimed trouble fetcher c.source now
    (after.report c.id run, after)

/-- A cycle of a company that is not free is skipped, and does nothing else. -/
theorem reported_claimed {c : Company} (trouble : Ledger.Trouble) (fetcher : Fetcher φ)
    (now : Option Time.Stamp) (h : c.id ∈ e.inFlight) :
    e.reported trouble fetcher c now =
      (.ok (e.blankReport c.id .skipped (some skippedMessage) none), e) :=
  if_pos h

/-- A cycle of a company that is free goes through its steps. -/
theorem reported_free {c : Company} {result : Except Crash CycleReport} (hfree : c.id ∉ e.inFlight)
    (h : e.reported trouble fetcher c now = (result, after)) :
    ∃ run, (e.claimed c.id).runClaimed trouble fetcher c.source now = (run, after) ∧
      after.report c.id run = result := by
  unfold reported at h
  rw [if_neg hfree] at h
  generalize (e.claimed c.id).runClaimed trouble fetcher c.source now = r at h ⊢
  cases h
  exact ⟨r.1, rfl, rfl⟩

/-- The engine after a cycle of a company, which is free again if the cycle was running. -/
def released (e : Engine φ) (company : String) (before : InFlight) : Engine φ :=
  if company ∈ before then e else { e with inFlight := InFlight.release e.inFlight company }

theorem released_eq (e : Engine φ) (company : String) (before : InFlight) :
    e.released company before =
      { e with inFlight := (e.released company before).inFlight } := by
  unfold released
  split <;> rfl

@[simp] theorem released_ledger (e : Engine φ) (company : String) (before : InFlight) :
    (e.released company before).ledger = e.ledger := by
  unfold released
  split <;> rfl

@[simp] theorem released_memory (e : Engine φ) (company : String) (before : InFlight) :
    (e.released company before).memory = e.memory := by
  unfold released
  split <;> rfl

variable {c : Company}

/-- A cycle is recorded if it has come to a report. -/
theorem runStored_eq (e : Engine φ) (trouble : Ledger.Trouble) (fetcher : Fetcher φ) (c : Company)
    (now : Option Time.Stamp) :
    e.runStored trouble fetcher c now =
      match e.reported trouble fetcher c now with
      | (.error crash, after) => (.error crash, after.released c.id e.inFlight)
      | (.ok report, after) =>
        ((after.finish report).1, (after.finish report).2.released c.id e.inFlight) := by
  by_cases h : c.id ∈ e.inFlight
  · have hclaim : InFlight.claim e.inFlight c.id = (false, e.inFlight) := by
      simp [InFlight.claim, InFlight.holds, h]
    simp [runStored, reported, released, hclaim, h]
  · have hclaim : InFlight.claim e.inFlight c.id = (true, c.id :: e.inFlight) := by
      simp [InFlight.claim, InFlight.holds, h]
    unfold runStored reported released
    rw [hclaim]
    simp only [if_neg h]
    -- The claim made is the one that `claimed` makes, so both sides are the same run of the steps.
    change (let r := (e.claimed c.id).runClaimed trouble fetcher c.source now
      let s := r.2.settle c.id r.1
      (s.1, { s.2 with inFlight := InFlight.release s.2.inFlight c.id })) = _
    simp only
    generalize (e.claimed c.id).runClaimed trouble fetcher c.source now = r
    unfold settle
    cases r.2.report c.id r.1 <;> rfl

theorem report_done (e : Engine φ) (company : String) (hdone : run.outcome = .done counts) :
    ∃ report, e.report company run = .ok report ∧ report.status = .ok := by
  unfold Engine.report
  rw [hdone]
  exact ⟨_, rfl, rfl⟩

/-- What is reported of the steps of a cycle: that they were done, or how they failed. -/
theorem report_cases {company : String} {report : CycleReport}
    (h : e.report company run = .ok report) :
    report.company = company ∧ report.fetched = run.fetched ∧ report.discarded = run.discarded ∧
      ((∃ counts, run.outcome = .done counts ∧ report.status = .ok ∧ report.counts = counts) ∨
        (∀ counts, run.outcome ≠ .done counts) ∧ report.status = .error ∧
          report.counts = .zero) := by
  unfold Engine.report at h
  split at h
  · cases h
  · rename_i failure houtcome
    cases h
    refine ⟨rfl, rfl, rfl, Or.inr ⟨fun counts hdone => ?_, rfl, rfl⟩⟩
    cases houtcome.symm.trans hdone
  · rename_i counts houtcome
    cases h
    exact ⟨rfl, rfl, rfl, Or.inl ⟨counts, houtcome, rfl, rfl⟩⟩

/-- A cycle that is reported to have ended well was claimed and done. -/
theorem reported_done {report : CycleReport}
    (h : e.reported trouble fetcher c now = (.ok report, after)) (hstatus : report.status = .ok) :
    c.id ∉ e.inFlight ∧ ∃ run counts,
      (e.claimed c.id).runClaimed trouble fetcher c.source now = (run, after) ∧
        run.outcome = .done counts := by
  by_cases hclaimed : c.id ∈ e.inFlight
  · rw [reported_claimed trouble fetcher now hclaimed] at h
    cases h
    cases hstatus
  · obtain ⟨run, hrun, hreport⟩ := reported_free hclaimed h
    obtain ⟨-, -, -, ⟨counts, hdone, -⟩ | ⟨-, herror, -⟩⟩ := report_cases hreport
    · exact ⟨hclaimed, run, counts, hrun, hdone⟩
    · cases hstatus.symm.trans herror

/-- A company that is looked up is in the ledger, and there is a connection to it. -/
theorem company?_ok {l : Ledger} {id : String} (h : l.company? id = .ok (some c)) :
    l.connected = true ∧ c.id = id ∧ ∃ rows, l.view.companies = some rows ∧ c ∈ rows := by
  unfold Ledger.company? Ledger.companyRows at h
  obtain ⟨rows, hrows, hfound⟩ := bind_ok h
  obtain ⟨t, ht, hcompanies⟩ := bind_ok hrows
  obtain ⟨hconnected, rfl⟩ := Ledger.writable_ok ht
  have hfind : rows.find? (·.id == id) = some c := Except.ok.inj hfound
  exact ⟨hconnected, by simpa using List.find?_some hfind, rows, Ledger.requireTable_ok hcompanies,
    List.mem_of_find?_eq_some hfind⟩

/-! ### The ends of a cycle -/

/-- The ends that a cycle of a company can come to before it is recorded. -/
inductive Ending (e : Engine φ) (fetcher : Fetcher φ) (c : Company) :
    Except Crash CycleReport → Engine φ → Prop
  | crashed {crash : Crash} {after : Engine φ}
      (hledger : after.ledger = e.ledger ∨ after.ledger = e.ledger.rollback) :
      Ending e fetcher c (.error crash) after
  | failed {report : CycleReport} {after : Engine φ} (hcompany : report.company = c.id)
      (hstatus : report.status ≠ .ok) (hcounts : report.counts = .zero)
      (hledger : after.ledger = e.ledger ∨ after.ledger = e.ledger.rollback) :
      Ending e fetcher c (.ok report) after
  | settled {report : CycleReport} {after : Engine φ} {table : Ledger.Numbered Posting}
      {adverts : List Advert} {listings : List Listing} {discarded : Nat} {d : Difference}
      {time : String} (hcompany : report.company = c.id) (hstatus : report.status = .ok)
      (htable : e.ledger.view.postings = some table)
      (hread : e.adverts? fetcher c.source = some adverts)
      (hlistings : Advert.listings adverts c.source.base = .ok (listings, discarded))
      (hfetched : report.fetched = adverts.length) (hdiscarded : report.discarded = discarded)
      (hcounts : report.counts =
        Ledger.settledCounts table c.id d (Page.ofListings listings) time)
      (hledger : after.ledger =
        { e.ledger with
          committed := e.ledger.view.withPostings
            (table.settled c.id d (Page.ofListings listings) time)
          pending := none }) :
      Ending e fetcher c (.ok report) after

/-- The steps of a cycle leave alone what has been counted, and the time. -/
theorem reported_frame_engine (e : Engine φ) (trouble : Ledger.Trouble) (fetcher : Fetcher φ)
    (c : Company) (now : Option Time.Stamp) :
    (e.reported trouble fetcher c now).2.metrics = e.metrics ∧
      (e.reported trouble fetcher c now).2.now = e.now := by
  by_cases hclaimed : c.id ∈ e.inFlight
  · rw [reported_claimed trouble fetcher now hclaimed]
    exact ⟨rfl, rfl⟩
  · rcases hreported : e.reported trouble fetcher c now with ⟨result, after⟩
    obtain ⟨run, hrun, -⟩ := reported_free hclaimed hreported
    by_cases hdone : ∃ counts, run.outcome = .done counts
    · obtain ⟨counts, hdone⟩ := hdone
      obtain ⟨-, -, -, -, -, -, -, -, rfl⟩ := runClaimed_done hrun hdone
      exact ⟨rfl, rfl⟩
    · obtain ⟨-, -, rfl⟩ := runClaimed_not_done hrun fun counts hc => hdone ⟨counts, hc⟩
      exact ⟨rfl, rfl⟩

/-- A cycle comes to one of these ends, whatever trouble the database gives. -/
theorem reported_ending {result : Except Crash CycleReport} {rows : List Company}
    (hrows : e.ledger.view.companies = some rows) (hin : c ∈ rows)
    (hschema : ∀ table, e.ledger.view.postings = some table → Ledger.Constrained table)
    (h : e.reported trouble fetcher c now = (result, after)) : Ending e fetcher c result after := by
  by_cases hclaimed : c.id ∈ e.inFlight
  · rw [reported_claimed trouble fetcher now hclaimed] at h
    cases h
    exact .failed rfl nofun rfl (Or.inl rfl)
  · obtain ⟨run, hrun, hreport⟩ := reported_free hclaimed h
    by_cases hdone : ∃ counts, run.outcome = .done counts
    · obtain ⟨counts, hdone⟩ := hdone
      cases runClaimed_course hrun with
      | lost _ | unfetched _ | unread _ _ | rejected _ _ | discarded _ _ _ => cases hdone
      | torn _ hlistings htear happly =>
          exact absurd hdone (not_done_of_torn hlistings htear happly _)
      | applied hread hlistings hpage happly =>
          cases hdone
          obtain ⟨active, time, ledger, hactive, -, hledger, rfl⟩ := applyPage_done happly
          obtain ⟨-, -, table, htable, -⟩ := Ledger.activePostingsUnder_ok hactive
          obtain ⟨rfl, rfl⟩ := Ledger.applyUnder_settles htable (hschema table htable) hrows
            ⟨c, hin, rfl⟩ (Page.maps_ofListings _) hledger
          cases hreport
          exact .settled rfl rfl htable hread hlistings rfl rfl rfl rfl
    · have hnot : ∀ counts, run.outcome ≠ .done counts := fun counts hc => hdone ⟨counts, hc⟩
      obtain ⟨ledger, hledger, rfl⟩ := runClaimed_not_done hrun hnot
      cases result with
      | error crash => exact .crashed hledger
      | ok report =>
          obtain ⟨hcompany, -, -, ⟨counts, hc, -⟩ | ⟨-, hstatus, hcounts⟩⟩ := report_cases hreport
          · exact absurd hc (hnot counts)
          · exact .failed hcompany (by simp [hstatus]) hcounts hledger

/-! ### An engine to try things on -/

/-- An engine on the ledger with the postings of two companies, whose pages all hold the same
adverts. -/
def sampleEngine (adverts : List Advert) : Engine Unit :=
  { Engine.start ⟨0⟩ 20 () with
    ledger := .sampleLedger
    registry := ⟨[("", .fixed adverts)], []⟩ }

/-- Serves a page without a body wherever it is asked for one. -/
def sampleFetcher : Fetcher Unit := fun _ _ memory => (Feeds.page "" "", memory)

end VacancyLedger.Engine
