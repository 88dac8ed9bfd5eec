/-
Cycles that do not end well.

Whatever keeps a cycle from ending well strikes before its page is committed: the postings
are as they were, and all that is written is the history and how the company fares.  There
are many ways to fail, one for each step of the cycle and one for each statement of its
transaction, but the steps have only two ends, so the frame is shown once for all of them.
There are no other ways: a cycle that none of these causes hinders ends well.

That recording itself succeeds has to be assumed: it comes after the page is committed.
-/
import VacancyLedger.Proofs.Engine.Cycle
import VacancyLedger.Proofs.Ledger.FirstTrouble

namespace VacancyLedger.Engine

variable {φ : Type}

/-- What keeps the cycle of a company from ending well. -/
inductive Hindered (e : Engine φ) (trouble : Ledger.Trouble) (fetcher : Fetcher φ) (c : Company)
    (now : Option Time.Stamp) : Prop
  /-- A cycle of the company is running. -/
  | claimed (h : c.id ∈ e.inFlight)
  /-- Fetching its page fails or crashes. -/
  | unfetched (h : ∀ page, (fetcher e.now c.source e.memory).1 ≠ .page page)
  /-- No adverts can be read off the page. -/
  | unread {page : Crawl.Fetched} {failure : CycleFailure}
      (hpage : (fetcher e.now c.source e.memory).1 = .page page)
      (h : e.registry.read c.source page.body = .error failure)
  /-- An advert is rejected: its markup cannot be read, or it has no digest. -/
  | rejected {adverts : List Advert} {obstacle : Advert.Obstacle}
      (hread : e.adverts? fetcher c.source = some adverts)
      (h : Advert.listings adverts c.source.base = .error obstacle)
  /-- A text on the page cannot be encoded. -/
  | torn {adverts : List Advert} (hread : e.adverts? fetcher c.source = some adverts)
      (h : ¬Advert.AllEncode adverts c.source.base)
  /-- There are adverts, and all of them are discarded. -/
  | discarded {adverts : List Advert} {discarded : Nat}
      (hread : e.adverts? fetcher c.source = some adverts) (hsome : adverts ≠ [])
      (h : Advert.listings adverts c.source.base = .ok ([], discarded))
  /-- The time given is no time that can be written. -/
  | timeless {crash : Crash} (h : e.cycleTime now = .error crash)
  /-- The active postings cannot be read. -/
  | reading {fault : Ledger.Fault} (h : trouble.reading = some fault)
  /-- A statement of the transaction fails. -/
  | writing {page : Page} {active : List Posting} {n : Nat} {fault : Ledger.Fault}
      (hpage : e.page? fetcher c.source = some page)
      (hactive : e.ledger.activePostings c.id =
        (.ok active : Except (Ledger.Abort Empty) (List Posting)))
      (hn : n < Ledger.statementCount
        (.between (active.map (·.key)) (Table.keys page)) page)
      (h : trouble.writing n = some fault)
  /-- The transaction cannot be committed. -/
  | committing {fault : Ledger.Fault} (h : trouble.committing = some fault)

/-- The report that the cycle of a company comes to, if it comes to one, can be recorded. -/
def Records (e : Engine φ) (trouble : Ledger.Trouble) (fetcher : Fetcher φ) (c : Company)
    (now : Option Time.Stamp) : Prop :=
  ∀ report after, e.reported trouble fetcher c now = (.ok report, after) →
    ∃ id ledger, after.ledger.record report after.now.text = (.ok id, ledger)

variable {e after : Engine φ} {trouble : Ledger.Trouble} {fetcher : Fetcher φ} {c : Company}
  {now : Option Time.Stamp} {result : Except Crash CycleReport} {report : CycleReport}

/-! ### Before the cycle is recorded -/

/-- A cycle that was done has met nothing that could have kept it from ending well. -/
theorem not_hindered_of_done {run : CycleRun} {counts : Counts} (hfree : c.id ∉ e.inFlight)
    (h : (e.claimed c.id).runClaimed trouble fetcher c.source now = (run, after))
    (hdone : run.outcome = .done counts) : ¬ e.Hindered trouble fetcher c now := by
  obtain ⟨page, active, time, ledger, hpage, hactive, htime, happly, -⟩ := runClaimed_done h hdone
  obtain ⟨adverts, listings, discarded, hadverts, hlistings, hkept, hwhole, -⟩ := page?_some hpage
  obtain ⟨fetched, hfetched, hread⟩ := adverts?_some hadverts
  have hreading : trouble.reading = none := (Ledger.activePostingsUnder_ok hactive).1
  obtain ⟨-, t, hwrite, -⟩ := Ledger.applyUnder_ok happly
  obtain ⟨hwriting, hcommitting⟩ := Ledger.writeDifference_untroubled hwrite
  intro hhindered
  cases hhindered with
  | claimed h => exact hfree h
  | unfetched h => exact h fetched hfetched
  | unread hpage' h =>
      obtain rfl := Crawl.FetchResult.page.inj (hfetched.symm.trans hpage')
      cases hread.symm.trans h
  | rejected hread' h =>
      obtain rfl := Option.some.inj (hadverts.symm.trans hread')
      cases hlistings.symm.trans h
  | torn hread' h =>
      obtain rfl := Option.some.inj (hadverts.symm.trans hread')
      exact h (Advert.pageTear?_eq_none_iff.mp hwhole)
  | discarded hread' hsome h =>
      obtain rfl := Option.some.inj (hadverts.symm.trans hread')
      cases hlistings.symm.trans h
      exact hkept hsome rfl
  | timeless h => cases htime.symm.trans h
  | reading h => cases hreading.symm.trans h
  | writing hpage' hactive' hn h =>
      obtain rfl := Option.some.inj (hpage.symm.trans hpage')
      rw [hreading] at hactive
      obtain rfl := Except.ok.inj (hactive.symm.trans hactive')
      cases (hwriting _ hn).symm.trans h
  | committing h => cases hcommitting.symm.trans h

theorem not_hindered (h : e.reported trouble fetcher c now = (result, after))
    (hok : EndsOk result) : ¬ e.Hindered trouble fetcher c now := by
  obtain ⟨report, rfl, hstatus⟩ := hok
  obtain ⟨hfree, run, counts, hrun, hdone⟩ := reported_done h hstatus
  exact not_hindered_of_done hfree hrun hdone

/-- A page is applied if there is no trouble with it. -/
theorem applyPage_spared {company : String} {table : Ledger.Numbered Posting} {rows : List Company}
    {active : List Posting} {page : Page} {time : String} (hconnected : e.ledger.connected = true)
    (hpostings : e.ledger.view.postings = some table) (hschema : Ledger.Constrained table)
    (hrows : e.ledger.view.companies = some rows) (hin : ∃ c ∈ rows, c.id = company)
    (hpage : page.Maps) (htime : e.cycleTime now = .ok time)
    (hactive : e.ledger.activePostingsUnder trouble.reading company =
      (.ok active : Except (Ledger.Abort Empty) (List Posting)))
    (hnone : trouble.first (Ledger.statementCount
      (.between (active.map (·.key)) (Table.keys page)) page) = none) :
    ∃ counts, (e.applyPage trouble company page now).1 = .done counts := by
  have happly : (e.ledger.applyUnder trouble company
      (.between (active.map (·.key)) (Table.keys page)) page time :
        Except (Ledger.Abort Empty) Counts × Ledger) = _ :=
    Ledger.applyUnder_spared hconnected hpostings hschema hrows hin hpage hnone
  exact ⟨_, congrArg Prod.fst (applyPage_of_ok hactive htime happly)⟩

/-- Before it is recorded, a cycle ends well if none of the causes that could keep it from that is
there. -/
theorem endsOk_of_not_hindered {table : Ledger.Numbered Posting}
    (hstored : e.ledger.company? c.id = .ok (some c))
    (hpostings : e.ledger.view.postings = some table) (hschema : Ledger.Constrained table)
    (h : ¬ e.Hindered trouble fetcher c now) : EndsOk (e.reported trouble fetcher c now).1 := by
  obtain ⟨hconnected, -, rows, hrows, hin⟩ := company?_ok hstored
  rcases hreported : e.reported trouble fetcher c now with ⟨result, after⟩
  obtain ⟨run, hrun, hreport⟩ := reported_free (fun hclaimed => h (.claimed hclaimed)) hreported
  have hdone : ∃ counts, run.outcome = .done counts := by
    cases runClaimed_course hrun with
    | lost hlost => exact absurd (.unfetched fun page hpage => by cases hlost.symm.trans hpage) h
    | unfetched herror =>
        exact absurd (.unfetched fun page hpage => by cases herror.symm.trans hpage) h
    | unread hpage hread => exact absurd (.unread hpage hread) h
    | rejected hread hlistings => exact absurd (.rejected hread hlistings) h
    | discarded hread hsome hlistings => exact absurd (.discarded hread hsome hlistings) h
    | torn hread _ htear _ =>
        refine absurd (.torn hread fun hwhole => ?_) h
        cases htear.symm.trans (Advert.pageTear?_eq_none_iff.mpr hwhole)
    | applied hread hlistings hpage happly =>
        cases htime : e.cycleTime now with
        | error crash => exact absurd (.timeless htime) h
        | ok time =>
            have hreading : trouble.reading = none :=
              Option.eq_none_iff_forall_ne_some.mpr fun fault hfault => h (.reading hfault)
            have hcommitting : trouble.committing = none :=
              Option.eq_none_iff_forall_ne_some.mpr fun fault hfault => h (.committing hfault)
            have hactive : (e.ledger.activePostingsUnder none c.id :
                Except (Ledger.Abort Empty) (List Posting)) = _ :=
              Ledger.activePostingsUnder_eq hconnected hpostings none c.id
            have hwriting := fun n hn => Option.eq_none_iff_forall_ne_some.mpr fun fault hfault =>
              h (.writing (n := n) hpage hactive hn hfault)
            obtain ⟨counts, houtcome⟩ := applyPage_spared
              (e := (e.claimed c.id).fetched fetcher c.source) hconnected hpostings hschema hrows
              ⟨c, hin, rfl⟩ (Page.maps_ofListings _) htime (hreading ▸ hactive)
              (Ledger.first_eq_none hwriting hcommitting)
            exact ⟨counts, (congrArg Prod.fst happly).symm.trans houtcome⟩
  obtain ⟨counts, hdone⟩ := hdone
  obtain ⟨report, hsaid, hstatus⟩ := report_done after c.id hdone
  exact ⟨report, hreport.symm.trans hsaid, hstatus⟩

/-- A cycle of a company that is not free is skipped; any other ends well or fails. -/
theorem reported_status (h : e.reported trouble fetcher c now = (.ok report, after)) :
    report.company = c.id ∧ (report.status = .skipped ↔ c.id ∈ e.inFlight) := by
  unfold reported at h
  split at h
  · rename_i hclaimed
    cases h
    exact ⟨rfl, iff_of_true rfl hclaimed⟩
  · rename_i hfree
    obtain ⟨hcompany, -, -, hstatus⟩ := report_cases (congrArg Prod.fst h)
    refine ⟨hcompany, iff_of_false ?_ hfree⟩
    rcases hstatus with ⟨-, -, hok, -⟩ | ⟨-, herror, -⟩
    · simp [hok]
    · simp [herror]

/-- Before it is recorded, a cycle that does not end well has changed nothing in the ledger. -/
theorem reported_frame (hpending : e.ledger.pending = none)
    (h : e.reported trouble fetcher c now = (result, after)) (hok : ¬ EndsOk result) :
    after.ledger = e.ledger ∧ after.now = e.now := by
  by_cases hclaimed : c.id ∈ e.inFlight
  · rw [reported_claimed trouble fetcher now hclaimed] at h
    cases h
    exact ⟨rfl, rfl⟩
  · obtain ⟨run, hrun, hreport⟩ := reported_free hclaimed h
    have hdone : ∀ counts, run.outcome ≠ .done counts := by
      intro counts hdone
      obtain ⟨report, hreported, hstatus⟩ := report_done after c.id hdone
      exact hok ⟨report, hreport.symm.trans hreported, hstatus⟩
    obtain ⟨ledger, hledger, rfl⟩ := runClaimed_not_done hrun hdone
    rcases hledger with rfl | rfl
    · exact ⟨rfl, rfl⟩
    · exact ⟨Ledger.rollback_of_settled hpending, rfl⟩

/-! ### After the cycle is recorded -/

theorem runStored_crashed {crash : Crash}
    (h : e.reported trouble fetcher c now = (.error crash, after)) :
    (e.runStored trouble fetcher c now).1 = .error crash ∧
      (e.runStored trouble fetcher c now).2.ledger = after.ledger := by
  rw [runStored_eq, h]
  exact ⟨rfl, released_ledger _ _ _⟩

theorem runStored_recorded (hrecords : e.Records trouble fetcher c now)
    (h : e.reported trouble fetcher c now = (.ok report, after)) :
    ∃ id ledger, after.ledger.record report after.now.text = (.ok id, ledger) ∧
      (e.runStored trouble fetcher c now).1 = .ok report ∧
      (e.runStored trouble fetcher c now).2.ledger = ledger ∧
      (e.runStored trouble fetcher c now).2.memory = after.memory := by
  obtain ⟨id, ledger, hrecord⟩ := hrecords report after h
  refine ⟨id, ledger, hrecord, ?_⟩
  rw [runStored_eq, h]
  simp [finish, hrecord, Engine.observe]

/-- A cycle that nothing hinders and whose report can be recorded ends well. -/
theorem runCycleUnder_endsOk {company : String} {table : Ledger.Numbered Posting}
    (hstored : e.ledger.company? company = .ok (some c))
    (hpostings : e.ledger.view.postings = some table) (hschema : Ledger.Constrained table)
    (h : ¬ e.Hindered trouble fetcher c now) (hrecords : e.Records trouble fetcher c now) :
    ∃ report, (e.runCycleUnder trouble fetcher company now).1 = .ok report ∧
      report.status = .ok := by
  obtain ⟨-, rfl, -⟩ := company?_ok hstored
  rcases hreported : e.reported trouble fetcher c now with ⟨result, after⟩
  obtain ⟨report, rfl, hstatus⟩ : EndsOk result := by
    have hends := endsOk_of_not_hindered hstored hpostings hschema h
    rwa [hreported] at hends
  obtain ⟨-, -, -, hresult, -⟩ := runStored_recorded hrecords hreported
  refine ⟨report, ?_, hstatus⟩
  rw [runCycleUnder, hstored]
  exact hresult

/-- A cycle that is skipped asks no fetcher for anything. -/
theorem runStored_claimed (trouble : Ledger.Trouble) (fetcher other : Fetcher φ)
    (now : Option Time.Stamp) (h : c.id ∈ e.inFlight) :
    e.runStored trouble other c now = e.runStored trouble fetcher c now := by
  rw [runStored_eq, runStored_eq, reported_claimed trouble other now h,
    reported_claimed trouble fetcher now h]

/-- What is left in the ledger of a cycle that has not ended well. -/
theorem recorded_frame {rows : List Company} {id : Nat} {ledger : Ledger}
    (hpending : e.ledger.pending = none) (hrows : e.ledger.committed.companies = some rows)
    (h : e.reported trouble fetcher c now = (.ok report, after)) (hok : report.status ≠ .ok)
    (hrecord : after.ledger.record report after.now.text = (.ok id, ledger)) :
    ∃ cycles, e.ledger.committed.cycles = some cycles ∧
      ledger =
        { e.ledger with
          committed :=
            { e.ledger.committed with
              companies := some (Ledger.notedRows rows report e.now.text)
              cycles := some (Ledger.appended cycles report) } } := by
  have hview := Ledger.view_of_settled hpending
  obtain ⟨hledger, hnow⟩ := reported_frame hpending h fun hends => hok (endsOk_report.mp hends)
  rw [hledger, hnow] at hrecord
  obtain ⟨cycles, hcycles, hafter⟩ := Ledger.record_ok (hview ▸ hrows) hrecord
  rw [hview] at hcycles hafter
  exact ⟨cycles, hcycles, by simp [hafter, hpending]⟩

/-! ### The frame -/

/-- A disk that is full when the first statement of a transaction is carried out. -/
def fullDisk : Ledger.Trouble := ⟨none, fun _ => some (.trouble "disk is full"), none⟩

/--
**A cycle that does not end well leaves the postings as they were.**  Any of the causes in
`Hindered` keeps it from ending well.  A crash leaves nothing behind in the ledger; a failure
is appended to the history and noted on its company; a cycle that is skipped is appended to
the history and does not depend on any fetcher.
-/
theorem postings_kept (e : Engine φ) (trouble : Ledger.Trouble) (fetcher : Fetcher φ) (c : Company)
    (now : Option Time.Stamp) (hpending : e.ledger.pending = none)
    (hstored : e.ledger.company? c.id = .ok (some c)) (hrecords : e.Records trouble fetcher c now)
    (hrun : e.runCycleUnder trouble fetcher c.id now = (result, after)) :
    (e.Hindered trouble fetcher c now → ¬ EndsOk result) ∧
    (¬ EndsOk result →
      after.ledger.committed.postings = e.ledger.committed.postings ∧
        after.ledger.pending = none) ∧
    (∀ crash, result = .error crash → after.ledger = e.ledger) ∧
    (∀ report, result = .ok report → report.status = .error →
      ∃ rows cycles, e.ledger.committed.companies = some rows ∧
        e.ledger.committed.cycles = some cycles ∧
        after.ledger =
          { e.ledger with
            committed :=
              { e.ledger.committed with
                companies := some (rows.map fun d =>
                  if d.id == c.id then
                    { d with
                      lastCycleAt := some report.finishedAt
                      lastStatus := some .error
                      lastError := report.error
                      failures := d.failures + 1
                      updatedAt := e.now.text }
                  else d)
                cycles := some
                  ⟨cycles.rows ++ [⟨cycles.lastId + 1, report⟩], cycles.lastId + 1⟩ } }) ∧
    (∀ report, result = .ok report → report.status = .skipped →
      (∃ cycles, e.ledger.committed.cycles = some cycles ∧
        after.ledger =
          { e.ledger with
            committed :=
              { e.ledger.committed with
                cycles := some
                  ⟨cycles.rows ++ [⟨cycles.lastId + 1, report⟩], cycles.lastId + 1⟩ } }) ∧
        after.memory = e.memory ∧
        ∀ other, e.runCycleUnder trouble other c.id now = (result, after)) := by
  have hstart : ∀ other, e.runCycleUnder trouble other c.id now
      = e.runStored trouble other c now := by
    intro other
    rw [runCycleUnder, hstored]
  obtain ⟨-, -, rows, hrows, -⟩ := company?_ok hstored
  rw [Ledger.view_of_settled hpending] at hrows
  rw [hstart] at hrun
  -- A cycle crashes before it is recorded, or it comes to a report and that is recorded.
  rcases hreported : e.reported trouble fetcher c now with ⟨crash | report, mid⟩
  · obtain ⟨hresult, hledger⟩ := runStored_crashed hreported
    rw [hrun] at hresult hledger
    subst hresult
    have hnot := not_endsOk_crash crash
    have hkept : after.ledger = e.ledger :=
      hledger.trans (reported_frame hpending hreported hnot).1
    have hreports : ∀ report, (.error crash : Except Crash CycleReport) ≠ .ok report := by
      intro report heq
      cases heq
    refine ⟨fun _ => hnot, fun _ => ?_, fun _ _ => hkept, fun _ heq => absurd heq (hreports _),
      fun _ heq => absurd heq (hreports _)⟩
    rw [hkept]
    exact ⟨rfl, hpending⟩
  · obtain ⟨id, ledger, hrecord, hresult, hledger, hmemory⟩ := runStored_recorded hrecords hreported
    rw [hrun] at hresult hledger hmemory
    subst hresult
    have hframe := fun hok => recorded_frame hpending hrows hreported hok hrecord
    obtain ⟨hcompany, hskipped⟩ := reported_status hreported
    have hcrashes : ∀ crash, (.ok report : Except Crash CycleReport) ≠ .error crash := by
      intro crash heq
      cases heq
    refine ⟨fun hhindered hok => not_hindered hreported hok hhindered, fun hnot => ?_,
      fun _ heq => absurd heq (hcrashes _), ?_, ?_⟩
    · have hstatus : report.status ≠ .ok := fun h => hnot (endsOk_report.mpr h)
      obtain ⟨cycles, -, hafter⟩ := hframe hstatus
      rw [hledger, hafter]
      exact ⟨rfl, hpending⟩
    · intro report' heq hstatus
      cases heq
      obtain ⟨cycles, hcycles, hafter⟩ := hframe (by simp [hstatus])
      rw [Ledger.notedRows_error rows e.now.text hstatus, hcompany] at hafter
      exact ⟨rows, cycles, hrows, hcycles, hledger.trans hafter⟩
    · intro report' heq hstatus
      cases heq
      obtain ⟨cycles, hcycles, hafter⟩ := hframe (by simp [hstatus])
      rw [Ledger.notedRows_skipped rows e.now.text hstatus, ← hrows] at hafter
      have hclaimed : c.id ∈ e.inFlight := hskipped.mp hstatus
      refine ⟨⟨cycles, hcycles, hledger.trans hafter⟩, ?_, fun other => ?_⟩
      · have hsame := reported_claimed trouble fetcher now hclaimed
        have hmid : e = mid := congrArg Prod.snd (hsame.symm.trans hreported)
        rw [hmid]
        exact hmemory
      · rw [hstart, runStored_claimed trouble fetcher other now hclaimed]
        exact hrun

/-- The page has lost a posting, and closing it fails: the posting stays open. -/
theorem postings_kept_on_full_disk :
    ∃ report after,
      (sampleEngine []).runCycleUnder fullDisk sampleFetcher "acme" none = (.ok report, after) ∧
      report.error = some "posting transaction failed for acme: disk is full" ∧
      after.ledger.committed.postings = some Ledger.sampleTable ∧ after.ledger.pending = none := by
  have hreported :
      (sampleEngine []).reported fullDisk sampleFetcher (Ledger.bareCompany "acme") none =
      (.ok ((sampleEngine []).blankReport "acme" .error
          (some "posting transaction failed for acme: disk is full") (some "PersistenceError")),
        (sampleEngine []).claimed "acme") := rfl
  have hrecords :
      (sampleEngine []).Records fullDisk sampleFetcher (Ledger.bareCompany "acme") none := by
    intro report after h
    rw [hreported] at h
    cases h
    exact ⟨1, _, rfl⟩
  have hhindered :
      (sampleEngine []).Hindered fullDisk sampleFetcher (Ledger.bareCompany "acme") none :=
    .writing (n := 0) rfl rfl (by decide) rfl
  have hrun := postings_kept (sampleEngine []) fullDisk sampleFetcher (Ledger.bareCompany "acme")
    none rfl rfl hrecords rfl
  exact ⟨_, _, rfl, rfl, hrun.2.1 (hrun.1 hhindered)⟩

end VacancyLedger.Engine
