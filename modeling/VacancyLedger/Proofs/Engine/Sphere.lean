/-
What a cycle of a company depends on, and what it changes.

The sphere of a company is what there is of an engine for the cycles of that company: the time,
the extractors, its sources and its feed, whether it is in flight, and its share of the ledger.
A cycle of the company comes to what its sphere says and changes nothing outside it; a cycle of
another leaves the sphere as it was.  So two engines that agree in the sphere of a company
cannot be told apart by its cycles.

The database may give trouble, and so may a page with a text that cannot be encoded.  A
transaction that fails forgets what is pending, so there must either be no trouble or nothing of
the company be pending.
-/
import VacancyLedger.Proofs.Engine.Batch
import VacancyLedger.Proofs.Engine.Books
import VacancyLedger.Proofs.Ledger.FirstTrouble
import VacancyLedger.Proofs.Ledger.Isolation

namespace VacancyLedger

namespace Ledger

variable {l after : Ledger} {trouble : Trouble} {company : String} {fits : Bool}
  {table : Numbered Posting} {cycles : Numbered RecordedCycle}

/-- What a cycle of a company can do to a ledger: its steps take their turn, and unless they crash
it is recorded.  Whether the report fits is whether its numbers can be stored. -/
inductive Cycled (l : Ledger) (trouble : Trouble) (company : String) (fits : Bool) : Ledger → Prop
  | crashed {after : Ledger} (hturn : l.Turn trouble company after) :
      Cycled l trouble company fits after
  | recorded {mid : Ledger} (hturn : l.Turn trouble company mid) {report : CycleReport}
      (hcompany : report.company = company) (hfits : fits = true → isRecordable report = true)
      (now : String) : Cycled l trouble company fits (mid.record report now).2

theorem Ready.cycled (h : l.Ready table cycles) (hcycled : l.Cycled trouble company fits after) :
    ∃ table' cycles', after.Ready table' cycles' := by
  cases hcycled with
  | crashed hturn =>
      obtain ⟨table', hready⟩ := h.turn hturn
      exact ⟨table', cycles, hready⟩
  | @recorded mid hturn report _ _ now =>
      obtain ⟨table', hready⟩ := h.turn hturn
      obtain ⟨⟨cycles', hrecorded⟩, -⟩ := hready.record report now
      exact ⟨table', cycles', hrecorded⟩

/-- A cycle of one company leaves the share of another as it was. -/
theorem Cycled.share_other (h : l.Cycled trouble company fits after)
    (hready : l.Ready table cycles) {stranger : String} (hother : company ≠ stranger)
    (hcalm : trouble = .none ∨ l.Steady stranger) :
    after.view.share stranger = l.view.share stranger := by
  cases h with
  | crashed hturn => exact hturn.share_other hother.symm hcalm
  | @recorded mid hturn report hcompany _ now =>
      obtain ⟨table', hmid⟩ := hready.turn hturn
      obtain ⟨-, -, -, hothers⟩ := hmid.record report now
      rw [(hothers stranger (hcompany.trans_ne hother)).1]
      exact hturn.share_other hother.symm hcalm

/-- A cycle leaves nothing pending but what was noted of its own company. -/
theorem Cycled.steady (h : l.Cycled trouble company fits after) (hready : l.Ready table cycles)
    {stranger : String} (hsafe : company ≠ stranger ∨ fits = true) (hsteady : l.Steady stranger) :
    after.Steady stranger := by
  cases h with
  | crashed hturn => exact hturn.steady hsteady
  | @recorded mid hturn report hcompany hfits now =>
      obtain ⟨table', hmid⟩ := hready.turn hturn
      obtain ⟨-, -, hstored, hothers⟩ := hmid.record report now
      rcases hsafe with hother | hfit
      · exact (hothers stranger (hcompany.trans_ne hother)).2 (hturn.steady hsteady)
      · exact hstored (hfits hfit) stranger

end Ledger

/-! ### Spheres -/

/-- What there is of an engine for the cycles of a company. -/
structure Sphere where
  now : Time.Instant
  extractors : Extractors Extractor
  sources : Table String Source
  feed : Option Crawl.FetchResult
  isRunning : Bool
  share : Ledger.Share

namespace Engine

/-- The sphere of a company. -/
def sphere (e : Engine Feeds) (company : String) : Sphere where
  now := e.now
  extractors := e.registry.extractors
  sources := e.registry.sources.filter (·.1 == company)
  feed := Table.get? e.memory company
  isRunning := InFlight.holds e.inFlight company
  share := e.ledger.view.share company

/-- Two results are the same, and so is what is left behind of the sphere of a company. -/
def Agree {α : Type} (company : String) (x y : α × Engine Feeds) : Prop :=
  x.1 = y.1 ∧ x.2.sphere company = y.2.sphere company

variable {e f after : Engine Feeds} {trouble : Ledger.Trouble} {source : Source}
  {company stranger : String} {now : Option Time.Stamp} {page : Page} {c : Company}
  {table other : Ledger.Numbered Posting} {cycles others : Ledger.Numbered RecordedCycle}

/-! ### Applying a page -/

/-- What applying a page comes to where the tables are there. -/
theorem applyPage_eq (h : e.ledger.Ready table cycles)
    (hstored : ∃ rows, e.ledger.view.companies = some rows ∧ ∃ c ∈ rows, c.id = company)
    (hpage : page.Maps) :
    e.applyPage trouble company page now =
      match trouble.reading with
      | some fault => (outcomeOfAbort (.ofReading company fault), e)
      | none =>
        match e.cycleTime now with
        | .error crash => (.crashed crash, e)
        | .ok time =>
          let d := Ledger.pageDifference table company page
          match trouble.first (Ledger.statementCount d page) with
          | some fault =>
            (outcomeOfAbort (.of company (.inl fault)), { e with ledger := e.ledger.rollback })
          | none =>
            (.done (Ledger.settledCounts table company d page time),
              { e with ledger := e.ledger.settling (table.settled company d page time) }) := by
  obtain ⟨rows, hrows, hin⟩ := hstored
  have hpostings := h.view_postings
  cases hreading : trouble.reading with
  | some fault =>
      unfold applyPage
      rw [Ledger.activePostingsUnder_eq h.connected hpostings, hreading]
      rfl
  | none =>
      cases htime : e.cycleTime now with
      | error crash =>
          unfold applyPage
          rw [Ledger.activePostingsUnder_eq h.connected hpostings, hreading, htime]
          rfl
      | ok time =>
          have hactive := Ledger.activePostingsUnder_eq (ε := Empty) h.connected hpostings
            trouble.reading company
          rw [hreading, Option.elim_none, ← hreading] at hactive
          dsimp only
          cases hfirst : trouble.first
              (Ledger.statementCount (Ledger.pageDifference table company page) page) with
          | some fault =>
              exact applyPage_of_error hactive htime
                (Ledger.applyUnder_first h.connected hpostings hrows hin hpage hfirst)
          | none =>
              exact applyPage_of_ok hactive htime
                (Ledger.applyUnder_spared h.connected hpostings h.schema hrows hin hpage hfirst)

theorem applyPage_turn (h : e.ledger.Ready table cycles)
    (hstored : ∃ rows, e.ledger.view.companies = some rows ∧ ∃ c ∈ rows, c.id = company)
    (hpage : page.Maps) (trouble : Ledger.Trouble) (now : Option Time.Stamp) :
    ∃ ledger, e.ledger.Turn trouble company ledger ∧
      (e.applyPage trouble company page now).2 = { e with ledger } := by
  rw [applyPage_eq h hstored hpage]
  cases trouble.reading with
  | some fault => exact ⟨e.ledger, .same, rfl⟩
  | none =>
      cases e.cycleTime now with
      | error crash => exact ⟨e.ledger, .same, rfl⟩
      | ok time =>
          cases hfirst : trouble.first
              (Ledger.statementCount (Ledger.pageDifference table company page) page) with
          | some fault =>
              simp only [hfirst]
              refine ⟨_, .undone ?_, rfl⟩
              rintro rfl
              rw [Ledger.first_none] at hfirst
              cases hfirst
          | none =>
              simp only [hfirst]
              exact ⟨_, .settled h.view_postings _ page hpage time, rfl⟩

/-! ### Trouble -/

/-- The trouble that a cycle of a source meets: what the database gives, and what the page that
it reads makes itself. -/
def troubleOf (e : Engine Feeds) (trouble : Ledger.Trouble) (source : Source) : Ledger.Trouble :=
  match e.adverts? Feeds.fetcher source with
  | none => trouble
  | some adverts => troubleWith trouble adverts source.base

/-- The trouble that a cycle of a company meets. -/
def troubleMet (e : Engine Feeds) (trouble : Ledger.Trouble) (company : String) :
    Ledger.Trouble :=
  match e.ledger.company? company with
  | .ok (some stored) => e.troubleOf trouble stored.source
  | _ => trouble

theorem troubleOf_some {adverts : List Advert}
    (h : e.adverts? Feeds.fetcher source = some adverts) (trouble : Ledger.Trouble) :
    e.troubleOf trouble source = troubleWith trouble adverts source.base := by
  unfold troubleOf
  rw [h]

theorem troubleMet_stored (h : e.ledger.company? company = .ok (some c))
    (trouble : Ledger.Trouble) : e.troubleMet trouble company = e.troubleOf trouble c.source := by
  unfold troubleMet
  rw [h]

/-- Nothing of a company is forgotten, for there is no trouble or nothing of it is pending. -/
def Calm (e : Engine Feeds) (trouble : Ledger.Trouble) (company : String) : Prop :=
  trouble = .none ∨ e.ledger.Steady company

/-- What is done to the share of a company is done to its sphere. -/
theorem sphere_of_share {l m : Ledger} (h : e.sphere company = f.sphere company)
    (hshare : l.view.share company = m.view.share company) :
    ({ e with ledger := l } : Engine Feeds).sphere company =
      ({ f with ledger := m } : Engine Feeds).sphere company := by
  show (⟨(e.sphere company).now, (e.sphere company).extractors, (e.sphere company).sources,
    (e.sphere company).feed, (e.sphere company).isRunning, l.view.share company⟩ : Sphere) = _
  rw [h, hshare]
  rfl

/-- A company that was looked up, in the share that it was found in. -/
theorem stored_of_share (h : e.ledger.Ready table cycles)
    (hin : c ∈ (e.ledger.view.share company).companies) :
    ∃ rows, e.ledger.view.companies = some rows ∧ ∃ c ∈ rows, c.id = company := by
  obtain ⟨rows, hview⟩ := h.view
  rw [hview] at hin ⊢
  obtain ⟨hrow, hid⟩ := List.mem_filter.mp hin
  exact ⟨rows, rfl, c, hrow, by simpa using hid⟩

/-- A page that is applied comes to what the sphere of its company says. -/
theorem applyPage_agree (he : e.ledger.Ready table cycles) (hf : f.ledger.Ready other others)
    (hsphere : e.sphere company = f.sphere company) (hcalm : e.Calm trouble company)
    (hcalm' : f.Calm trouble company) (hin : c ∈ (e.ledger.view.share company).companies)
    (hpage : page.Maps) (now : Option Time.Stamp) :
    Agree company (e.applyPage trouble company page now)
      (f.applyPage trouble company page now) := by
  have hshare : e.ledger.view.share company = f.ledger.view.share company :=
    congrArg Sphere.share hsphere
  have hown : Ledger.ownRows table.rows company = Ledger.ownRows other.rows company := by
    have hpostings := congrArg Ledger.Share.postings hshare
    simp only [Ledger.Tables.share, he.view_postings, hf.view_postings] at hpostings
    exact hpostings
  have htime : e.cycleTime now = f.cycleTime now := by
    unfold cycleTime
    rw [show e.now = f.now from congrArg Sphere.now hsphere]
  rw [applyPage_eq he (stored_of_share he hin) hpage,
    applyPage_eq hf (stored_of_share hf (hshare ▸ hin)) hpage, htime,
    Ledger.pageDifference_of_ownRows hown]
  cases trouble.reading with
  | some fault => exact ⟨rfl, hsphere⟩
  | none =>
      cases f.cycleTime now with
      | error crash => exact ⟨rfl, hsphere⟩
      | ok time =>
          cases hfirst : trouble.first
              (Ledger.statementCount (Ledger.pageDifference other company page) page) with
          | some fault =>
              have htrouble : trouble ≠ .none := by
                rintro rfl
                rw [Ledger.first_none] at hfirst
                cases hfirst
              have hsteady : e.ledger.rollback.view.share company = e.ledger.view.share company :=
                hcalm.resolve_left htrouble
              have hsteady' : f.ledger.rollback.view.share company = f.ledger.view.share company :=
                hcalm'.resolve_left htrouble
              simp only [hfirst]
              exact ⟨rfl, sphere_of_share hsphere (hsteady.trans (hshare.trans hsteady'.symm))⟩
          | none =>
              simp only [hfirst]
              refine ⟨?_, sphere_of_share hsphere ?_⟩
              · rw [Ledger.settledCounts_of_ownRows hown]
              · rw [Ledger.share_settling he.view_postings, Ledger.share_settling hf.view_postings,
                  hshare]

/-! ### The steps of a cycle -/

theorem takeIn_agree (he : e.ledger.Ready table cycles) (hf : f.ledger.Ready other others)
    (hsphere : e.sphere source.company = f.sphere source.company) {adverts : List Advert}
    (hcalm : e.Calm (troubleWith trouble adverts source.base) source.company)
    (hcalm' : f.Calm (troubleWith trouble adverts source.base) source.company)
    (hin : c ∈ (e.ledger.view.share source.company).companies) (now : Option Time.Stamp) :
    Agree source.company (e.takeIn trouble source adverts now)
      (f.takeIn trouble source adverts now) := by
  unfold takeIn
  simp only
  split
  · exact ⟨rfl, hsphere⟩
  · rename_i listings discarded _
    split
    · exact ⟨rfl, hsphere⟩
    · obtain ⟨houtcome, hafter⟩ := applyPage_agree he hf hsphere hcalm hcalm' hin
        (Page.maps_ofListings listings) now
      exact ⟨congrArg (CycleRun.mk adverts.length discarded) houtcome, hafter⟩

theorem fetched_of_sphere (hsphere : e.sphere source.company = f.sphere source.company) :
    (Feeds.fetcher e.now source e.memory).1 = (Feeds.fetcher f.now source f.memory).1 := by
  have hfeed : Table.get? e.memory source.company = Table.get? f.memory source.company :=
    congrArg Sphere.feed hsphere
  unfold Feeds.fetcher
  rw [hfeed]

theorem read_of_sphere (hsphere : e.sphere company = f.sphere company) (source : Source)
    (body : String) : e.registry.read source body = f.registry.read source body := by
  unfold Registry.read
  rw [show e.registry.extractors = f.registry.extractors from congrArg Sphere.extractors hsphere]

/-- The trouble that a cycle meets is said by the sphere of its company. -/
theorem troubleOf_of_sphere (hsphere : e.sphere source.company = f.sphere source.company)
    (trouble : Ledger.Trouble) : e.troubleOf trouble source = f.troubleOf trouble source := by
  unfold troubleOf adverts?
  simp only [fetched_of_sphere hsphere, read_of_sphere hsphere]

/-- The steps of a cycle come to what the sphere of its company says. -/
theorem runClaimed_agree (he : e.ledger.Ready table cycles) (hf : f.ledger.Ready other others)
    (hsphere : e.sphere source.company = f.sphere source.company)
    (hcalm : e.Calm (e.troubleOf trouble source) source.company)
    (hcalm' : f.Calm (e.troubleOf trouble source) source.company)
    (hin : c ∈ (e.ledger.view.share source.company).companies) (now : Option Time.Stamp) :
    Agree source.company (e.runClaimed trouble Feeds.fetcher source now)
      (f.runClaimed trouble Feeds.fetcher source now) := by
  unfold runClaimed
  simp only [← fetched_of_sphere hsphere, ← read_of_sphere hsphere]
  split
  · exact ⟨rfl, hsphere⟩
  · exact ⟨rfl, hsphere⟩
  · rename_i fetched hfetch
    split
    · exact ⟨rfl, hsphere⟩
    · rename_i adverts hread
      have hadverts : e.adverts? Feeds.fetcher source = some adverts := by
        simp only [adverts?, hfetch, hread, Except.toOption]
      rw [troubleOf_some hadverts] at hcalm hcalm'
      exact takeIn_agree he hf hsphere hcalm hcalm' hin now

theorem mem_inFlight_of_sphere (hsphere : e.sphere company = f.sphere company) :
    company ∈ e.inFlight ↔ company ∈ f.inFlight := by
  have hrunning : InFlight.holds e.inFlight company = InFlight.holds f.inFlight company :=
    congrArg Sphere.isRunning hsphere
  rw [InFlight.holds, InFlight.holds, Bool.eq_iff_iff] at hrunning
  simpa using hrunning

theorem blankReport_of_sphere (hsphere : e.sphere stranger = f.sphere stranger) (company : String)
    (status : CycleStatus) (error errorType : Option String) :
    e.blankReport company status error errorType =
      f.blankReport company status error errorType := by
  unfold blankReport
  rw [show e.now = f.now from congrArg Sphere.now hsphere]

theorem report_of_sphere (hsphere : e.sphere stranger = f.sphere stranger) (company : String)
    (run : CycleRun) : e.report company run = f.report company run := by
  unfold Engine.report
  simp only [blankReport_of_sphere hsphere]

theorem sphere_claimed (hsphere : e.sphere company = f.sphere company) :
    (e.claimed company).sphere company = (f.claimed company).sphere company := by
  have hclaimed : ∀ g : Engine Feeds, (g.claimed company).sphere company =
      { g.sphere company with isRunning := true } := by
    intro g
    simp [claimed, sphere, InFlight.holds]
  rw [hclaimed, hclaimed, hsphere]

/-- A cycle comes to what the sphere of its company says, before it is recorded. -/
theorem reported_agree (he : e.ledger.Ready table cycles) (hf : f.ledger.Ready other others)
    (hsphere : e.sphere c.id = f.sphere c.id)
    (hcalm : e.Calm (e.troubleOf trouble c.source) c.id)
    (hcalm' : f.Calm (e.troubleOf trouble c.source) c.id)
    (hin : c ∈ (e.ledger.view.share c.id).companies) (now : Option Time.Stamp) :
    Agree c.id (e.reported trouble Feeds.fetcher c now)
      (f.reported trouble Feeds.fetcher c now) := by
  by_cases hclaimed : c.id ∈ e.inFlight
  · have hclaimed' := (mem_inFlight_of_sphere hsphere).mp hclaimed
    rw [reported_claimed trouble Feeds.fetcher now hclaimed,
      reported_claimed trouble Feeds.fetcher now hclaimed', blankReport_of_sphere hsphere]
    exact ⟨rfl, hsphere⟩
  · have hclaimed' := mt (mem_inFlight_of_sphere hsphere).mpr hclaimed
    obtain ⟨hrun, hafter⟩ := runClaimed_agree (e := e.claimed c.id) (f := f.claimed c.id)
      he hf (sphere_claimed hsphere) hcalm hcalm' hin now
    unfold reported
    rw [if_neg hclaimed, if_neg hclaimed']
    refine ⟨?_, hafter⟩
    show Engine.report _ c.id _ = Engine.report _ c.id _
    rw [hrun, report_of_sphere hafter]

/-! ### What a cycle does to the ledger -/

/-- Before it is recorded a cycle has only taken its turn with the ledger. -/
theorem reported_turn {result : Except Crash CycleReport} (h : e.ledger.Ready table cycles)
    (hin : c ∈ (e.ledger.view.share c.id).companies)
    (hreported : e.reported trouble Feeds.fetcher c now = (result, after)) :
    ∃ ledger, e.ledger.Turn (e.troubleOf trouble c.source) c.id ledger ∧
      after = { e with ledger, inFlight := after.inFlight } := by
  by_cases hclaimed : c.id ∈ e.inFlight
  · rw [reported_claimed trouble Feeds.fetcher now hclaimed] at hreported
    cases hreported
    exact ⟨e.ledger, .same, rfl⟩
  · obtain ⟨run, hrun, -⟩ := reported_free hclaimed hreported
    have happlied : ∀ (met : Ledger.Trouble) (listings : List Listing) {outcome : CycleOutcome},
        ((e.claimed c.id).fetched Feeds.fetcher c.source).applyPage met c.source.company
          (Page.ofListings listings) now = (outcome, after) →
        ∃ ledger, e.ledger.Turn met c.id ledger ∧
          after = { e with ledger, inFlight := after.inFlight } := by
      intro met listings outcome happly
      obtain ⟨ledger, hturn, hafter⟩ := applyPage_turn
        (e := (e.claimed c.id).fetched Feeds.fetcher c.source) h
        (stored_of_share (e := e) h hin) (Page.maps_ofListings listings) met now
      have hsame : ((e.claimed c.id).fetched Feeds.fetcher c.source).applyPage met c.id
          (Page.ofListings listings) now = (outcome, after) := happly
      rw [hsame] at hafter
      obtain rfl : after = _ := hafter
      exact ⟨ledger, hturn, rfl⟩
    cases runClaimed_course hrun with
    | lost _ | unfetched _ | unread _ _ | rejected _ _ | discarded _ _ _ =>
        exact ⟨e.ledger, .same, rfl⟩
    | torn hread _ htear happly =>
        have hmet := troubleOf_some (e := e) hread trouble
        simp only [troubleWith, htear] at hmet
        rw [hmet]
        exact happlied _ _ happly
    | applied hread _ hpage happly =>
        obtain ⟨adverts, _, _, hread, -, -, hwhole, -⟩ := page?_some hpage
        have hmet := troubleOf_some (e := e) hread trouble
        simp only [troubleWith, hwhole] at hmet
        rw [hmet]
        exact happlied _ _ happly

theorem mem_share_of_company? (h : e.ledger.Ready table cycles)
    (hstored : e.ledger.company? company = .ok (some c)) :
    c.id = company ∧ c ∈ (e.ledger.view.share c.id).companies := by
  obtain ⟨-, hid, -⟩ := company?_ok hstored
  rw [h.company?_eq, Except.ok.injEq] at hstored
  exact ⟨hid, hid.symm ▸ List.mem_of_head? hstored⟩

/-- A cycle writes to the ledger, and is counted; nothing else is changed. -/
theorem runCycleUnder_cycled (h : e.ledger.Ready table cycles) (trouble : Ledger.Trouble)
    (company : String) (now : Option Time.Stamp) :
    ∃ ledger metrics, e.ledger.Cycled (e.troubleMet trouble company) company
        (e.cycleFits trouble Feeds.fetcher company now) ledger ∧
      (e.runCycleUnder trouble Feeds.fetcher company now).2 = { e with ledger, metrics } := by
  unfold runCycleUnder
  split
  · exact ⟨e.ledger, e.metrics, .crashed .same, rfl⟩
  · exact ⟨e.ledger, e.metrics, .crashed .same, rfl⟩
  · rename_i c hstored
    have hclaims := runStored_inFlight e trouble Feeds.fetcher c now
    rw [troubleMet_stored hstored]
    obtain ⟨rfl, hin⟩ := mem_share_of_company? h hstored
    rw [runStored_eq] at hclaims ⊢
    rcases hreported : e.reported trouble Feeds.fetcher c now with ⟨crash | report, mid⟩
    · obtain ⟨ledger, hturn, hmid⟩ := reported_turn h hin hreported
      rw [hreported] at hclaims
      refine ⟨ledger, e.metrics, .crashed hturn, ?_⟩
      simp only at hclaims ⊢
      rw [released_eq, hclaims, hmid]
    · obtain ⟨ledger, hturn, hmid⟩ := reported_turn h hin hreported
      have hfits : e.cycleFits trouble Feeds.fetcher c.id now = true →
          Ledger.isRecordable report = true := by
        simp [cycleFits, hstored, hreported]
      rw [hreported] at hclaims
      refine ⟨_, (mid.finish report).2.metrics,
        .recorded hturn (reported_status hreported).1 hfits e.now.text, ?_⟩
      simp only at hclaims ⊢
      rw [released_eq, hclaims, finish_eq, hmid]

/-! ### A whole cycle -/

/-- A cycle of one company leaves the sphere of another as it was. -/
theorem runCycleUnder_other (h : e.ledger.Ready table cycles) (hother : company ≠ stranger)
    (hcalm : e.Calm (e.troubleMet trouble company) stranger) :
    (e.runCycleUnder trouble Feeds.fetcher company now).2.sphere stranger = e.sphere stranger := by
  obtain ⟨ledger, metrics, hcycled, hafter⟩ := runCycleUnder_cycled h trouble company now
  rw [hafter]
  exact sphere_of_share (e := e) (f := e) rfl (hcycled.share_other h hother hcalm)

theorem finish_agree (report : CycleReport) (he : e.ledger.Ready table cycles)
    (hf : f.ledger.Ready other others)
    (hsphere : e.sphere report.company = f.sphere report.company) :
    Agree report.company (e.finish report) (f.finish report) := by
  have hresult : ∀ {g : Engine Feeds} {table : Ledger.Numbered Posting}
      {cycles : Ledger.Numbered RecordedCycle}, g.ledger.Ready table cycles →
      (g.finish report).1 =
        if Ledger.isRecordable report then .ok report else .error (.ledger .integerTooLarge) := by
    intro g table cycles hg
    obtain ⟨rows, hview⟩ := hg.view
    have hrecord : g.ledger.record report g.now.text = _ := Ledger.record_eq hg.connected
      (congrArg Ledger.Tables.companies hview) (congrArg Ledger.Tables.cycles hview)
    unfold finish
    rw [hrecord]
    split
    · rename_i hrefused
      split at hrefused <;> simp_all
    · rename_i hstored
      split at hstored <;> simp_all
  have hnow : e.now = f.now := congrArg Sphere.now hsphere
  refine ⟨(hresult he).trans (hresult hf).symm, ?_⟩
  rw [finish_eq e, finish_eq f]
  refine sphere_of_share hsphere ?_
  obtain ⟨-, hshare, -⟩ := he.record report e.now.text
  obtain ⟨-, hshare', -⟩ := hf.record report f.now.text
  rw [hshare, hshare', hnow, show e.ledger.view.share _ = f.ledger.view.share _ from
    congrArg Sphere.share hsphere]

theorem released_agree {before before' : InFlight}
    (hbefore : company ∈ before ↔ company ∈ before')
    (hsphere : e.sphere company = f.sphere company) :
    (e.released company before).sphere company = (f.released company before').sphere company := by
  have hfree : ∀ g : Engine Feeds,
      ({ g with inFlight := InFlight.release g.inFlight company } : Engine Feeds).sphere company =
        { g.sphere company with isRunning := false } := by
    intro g
    simp [sphere, InFlight.holds, InFlight.release]
  unfold released
  by_cases h : company ∈ before
  · rw [if_pos h, if_pos (hbefore.mp h)]
    exact hsphere
  · rw [if_neg h, if_neg (mt hbefore.mpr h), hfree, hfree, hsphere]

theorem company?_of_sphere (he : e.ledger.Ready table cycles) (hf : f.ledger.Ready other others)
    (hsphere : e.sphere company = f.sphere company) :
    e.ledger.company? company = f.ledger.company? company := by
  have hshare : e.ledger.view.share company = f.ledger.view.share company :=
    congrArg Sphere.share hsphere
  rw [he.company?_eq, hf.company?_eq, hshare]

theorem troubleMet_of_sphere (he : e.ledger.Ready table cycles)
    (hf : f.ledger.Ready other others) (hsphere : e.sphere company = f.sphere company)
    (trouble : Ledger.Trouble) : e.troubleMet trouble company = f.troubleMet trouble company := by
  unfold troubleMet
  rw [← company?_of_sphere he hf hsphere]
  split
  · rename_i c hstored
    obtain ⟨-, hid, -⟩ := company?_ok hstored
    exact troubleOf_of_sphere (by rw [show c.source.company = company from hid]; exact hsphere) _
  · rfl

/-- A cycle comes to what the sphere of its company says. -/
theorem runCycleUnder_agree (he : e.ledger.Ready table cycles) (hf : f.ledger.Ready other others)
    (hsphere : e.sphere company = f.sphere company) {trouble : Ledger.Trouble}
    (hcalm : e.Calm (e.troubleMet trouble company) company)
    (hcalm' : f.Calm (e.troubleMet trouble company) company) (now : Option Time.Stamp) :
    Agree company (e.runCycleUnder trouble Feeds.fetcher company now)
      (f.runCycleUnder trouble Feeds.fetcher company now) := by
  have hshare : e.ledger.view.share company = f.ledger.view.share company :=
    congrArg Sphere.share hsphere
  unfold runCycleUnder
  rw [← company?_of_sphere he hf hsphere]
  split
  · exact ⟨rfl, hsphere⟩
  · exact ⟨rfl, hsphere⟩
  · rename_i c hstored
    rw [troubleMet_stored hstored] at hcalm hcalm'
    obtain ⟨rfl, hin⟩ := mem_share_of_company? he hstored
    have hin' : c ∈ (f.ledger.view.share c.id).companies := hshare ▸ hin
    obtain ⟨hresult, hmid⟩ := reported_agree he hf hsphere hcalm hcalm' hin now
    rw [runStored_eq, runStored_eq]
    rcases hreported : e.reported trouble Feeds.fetcher c now with ⟨result, mid⟩
    rcases hreported' : f.reported trouble Feeds.fetcher c now with ⟨result', mid'⟩
    rw [hreported, hreported'] at hresult hmid
    obtain rfl : result = result' := hresult
    obtain ⟨ledger, hturn, hafter⟩ := reported_turn he hin hreported
    obtain ⟨ledger', hturn', hafter'⟩ := reported_turn hf hin' hreported'
    obtain ⟨_, hready⟩ := he.turn hturn
    obtain ⟨_, hready'⟩ := hf.turn hturn'
    cases result with
    | error crash => exact ⟨rfl, released_agree (mem_inFlight_of_sphere hsphere) hmid⟩
    | ok report =>
        have hcompany := (reported_status hreported).1
        obtain ⟨hfinished, hleft⟩ := finish_agree (e := mid) (f := mid') report
          (by rw [hafter]; exact hready) (by rw [hafter']; exact hready') (hcompany ▸ hmid)
        exact ⟨hfinished,
          released_agree (mem_inFlight_of_sphere hsphere) (hcompany ▸ hleft)⟩

/-- Whether the numbers that a cycle counts can be stored is said by the sphere of its company. -/
theorem cycleFits_of_sphere (he : e.ledger.Ready table cycles) (hf : f.ledger.Ready other others)
    (hsphere : e.sphere company = f.sphere company)
    (hcalm : e.Calm (e.troubleMet trouble company) company)
    (hcalm' : f.Calm (e.troubleMet trouble company) company) :
    e.cycleFits trouble Feeds.fetcher company now =
      f.cycleFits trouble Feeds.fetcher company now := by
  unfold cycleFits
  rw [← company?_of_sphere he hf hsphere]
  split
  · rename_i c hstored
    rw [troubleMet_stored hstored] at hcalm hcalm'
    obtain ⟨rfl, hin⟩ := mem_share_of_company? he hstored
    rw [(reported_agree he hf hsphere hcalm hcalm' hin now).1]
  · rfl

end Engine
end VacancyLedger
