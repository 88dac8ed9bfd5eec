/-
How the companies went, over a whole run.

Steps and cycles do many things to an engine, but only two to companies and their history:
they enter sources and they record reports.  What an event has entered and recorded can be
read off what it has come to.  So a run has a log, and by induction on its events the company
rows of the ledger say what the log tells, whatever trouble the cycles meet and whatever is
written to the postings between them.

One thing has to be assumed.  A report that cannot be recorded has been noted on its company
by then, and that is committed with whatever is written next.
-/
import VacancyLedger.Proofs.Engine.Events
import VacancyLedger.Proofs.Engine.Failure
import VacancyLedger.Proofs.Engine.Report
import VacancyLedger.Proofs.Ledger.Chronicle

namespace VacancyLedger.Engine

variable {φ : Type}

/-! ### What an event enters and records -/

/-- What a cycle has recorded, by what it has come to. -/
def recordedBy : Except Crash CycleReport → Chronicle
  | .ok report => [.recorded report]
  | .error _ => []

/-- What a step has entered or recorded unless it was refused. -/
def ifDone (entries : Chronicle) : StepResult → Chronicle
  | .ok _ => entries
  | .error _ => []

/-- What a single event enters and records. -/
def entries (e : Engine Feeds) : Event → Chronicle
  | .step (.enter source) => ifDone [.entered source e.now.text] (e.enter source).1
  | .step .sync =>
    ifDone ((Table.values e.registry.sources).map (.entered · e.now.text)) e.sync.1
  | .step (.record report) => ifDone [.recorded report] (e.record report).1
  | .cycle trouble company now => recordedBy (e.runCycleUnder trouble Feeds.fetcher company now).1
  | .batched trouble company => recordedBy (e.runCycleUnder trouble Feeds.fetcher company none).1
  | _ => []

/-- What single events enter and record, one after the other. -/
def chronicleOf (e : Engine Feeds) : List Event → Chronicle
  | [] => []
  | event :: rest => e.entries event ++ (e.happen event).chronicleOf rest

/-- What a run enters and records. -/
def chronicle (e : Engine Feeds) (events : List Event) : Chronicle :=
  e.chronicleOf (e.unrolled events)

/-! ### Reports that are recorded -/

/-- Whether a report that a cycle comes to is recorded. -/
def cycleRecords (e : Engine φ) (trouble : Ledger.Trouble) (fetcher : Fetcher φ) (company : String)
    (now : Option Time.Stamp) : Bool :=
  match e.ledger.company? company with
  | .ok (some c) =>
    match e.reported trouble fetcher c now with
    | (.ok report, after) => (after.ledger.record report after.now.text).1.isOk
    | (.error _, _) => true
  | _ => true

/-- Whether a company is in the ledger. -/
def knows (e : Engine φ) (company : String) : Bool :=
  match e.ledger.company? company with
  | .ok (some _) => true
  | _ => false

/-- Whether a report that is to be recorded is recorded, and of a company that is in the ledger. -/
def eventRecords (e : Engine Feeds) : Event → Bool
  | .step (.record report) =>
    e.knows report.company && (e.ledger.record report e.now.text).1.isOk
  | .cycle trouble company now => e.cycleRecords trouble Feeds.fetcher company now
  | .batched trouble company => e.cycleRecords trouble Feeds.fetcher company none
  | _ => true

/-- Whether all reports that are to be recorded are, in a run of single events. -/
def allRecord (e : Engine Feeds) : List Event → Bool
  | [] => true
  | event :: rest => e.eventRecords event && (e.happen event).allRecord rest

/-- Whether a step drops no table. -/
def Step.dropsNothing : Step → Bool
  | .drop _ => false
  | _ => true

/-- Whether an event drops no table. -/
def Event.dropsNothing : Event → Bool
  | .step s => s.dropsNothing
  | _ => true

theorem isOk_iff {ε α : Type} {x : Except ε α} : x.isOk = true ↔ ∃ a, x = .ok a := by
  cases x with
  | error e => exact iff_of_false nofun (by rintro ⟨a, ⟨⟩⟩)
  | ok a => exact iff_of_true rfl ⟨a, rfl⟩

variable {e after : Engine φ} {trouble : Ledger.Trouble} {fetcher : Fetcher φ} {c : Company}
  {now : Option Time.Stamp} {log : Chronicle}

/-! ### One cycle -/

/-- The steps of a cycle write postings alone. -/
theorem reported_othersKept {result : Except Crash CycleReport}
    (hpending : e.ledger.pending = none)
    (h : e.reported trouble fetcher c now = (result, after)) :
    after.ledger.pending = none ∧ e.ledger.committed.OthersKept after.ledger.committed := by
  by_cases hclaimed : c.id ∈ e.inFlight
  · rw [reported_claimed trouble fetcher now hclaimed] at h
    cases h
    exact ⟨hpending, rfl, rfl⟩
  · obtain ⟨run, hrun, -⟩ := reported_free hclaimed h
    by_cases hdone : ∃ counts, run.outcome = .done counts
    · obtain ⟨counts, hdone⟩ := hdone
      obtain ⟨page, active, time, ledger, -, -, -, happly, rfl⟩ := runClaimed_done hrun hdone
      obtain ⟨-, t, hwrite, rfl⟩ := Ledger.applyUnder_ok happly
      have hkept := Ledger.othersKept_writeDifference hwrite
      have hview : (e.claimed c.id).ledger.view = e.ledger.committed :=
        Ledger.view_of_settled hpending
      rw [hview] at hkept
      exact ⟨rfl, hkept⟩
    · obtain ⟨ledger, hledger, rfl⟩ := runClaimed_not_done hrun fun counts hc => hdone ⟨counts, hc⟩
      rcases hledger with rfl | rfl
      · exact ⟨hpending, rfl, rfl⟩
      · exact ⟨rfl, rfl, rfl⟩

/-- A cycle is in the log if it was recorded. -/
theorem runCycleUnder_chronicled (h : e.ledger.Chronicled log) (trouble : Ledger.Trouble)
    (fetcher : Fetcher φ) (company : String) (now : Option Time.Stamp)
    (hrecords : e.cycleRecords trouble fetcher company now = true) :
    (e.runCycleUnder trouble fetcher company now).2.ledger.Chronicled
      (log ++ recordedBy (e.runCycleUnder trouble fetcher company now).1) := by
  unfold cycleRecords at hrecords
  unfold runCycleUnder
  split
  · rw [recordedBy, List.append_nil]
    exact h
  · rw [recordedBy, List.append_nil]
    exact h
  · rename_i c hstored
    simp only [hstored] at hrecords
    obtain ⟨-, -, rows, hrows, hin⟩ := company?_ok hstored
    rcases hreported : e.reported trouble fetcher c now with ⟨crash | report, after⟩
    · obtain ⟨hpending, hkept⟩ := reported_othersKept h.1 hreported
      rw [runStored_eq, hreported, recordedBy, List.append_nil, released_ledger]
      exact h.frame hpending hkept
    · obtain ⟨hpending, hkept⟩ := reported_othersKept h.1 hreported
      rw [hreported] at hrecords
      obtain ⟨id, hid⟩ := isOk_iff.mp hrecords
      rcases hrecord : after.ledger.record report after.now.text with ⟨outcome, ledger⟩
      obtain rfl : outcome = .ok id := by rw [hrecord] at hid; exact hid
      have hknown : ∃ rows, after.ledger.view.companies = some rows ∧
          report.company ∈ rows.map (·.id) := by
        refine ⟨rows, ?_, ?_⟩
        · rw [Ledger.view_of_settled hpending, hkept.companies, ← Ledger.view_of_settled h.1, hrows]
        · rw [(reported_status hreported).1]
          exact List.mem_map_of_mem hin
      have hlog := (h.frame hpending hkept).record hknown hrecord
      rw [runStored_eq, hreported]
      simp only [finish, hrecord, released_ledger]
      exact hlog

/-! ### One step -/

section

variable {e : Engine Feeds}

theorem enterSource_chronicled (h : e.ledger.Chronicled log) (source : Source) :
    (e.enterSource source).2.ledger.Chronicled
      (log ++ ifDone [.entered source e.now.text] (e.enterSource source).1) := by
  unfold enterSource
  split
  · show e.ledger.Chronicled (log ++ [])
    rw [List.append_nil]
    exact h
  · rename_i c ledger henter
    exact (h.enter henter).2

theorem enter_chronicled (h : e.ledger.Chronicled log) (source : Source) :
    (e.enter source).2.ledger.Chronicled
      (log ++ ifDone [.entered source e.now.text] (e.enter source).1) := by
  unfold Engine.enter Engine.register
  split
  · rename_i error after hregister
    split at hregister
    · cases hregister
      show e.ledger.Chronicled (log ++ [])
      rw [List.append_nil]
      exact h
    · cases hregister
  · rename_i answer after hregister
    split at hregister
    · cases hregister
    · rename_i registry _
      cases hregister
      exact enterSource_chronicled (e := { e with registry }) h source

theorem sync_chronicled (h : e.ledger.Chronicled log) :
    e.sync.2.ledger.Chronicled
      (log ++ ifDone ((Table.values e.registry.sources).map (.entered · e.now.text)) e.sync.1) := by
  cases hconnected : e.ledger.connected with
  | true =>
      obtain ⟨⟨entered, hentered⟩, hlog⟩ :=
        h.enterAll e.now.text (Table.values e.registry.sources) hconnected
      unfold Engine.sync
      simp only [hentered]
      exact hlog
  | false =>
      obtain ⟨hkept, hnone⟩ :=
        Ledger.enterAll_disconnected e.now.text (Table.values e.registry.sources) hconnected
      unfold Engine.sync
      simp only [hkept]
      cases hresult : (e.ledger.enterAll e.now.text (Table.values e.registry.sources)).1 with
      | error fault =>
          show e.ledger.Chronicled (log ++ [])
          rw [List.append_nil]
          exact h
      | ok entered =>
          rw [hnone entered hresult]
          show e.ledger.Chronicled (log ++ [])
          rw [List.append_nil]
          exact h

theorem knows_iff {company : String} :
    e.knows company = true ↔ ∃ c, e.ledger.company? company = .ok (some c) := by
  unfold knows
  split
  · rename_i c hc
    exact iff_of_true rfl ⟨c, hc⟩
  · rename_i hnone
    refine iff_of_false Bool.false_ne_true ?_
    rintro ⟨c, hc⟩
    exact hnone c hc

theorem record_chronicled (h : e.ledger.Chronicled log) (report : CycleReport)
    (hknown : e.knows report.company = true)
    (hrecord : (e.ledger.record report e.now.text).1.isOk = true) :
    (e.record report).2.ledger.Chronicled
      (log ++ ifDone [.recorded report] (e.record report).1) := by
  obtain ⟨c, hc⟩ := knows_iff.mp hknown
  obtain ⟨-, hid, rows, hrows, hin⟩ := company?_ok hc
  obtain ⟨id, hok⟩ := isOk_iff.mp hrecord
  have hlog := h.record ⟨rows, hrows, hid ▸ List.mem_map_of_mem hin⟩ (Prod.ext hok rfl)
  unfold Engine.record
  simp only [hok]
  exact hlog

theorem perform_chronicled (h : e.ledger.Chronicled log) {step : Step}
    (hsingle : Event.isSingle (.step step) = true) (hkept : step.dropsNothing = true)
    (hrecords : e.eventRecords (.step step) = true) :
    (e.perform step).2.ledger.Chronicled (log ++ e.entries (.step step)) := by
  cases step with
  | cycle _ _ | runAll _ _ => cases hsingle
  | drop _ => cases hkept
  | enter source => exact enter_chronicled h source
  | sync => exact sync_chronicled h
  | record report =>
      obtain ⟨hknown, hrecord⟩ := Bool.and_eq_true_iff.mp hrecords
      exact record_chronicled h report hknown hrecord
  | register source =>
      show (e.register source).2.ledger.Chronicled (log ++ [])
      rw [List.append_nil]
      rw [register_eq]
      split <;> exact h
  | extractor name extractor =>
      show (e.addExtractor name extractor).2.ledger.Chronicled (log ++ [])
      rw [List.append_nil]
      unfold addExtractor
      split <;> exact h
  | apply company difference page now =>
      show (e.applyDifference company difference page now).2.ledger.Chronicled (log ++ [])
      rw [List.append_nil]
      unfold applyDifference
      split
      · exact h
      · exact h.applyUnder .none company _ page now
  | act company actions =>
      show (e.act company actions).2.ledger.Chronicled (log ++ [])
      rw [List.append_nil]
      exact h.act company actions
  | close =>
      show e.ledger.close.Chronicled (log ++ [])
      rw [List.append_nil]
      exact h.close
  | connect =>
      show e.ledger.connect.Chronicled (log ++ [])
      rw [List.append_nil]
      exact h.connect
  | feed _ _ | claim _ | release _ | setClock _ =>
      show e.ledger.Chronicled (log ++ [])
      rw [List.append_nil]
      exact h

end

/-! ### Runs -/

theorem happen_chronicled {e : Engine Feeds} (h : e.ledger.Chronicled log) {event : Event}
    (hsingle : event.isSingle = true) (hkept : event.dropsNothing = true)
    (hrecords : e.eventRecords event = true) :
    (e.happen event).ledger.Chronicled (log ++ e.entries event) := by
  cases event with
  | step step => exact perform_chronicled h hsingle hkept hrecords
  | cycle trouble company now =>
      exact runCycleUnder_chronicled h trouble Feeds.fetcher company now hrecords
  | batched trouble company =>
      show (e.runReportedUnder trouble Feeds.fetcher company).2.ledger.Chronicled _
      rw [runReportedUnder_eq]
      exact runCycleUnder_chronicled h trouble Feeds.fetcher company none hrecords

theorem live_chronicled (events : List Event) :
    ∀ {e : Engine Feeds} {log : Chronicle}, e.ledger.Chronicled log →
      (∀ event ∈ events, event.isSingle = true ∧ event.dropsNothing = true) →
      e.allRecord events = true →
      (e.live events).ledger.Chronicled (log ++ e.chronicleOf events) := by
  induction events with
  | nil =>
      intro e log h _ _
      show e.ledger.Chronicled (log ++ [])
      rw [List.append_nil]
      exact h
  | cons event rest ih =>
      intro e log h hevents hrecords
      obtain ⟨⟨hsingle, hkept⟩, hrest⟩ := List.forall_mem_cons.mp hevents
      unfold allRecord at hrecords
      rw [Bool.and_eq_true] at hrecords
      have hnext := ih (happen_chronicled h hsingle hkept hrecords.1) hrest hrecords.2
      rw [chronicleOf, ← List.append_assoc]
      exact hnext

theorem dropsNothing_unrolled {e : Engine Feeds} {events : List Event}
    (h : ∀ event ∈ events, event.dropsNothing = true) {single : Event}
    (hin : single ∈ e.unrolled events) : single.dropsNothing = true := by
  rcases mem_unrolled hin with hcycle | ⟨hstep, -⟩
  · cases single with
    | step _ => cases hcycle
    | cycle _ _ _ | batched _ _ => rfl
  · exact h single hstep

/-- A cycle leaves the configurations alone, whatever it comes to. -/
theorem runCycleUnder_configuredAs {rows : List Company} (hpending : e.ledger.pending = none)
    (hrows : e.ledger.committed.companies = some rows) (trouble : Ledger.Trouble)
    (fetcher : Fetcher φ) (company : String) (now : Option Time.Stamp) :
    (e.runCycleUnder trouble fetcher company now).2.ledger.ConfiguredAs rows := by
  have hsame := Ledger.configuredAs_of_settled hpending hrows
  unfold runCycleUnder
  split
  · exact hsame
  · exact hsame
  · rename_i c _
    rcases hreported : e.reported trouble fetcher c now with ⟨crash | report, after⟩
    · obtain ⟨hsettled, hkept⟩ := reported_othersKept hpending hreported
      rw [runStored_eq, hreported, released_ledger]
      exact Ledger.configuredAs_of_settled hsettled (hkept.companies.trans hrows)
    · obtain ⟨hsettled, hkept⟩ := reported_othersKept hpending hreported
      rw [runStored_eq, hreported, released_ledger, finish_ledger]
      exact Ledger.record_configuredAs hsettled (hkept.companies.trans hrows) report _

/--
**Company rows sum up the history.**  After any run from an empty ledger in which no table is
dropped, every report that is to be recorded is, and of a company that is there, the row of a
company keeps the time of its first source and the configuration of its last, and its other
columns sum up the reports that were recorded of it but for the cycles that were skipped.  The
last cycles of a company are the last reports that were recorded of it.  From there on, entering
a source leaves alone how the cycles went, and a cycle leaves alone the configurations.
-/
theorem company_rows_sum_up (e : Engine Feeds) (hempty : e.ledger = Ledger.unconnected.connect)
    (events : List Event) (htables : ∀ event ∈ events, event.dropsNothing = true)
    (hrecords : e.allRecord (e.unrolled events) = true) :
    ∃ rows, (e.live events).ledger.committed.companies = some rows ∧
      (e.live events).ledger.pending = none ∧ (rows.map (·.id)).Nodup ∧
      (∀ company, (e.chronicle events).enterings company ≠ [] ↔ company ∈ rows.map (·.id)) ∧
      (∀ c ∈ rows,
        c.SumsUp ((e.chronicle events).enterings c.id) ((e.chronicle events).judged c.id)) ∧
      ((e.live events).ledger.connected = true → ∀ company : String, company ≠ "" →
        ∀ n : Int, 1 ≤ n → n < 2 ^ 63 →
          ∃ found, (e.live events).ledger.listCycles (some company) n = .ok found ∧
            found.map (·.report) =
              ((e.chronicle events).reportsOf company).reverse.take n.toNat ∧
            found.Pairwise fun a b => b.id < a.id) ∧
      (∀ source time entered after,
        (e.live events).ledger.enter source time = .ok (entered, after) →
        ∃ rows', after.committed.companies = some rows' ∧
          ∀ c ∈ rows, ∃ d ∈ rows', d.id = c.id ∧ d.operation = c.operation) ∧
      ∀ trouble fetcher company now,
        ((e.live events).runCycleUnder trouble fetcher company now).2.ledger.ConfiguredAs rows := by
  have hstart : e.ledger.Chronicled [] := hempty ▸ Ledger.chronicled_start
  have hlog := live_chronicled (e.unrolled events) hstart
    (fun event hin => ⟨isSingle_unrolled hin, dropsNothing_unrolled htables hin⟩) hrecords
  rw [live_unrolled, List.nil_append] at hlog
  obtain ⟨hpending, rows, cycles, hrows, hcycles, htells⟩ := id hlog
  refine ⟨rows, hrows, hpending, htells.once, htells.entered, htells.tells, ?_, ?_, ?_⟩
  · intro hconnected company hcompany n hn hsize
    exact hlog.listCycles hconnected hcompany hn hsize
  · intro source time entered after henter
    exact Ledger.enter_operation (Ledger.view_of_settled hpending ▸ hrows) henter
  · intro trouble fetcher company now
    exact runCycleUnder_configuredAs hpending hrows trouble fetcher company now

/-- A report that is recorded by hand. -/
def handReport : CycleReport where
  company := "acme"
  status := .error
  startedAt := "2026-01-02"
  finishedAt := "2026-01-03"
  fetched := 3
  discarded := 0
  counts := .zero
  error := some "timed out"
  errorType := none

/-- A company is entered; its cycles end well, fail and are skipped; a report on it is recorded by
hand, and it is entered again. -/
def variedEvents : List Event :=
  [.step (.enter feedSource), .step (.cycle "acme" none), .step (.setClock ⟨60000000⟩),
   .cycle ⟨some (.trouble "locked"), fun _ => none, none⟩ "acme" none,
   .step (.claim "acme"), .step (.runAll 1 none), .step (.release "acme"),
   .step (.record handReport), .step (.enter { feedSource with name := "Acme", enabled := false })]

/-- What is seen of a company and how its cycles went. -/
def seenOf (c : Company) : String × Nat × Option String × Option String :=
  (c.source.name, c.failures, c.lastError, c.lastSuccessAt)

/-- What the row of the company says after that run, and its last two cycles. -/
theorem company_rows_sum_up_varied :
    ∃ rows, ((Engine.start ⟨0⟩ 20 []).live variedEvents).ledger.committed.companies = some rows ∧
      rows.map seenOf =
        [("Acme", 2, some "timed out", some "0001-01-01T00:00:00.000000+00:00")] ∧
      (∀ c ∈ rows, c.SumsUp (((Engine.start ⟨0⟩ 20 []).chronicle variedEvents).enterings c.id)
        (((Engine.start ⟨0⟩ 20 []).chronicle variedEvents).judged c.id)) ∧
      ∃ found, ((Engine.start ⟨0⟩ 20 []).live variedEvents).ledger.listCycles (some "acme") 2 =
          .ok found ∧
        found.map (·.report.status) = [.error, .skipped] := by
  obtain ⟨rows, hrows, -, -, -, hsums, hlisted, -⟩ := company_rows_sum_up
    (Engine.start ⟨0⟩ 20 []) rfl variedEvents (by decide) (by decide +kernel)
  have hseen : ((Engine.start ⟨0⟩ 20 []).live variedEvents).ledger.committed.companies.map
      (·.map seenOf) =
        some [("Acme", 2, some "timed out", some "0001-01-01T00:00:00.000000+00:00")] := by
    decide +kernel
  have hstatuses : ((((Engine.start ⟨0⟩ 20 []).chronicle variedEvents).reportsOf
      "acme").reverse.take 2).map (·.status) = [.error, .skipped] := by decide +kernel
  obtain ⟨found, hfound, hreports, -⟩ :=
    hlisted (by decide +kernel) "acme" (by decide) 2 (by decide) (by decide)
  refine ⟨rows, hrows, ?_, hsums, found, hfound, ?_⟩
  · rw [hrows] at hseen
    exact Option.some.inj hseen
  · have hsame := congrArg (List.map CycleReport.status) hreports
    rw [List.map_map] at hsame
    exact hsame.trans hstatuses

end VacancyLedger.Engine
