/-
Books that agree.

The postings are written when a page is applied, the history when the cycle is recorded, and
what has been counted is kept apart from both.  Nothing holds the three together but that a
cycle which has applied its page comes to a report of it, that the report is recorded, and
that it is counted just then.  One thing is counted that is not recorded: a batch makes a
report of a cycle that has crashed.

`Reconciled` says how the three agree.  A cycle that ends well changes the postings by what
its report counts, any other cycle changes none and counts none; so one lemma for a report
that is recorded and one for a crash in a batch carry the agreement through any run.

That a report is recorded takes numbers that can be stored, which they are unless there are
too many postings and adverts.
-/
import Mathlib.Algebra.Ring.Int.Defs
import VacancyLedger.Proofs.Engine.Events
import VacancyLedger.Proofs.Engine.Report
import VacancyLedger.Proofs.Ledger.Balance

namespace VacancyLedger

/-- What the report of a cycle that has ended well counts is at most what was on its page. -/
structure CycleReport.IsBounded (r : CycleReport) : Prop where
  listed : r.counts.created + r.counts.reopened + r.counts.renewed ≤ r.fetched - r.discarded
  updated : r.counts.updated ≤ r.counts.renewed

namespace Ledger

/-! ### The history -/

/-- The sum of a number over the history. -/
def total (cycles : Numbered RecordedCycle) (number : CycleReport → Int) : Int :=
  (cycles.rows.map fun row => number row.report).sum

/-- The sum of a number over the history of a company. -/
def totalOf (cycles : Numbered RecordedCycle) (company : String) (number : CycleReport → Int) :
    Int :=
  ((cycles.rows.filter (·.report.company == company)).map fun row => number row.report).sum

/-- How many cycles in the history have ended in a way. -/
def endedCount (cycles : Numbered RecordedCycle) (status : CycleStatus) : Nat :=
  cycles.rows.countP (·.report.status == status)

section

variable (cycles : Numbered RecordedCycle) (report : CycleReport)

theorem total_appended (number : CycleReport → Int) :
    total (appended cycles report) number = total cycles number + number report := by
  simp [total, appended]

theorem totalOf_appended (company : String) (number : CycleReport → Int) :
    totalOf (appended cycles report) company number =
      totalOf cycles company number + if report.company = company then number report else 0 := by
  by_cases h : report.company = company
  · simp [totalOf, appended, h]
  · simp [totalOf, appended, h]

theorem endedCount_appended (status : CycleStatus) :
    endedCount (appended cycles report) status =
      endedCount cycles status + if report.status = status then 1 else 0 := by
  by_cases h : report.status = status
  · simp [endedCount, appended, h]
  · simp [endedCount, appended, h]

end

/-! ### How the books agree -/

/-- Postings, history and counts that agree, where some cycles were counted that crashed in a
batch. -/
structure Reconciled (table : Numbered Posting) (cycles : Numbered RecordedCycle)
    (m : Metrics Float) (crashes : Nat) : Prop where
  schema : Constrained table
  stored : ∀ company, (storedCount table.rows company : Int) =
    totalOf cycles company (·.counts.created)
  active : ∀ company, (activeCount table.rows company : Int) =
    totalOf cycles company fun r => r.counts.created + r.counts.reopened - r.counts.closed
  counts : m.counts = ⟨total cycles (·.counts.created), total cycles (·.counts.renewed),
    total cycles (·.counts.reopened), total cycles (·.counts.updated),
    total cycles (·.counts.closed)⟩
  discarded : m.discarded = total cycles (·.discarded)
  ended : ∀ status : CycleStatus, Table.get? m.cycles status.name =
    some (endedCount cycles status + if status = .error then crashes else 0)
  bounded : ∀ row ∈ cycles.rows, row.report.status = .ok → row.report.IsBounded

theorem reconciled_empty : Reconciled .empty .empty .empty 0 where
  schema := constrained_empty
  stored := by simp [storedCount, totalOf, Numbered.empty]
  active := by simp [activeCount, totalOf, Numbered.empty]
  counts := rfl
  discarded := rfl
  ended status := by cases status <;> rfl
  bounded row hrow := by cases hrow

variable {table after : Numbered Posting} {cycles : Numbered RecordedCycle} {m : Metrics Float}
  {crashes : Nat} {report : CycleReport}

theorem name_injective {a b : CycleStatus} (h : a.name = b.name) : a = b := by
  cases a <;> cases b <;> first | rfl | exact absurd h (by decide)

/-- Counting a cycle counts it among those that have ended as it did. -/
theorem get?_observeCycle (m : Metrics Float) (report : CycleReport) (status : CycleStatus) :
    Table.get? (m.observeCycle report).cycles status.name =
      if report.status = status then some ((Table.get? m.cycles status.name).getD 0 + 1)
      else Table.get? m.cycles status.name := by
  show Table.get? (Table.insert m.cycles report.status.name _) status.name = _
  split
  · rename_i hsame
    rw [hsame]
    exact Table.get?_insert_self _ _ _
  · rename_i hother
    have hname : status.name ≠ report.status.name := fun h => hother (name_injective h).symm
    exact Table.get?_insert_of_ne hname _ _

/-- Recording a cycle that has changed the postings by what its report counts. -/
theorem Reconciled.record (h : Reconciled table cycles m crashes) (hschema : Constrained after)
    (hstored : ∀ company, (storedCount after.rows company : Int) =
      storedCount table.rows company +
        if report.company = company then report.counts.created else 0)
    (hactive : ∀ company, (activeCount after.rows company : Int) =
      activeCount table.rows company +
        if report.company = company then
          report.counts.created + report.counts.reopened - report.counts.closed
        else 0)
    (hbounded : report.status = .ok → report.IsBounded) :
    Reconciled after (appended cycles report) (m.observeCycle report) crashes where
  schema := hschema
  stored company := by rw [hstored, h.stored, totalOf_appended]
  active company := by rw [hactive, h.active, totalOf_appended]
  counts := by
    show m.counts.add report.counts = _
    rw [h.counts]
    simp only [Counts.add, total_appended]
  discarded := by
    show m.discarded + report.discarded = _
    rw [h.discarded, total_appended]
  ended status := by
    rw [get?_observeCycle, endedCount_appended, h.ended]
    split
    · simp only [Option.getD_some]
      congr 1
      omega
    · rfl
  bounded row hrow hok := by
    rcases List.mem_append.mp hrow with hold | hnew
    · exact h.bounded row hold hok
    · rw [List.mem_singleton.mp hnew] at hok ⊢
      exact hbounded hok

/-- Recording a cycle that has not ended well. -/
theorem Reconciled.recordFailed (h : Reconciled table cycles m crashes)
    (hstatus : report.status ≠ .ok) (hcounts : report.counts = .zero) :
    Reconciled table (appended cycles report) (m.observeCycle report) crashes := by
  refine h.record h.schema (fun company => ?_) (fun company => ?_) fun hok => absurd hok hstatus
  · simp [hcounts, Counts.zero]
  · simp [hcounts, Counts.zero]

/-- Recording a cycle that has applied its page. -/
theorem Reconciled.recordSettled (h : Reconciled table cycles m crashes) {d : Difference}
    {page : Page} {time : String} (hpage : page.Maps)
    (hcounts : report.counts = settledCounts table report.company d page time)
    (hlisted : (page.length : Int) ≤ report.fetched - report.discarded) :
    Reconciled (table.settled report.company d page time) (appended cycles report)
      (m.observeCycle report) crashes := by
  refine h.record (constrained_settled h.schema hpage d) (fun company => ?_) (fun company => ?_)
    fun _ => ?_
  · rw [storedCount_settled, hcounts]
  · rw [activeCount_settled, hcounts]
  · obtain ⟨heach, hupdated⟩ := counted_settledCounts h.schema hpage report.company time d
    have hseen : (seenListings d page).length ≤ page.length := List.length_filter_le _ _
    rw [← hcounts] at heach hupdated
    exact ⟨by omega, hupdated⟩

/-- Counting a crash in a batch, which is not recorded. -/
theorem Reconciled.crash (h : Reconciled table cycles m crashes) (hstatus : report.status = .error)
    (hcounts : report.counts = .zero) (hdiscarded : report.discarded = 0) :
    Reconciled table cycles (m.observeCycle report) (crashes + 1) where
  schema := h.schema
  stored := h.stored
  active := h.active
  counts := by
    show m.counts.add report.counts = _
    rw [h.counts, hcounts, Counts.add_zero]
  discarded := by
    show m.discarded + report.discarded = _
    rw [h.discarded, hdiscarded, Int.add_zero]
  ended status := by
    rw [get?_observeCycle, h.ended, hstatus]
    by_cases herror : status = .error
    · rw [if_pos herror.symm, if_pos herror, if_pos herror]
      rfl
    · rw [if_neg (Ne.symm herror), if_neg herror, if_neg herror]
  bounded := h.bounded

/-! ### Ledgers that are ready to be written -/

/-- A ledger to write to, with these postings and this history, and with nothing pending. -/
def Stands (l : Ledger) (table : Numbered Posting) (cycles : Numbered RecordedCycle) : Prop :=
  ∃ companies, l = ⟨⟨some companies, some table, some cycles⟩, none, true⟩

variable {l : Ledger}

theorem stands_start : unconnected.connect.Stands .empty .empty := ⟨[], rfl⟩

theorem Stands.rollback (h : l.Stands table cycles) : l.rollback = l := by
  obtain ⟨companies, rfl⟩ := h
  rfl

theorem Stands.enter (h : l.Stands table cycles) (source : Source) (now : String) :
    ∃ c ledger, l.enter source now = .ok (c, ledger) ∧ ledger.Stands table cycles := by
  obtain ⟨companies, rfl⟩ := h
  exact ⟨_, _, rfl, _, rfl⟩

theorem Stands.enterAll (now : String) (sources : List Source) :
    ∀ {l : Ledger}, l.Stands table cycles → (l.enterAll now sources).2.Stands table cycles := by
  induction sources with
  | nil => exact fun h => h
  | cons source rest ih =>
      intro l h
      obtain ⟨c, ledger, henter, hstands⟩ := h.enter source now
      unfold Ledger.enterAll
      rw [henter]
      exact ih hstands

/-- Where a ledger stands, a report whose numbers can be stored is recorded. -/
theorem Stands.record (h : l.Stands table cycles) (now : String)
    (hrecordable : isRecordable report = true) :
    ∃ id ledger, l.record report now = (.ok id, ledger) ∧
      ledger.Stands table (appended cycles report) := by
  obtain ⟨companies, rfl⟩ := h
  rw [record_eq rfl rfl rfl, hrecordable]
  exact ⟨_, _, rfl, _, rfl⟩

end Ledger

namespace Engine

variable {φ : Type} {e after : Engine φ} {crashes : Nat}

/-! ### One event -/

/-- An engine whose books agree. -/
def Balanced (e : Engine φ) (crashes : Nat) : Prop :=
  ∃ table cycles m, e.ledger.Stands table cycles ∧ e.metrics = some m ∧
    Ledger.Reconciled table cycles m crashes

/-- Whether the numbers that a cycle counts can be stored. -/
def cycleFits (e : Engine φ) (trouble : Ledger.Trouble) (fetcher : Fetcher φ) (company : String)
    (now : Option Time.Stamp) : Bool :=
  match e.ledger.company? company with
  | .ok (some c) =>
    match (e.reported trouble fetcher c now).1 with
    | .ok report => Ledger.isRecordable report
    | .error _ => true
  | _ => true

@[simp] theorem released_metrics (e : Engine φ) (company : String) (before : InFlight) :
    (e.released company before).metrics = e.metrics := by
  unfold released
  split <;> rfl

theorem Balanced.released (h : e.Balanced crashes) (company : String) (before : InFlight) :
    (e.released company before).Balanced crashes := by
  obtain ⟨table, cycles, m, hstands, hmetrics, hreconciled⟩ := h
  refine ⟨table, cycles, m, ?_, ?_, hreconciled⟩
  · rw [released_ledger]
    exact hstands
  · rw [released_metrics]
    exact hmetrics

/-- Recording a report counts it. -/
theorem finish_balanced {table : Ledger.Numbered Posting}
    {cycles : Ledger.Numbered RecordedCycle} {m : Metrics Float} {report : CycleReport}
    (hstands : e.ledger.Stands table cycles) (hmetrics : e.metrics = some m)
    (hrecordable : Ledger.isRecordable report = true)
    (h : Ledger.Reconciled table (Ledger.appended cycles report) (m.observeCycle report) crashes) :
    (e.finish report).2.Balanced crashes := by
  obtain ⟨id, ledger, hrecord, hstands'⟩ := hstands.record e.now.text hrecordable
  unfold finish
  rw [hrecord]
  refine ⟨table, _, _, hstands', ?_, h⟩
  simp [Engine.observe, hmetrics]

theorem runCycleUnder_balanced (h : e.Balanced crashes) (trouble : Ledger.Trouble)
    (fetcher : Fetcher φ) (company : String) (now : Option Time.Stamp)
    (hfits : e.cycleFits trouble fetcher company now = true) :
    (e.runCycleUnder trouble fetcher company now).2.Balanced crashes := by
  unfold runCycleUnder
  split
  · exact h
  · exact h
  · rename_i c hstored
    obtain ⟨table, cycles, m, hstands, hmetrics, hreconciled⟩ := h
    obtain ⟨-, -, rows, hrows, hin⟩ := company?_ok hstored
    have hview : e.ledger.view.postings = some table := by
      obtain ⟨companies, hledger⟩ := hstands
      rw [hledger]
      rfl
    have hschema : ∀ table', e.ledger.view.postings = some table' → Ledger.Constrained table' := by
      intro table' htable'
      rw [← Option.some.inj (hview.symm.trans htable')]
      exact hreconciled.schema
    have hcounted := (reported_frame_engine e trouble fetcher c now).1
    unfold cycleFits at hfits
    simp only [hstored] at hfits
    rw [runStored_eq]
    rcases hreported : e.reported trouble fetcher c now with ⟨result, after⟩
    rw [hreported] at hcounted hfits
    have hafter : after.metrics = some m := hcounted.trans hmetrics
    have hkept : after.ledger = e.ledger ∨ after.ledger = e.ledger.rollback →
        after.ledger.Stands table cycles := by
      rintro (hsame | hback)
      · rw [hsame]
        exact hstands
      · rw [hback, hstands.rollback]
        exact hstands
    cases reported_ending hrows hin hschema hreported with
    | crashed hledger =>
        have hbalanced : after.Balanced crashes :=
          ⟨table, cycles, m, hkept hledger, hafter, hreconciled⟩
        exact hbalanced.released _ _
    | @failed report _ hcompany hstatus hcounts hledger =>
        exact (finish_balanced (hkept hledger) hafter hfits
          (hreconciled.recordFailed hstatus hcounts)).released _ _
    | @settled report _ before adverts listings discarded d time hcompany hstatus htable hread
        hlistings hfetched hdiscarded hcounts hledger =>
        obtain rfl := Option.some.inj (hview.symm.trans htable)
        have hsettled : after.ledger.Stands
            (table.settled c.id d (Page.ofListings listings) time) cycles := by
          obtain ⟨companies, hopen⟩ := hstands
          exact ⟨companies, by rw [hledger, hopen]; rfl⟩
        have hlisted : ((Page.ofListings listings).length : Int)
            ≤ report.fetched - report.discarded := by
          have hshort := Page.length_ofListings_le listings
          have hlength := (Advert.listings_ok hlistings).2.2
          omega
        rw [← hcompany] at hcounts hsettled ⊢
        exact (finish_balanced hsettled hafter hfits
          (hreconciled.recordSettled (Page.maps_ofListings listings) hcounts hlisted)).released _ _

/-- Whether a cycle has crashed. -/
def isCrash : Except Crash CycleReport → Bool
  | .error _ => true
  | .ok _ => false

/-- A cycle of a batch that crashes is counted and not recorded. -/
theorem runReportedUnder_balanced (h : e.Balanced crashes) (trouble : Ledger.Trouble)
    (fetcher : Fetcher φ) (company : String)
    (hfits : e.cycleFits trouble fetcher company none = true) :
    (e.runReportedUnder trouble fetcher company).2.Balanced
      (crashes + (isCrash (e.runCycleUnder trouble fetcher company none).1).toNat) := by
  have hcycle := runCycleUnder_balanced h trouble fetcher company none hfits
  unfold runReportedUnder
  split
  · rename_i report after hrun
    rw [hrun] at hcycle ⊢
    exact hcycle
  · rename_i crash after hrun
    rw [hrun] at hcycle ⊢
    obtain ⟨table, cycles, m, hstands, hmetrics, hreconciled⟩ := hcycle
    have hcrashed : Ledger.Reconciled table cycles (m.observeCycle
        (after.blankReport company .error (some crash.reportText) (some crash.name)))
        (crashes + 1) := hreconciled.crash rfl rfl rfl
    have hafter : after.metrics = some m := hmetrics
    refine ⟨table, cycles, _, hstands, ?_, hcrashed⟩
    simp [Engine.observe, hafter]

/-- Whether a step is one of those that write no postings, record nothing themselves and leave the
tables and the connection alone. -/
def Step.isBookkept : Step → Bool
  | .record _ | .apply _ _ _ _ | .act _ _ | .drop _ | .close | .connect => false
  | _ => true

/-- Whether an event is such a step, or a cycle. -/
def Event.isBookkept : Event → Bool
  | .step s => s.isBookkept
  | _ => true

theorem Balanced.of_stands (h : e.Balanced crashes)
    (hledger : ∀ table cycles, e.ledger.Stands table cycles → after.ledger.Stands table cycles)
    (hmetrics : after.metrics = e.metrics) : after.Balanced crashes := by
  obtain ⟨table, cycles, m, hstands, hcounted, hreconciled⟩ := h
  exact ⟨table, cycles, m, hledger table cycles hstands, hmetrics.trans hcounted, hreconciled⟩

theorem register_balanced (h : e.Balanced crashes) (source : Source) :
    (e.register source).2.Balanced crashes := by
  rw [register_eq]
  split
  · exact h.of_stands (fun _ _ hstands => hstands) rfl
  · exact h

theorem enterSource_balanced (h : e.Balanced crashes) (source : Source) :
    (e.enterSource source).2.Balanced crashes := by
  unfold enterSource
  split
  · exact h
  · rename_i c ledger henter
    refine h.of_stands (fun table cycles hstands => ?_) rfl
    obtain ⟨c', ledger', henter', hstands'⟩ := hstands.enter source e.now.text
    cases henter.symm.trans henter'
    exact hstands'

/-- A step that is no cycle and writes nothing but companies leaves the books as they are. -/
theorem perform_balanced {e : Engine Feeds} (h : e.Balanced crashes) {step : Step}
    (hsingle : Event.isSingle (.step step) = true) (hbookkept : step.isBookkept = true) :
    (e.perform step).2.Balanced crashes := by
  cases step with
  | cycle _ _ | runAll _ _ => cases hsingle
  | record _ | apply _ _ _ _ | act _ _ | drop _ | close | connect => cases hbookkept
  | enter source =>
      show (e.enter source).2.Balanced crashes
      rw [enter_eq]
      split
      · exact enterSource_balanced (register_balanced h source) source
      · exact h
  | register source => exact register_balanced h source
  | sync => exact h.of_stands (fun _ _ hstands => hstands.enterAll _ _) rfl
  | extractor name extractor =>
      show (e.addExtractor name extractor).2.Balanced crashes
      unfold addExtractor
      split
      · exact h
      · exact h.of_stands (fun _ _ hstands => hstands) rfl
  | feed _ _ | claim _ | release _ | setClock _ =>
      exact h.of_stands (fun _ _ hstands => hstands) rfl

/-! ### Runs -/

/-- Whether the numbers that a cycle counts can be stored, if the event is a cycle. -/
def eventFits (e : Engine Feeds) : Event → Bool
  | .step _ => true
  | .cycle trouble company now => e.cycleFits trouble Feeds.fetcher company now
  | .batched trouble company => e.cycleFits trouble Feeds.fetcher company none

/-- Whether the numbers that cycles count can be stored, in a run of single events. -/
def allFit (e : Engine Feeds) : List Event → Bool
  | [] => true
  | event :: rest => e.eventFits event && (e.happen event).allFit rest

/-- How many cycles crash in an event that is a cycle of a batch. -/
def crashesIn (e : Engine Feeds) : Event → Nat
  | .batched trouble company =>
    (isCrash (e.runCycleUnder trouble Feeds.fetcher company none).1).toNat
  | _ => 0

/-- How many cycles crash in the batches of a run of single events. -/
def batchCrashes (e : Engine Feeds) : List Event → Nat
  | [] => 0
  | event :: rest => e.crashesIn event + (e.happen event).batchCrashes rest

theorem happen_balanced {e : Engine Feeds} (h : e.Balanced crashes) {event : Event}
    (hsingle : event.isSingle = true) (hbookkept : event.isBookkept = true)
    (hfits : e.eventFits event = true) :
    (e.happen event).Balanced (crashes + e.crashesIn event) := by
  cases event with
  | step step => exact perform_balanced h hsingle hbookkept
  | cycle trouble company now =>
      exact runCycleUnder_balanced h trouble Feeds.fetcher company now hfits
  | batched trouble company =>
      exact runReportedUnder_balanced h trouble Feeds.fetcher company hfits

theorem live_balanced (events : List Event) :
    ∀ {e : Engine Feeds} {crashes : Nat}, e.Balanced crashes →
      (∀ event ∈ events, event.isSingle = true ∧ event.isBookkept = true) →
      e.allFit events = true → (e.live events).Balanced (crashes + e.batchCrashes events) := by
  induction events with
  | nil => exact fun h _ _ => h
  | cons event rest ih =>
      intro e crashes h hevents hfit
      obtain ⟨⟨hsingle, hbookkept⟩, hrest⟩ := List.forall_mem_cons.mp hevents
      unfold allFit at hfit
      rw [Bool.and_eq_true] at hfit
      have hnext := ih (happen_balanced h hsingle hbookkept hfit.1) hrest hfit.2
      rw [batchCrashes, ← Nat.add_assoc]
      exact hnext

theorem isBookkept_unrolled {e : Engine Feeds} {events : List Event}
    (h : ∀ event ∈ events, event.isBookkept = true) {single : Event}
    (hin : single ∈ e.unrolled events) : single.isBookkept = true := by
  rcases mem_unrolled hin with hcycle | ⟨hstep, -⟩
  · cases single with
    | step _ => cases hcycle
    | cycle _ _ _ | batched _ _ => rfl
  · exact h single hstep

/-- A page of vacancies, told by their titles; one without a title is discarded. -/
def listedAs (titles : List (Option String)) : Step :=
  .extractor "fixed" (.fixed (titles.map fun title =>
    ⟨title, none, none, none, title.map ("https://acme.example/" ++ ·), none⟩))

/-- A run with cycles of every kind: two that end well, one that fails, one that is skipped, and two
that crash in batches, for there is no such company and for markup that is rejected. -/
def mixedEvents : List Event :=
  [.step (listedAs [some "Cook", none, some "Waiter"]),
   .step (.enter { (default : Source) with company := "acme", extractor := "fixed" }),
   .step (.runAll 1 (some ["acme", "nobody"])),
   .step (listedAs [some "Cook"]),
   .cycle ⟨none, fun _ => some (.trouble "disk is full"), none⟩ "acme" none,
   .step (.claim "acme"), .step (.cycle "acme" none), .step (.release "acme"),
   .cycle .none "acme" none,
   .step (.extractor "fixed" (.fixed [⟨some "Cook", none, none, some "<![foo]>", none, none⟩])),
   .batched .none "acme"]

/--
**The books reconcile.**  After any run from an empty ledger with nothing counted, in which
cycles alone write postings and record themselves and all numbers can be stored, a company has
as many postings as its history says were created, and as many active ones as were created and
reopened less those closed.  What has been counted is the sum over the history; cycles that
have ended well or were skipped are counted as often as they are recorded, and those that have
failed once more for each crash in a batch.  No cycle counts more than was on its page.
-/
theorem books_reconcile (e : Engine Feeds) (hempty : e.ledger = Ledger.unconnected.connect)
    (hmetrics : e.metrics = some .empty) (events : List Event)
    (hbookkept : ∀ event ∈ events, event.isBookkept = true)
    (hfit : e.allFit (e.unrolled events) = true) :
    ∃ table cycles m, (e.live events).ledger.committed.postings = some table ∧
      (e.live events).ledger.committed.cycles = some cycles ∧
      (e.live events).metrics = some m ∧
      (∀ company,
        (table.rows.countP (fun p => p.company == company && p.isActive) : Int) =
            Ledger.totalOf cycles company (fun r =>
              r.counts.created + r.counts.reopened - r.counts.closed) ∧
          (table.rows.countP (·.company == company) : Int) =
            Ledger.totalOf cycles company (·.counts.created)) ∧
      m.counts.created = Ledger.total cycles (·.counts.created) ∧
      m.counts.renewed = Ledger.total cycles (·.counts.renewed) ∧
      m.counts.reopened = Ledger.total cycles (·.counts.reopened) ∧
      m.counts.updated = Ledger.total cycles (·.counts.updated) ∧
      m.counts.closed = Ledger.total cycles (·.counts.closed) ∧
      m.discarded = Ledger.total cycles (·.discarded) ∧
      Table.get? m.cycles "ok" = some (Ledger.endedCount cycles .ok) ∧
      Table.get? m.cycles "skipped" = some (Ledger.endedCount cycles .skipped) ∧
      Table.get? m.cycles "error" =
        some (Ledger.endedCount cycles .error + e.batchCrashes (e.unrolled events)) ∧
      ∀ row ∈ cycles.rows, row.report.status = .ok →
        row.report.counts.created + row.report.counts.reopened + row.report.counts.renewed ≤
            row.report.fetched - row.report.discarded ∧
          row.report.counts.updated ≤ row.report.counts.renewed := by
  have hstart : e.Balanced 0 := by
    refine ⟨.empty, .empty, .empty, ?_, hmetrics, Ledger.reconciled_empty⟩
    rw [hempty]
    exact Ledger.stands_start
  have hunrolled : ∀ event ∈ e.unrolled events,
      event.isSingle = true ∧ event.isBookkept = true :=
    fun event hin => ⟨isSingle_unrolled hin, isBookkept_unrolled hbookkept hin⟩
  have hend := live_balanced (e.unrolled events) hstart hunrolled hfit
  rw [live_unrolled, Nat.zero_add] at hend
  obtain ⟨table, cycles, m, ⟨companies, hledger⟩, hcounted, hreconciled⟩ := hend
  obtain ⟨-, hstored, hactive, hcounts, hdiscarded, hended, hbounded⟩ := hreconciled
  refine ⟨table, cycles, m, ?_, ?_, hcounted, fun company => ⟨hactive company, hstored company⟩,
    congrArg Counts.created hcounts, congrArg Counts.renewed hcounts,
    congrArg Counts.reopened hcounts, congrArg Counts.updated hcounts,
    congrArg Counts.closed hcounts, hdiscarded, hended .ok, hended .skipped, hended .error,
    fun row hrow hok => ?_⟩
  · rw [hledger]
  · rw [hledger]
  · obtain ⟨hlisted, hupdated⟩ := hbounded row hrow hok
    exact ⟨hlisted, hupdated⟩

/-- What the reports of that run say. -/
def mixedReports : List (String × CycleStatus × Int × Counts) :=
  [("acme", .ok, 1, ⟨2, 0, 0, 0, 0⟩), ("acme", .error, 0, .zero), ("acme", .skipped, 0, .zero),
   ("acme", .ok, 0, ⟨0, 1, 0, 0, 1⟩)]

/-- What the books say after that run. -/
theorem books_reconcile_mixed :
    ∃ table cycles m,
      ((Engine.start ⟨0⟩ 20 []).live mixedEvents).ledger.committed.postings = some table ∧
      ((Engine.start ⟨0⟩ 20 []).live mixedEvents).ledger.committed.cycles = some cycles ∧
      ((Engine.start ⟨0⟩ 20 []).live mixedEvents).metrics = some m ∧
      table.rows.countP (fun p => p.company == "acme" && p.isActive) = 1 ∧
      m.counts.created = 2 ∧ m.counts.closed = 1 ∧ m.discarded = 1 ∧
      Ledger.endedCount cycles .error = 1 ∧ Table.get? m.cycles "error" = some 3 := by
  have hbooks := books_reconcile (Engine.start ⟨0⟩ 20 []) rfl rfl mixedEvents (by decide)
    (by decide +kernel)
  have hcrashes : (Engine.start ⟨0⟩ 20 []).batchCrashes
      ((Engine.start ⟨0⟩ 20 []).unrolled mixedEvents) = 2 := by
    decide +kernel
  have hreports : ((Engine.start ⟨0⟩ 20 []).live mixedEvents).ledger.committed.cycles.map
      (fun cycles => cycles.rows.map fun row =>
        (row.report.company, row.report.status, row.report.discarded, row.report.counts)) =
        some mixedReports := by
    decide +kernel
  rw [hcrashes] at hbooks
  generalize (Engine.start ⟨0⟩ 20 []).live mixedEvents = e at hbooks hreports ⊢
  obtain ⟨table, cycles, m, htable, hcycles, hmetrics, hcompanies, hcreated, -, -, -, hclosed,
    hdiscarded, -, -, herror, -⟩ := hbooks
  rw [hcycles, Option.map_some, Option.some.injEq] at hreports
  have hended : Ledger.endedCount cycles .error = 1 := by
    have hcount : mixedReports.countP (·.2.1 == .error) = 1 := by decide
    rw [← hreports, List.countP_map] at hcount
    exact hcount
  have htotal : ∀ f : String × CycleStatus × Int × Counts → Int,
      (cycles.rows.map fun row => f (row.report.company, row.report.status, row.report.discarded,
        row.report.counts)).sum = (mixedReports.map f).sum := by
    intro f
    rw [← hreports, List.map_map]
    rfl
  have hactive : Ledger.totalOf cycles "acme" (fun r =>
      r.counts.created + r.counts.reopened - r.counts.closed) = 1 := by
    have hsum : ((mixedReports.filter (·.1 == "acme")).map fun r =>
        r.2.2.2.created + r.2.2.2.reopened - r.2.2.2.closed).sum = 1 := by
      decide
    rw [← hreports, List.filter_map, List.map_map] at hsum
    exact hsum
  refine ⟨table, cycles, m, htable, hcycles, hmetrics, ?_, ?_, ?_, ?_, hended, ?_⟩
  · have hcompany := (hcompanies "acme").1
    rw [hactive] at hcompany
    exact_mod_cast hcompany
  · exact hcreated.trans (htotal fun r => r.2.2.2.created)
  · exact hclosed.trans (htotal fun r => r.2.2.2.closed)
  · exact hdiscarded.trans (htotal fun r => r.2.2.1)
  · rw [herror, hended]

end Engine
end VacancyLedger
