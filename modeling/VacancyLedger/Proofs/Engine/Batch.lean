/-
A batch answers for every cycle.

What has been counted has no bearing on what a cycle does.  So the cycles of a batch come to
what the same cycles come to when they are run one after the other, though a batch counts the
crashes as well.  Each is answered for: by its report, or by a report of its crash.  Nothing
that one cycle comes to keeps the next from running, and a company is in flight after a batch
only if it was before.
-/
import VacancyLedger.Engine.Batch
import VacancyLedger.Engine.Step
import VacancyLedger.Proofs.Engine.Failure
import VacancyLedger.Proofs.Engine.Report
import VacancyLedger.Proofs.Ledger.Companies
import VacancyLedger.Proofs.Table

namespace VacancyLedger

namespace Engine

variable {φ : Type}

/-! ### What has been counted has no bearing -/

/-- The engine where other cycles were counted. -/
def counting (e : Engine φ) (metrics : Option (Metrics Float)) : Engine φ := { e with metrics }

section

variable (e : Engine φ) (metrics : Option (Metrics Float)) (trouble : Ledger.Trouble)
  (fetcher : Fetcher φ) (now : Option Time.Stamp)

theorem applyPage_counting (company : String) (page : Page) :
    (e.counting metrics).applyPage trouble company page now =
      ((e.applyPage trouble company page now).1,
        (e.applyPage trouble company page now).2.counting metrics) := by
  have htime : (e.counting metrics).cycleTime now = e.cycleTime now := rfl
  have hledger : (e.counting metrics).ledger = e.ledger := rfl
  unfold applyPage
  rw [htime, hledger]
  split
  · rfl
  · split
    · rfl
    · simp only
      split <;> rfl

theorem takeIn_counting (source : Source) (adverts : List Advert) :
    (e.counting metrics).takeIn trouble source adverts now =
      ((e.takeIn trouble source adverts now).1,
        (e.takeIn trouble source adverts now).2.counting metrics) := by
  unfold takeIn
  simp only [applyPage_counting]
  split
  · rfl
  · split <;> rfl

theorem runClaimed_counting (source : Source) :
    (e.counting metrics).runClaimed trouble fetcher source now =
      ((e.runClaimed trouble fetcher source now).1,
        (e.runClaimed trouble fetcher source now).2.counting metrics) := by
  have hnow : (e.counting metrics).now = e.now := rfl
  have hmemory : (e.counting metrics).memory = e.memory := rfl
  have hregistry : (e.counting metrics).registry = e.registry := rfl
  unfold runClaimed
  simp only [hnow, hmemory, hregistry]
  split
  · rfl
  · rfl
  · split
    · rfl
    · exact takeIn_counting (e.fetched fetcher source) metrics trouble now source _

theorem reported_counting (c : Company) :
    (e.counting metrics).reported trouble fetcher c now =
      ((e.reported trouble fetcher c now).1,
        (e.reported trouble fetcher c now).2.counting metrics) := by
  by_cases hclaimed : c.id ∈ e.inFlight
  · rw [reported_claimed trouble fetcher now hclaimed]
    exact reported_claimed trouble fetcher now hclaimed
  · have hrun : ((e.counting metrics).claimed c.id).runClaimed trouble fetcher c.source now = _ :=
      runClaimed_counting (e.claimed c.id) metrics trouble fetcher now c.source
    unfold reported
    rw [if_neg hclaimed, hrun]
    exact if_neg hclaimed

/-- What has been counted once a cycle has come to a result. -/
def counted (metrics : Option (Metrics Float)) : Except Crash CycleReport → Option (Metrics Float)
  | .ok report => metrics.map (·.observeCycle report)
  | .error _ => metrics

theorem finish_counting (report : CycleReport) :
    (e.counting metrics).finish report =
      ((e.finish report).1,
        (e.finish report).2.counting (counted metrics (e.finish report).1)) := by
  have hledger : (e.counting metrics).ledger = e.ledger := rfl
  have hnow : (e.counting metrics).now = e.now := rfl
  unfold finish
  rw [hledger, hnow]
  split <;> rfl

theorem released_counting (company : String) (before : InFlight) :
    (e.counting metrics).released company before =
      (e.released company before).counting metrics := by
  unfold released
  split <;> rfl

/-- A cycle does what it does whatever has been counted, and counts its report with that. -/
theorem runCycle_counting (company : String) :
    (e.counting metrics).runCycle fetcher company now =
      ((e.runCycle fetcher company now).1, (e.runCycle fetcher company now).2.counting
        (counted metrics (e.runCycle fetcher company now).1)) := by
  have hledger : (e.counting metrics).ledger = e.ledger := rfl
  have hclaims : (e.counting metrics).inFlight = e.inFlight := rfl
  unfold runCycle runCycleUnder
  rw [hledger]
  split
  · rfl
  · rfl
  · rename_i c _
    rw [runStored_eq, runStored_eq, reported_counting, hclaims]
    rcases e.reported .none fetcher c now with ⟨crash | report, after⟩
    · exact Prod.ext rfl (released_counting after metrics c.id e.inFlight)
    · simp only [finish_counting, released_counting]

end

/-! ### Who is in flight, and at what time -/

section

variable {e after : Engine φ} {trouble : Ledger.Trouble} {fetcher : Fetcher φ} {c : Company}
  {now : Option Time.Stamp}

/-- While its cycle is running a company is in flight. -/
theorem reported_inFlight {result : Except Crash CycleReport} (hfree : c.id ∉ e.inFlight)
    (h : e.reported trouble fetcher c now = (result, after)) :
    after.inFlight = c.id :: e.inFlight := by
  obtain ⟨run, hrun, -⟩ := reported_free hfree h
  by_cases hdone : ∃ counts, run.outcome = .done counts
  · obtain ⟨counts, hdone⟩ := hdone
    obtain ⟨-, -, -, -, -, -, -, -, rfl⟩ := runClaimed_done hrun hdone
    rfl
  · obtain ⟨-, -, rfl⟩ := runClaimed_not_done hrun fun counts hc => hdone ⟨counts, hc⟩
    rfl

theorem finish_frame (e : Engine φ) (report : CycleReport) :
    (e.finish report).2.inFlight = e.inFlight ∧ (e.finish report).2.now = e.now := by
  rw [finish_eq]
  exact ⟨rfl, rfl⟩

theorem released_now (e : Engine φ) (company : String) (before : InFlight) :
    (e.released company before).now = e.now := by
  unfold released
  split <;> rfl

/-- A company that was not in flight is given up again. -/
theorem released_inFlight (hfree : c.id ∉ e.inFlight) (h : after.inFlight = c.id :: e.inFlight) :
    (after.released c.id e.inFlight).inFlight = e.inFlight := by
  unfold released
  rw [if_neg hfree]
  show InFlight.release after.inFlight c.id = e.inFlight
  rw [h]
  unfold InFlight.release
  rw [List.filter_cons_of_neg (by simp), List.filter_eq_self]
  intro company hin
  simpa using fun heq : company = c.id => hfree (heq ▸ hin)

theorem runStored_inFlight (e : Engine φ) (trouble : Ledger.Trouble) (fetcher : Fetcher φ)
    (c : Company) (now : Option Time.Stamp) :
    (e.runStored trouble fetcher c now).2.inFlight = e.inFlight := by
  by_cases hclaimed : c.id ∈ e.inFlight
  · rw [runStored_eq, reported_claimed trouble fetcher now hclaimed]
    simp only [released, if_pos hclaimed]
    exact (finish_frame e _).1
  · rw [runStored_eq]
    rcases hreported : e.reported trouble fetcher c now with ⟨crash | report, after⟩
    · exact released_inFlight hclaimed (reported_inFlight hclaimed hreported)
    · exact released_inFlight hclaimed
        ((finish_frame after report).1.trans (reported_inFlight hclaimed hreported))

theorem runStored_now (e : Engine φ) (trouble : Ledger.Trouble) (fetcher : Fetcher φ)
    (c : Company) (now : Option Time.Stamp) :
    (e.runStored trouble fetcher c now).2.now = e.now := by
  have hnow := (reported_frame_engine e trouble fetcher c now).2
  rw [runStored_eq]
  rcases hreported : e.reported trouble fetcher c now with ⟨crash | report, after⟩
  · rw [hreported] at hnow
    exact (released_now _ _ _).trans hnow
  · rw [hreported] at hnow
    exact (released_now _ _ _).trans ((finish_frame after report).2.trans hnow)

/-- A cycle leaves in flight who was in flight, and the clock alone. -/
theorem runCycle_frame (e : Engine φ) (fetcher : Fetcher φ) (company : String)
    (now : Option Time.Stamp) :
    (e.runCycle fetcher company now).2.inFlight = e.inFlight ∧
      (e.runCycle fetcher company now).2.now = e.now := by
  unfold runCycle runCycleUnder
  split
  · exact ⟨rfl, rfl⟩
  · exact ⟨rfl, rfl⟩
  · exact ⟨runStored_inFlight _ _ _ _ _, runStored_now _ _ _ _ _⟩

/-- A cycle reports on its company. -/
theorem runCycle_company {company : String} {report : CycleReport}
    (h : (e.runCycle fetcher company now).1 = .ok report) : report.company = company := by
  unfold runCycle runCycleUnder at h
  split at h
  · cases h
  · cases h
  · rename_i c hstored
    rw [runStored_eq] at h
    rcases hreported : e.reported .none fetcher c now with ⟨crash | found, after⟩
    · rw [hreported] at h
      cases h
    · have hsame : found = report := by
        rw [hreported] at h
        simp only [finish] at h
        split at h
        · cases h
        · exact Except.ok.inj h
      rw [← hsame, (reported_status hreported).1, (company?_ok hstored).2.1]

end

/-! ### Cycle by cycle -/

/-- What a batch answers for a cycle of a company: its report, or that of its crash. -/
def answer (e : Engine φ) (company : String) : Except Crash CycleReport → CycleReport
  | .ok report => report
  | .error crash => e.blankReport company .error (some crash.reportText) (some crash.name)

/-- What a batch answers for the cycles of companies. -/
def answers (e : Engine φ) (fetcher : Fetcher φ) : List String → List CycleReport
  | [] => []
  | company :: rest =>
    e.answer company (e.runCycle fetcher company none).1 ::
      (e.runCycle fetcher company none).2.answers fetcher rest

/-- The engine after cycles of companies that were run one after the other. -/
def inTurn (e : Engine φ) (fetcher : Fetcher φ) (companies : List String) : Engine φ :=
  companies.foldl (fun e company => (e.runCycle fetcher company none).2) e

variable (fetcher : Fetcher φ)

/-- A batch counts what it answers. -/
theorem runReported_counting (e : Engine φ) (metrics : Option (Metrics Float)) (company : String) :
    (e.counting metrics).runReported fetcher company =
      (e.answer company (e.runCycle fetcher company none).1,
        (e.runCycle fetcher company none).2.counting
          (metrics.map
            (·.observeCycle (e.answer company (e.runCycle fetcher company none).1)))) := by
  have hnow := (runCycle_frame e fetcher company none).2
  unfold runReported
  rw [runCycle_counting]
  rcases hcycle : e.runCycle fetcher company none with ⟨crash | report, after⟩
  · rw [hcycle] at hnow
    have hblank : ∀ error errorType,
        (after.counting metrics).blankReport company .error error errorType =
          e.blankReport company .error error errorType := by
      intro error errorType
      unfold blankReport
      rw [show (after.counting metrics).now = e.now from hnow]
    simp only [counted, hblank]
    rfl
  · rfl

/-- A batch does what its cycles do, and counts what it answers. -/
theorem runEach_counting (companies : List String) :
    ∀ (e : Engine φ) (metrics : Option (Metrics Float)),
      (e.counting metrics).runEach fetcher companies =
        (e.answers fetcher companies, (e.inTurn fetcher companies).counting
          (metrics.map fun m => (e.answers fetcher companies).foldl Metrics.observeCycle m)) := by
  induction companies with
  | nil =>
      intro e metrics
      show ([], e.counting metrics) = ([], e.counting (metrics.map fun m => m))
      rw [Option.map_id']
  | cons company rest ih =>
      intro e metrics
      unfold runEach
      simp only [runReported_counting, ih, Option.map_map]
      rfl

/-- Each answer is for the cycle that comes after those before it. -/
theorem answers_getElem? (companies : List String) :
    ∀ (e : Engine φ) (i : Nat), (e.answers fetcher companies)[i]? =
      companies[i]?.map fun company => (e.inTurn fetcher (companies.take i)).answer company
        ((e.inTurn fetcher (companies.take i)).runCycle fetcher company none).1 := by
  induction companies with
  | nil => exact fun e i => rfl
  | cons company rest ih =>
      intro e i
      cases i with
      | zero => rfl
      | succ i => exact ih _ i

theorem inTurn_frame (companies : List String) :
    ∀ e : Engine φ, (e.inTurn fetcher companies).inFlight = e.inFlight ∧
      (e.inTurn fetcher companies).now = e.now := by
  induction companies with
  | nil => exact fun e => ⟨rfl, rfl⟩
  | cons company rest ih =>
      intro e
      obtain ⟨hclaims, hnow⟩ := runCycle_frame e fetcher company none
      obtain ⟨hclaims', hnow'⟩ := ih (e.runCycle fetcher company none).2
      exact ⟨hclaims'.trans hclaims, hnow'.trans hnow⟩

/-- Reports are counted under their statuses, and nothing else is. -/
theorem foldl_observeCycle (key : String) (reports : List CycleReport) :
    ∀ m : Metrics Float,
      (Table.get? (reports.foldl Metrics.observeCycle m).cycles key).getD 0 =
        (Table.get? m.cycles key).getD 0 + reports.countP (·.status.name == key) := by
  induction reports with
  | nil => exact fun m => rfl
  | cons report rest ih =>
      intro m
      rw [List.foldl_cons, ih, List.countP_cons]
      show (Table.get? (Table.insert m.cycles report.status.name _) key).getD 0 + _ = _
      by_cases hkey : report.status.name = key
      · subst hkey
        rw [Table.get?_insert_self]
        simp only [Option.getD_some, beq_self_eq_true, if_true]
        omega
      · rw [Table.get?_insert_of_ne (Ne.symm hkey)]
        simp [hkey]

/-! ### The batch -/

/-- How a batch answers for what a cycle of a company has come to: by its report, or by the report
of its crash. -/
inductive Answers (e : Engine φ) (company : String) : Except Crash CycleReport → CycleReport → Prop
  | reported {report : CycleReport} (h : report.company = company) :
      Answers e company (.ok report) report
  | crashed (crash : Crash) :
      Answers e company (.error crash)
        { company, status := .error, startedAt := e.now.text, finishedAt := e.now.text,
          fetched := 0, discarded := 0, counts := .zero, error := some crash.reportText,
          errorType := some crash.name }

theorem answer_answers {e turn : Engine φ} (hnow : turn.now = e.now) (fetcher : Fetcher φ)
    (company : String) :
    e.Answers company (turn.runCycle fetcher company none).1
      (turn.answer company (turn.runCycle fetcher company none).1) := by
  cases hresult : (turn.runCycle fetcher company none).1 with
  | ok report => exact .reported (runCycle_company hresult)
  | error crash =>
      unfold answer blankReport
      rw [hnow]
      exact .crashed crash

theorem Answers.company {e : Engine φ} {company : String} {result : Except Crash CycleReport}
    {report : CycleReport} (h : e.Answers company result report) : report.company = company := by
  cases h with
  | reported h => exact h
  | crashed _ => rfl

/--
**A batch answers for every cycle.**  It answers company by company, in the order given, for the
cycle that is run after those before it, whatever those have come to.  What it leaves behind is
what the cycles leave that are run one after the other, but that it has counted each answer once
under its status.  Where no companies are given they are those that are enabled, by identifier.
-/
theorem batch_answers (e : Engine φ) (fetcher : Fetcher φ) :
    (∀ companies : List String, ∃ reports after,
      e.runAll fetcher 1 (some companies) = (.ok reports, after) ∧
      reports.map (·.company) = companies ∧
      (∀ i company, companies[i]? = some company → ∃ report, reports[i]? = some report ∧
        e.Answers company
          ((e.inTurn fetcher (companies.take i)).runCycle fetcher company none).1 report) ∧
      after = { e.inTurn fetcher companies with metrics := after.metrics } ∧
      after.inFlight = e.inFlight ∧
      (e.metrics = none → after.metrics = none) ∧
      (∀ m, e.metrics = some m → ∃ m', after.metrics = some m' ∧ ∀ key,
        (Table.get? m'.cycles key).getD 0 =
          (Table.get? m.cycles key).getD 0 + reports.countP (·.status.name == key))) ∧
    (∀ rows, e.ledger.connected = true → e.ledger.view.companies = some rows →
      ∃ ids : List String, ids.Perm ((rows.filter (·.source.enabled)).map (·.id)) ∧
        ids.Pairwise (· ≤ ·) ∧ e.runAll fetcher 1 none = e.runAll fetcher 1 (some ids)) ∧
    (∀ fault, e.ledger.listCompanies true = .error fault →
      e.runAll fetcher 1 none = (.error (.ledger fault), e)) := by
  refine ⟨fun companies => ?_, fun rows hconnected hrows => ?_, fun fault hfault => ?_⟩
  · have hrun := runEach_counting fetcher companies e e.metrics
    have hturn : ∀ i company, companies[i]? = some company → ∃ report,
        (e.answers fetcher companies)[i]? = some report ∧ e.Answers company
          ((e.inTurn fetcher (companies.take i)).runCycle fetcher company none).1 report := by
      intro i company hcompany
      rw [answers_getElem?, hcompany]
      exact ⟨_, rfl, answer_answers (inTurn_frame fetcher (companies.take i) e).2 fetcher company⟩
    refine ⟨e.answers fetcher companies,
      (e.inTurn fetcher companies).counting
        (e.metrics.map fun m => (e.answers fetcher companies).foldl Metrics.observeCycle m),
      ?_, ?_, hturn, rfl, (inTurn_frame fetcher companies e).1, ?_, ?_⟩
    · exact congrArg (fun r => (Except.ok r.1, r.2)) hrun
    · refine List.ext_getElem? fun i => ?_
      rw [List.getElem?_map]
      cases hcompany : companies[i]? with
      | none =>
          rw [answers_getElem?, hcompany]
          rfl
      | some company =>
          obtain ⟨report, hreport, hanswers⟩ := hturn i company hcompany
          rw [hreport, Option.map_some, hanswers.company]
    · intro hnone
      show e.metrics.map _ = none
      rw [hnone]
      rfl
    · intro m hm
      refine ⟨(e.answers fetcher companies).foldl Metrics.observeCycle m, ?_, fun key =>
        foldl_observeCycle key _ m⟩
      show e.metrics.map _ = some _
      rw [hm]
      rfl
  · obtain ⟨listed, hlisted, hperm, hsorted⟩ := Ledger.listCompanies_enabled hconnected hrows
    refine ⟨listed.map (·.id), hperm.map _, List.pairwise_map.mpr hsorted, ?_⟩
    simp [runAll, hlisted]
  · simp [runAll, hfault]

/-- An engine that knows three companies.  The cycle of one crashes, another lists nothing, and the
cycle of the third is running. -/
def unevenEngine : Engine Feeds :=
  feedEngine.run
    [.enter { feedSource with company := "beta" }, .enter { feedSource with company := "zeta" },
      .claim "zeta"]

/-- How cycles that were answered for have ended. -/
def endings (reports : List CycleReport) : List (String × CycleStatus × Option String) :=
  reports.map fun r => (r.company, r.status, r.errorType)

/-- Nobody knows the first company, and the cycle of the second crashes; the others have their turn
all the same. -/
theorem batch_answers_uneven :
    ∃ reports after m,
      unevenEngine.runAll Feeds.fetcher 1 (some ["ghost", "acme", "beta", "zeta", "ghost"]) =
        (.ok reports, after) ∧
      endings reports =
        [("ghost", .error, some "KeyError"), ("acme", .error, some "ParserRejectedMarkup"),
          ("beta", .ok, none), ("zeta", .skipped, none), ("ghost", .error, some "KeyError")] ∧
      after.inFlight = ["zeta"] ∧ after.metrics = some m ∧
      (Table.get? m.cycles "error").getD 0 = 3 := by
  obtain ⟨hgiven, -, -⟩ := batch_answers unevenEngine Feeds.fetcher
  obtain ⟨reports, after, hrun, -, -, -, hclaims, -, hcounted⟩ :=
    hgiven ["ghost", "acme", "beta", "zeta", "ghost"]
  obtain ⟨m, hm, hcycles⟩ := hcounted .empty rfl
  have hanswered : ((unevenEngine.runAll Feeds.fetcher 1
      (some ["ghost", "acme", "beta", "zeta", "ghost"])).1.toOption.map endings) =
      some [("ghost", .error, some "KeyError"), ("acme", .error, some "ParserRejectedMarkup"),
        ("beta", .ok, none), ("zeta", .skipped, none), ("ghost", .error, some "KeyError")] := by
    decide +kernel
  rw [hrun] at hanswered
  have hendings := Option.some.inj hanswered
  have hcount : reports.countP (·.status.name == "error") =
      (endings reports).countP (·.2.1.name == "error") := by
    rw [endings, List.countP_map]
    rfl
  refine ⟨reports, after, m, hrun, hendings, hclaims, hm, ?_⟩
  rw [hcycles, hcount, hendings]
  decide

end Engine
end VacancyLedger
