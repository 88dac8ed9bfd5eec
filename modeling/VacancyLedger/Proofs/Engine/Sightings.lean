/-
The postings as the record of all cycles.

Whatever is done with an engine, one step after the other, its postings are at any time what
the cycles that have ended well have made of them.  A cycle that failed, was skipped or
crashed has left no trace in them, and neither has any step that is not a cycle.  So the
whole table can be told from the list of sightings, and nothing else about the run matters:
not the other companies, not the order of the clocks, not what failed in between.

The proof is an induction on the run.  `Holds` says which postings are in the ledger, and
`Reflects` what they have to do with the sightings; one step keeps both.
-/
import VacancyLedger.Proofs.Engine.Events
import VacancyLedger.Proofs.Engine.Report
import VacancyLedger.Proofs.Ledger.Sightings

namespace VacancyLedger.Engine

variable {φ : Type}

/-! ### Sightings -/

/-- The sighting that a cycle of a company makes, if it ends well.  Whether it does is told
before the cycle is recorded, because the page it saw is committed by then. -/
def sighting? (e : Engine φ) (fetcher : Fetcher φ) (company : String) (now : Option Time.Stamp) :
    Option Sighting :=
  match e.ledger.company? company with
  | .ok (some c) =>
    match (e.reported .none fetcher c now).1, e.page? fetcher c.source, e.cycleTime now with
    | .ok report, some page, .ok time =>
      if report.status = .ok then some ⟨company, time, page⟩ else none
    | _, _, _ => none
  | _ => none

/-- The sightings that the cycles of companies make, one after the other. -/
def sightingsEach (e : Engine φ) (fetcher : Fetcher φ) : List String → List Sighting
  | [] => []
  | company :: companies =>
    (e.sighting? fetcher company none).toList ++
      (e.runReported fetcher company).2.sightingsEach fetcher companies

/-- The sightings that a batch of cycles makes. -/
def sightingsOfAll (e : Engine φ) (fetcher : Fetcher φ) (workers : Int)
    (companies : Option (List String)) : List Sighting :=
  if workers < 1 then []
  else
    match companies with
    | some companies => e.sightingsEach fetcher companies
    | none =>
      match e.ledger.listCompanies true with
      | .error _ => []
      | .ok companies => e.sightingsEach fetcher (companies.map (·.id))

/-- The sightings that a step makes. -/
def sightingsOfStep (e : Engine Feeds) : Step → List Sighting
  | .cycle company now => (e.sighting? Feeds.fetcher company now).toList
  | .runAll workers companies => e.sightingsOfAll Feeds.fetcher workers companies
  | _ => []

/-- The sightings that steps make, done one after the other. -/
def sightings (e : Engine Feeds) : List Step → List Sighting
  | [] => []
  | step :: steps => e.sightingsOfStep step ++ (e.perform step).2.sightings steps

/-- Whether a step is none of those that write postings on their own or drop tables. -/
def Step.isOrdinary : Step → Bool
  | .apply _ _ _ _ | .act _ _ | .drop _ => false
  | _ => true

/-! ### One cycle -/

variable {e after : Engine φ} {fetcher : Fetcher φ} {company : String} {now : Option Time.Stamp}
  {c : Company} {table : Ledger.Numbered Posting} {history : List Sighting}

/-- A cycle that does not come to a report of having ended well makes no sighting. -/
theorem sighting?_none {result : Except Crash CycleReport}
    (hstored : e.ledger.company? company = .ok (some c))
    (h : e.reported .none fetcher c now = (result, after)) (hok : ¬ EndsOk result) :
    e.sighting? fetcher company now = none := by
  unfold sighting?
  simp only [hstored, h]
  split
  · rename_i report page time hpage htime
    rw [if_neg fun hstatus => hok (endsOk_report.mpr hstatus)]
  · rfl

theorem sighting?_some {report : CycleReport} {page : Page} {time : String}
    (hstored : e.ledger.company? company = .ok (some c))
    (h : e.reported .none fetcher c now = (.ok report, after)) (hstatus : report.status = .ok)
    (hpage : e.page? fetcher c.source = some page) (htime : e.cycleTime now = .ok time) :
    e.sighting? fetcher company now = some ⟨company, time, page⟩ := by
  unfold sighting?
  simp only [hstored, h, hpage, htime, hstatus, if_true]

/-- What a cycle sees are listings that adverts make. -/
theorem isNormal_page {source : Source} {page : Page} (h : e.page? fetcher source = some page) :
    page.Maps ∧ ∀ entry ∈ page, entry.2.content.IsNormal := by
  obtain ⟨adverts, listings, discarded, -, hlistings, -, -, rfl⟩ := page?_some h
  refine ⟨Page.maps_ofListings listings, fun entry hentry => ?_⟩
  exact (Advert.isCoherent_listings hlistings (Page.mem_ofListings hentry).1).normal

/-- The steps of a cycle keep the postings true to the sightings. -/
theorem reported_reflects {result : Except Crash CycleReport} (hholds : e.ledger.Holds table)
    (hreflects : Ledger.Reflects table history)
    (hstored : e.ledger.company? company = .ok (some c))
    (h : e.reported .none fetcher c now = (result, after)) :
    ∃ table', after.ledger.Holds table' ∧
      Ledger.Reflects table' (history ++ (e.sighting? fetcher company now).toList) := by
  obtain ⟨-, rfl, rows, hrows, hin⟩ := company?_ok hstored
  by_cases hclaimed : c.id ∈ e.inFlight
  · have hskipped := reported_claimed .none fetcher now hclaimed
    have hnone : e.sighting? fetcher c.id now = none := by
      refine sighting?_none hstored hskipped fun hends => ?_
      cases endsOk_report.mp hends
    rw [hskipped] at h
    cases h
    rw [hnone]
    exact ⟨table, hholds, by simpa using hreflects⟩
  · obtain ⟨run, hrun, hreport⟩ := reported_free hclaimed h
    by_cases hdone : ∃ counts, run.outcome = .done counts
    · obtain ⟨counts, hdone⟩ := hdone
      obtain ⟨page, active, time, ledger, hpage, hactive, htime, happly, rfl⟩ :=
        runClaimed_done hrun hdone
      obtain ⟨report, hreported, hstatus⟩ := report_done _ c.id hdone
      rw [← hreport, hreported] at h
      obtain ⟨hmaps, hnormal⟩ := isNormal_page hpage
      -- The difference was made from the postings that the transaction then finds.
      obtain ⟨-, -, table', hview, rfl⟩ := Ledger.activePostingsUnder_ok hactive
      obtain rfl := Option.some.inj (hholds.view.symm.trans hview)
      obtain ⟨-, t, hwrite, rfl⟩ := Ledger.applyUnder_ok happly
      have hwritten := Ledger.writeDifference_eq hholds.view hreflects.schema hrows ⟨c, hin, rfl⟩
        hmaps (Ledger.pageDifference table c.id page) time
      obtain rfl := congrArg Prod.snd (Except.ok.inj (hwrite.symm.trans hwritten))
      rw [sighting?_some hstored h hstatus hpage htime]
      exact ⟨_, ⟨rfl, rfl⟩, Ledger.reflects_settled hreflects hmaps hnormal⟩
    · have hnot : ¬ EndsOk result := by
        rintro ⟨report, hok, hstatus⟩
        obtain ⟨-, run', counts, hrun', hc⟩ := reported_done (hok ▸ h) hstatus
        rw [hrun] at hrun'
        cases hrun'
        exact hdone ⟨counts, hc⟩
      have hnone := sighting?_none hstored h hnot
      obtain ⟨ledger, hledger, rfl⟩ := runClaimed_not_done hrun fun counts hc => hdone ⟨counts, hc⟩
      rw [hnone]
      -- A rollback shows what is committed, and those are the same postings.
      refine ⟨table, ?_, by simpa using hreflects⟩
      rcases hledger with rfl | rfl
      · exact hholds
      · exact hholds.of_kept (Ledger.kept_rollback _)

/-! ### Runs -/

/-- An engine whose postings are what the sightings so far have made of them. -/
def Reflects (e : Engine φ) (history : List Sighting) : Prop :=
  ∃ table, e.ledger.Holds table ∧ Ledger.Reflects table history

theorem runCycle_reflects (h : e.Reflects history) (fetcher : Fetcher φ) (company : String)
    (now : Option Time.Stamp) :
    (e.runCycle fetcher company now).2.Reflects
      (history ++ (e.sighting? fetcher company now).toList) := by
  have hsame : e.sighting? fetcher company now = none → e.Reflects
      (history ++ (e.sighting? fetcher company now).toList) := by
    intro hnone
    rw [hnone]
    simpa using h
  unfold runCycle runCycleUnder
  split
  · rename_i fault hfault
    exact hsame (by simp [sighting?, hfault])
  · rename_i hnone
    exact hsame (by simp [sighting?, hnone])
  · rename_i c hstored
    obtain ⟨table, hholds, hreflects⟩ := h
    rw [runStored_eq]
    rcases hreported : e.reported .none fetcher c now with ⟨crash | report, after⟩
    · obtain ⟨table', hholds', hreflects'⟩ :=
        reported_reflects hholds hreflects hstored hreported
      exact ⟨table', by simpa using hholds', hreflects'⟩
    · obtain ⟨table', hholds', hreflects'⟩ :=
        reported_reflects hholds hreflects hstored hreported
      refine ⟨table', ?_, hreflects'⟩
      rw [released_ledger, finish_ledger]
      exact hholds'.of_kept (Ledger.kept_record _ _ _)

theorem runReported_reflects (h : e.Reflects history) (fetcher : Fetcher φ) (company : String) :
    (e.runReported fetcher company).2.Reflects
      (history ++ (e.sighting? fetcher company none).toList) := by
  rw [runReported_eq, runReportedUnder_eq]
  exact runCycle_reflects h fetcher company none

theorem runEach_reflects (fetcher : Fetcher φ) (companies : List String) :
    ∀ {e : Engine φ} {history : List Sighting}, e.Reflects history →
      (e.runEach fetcher companies).2.Reflects (history ++ e.sightingsEach fetcher companies) := by
  induction companies with
  | nil =>
      intro e history h
      simpa [runEach, sightingsEach] using h
  | cons company rest ih =>
      intro e history h
      have hrest := ih (runReported_reflects h fetcher company)
      rw [sightingsEach, ← List.append_assoc]
      exact hrest

theorem runAll_reflects (h : e.Reflects history) (fetcher : Fetcher φ) (workers : Int)
    (companies : Option (List String)) :
    (e.runAll fetcher workers companies).2.Reflects
      (history ++ e.sightingsOfAll fetcher workers companies) := by
  unfold runAll sightingsOfAll
  split
  · simpa using h
  · cases companies with
    | some companies => exact runEach_reflects fetcher companies h
    | none =>
        cases e.ledger.listCompanies true with
        | error fault => simpa using h
        | ok rows => exact runEach_reflects fetcher (rows.map (·.id)) h

/-! ### Steps that are no cycles -/

/-- A step that makes no sighting and keeps the postings keeps them true to the sightings. -/
theorem Reflects.unsighted (h : e.Reflects history)
    (hkept : ∀ table, e.ledger.Holds table → after.ledger.Holds table) :
    after.Reflects (history ++ []) := by
  obtain ⟨table, hholds, hreflects⟩ := h
  rw [List.append_nil]
  exact ⟨table, hkept table hholds, hreflects⟩

/-- A step that is ordinary keeps the postings true to the sightings. -/
theorem perform_reflects {e : Engine Feeds} (h : e.Reflects history) {step : Step}
    (hordinary : step.isOrdinary = true) :
    (e.perform step).2.Reflects (history ++ e.sightingsOfStep step) := by
  cases step with
  | cycle company now => exact runCycle_reflects h Feeds.fetcher company now
  | runAll workers companies => exact runAll_reflects h Feeds.fetcher workers companies
  | apply company difference page now => cases hordinary
  | act company actions => cases hordinary
  | drop table => cases hordinary
  | connect => exact h.unsighted fun _ hholds => hholds.connect
  | enter _ | register _ | sync | feed _ _ | extractor _ _ | record _ | claim _ | release _ | close
  | setClock _ => exact h.unsighted fun _ hholds => hholds.of_kept (kept_perform e rfl)

theorem run_reflects (steps : List Step) (hordinary : ∀ step ∈ steps, step.isOrdinary = true) :
    ∀ {e : Engine Feeds} {history : List Sighting}, e.Reflects history →
      (e.run steps).Reflects (history ++ e.sightings steps) := by
  induction steps with
  | nil =>
      intro e history h
      simpa [run, sightings] using h
  | cons step rest ih =>
      intro e history h
      have hrest := ih (fun s hs => hordinary s (List.mem_cons_of_mem _ hs))
        (perform_reflects h (hordinary step List.mem_cons_self))
      rw [sightings, ← List.append_assoc]
      exact hrest

/-- No sighting has made anything of the postings of an empty ledger. -/
theorem start_reflects {e : Engine φ} (h : e.ledger = Ledger.unconnected.connect) :
    e.Reflects [] := by
  refine ⟨.empty, ⟨?_, ?_⟩, Ledger.reflects_empty⟩ <;> rw [h] <;> rfl

/-- The address of a vacancy, which is its key. -/
def cookAddress : String := "https://acme.example/jobs/1"

/-- A vacancy is listed, and in the cycle after that it is gone; the clock is set back between. -/
def sampleSteps : List Step :=
  [.extractor "fixed" (.fixed [⟨some "Cook", none, none, none, some cookAddress, none⟩]),
   .enter { (default : Source) with company := "acme", extractor := "fixed", enabled := true },
   .setClock ⟨20⟩, .cycle "acme" none,
   .extractor "fixed" (.fixed []), .setClock ⟨10⟩, .runAll 1 none]

/--
**The postings are what the sightings have made of them.**  After any run from an empty ledger
there is a posting for exactly those keys of a company that one of its sightings has listed;
it is the only one, and it says of these sightings when the first was, when the latest was,
what the last said, and whether and when a sighting has missed it since.
-/
theorem postings_trace_sightings (e : Engine Feeds) (hempty : e.ledger = Ledger.unconnected.connect)
    (steps : List Step) (hordinary : ∀ step ∈ steps, step.isOrdinary = true) :
    ∃ table, (e.run steps).ledger.committed.postings = some table ∧
      ∀ company key,
        ((∃ p ∈ table.rows, p.isAt company key = true) ↔
          ∃ s ∈ sightingsOf (e.sightings steps) company, s.lists key = true) ∧
        ∀ p ∈ table.rows, p.isAt company key = true →
          table.rows.filter (·.isAt company key) = [p] ∧
            p.Traces (sightingsOf (e.sightings steps) company) := by
  obtain ⟨table, hholds, hreflects⟩ := run_reflects steps hordinary (start_reflects hempty)
  rw [List.nil_append] at hreflects
  refine ⟨table, hholds.committed, fun company key => ⟨hreflects.stored company key, ?_⟩⟩
  intro p hp hat
  refine ⟨Ledger.filter_isAt hreflects.schema.places_nodup hp hat, ?_⟩
  rw [← (Posting.isAt_iff.mp hat).1]
  exact hreflects.traces p hp

/-- What the posting of the vacancy says after that run. -/
theorem posting_after_clock_set_back :
    ∃ table p, ((Engine.start ⟨0⟩ 20 []).run sampleSteps).ledger.committed.postings = some table ∧
      table.rows.filter (·.isAt "acme" cookAddress) = [p] ∧
      p.firstSeen = (⟨20⟩ : Time.Instant).text ∧ p.isActive = false ∧
      p.closedAt = some (⟨10⟩ : Time.Instant).text := by
  obtain ⟨table, htable, h⟩ :=
    postings_trace_sightings (Engine.start ⟨0⟩ 20 []) rfl sampleSteps (by decide)
  obtain ⟨hstored, htraces⟩ := h "acme" cookAddress
  have hpast : (sightingsOf ((Engine.start ⟨0⟩ 20 []).sightings sampleSteps) "acme").map
      (fun s => (s.time, s.lists cookAddress)) =
        [((⟨20⟩ : Time.Instant).text, true), ((⟨10⟩ : Time.Instant).text, false)] := by
    decide +kernel
  generalize sightingsOf ((Engine.start ⟨0⟩ 20 []).sightings sampleSteps) "acme" = past
    at hstored htraces hpast
  have hlength : past.length = 2 := by simpa using congrArg List.length hpast
  obtain ⟨a, b, rfl⟩ := List.length_eq_two.mp hlength
  simp only [List.map_cons, List.map_nil, List.cons.injEq, Prod.mk.injEq] at hpast
  obtain ⟨⟨hatime, halists⟩, ⟨hbtime, hblists⟩, -⟩ := hpast
  obtain ⟨p, hp, hat⟩ := hstored.mpr ⟨a, List.mem_cons_self, halists⟩
  obtain ⟨honly, htrace⟩ := htraces p hp hat
  obtain ⟨hfirst, -, -, before, s, listing, after, hpast, hlisted, -, -, hactive, hclosed⟩ := htrace
  rw [(Posting.isAt_iff.mp hat).2] at hfirst hlisted
  simp only [List.find?_cons, halists] at hfirst
  have hslists := Sighting.lists_of_get? hlisted
  obtain ⟨rfl, rfl⟩ : s = a ∧ after = [b] := by
    match before, hpast with
    | [], hpast =>
        simp only [List.nil_append, List.cons.injEq] at hpast
        exact ⟨hpast.1.symm, hpast.2.symm⟩
    | [_], hpast =>
        simp only [List.cons_append, List.nil_append, List.cons.injEq] at hpast
        rw [← hpast.2.1, hblists] at hslists
        cases hslists
    | _ :: _ :: rest, hpast => simp at hpast
  refine ⟨table, p, htable, honly, ?_, hactive, ?_⟩
  · rw [← hatime]
    exact (Option.some.inj hfirst).symm
  · rw [hclosed, ← hbtime]
    rfl

end VacancyLedger.Engine
