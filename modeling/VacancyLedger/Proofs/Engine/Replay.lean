/-
Seeing the same page again.

A page is applied by a cycle that ends well, or directly.  Either way the postings of its company
are up to date with it afterwards, and they stay so through anything that is done for others.  So
when a page with the same listings under the same keys is applied the next time, whoever fetches
it and whatever the clock says, all that is noted is that it was seen.

In between the numbers of the company's rows matter as well as what they say, since it is the same
rows that must be there.  Whatever others do passes over them: events are unrolled into single
ones, and each writes for one company at most.

That the next cycle does end well is another matter.  It does if nothing hinders it, and what can
hinder a cycle is known in full.
-/
import VacancyLedger.Proofs.Engine.Failure
import VacancyLedger.Proofs.Engine.PageOrder
import VacancyLedger.Proofs.Ledger.Replay

namespace VacancyLedger

namespace Ledger

variable {l : Ledger} {trouble : Trouble} {company subject now : String} {d : Difference}
  {page : Page}

/-- Applying a page of another company passes over the rows of a company. -/
theorem passesOver_applyUnder {ε : Type} {result : Except (Abort ε) Counts} {after : Ledger}
    (hother : subject ≠ company)
    (h : l.applyUnder trouble subject d page now = (result, after)) :
    l.PassesOver company after := by
  obtain rfl : (l.applyUnder trouble subject d page now : Except (Abort ε) Counts × Ledger).2 =
    after := congrArg Prod.snd h
  exact PassesOver.transaction fun _ _ hwork =>
    Tables.PassesOver.writeDifference hother (mapError_ok hwork)

end Ledger

namespace Engine

/-! ### What is done for others -/

/-- Whether an event that is no batch does not write postings of a company, nor drop a table. -/
def Event.spares (company : String) : Event → Bool
  | .cycle _ subject _ | .batched _ subject | .step (.cycle subject _)
  | .step (.apply subject _ _ _) | .step (.act subject _) => subject != company
  | .step (.runAll _ _) | .step (.drop _) => false
  | .step _ => true

section

variable {φ : Type} {e after : Engine φ} {trouble : Ledger.Trouble} {fetcher : Fetcher φ}
  {c : Company} {company subject : String} {now : Option Time.Stamp}

theorem reported_passesOver {result : Except Crash CycleReport} (hother : c.id ≠ company)
    (h : e.reported trouble fetcher c now = (result, after)) :
    e.ledger.PassesOver company after.ledger := by
  by_cases hclaimed : c.id ∈ e.inFlight
  · rw [reported_claimed trouble fetcher now hclaimed] at h
    cases h
    exact .of_kept (.refl _)
  · obtain ⟨run, hrun, -⟩ := reported_free hclaimed h
    by_cases hdone : ∃ counts, run.outcome = .done counts
    · obtain ⟨counts, hdone⟩ := hdone
      obtain ⟨page, active, time, ledger, -, -, -, happly, rfl⟩ := runClaimed_done hrun hdone
      exact Ledger.passesOver_applyUnder hother happly
    · obtain ⟨ledger, hledger, rfl⟩ := runClaimed_not_done hrun fun counts hc => hdone ⟨counts, hc⟩
      rcases hledger with rfl | rfl
      · exact .of_kept (.refl _)
      · exact .of_kept (Ledger.kept_rollback _)

/-- A cycle of another company passes over the rows of a company. -/
theorem runCycleUnder_passesOver (hother : subject ≠ company) :
    e.ledger.PassesOver company (e.runCycleUnder trouble fetcher subject now).2.ledger := by
  unfold runCycleUnder
  split
  · exact .of_kept (.refl _)
  · exact .of_kept (.refl _)
  · rename_i c hstored
    obtain ⟨-, rfl, -⟩ := company?_ok hstored
    rw [runStored_eq]
    rcases hreported : e.reported trouble fetcher c now with ⟨crash | report, after⟩
    · rw [released_ledger]
      exact reported_passesOver hother hreported
    · rw [released_ledger, finish_ledger]
      exact (reported_passesOver hother hreported).trans (.of_kept (Ledger.kept_record _ _ _))

end

variable {e mid last : Engine Feeds} {company subject time : String} {page again : Page}

theorem applyDifference_passesOver (hother : subject ≠ company) (difference : Option Difference) :
    e.ledger.PassesOver company (e.applyDifference subject difference page time).2.ledger := by
  unfold applyDifference
  split
  · exact .of_kept (.refl _)
  · exact Ledger.passesOver_applyUnder hother rfl

/-- An event that spares the postings of a company passes over its rows. -/
theorem happen_passesOver {event : Event} (h : event.spares company = true) :
    e.ledger.PassesOver company (e.happen event).ledger := by
  cases event with
  | cycle trouble subject now => exact runCycleUnder_passesOver (by simpa [Event.spares] using h)
  | batched trouble subject =>
      show e.ledger.PassesOver company (e.runReportedUnder trouble Feeds.fetcher subject).2.ledger
      rw [runReportedUnder_eq]
      exact runCycleUnder_passesOver (by simpa [Event.spares] using h)
  | step step =>
      cases step with
      | cycle subject now => exact runCycleUnder_passesOver (by simpa [Event.spares] using h)
      | apply subject difference page now =>
          exact applyDifference_passesOver (by simpa [Event.spares] using h) difference
      | act subject actions =>
          have hother : subject ≠ company := by simpa [Event.spares] using h
          exact Ledger.PassesOver.transaction fun _ _ hwork =>
            Ledger.Tables.PassesOver.runActions hother actions hwork
      | runAll _ _ | drop _ => cases h
      | connect => exact fun table hholds hschema => ⟨table, hholds.connect, hschema, rfl⟩
      | enter _ | register _ | sync | feed _ _ | extractor _ _ | record _ | claim _ | release _
      | close | setClock _ => exact .of_kept (kept_perform e rfl)

/-- Events that spare the postings of a company pass over its rows. -/
theorem live_passesOver (events : List Event) :
    ∀ {e : Engine Feeds}, (∀ event ∈ events, event.spares company = true) →
      e.ledger.PassesOver company (e.live events).ledger := by
  induction events with
  | nil => exact fun _ => .of_kept (.refl _)
  | cons event rest ih =>
      intro e h
      obtain ⟨hspares, hrest⟩ := List.forall_mem_cons.mp h
      exact (happen_passesOver hspares).trans (ih hrest)

/-! ### A page that is applied -/

/-- A page of a company is applied at a time, with what it counts and what it leaves: by a cycle
that ends well, whatever trouble the database could have given, or directly. -/
inductive Applies (e : Engine Feeds) (company : String) (page : Page) (time : String) :
    Counts → Engine Feeds → Prop
  | cycle {trouble : Ledger.Trouble} {fetcher : Fetcher Feeds} {now : Option Time.Stamp}
      {c : Company} {report : CycleReport}
      (hstored : e.ledger.company? company = .ok (some c))
      (hpage : e.page? fetcher c.source = some page) (htime : e.cycleTime now = .ok time)
      (h : (e.runCycleUnder trouble fetcher company now).1 = .ok report)
      (hok : report.status = .ok) :
      Applies e company page time report.counts (e.runCycleUnder trouble fetcher company now).2
  | directly {c : Company} {counts : Counts} {after : Engine Feeds}
      (hstored : e.ledger.company? company = .ok (some c)) (hpage : page.Maps)
      (h : e.perform (.apply company none page time) = (.ok (.counts counts), after)) :
      Applies e company page time counts after

/-- The postings are as the schema has them. -/
def IsConstrained (e : Engine Feeds) : Prop :=
  ∀ table, e.ledger.view.postings = some table → Ledger.Constrained table

theorem applyDifference_settles {c : Company} {counts : Counts} {after : Engine Feeds}
    (hschema : e.IsConstrained) (hstored : e.ledger.company? company = .ok (some c))
    (hpage : page.Maps)
    (h : e.applyDifference company none page time = (.ok (.counts counts), after)) :
    ∃ before, e.ledger.view.postings = some before ∧
      counts = Ledger.settledCounts before company
        (Ledger.pageDifference before company page) page time ∧
      after.ledger.Holds
        (before.settled company (Ledger.pageDifference before company page) page time) := by
  obtain ⟨-, rfl, rows, hrows, hin⟩ := company?_ok hstored
  unfold applyDifference at h
  split at h
  · cases h
  · rename_i difference hdifference
    obtain ⟨active, hactive, rfl⟩ := map_ok hdifference
    obtain ⟨-, -, before, hbefore, rfl⟩ := Ledger.activePostingsUnder_ok hactive
    rcases happly : (e.ledger.apply c.id (Ledger.pageDifference before c.id page) page time :
        Except (Ledger.Abort Ledger.ActionError) Counts × Ledger) with ⟨result, ledger⟩
    have hanswer : ((result.mapError StepError.transaction).map StepAnswer.counts,
        { e with ledger }) = (Except.ok (StepAnswer.counts counts), after) := by
      rw [← h]
      unfold Ledger.pageDifference Ledger.activeKeys at happly
      rw [happly]
    obtain ⟨hresult, rfl⟩ := Prod.mk.inj hanswer
    obtain ⟨counts', hmapped, hcounts⟩ := map_ok hresult
    obtain rfl := mapError_ok hmapped
    obtain rfl := StepAnswer.counts.inj hcounts
    obtain ⟨hsettled, rfl⟩ := Ledger.applyUnder_settles hbefore (hschema before hbefore) hrows
      ⟨c, hin, rfl⟩ hpage happly
    exact ⟨before, hbefore, hsettled, rfl, rfl⟩

/-- What applying a page comes to: it is settled, and what that counts is reported. -/
theorem Applies.settles {counts : Counts} (h : e.Applies company page time counts last)
    (hschema : e.IsConstrained) :
    page.Maps ∧ ∃ before, e.ledger.view.postings = some before ∧
      counts = Ledger.settledCounts before company
        (Ledger.pageDifference before company page) page time ∧
      last.ledger.Holds
        (before.settled company (Ledger.pageDifference before company page) page time) := by
  cases h with
  | cycle hstored hpage htime h hok =>
      obtain ⟨c, page', before, time', hstored', hpage', htime', hbefore, hcounts, hafter⟩ :=
        runCycleUnder_settles hschema h hok
      obtain rfl := Option.some.inj (Except.ok.inj (hstored.symm.trans hstored'))
      obtain rfl := Option.some.inj (hpage.symm.trans hpage')
      obtain rfl := Except.ok.inj (htime.symm.trans htime')
      exact ⟨(isNormal_page hpage).1, before, hbefore, hcounts, hafter⟩
  | directly hstored hpage h =>
      exact ⟨hpage, applyDifference_settles hschema hstored hpage h⟩

/--
**Seeing a page again is idempotent.**  When a page of a company was applied, and then things were
done for others, a page with the same listings under the same keys creates, reopens, updates and
closes nothing and renews as many postings as it has keys.  All rows are what they were, but that
those it lists were last seen now, unless they were seen later; if the clock was set back, nothing
changes at all.  A cycle that sees such a page applies it if nothing hinders it.
-/
theorem replay_idempotent {n₁ : String} {counts : Counts} (hschema : e.IsConstrained)
    (hfirst : e.Applies company page n₁ counts mid) (events : List Event)
    (hspared : ∀ event ∈ mid.unrolled events, event.spares company = true) :
    ∃ table, (mid.live events).ledger.Holds table ∧
      ∀ again, (∀ key, Table.get? again key = Table.get? page key) →
        (∀ n₂ counts' last, (mid.live events).Applies company again n₂ counts' last →
          counts' = ⟨0, (Table.keys page).length, 0, 0, 0⟩ ∧
          last.ledger.Holds { table with rows := table.rows.map (·.seenAgain company page n₂) } ∧
          (n₂ ≤ n₁ → last.ledger.Holds table)) ∧
        ∀ trouble fetcher c now, (mid.live events).ledger.company? company = .ok (some c) →
          (mid.live events).page? fetcher c.source = some again →
          ¬ (mid.live events).Hindered trouble fetcher c now →
          (mid.live events).Records trouble fetcher c now →
          ∃ n₂ report,
            ((mid.live events).runCycleUnder trouble fetcher company now).1 = .ok report ∧
            report.status = .ok ∧ (mid.live events).Applies company again n₂ report.counts
              ((mid.live events).runCycleUnder trouble fetcher company now).2 := by
  obtain ⟨hpage, before, hbefore, -, hmid⟩ := hfirst.settles hschema
  have hconstrained : Ledger.Constrained
      (before.settled company (Ledger.pageDifference before company page) page n₁) :=
    Ledger.constrained_settled (hschema before hbefore) hpage _
  obtain ⟨table, hlive, hschema', hrows⟩ := live_passesOver _ hspared _ hmid hconstrained
  rw [live_unrolled] at hlive
  have huptodate := (Ledger.upToDate_settled before company n₁ hpage).of_rowsOf hrows
  refine ⟨table, hlive, fun again hsame => ⟨fun n₂ counts' last hagain => ?_,
    fun trouble fetcher c now hstored hsees hfree hrecords => ?_⟩⟩
  · have hconstrained' : (mid.live events).IsConstrained := fun found hfound =>
      Option.some.inj (hlive.view.symm.trans hfound) ▸ hschema'
    obtain ⟨hagainMaps, found, hfound, rfl, hlast⟩ := hagain.settles hconstrained'
    obtain rfl := Option.some.inj (hlive.view.symm.trans hfound)
    have huptodate' := huptodate.of_same hsame
    have hseen : table.rows.map (·.seenAgain company again n₂) =
        table.rows.map (·.seenAgain company page n₂) :=
      List.map_congr_left fun p _ => Ledger.seenAgain_of_same hsame p
    rw [huptodate'.settled_eq hagainMaps, hseen] at hlast
    refine ⟨?_, hlast, fun hle => ?_⟩
    · rw [huptodate'.settledCounts_eq hschema' hagainMaps,
        Ledger.length_keys_of_same hpage hagainMaps hsame]
    · rwa [huptodate.seenAgain_eq_self hle] at hlast
  · obtain ⟨report, hreport, hok⟩ :=
      runCycleUnder_endsOk hstored hlive.view hschema' hfree hrecords
    obtain ⟨c', page', before', n₂, -, -, htime, -⟩ := runCycleUnder_settles
      (fun found hfound => Option.some.inj (hlive.view.symm.trans hfound) ▸ hschema') hreport hok
    exact ⟨n₂, report, hreport, hok, .cycle hstored hsees htime hreport hok⟩

/-- A source whose extractor always reads the same adverts. -/
def fixedSource (company : String) : Source :=
  { (default : Source) with company, extractor := "fixed" }

/-- Two companies whose pages list the same two vacancies. -/
def twoCompanies : Engine Feeds :=
  (Engine.start ⟨20⟩ 20 []).run
    [.extractor "fixed" (.fixed
      [⟨some "Cook", none, none, none, some cookAddress, none⟩,
       ⟨some "Nurse", some "Köln", some "", some "<p>Nights</p>",
        some "https://acme.example/jobs/2", none⟩]),
     .enter (fixedSource "acme"), .enter (fixedSource "zeta")]

/-- A batch for the other company, one of whose postings is closed then, and the clock set back. -/
def othersMeanwhile : List Event :=
  [.step (.runAll 1 (some ["zeta"])), .step (.act "zeta" [.close cookAddress "2026-01-01"]),
   .step (.setClock ⟨10⟩)]

/-- The two companies after a cycle of the one and all that. -/
def laterOn : Engine Feeds :=
  (twoCompanies.runCycleUnder .none Feeds.fetcher "acme" none).2.live othersMeanwhile

theorem company?_of_source {source : Source}
    (h : (e.ledger.company? company).toOption.map (·.map (·.source)) = some (some source)) :
    ∃ c, e.ledger.company? company = .ok (some c) ∧ c.source = source := by
  obtain ⟨found, hfound, hsource⟩ := Option.map_eq_some_iff.mp h
  obtain ⟨c, rfl, hsame⟩ := Option.map_eq_some_iff.mp hsource
  exact ⟨c, ok_of_toOption hfound, hsame⟩

/-- The page is seen again at an earlier time: two postings are renewed, and no row changes. -/
theorem replay_idempotent_set_back :
    ∃ table report, laterOn.ledger.Holds table ∧
      (laterOn.runCycleUnder .none Feeds.fetcher "acme" none).1 = .ok report ∧
      report.counts = ⟨0, 2, 0, 0, 0⟩ ∧
      (laterOn.runCycleUnder .none Feeds.fetcher "acme" none).2.ledger.Holds table := by
  have hends : (twoCompanies.runCycleUnder .none Feeds.fetcher "acme" none).1.toOption.map
      (·.status) = some .ok := by
    decide +kernel
  have hends' : (laterOn.runCycleUnder .none Feeds.fetcher "acme" none).1.toOption.map
      (·.status) = some .ok := by
    decide +kernel
  have hlisted : (twoCompanies.page? Feeds.fetcher (fixedSource "acme")).map
      (fun page => (Table.keys page).length) = some 2 := by
    decide +kernel
  have hsame : laterOn.page? Feeds.fetcher (fixedSource "acme") =
      twoCompanies.page? Feeds.fetcher (fixedSource "acme") := by
    decide +kernel
  obtain ⟨first, hfirst, hok⟩ := Option.map_eq_some_iff.mp hends
  obtain ⟨second, hsecond, hok'⟩ := Option.map_eq_some_iff.mp hends'
  obtain ⟨page, hpage, hlength⟩ := Option.map_eq_some_iff.mp hlisted
  obtain ⟨c, hstored, hsource⟩ : ∃ c, twoCompanies.ledger.company? "acme" = .ok (some c) ∧
      c.source = fixedSource "acme" := company?_of_source (by decide +kernel)
  obtain ⟨c', hstored', hsource'⟩ : ∃ c, laterOn.ledger.company? "acme" = .ok (some c) ∧
      c.source = fixedSource "acme" := company?_of_source (by decide +kernel)
  have hschema : twoCompanies.IsConstrained := fun table htable => by
    obtain rfl : Ledger.Numbered.empty = table := Option.some.inj htable
    exact Ledger.constrained_empty
  have happlies : twoCompanies.Applies "acme" page twoCompanies.now.text first.counts
      (twoCompanies.runCycleUnder .none Feeds.fetcher "acme" none).2 :=
    .cycle hstored (hsource ▸ hpage) rfl (ok_of_toOption hfirst) hok
  have happlies' : laterOn.Applies "acme" page laterOn.now.text second.counts
      (laterOn.runCycleUnder .none Feeds.fetcher "acme" none).2 :=
    .cycle hstored' (hsource' ▸ hsame.trans hpage) rfl (ok_of_toOption hsecond) hok'
  obtain ⟨table, hholds, hagain⟩ :=
    replay_idempotent hschema happlies othersMeanwhile (by decide +kernel)
  obtain ⟨hcounts, -, hkept⟩ := (hagain page fun _ => rfl).1 _ _ _ happlies'
  rw [hlength] at hcounts
  exact ⟨table, second, hholds, ok_of_toOption hsecond, hcounts, hkept (by decide +kernel)⟩

end Engine
end VacancyLedger
