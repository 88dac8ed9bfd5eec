/-
What an event does to the sphere of a company.

An event is of one company, or of none in particular.  It leaves the spheres of the other
companies as they were, and what it makes of the sphere of its own, and of every sphere if it
is of none, is said by that sphere.  For steps that are no cycles the new sphere is written
down; for cycles it is enough to know that engines which agree in a sphere agree in it after.

Whatever happens, the tables stay in order and nothing of a company is pending but after a
cycle of its own whose numbers cannot be stored.
-/
import VacancyLedger.Proofs.Engine.Sphere

namespace VacancyLedger

theorem Table.filter_insert {α : Type} (t : Table String α) (key company : String) (value : α) :
    (Table.insert t key value).filter (·.1 == company) =
      if key = company then Table.insert (t.filter (·.1 == company)) key value
      else t.filter (·.1 == company) := by
  unfold Table.insert
  by_cases hown : key = company
  · subst hown
    rw [if_pos rfl]
    have hany : (t.filter (·.1 == key)).any (·.1 == key) = t.any (·.1 == key) := by
      simp [List.any_filter]
    rw [hany]
    split
    · rw [filter_map_of_kept]
      intro entry
      cases hkey : entry.1 == key <;> simp [hkey]
    · simp
  · rw [if_neg hown]
    split
    · rw [filter_map_of_kept]
      · refine (List.map_congr_left fun entry hentry => ?_).trans (List.map_id _)
        have hcompany : entry.1 = company := by simpa using (List.mem_filter.mp hentry).2
        exact if_neg (by simpa [hcompany] using Ne.symm hown)
      · intro entry
        cases hkey : entry.1 == key <;> simp [hkey]
    · simp [hown]

namespace InFlight

theorem holds_claim (f : InFlight) (subject company : String) :
    holds (claim f subject).2 company = (subject == company || holds f company) := by
  unfold claim
  by_cases hclaimed : holds f subject = true
  · rw [if_pos hclaimed]
    by_cases hown : subject = company
    · subst hown
      simp [hclaimed]
    · simp [hown]
  · rw [if_neg hclaimed]
    show (company == subject || holds f company) = _
    rw [Bool.beq_comm]

theorem holds_release (f : InFlight) (subject company : String) :
    holds (release f subject) company = (!(subject == company) && holds f company) := by
  rw [Bool.eq_iff_iff]
  simp only [holds, release, List.contains_iff_mem, List.mem_filter, Bool.and_eq_true,
    Bool.not_eq_true', beq_eq_false_iff_ne, decide_eq_true_eq]
  rw [and_comm, ne_comm]

end InFlight

namespace Engine

/-! ### Events and companies -/

namespace Event

/-- The company that an event is of, if it is of one alone. -/
def subject : Event → Option String
  | .step (.enter source) | .step (.register source) => some source.company
  | .step (.record report) => some report.company
  | .step (.feed company _) | .step (.cycle company _) | .step (.apply company _ _ _)
  | .step (.act company _) | .step (.claim company) | .step (.release company) => some company
  | .cycle _ company _ | .batched _ company => some company
  | _ => none

/-- Whether an event is of a company, or of none in particular. -/
def bearsOn (event : Event) (company : String) : Bool := event.subject.all (· == company)

end Event

/-- The trouble that there is in a single event. -/
def troubleIn (e : Engine Feeds) : Event → Ledger.Trouble
  | .step _ => .none
  | .cycle trouble company _ | .batched trouble company => e.troubleMet trouble company

/-- What the cycles of a company in an event have come to. -/
def resultsOf (e : Engine Feeds) (company : String) : Event → List (Except Crash CycleReport)
  | .step (.cycle subject now) =>
    if subject = company then [(e.runCycle Feeds.fetcher subject now).1] else []
  | .step (.runAll workers companies) =>
    match (e.runAll Feeds.fetcher workers companies).1 with
    | .ok reports => (reports.filter (·.company == company)).map .ok
    | .error _ => []
  | .cycle trouble subject now =>
    if subject = company then [(e.runCycleUnder trouble Feeds.fetcher subject now).1] else []
  | .batched trouble subject =>
    if subject = company then [.ok (e.runReportedUnder trouble Feeds.fetcher subject).1] else []
  | _ => []

/-- An engine that is ready to run cycles. -/
structure Orderly (e : Engine Feeds) : Prop where
  ledger : ∃ table cycles, e.ledger.Ready table cycles
  /-- A source is taken in under its company. -/
  sources : ∀ entry ∈ e.registry.sources, entry.2.company = entry.1

end Engine

/-! ### Steps that are no cycles -/

namespace Sphere

/-- Whether the extractor of a source is there. -/
def knows (s : Sphere) (source : Source) : Bool :=
  (Table.get? s.extractors source.extractor).isSome

/-- The sphere of a company after a source of it was taken in. -/
def registered (s : Sphere) (source : Source) : Sphere :=
  { s with sources := Table.insert s.sources source.company source }

/-- The sphere of a company after sources of it were entered. -/
def entered (s : Sphere) (sources : List Source) : Sphere :=
  { s with share := sources.foldl (·.entered s.now.text) s.share }

/-- The sphere of a company that is in flight or not. -/
def running (s : Sphere) (isRunning : Bool) : Sphere := { s with isRunning }

/-- The sphere of a company after a step that is no cycle. -/
def after (s : Sphere) (company : String) : Engine.Step → Sphere
  | .enter source =>
    if s.knows source && source.company == company then (s.registered source).entered [source]
    else s
  | .register source =>
    if s.knows source && source.company == company then s.registered source else s
  | .sync => s.entered (Table.values s.sources)
  | .feed subject result => if subject == company then { s with feed := some result } else s
  | .extractor name extractor =>
    { s with extractors := (Extractors.add? s.extractors name extractor).getD s.extractors }
  | .claim subject => if subject == company then s.running true else s
  | .release subject => if subject == company then s.running false else s
  | .setClock now => { s with now }
  | _ => s

end Sphere

namespace Engine

variable {e f : Engine Feeds} {company : String} {source : Source}

theorem sphere_register (e : Engine Feeds) (company : String) (source : Source) :
    (e.register source).2.sphere company = (e.sphere company).after company (.register source) := by
  have hknows : (e.sphere company).knows source =
      (Table.get? e.registry.extractors source.extractor).isSome := rfl
  rw [register_eq]
  simp only [Sphere.after, hknows]
  by_cases hknown : (Table.get? e.registry.extractors source.extractor).isSome = true
  · by_cases hown : source.company = company
    · simp [hknown, hown, sphere, Table.filter_insert, Sphere.registered]
    · simp [hknown, hown, sphere, Table.filter_insert]
  · simp [hknown]

/-- Entering a source writes to the share of its company. -/
theorem sphere_enterSource {table : Ledger.Numbered Posting}
    {cycles : Ledger.Numbered RecordedCycle} (h : e.ledger.Ready table cycles) (company : String)
    (source : Source) :
    (e.enterSource source).2.sphere company =
      if source.company == company then (e.sphere company).entered [source]
      else e.sphere company := by
  obtain ⟨c, after, henter, -, -, hown, hothers⟩ := h.enter source e.now.text
  have hafter : (e.enterSource source).2 = { e with ledger := after } := by
    unfold enterSource
    rw [henter]
  rw [hafter]
  by_cases hcompany : source.company = company
  · subst hcompany
    rw [if_pos (beq_self_eq_true _)]
    show (⟨_, _, _, _, _, after.view.share source.company⟩ : Sphere) = _
    rw [hown]
    rfl
  · rw [if_neg (by simpa using hcompany)]
    show (⟨_, _, _, _, _, after.view.share company⟩ : Sphere) = _
    rw [hothers company hcompany]
    rfl

theorem sphere_enter {table : Ledger.Numbered Posting} {cycles : Ledger.Numbered RecordedCycle}
    (h : e.ledger.Ready table cycles) (company : String) (source : Source) :
    (e.enter source).2.sphere company = (e.sphere company).after company (.enter source) := by
  have hknows : (e.sphere company).knows source =
      (Table.get? e.registry.extractors source.extractor).isSome := rfl
  have hregistered := sphere_register e company source
  rw [enter_eq]
  simp only [Sphere.after, hknows] at hregistered ⊢
  by_cases hknown : (Table.get? e.registry.extractors source.extractor).isSome = true
  · have hready : (e.register source).2.ledger.Ready table cycles := by
      rw [register_eq, if_pos hknown]
      exact h
    rw [if_pos hknown, sphere_enterSource hready, hregistered]
    by_cases hown : source.company = company
    · simp [hknown, hown]
    · simp [hknown, hown]
  · simp [hknown]

/-- A company finds its own sources among those that were taken in. -/
theorem Orderly.values_filter (h : e.Orderly) (company : String) :
    (Table.values e.registry.sources).filter (·.company == company) =
      Table.values (e.registry.sources.filter (·.1 == company)) := by
  unfold Table.values
  rw [List.filter_map]
  congr 1
  refine List.filter_congr fun entry hentry => ?_
  rw [Function.comp_apply, h.sources entry hentry]

/-- A step that is no cycle makes of the sphere of a company what the sphere says. -/
theorem sphere_perform (h : e.Orderly) (company : String) {step : Step}
    (hsingle : Event.isSingle (.step step) = true) (hbookkept : step.isBookkept = true) :
    (e.perform step).2.sphere company = (e.sphere company).after company step := by
  obtain ⟨table, cycles, hready⟩ := h.ledger
  cases step with
  | cycle _ _ | runAll _ _ => cases hsingle
  | record _ | apply _ _ _ _ | act _ _ | drop _ | close | connect => cases hbookkept
  | register source => exact sphere_register e company source
  | enter source => exact sphere_enter hready company source
  | sync =>
      obtain ⟨-, hshare, -⟩ :=
        hready.enterAll e.now.text company (Table.values e.registry.sources)
      rw [h.values_filter] at hshare
      show (⟨_, _, _, _, _, (e.ledger.enterAll e.now.text _).2.view.share company⟩ : Sphere) = _
      rw [hshare]
      rfl
  | feed subject result =>
      by_cases hown : subject = company
      · simp [perform, Sphere.after, sphere, hown, Table.get?_insert_self]
      · simp [perform, Sphere.after, sphere, hown, Table.get?_insert_of_ne (Ne.symm hown)]
  | extractor name extractor =>
      have hadded : Extractors.add? (e.sphere company).extractors name extractor =
          Extractors.add? e.registry.extractors name extractor := rfl
      show (e.addExtractor name extractor).2.sphere company = _
      unfold addExtractor
      simp only [Sphere.after, hadded]
      cases Extractors.add? e.registry.extractors name extractor <;> rfl
  | claim subject =>
      show (e.sphere company).running
        (InFlight.holds (InFlight.claim e.inFlight subject).2 company) = _
      rw [InFlight.holds_claim]
      simp only [Sphere.after]
      cases subject == company <;> rfl
  | release subject =>
      show (e.sphere company).running
        (InFlight.holds (InFlight.release e.inFlight subject) company) = _
      rw [InFlight.holds_release]
      simp only [Sphere.after]
      cases subject == company <;> rfl
  | setClock now => rfl

/-- A step of another company leaves the sphere of a company as it was. -/
theorem after_other (s : Sphere) {step : Step}
    (hother : Event.bearsOn (.step step) company = false) : s.after company step = s := by
  unfold Event.bearsOn Event.subject at hother
  cases step with
  | sync | extractor _ _ | runAll _ _ | drop _ | close | connect | setClock _ => cases hother
  | cycle _ _ | record _ | apply _ _ _ _ | act _ _ => rfl
  | enter source | register source =>
      have hne : (source.company == company) = false := hother
      simp [Sphere.after, hne]
  | feed subject _ | claim subject | release subject =>
      have hne : (subject == company) = false := hother
      simp [Sphere.after, hne]

theorem register_orderly (h : e.Orderly) (source : Source) : (e.register source).2.Orderly := by
  rw [register_eq]
  split
  · refine ⟨h.ledger, fun entry hentry => ?_⟩
    rcases Table.mem_insert hentry with rfl | hold
    · rfl
    · exact h.sources entry hold
  · exact h

theorem enterSource_orderly (h : e.Orderly) (source : Source) :
    (e.enterSource source).2.Orderly ∧
      ∀ company, (e.enterSource source).2.ledger.Steady company := by
  obtain ⟨table, cycles, hready⟩ := h.ledger
  obtain ⟨c, after, henter, hafter, hpending, -⟩ := hready.enter source e.now.text
  unfold enterSource
  rw [henter]
  exact ⟨⟨⟨table, cycles, hafter⟩, h.sources⟩, Ledger.steady_of_settled hpending⟩

theorem perform_orderly (h : e.Orderly) {step : Step}
    (hsingle : Event.isSingle (.step step) = true) (hbookkept : step.isBookkept = true) :
    (e.perform step).2.Orderly ∧
      ∀ company, e.ledger.Steady company → (e.perform step).2.ledger.Steady company := by
  cases step with
  | cycle _ _ | runAll _ _ => cases hsingle
  | record _ | apply _ _ _ _ | act _ _ | drop _ | close | connect => cases hbookkept
  | register source =>
      refine ⟨register_orderly h source, fun company hsteady => ?_⟩
      show (e.register source).2.ledger.Steady company
      rw [register_eq]
      split <;> exact hsteady
  | enter source =>
      show (e.enter source).2.Orderly ∧ ∀ company, _ → (e.enter source).2.ledger.Steady company
      rw [enter_eq]
      split
      · obtain ⟨horderly, hsteady⟩ := enterSource_orderly (register_orderly h source) source
        exact ⟨horderly, fun company _ => hsteady company⟩
      · exact ⟨h, fun _ => id⟩
  | sync =>
      obtain ⟨table, cycles, hready⟩ := h.ledger
      have hentered := fun company =>
        hready.enterAll e.now.text company (Table.values e.registry.sources)
      exact ⟨⟨⟨table, cycles, (hentered "").1⟩, h.sources⟩, fun company => (hentered company).2.2⟩
  | extractor name extractor =>
      show (e.addExtractor name extractor).2.Orderly ∧
        ∀ company, _ → (e.addExtractor name extractor).2.ledger.Steady company
      unfold addExtractor
      split
      · exact ⟨h, fun _ => id⟩
      · exact ⟨⟨h.ledger, h.sources⟩, fun _ => id⟩
  | feed _ _ | claim _ | release _ | setClock _ => exact ⟨⟨h.ledger, h.sources⟩, fun _ => id⟩

/-! ### Single events -/

theorem sphere_runReportedUnder (e : Engine Feeds) (trouble : Ledger.Trouble)
    (subject company : String) :
    (e.runReportedUnder trouble Feeds.fetcher subject).2.sphere company =
      (e.runCycleUnder trouble Feeds.fetcher subject none).2.sphere company := by
  rw [runReportedUnder_eq]
  rfl

theorem runReportedUnder_answer (e : Engine Feeds) (trouble : Ledger.Trouble) (subject : String) :
    (e.runReportedUnder trouble Feeds.fetcher subject).1 =
      (e.runCycleUnder trouble Feeds.fetcher subject none).2.answer subject
        (e.runCycleUnder trouble Feeds.fetcher subject none).1 := by
  unfold runReportedUnder
  split
  · rename_i report after hrun
    rw [hrun]
    rfl
  · rename_i crash after hrun
    rw [hrun]
    rfl

/-- An event of another company leaves the sphere of a company as it was. -/
theorem happen_other (h : e.Orderly) {event : Event} (hsingle : event.isSingle = true)
    (hbookkept : event.isBookkept = true) (hother : event.bearsOn company = false)
    (hcalm : e.Calm (e.troubleIn event) company) :
    (e.happen event).sphere company = e.sphere company ∧ e.resultsOf company event = [] := by
  obtain ⟨table, cycles, hready⟩ := h.ledger
  cases event with
  | step step =>
      refine ⟨(sphere_perform h company hsingle hbookkept).trans (after_other _ hother), ?_⟩
      cases step with
      | cycle _ _ | runAll _ _ => cases hsingle
      | _ => rfl
  | cycle trouble subject now =>
      have hne : subject ≠ company := by simpa [Event.bearsOn, Event.subject] using hother
      exact ⟨runCycleUnder_other hready hne hcalm, if_neg hne⟩
  | batched trouble subject =>
      have hne : subject ≠ company := by simpa [Event.bearsOn, Event.subject] using hother
      exact ⟨(sphere_runReportedUnder e trouble subject company).trans
        (runCycleUnder_other hready hne hcalm), if_neg hne⟩

/-- The trouble in an event of a company, or of none in particular, is said by the sphere. -/
theorem troubleIn_of_sphere (he : e.Orderly) (hf : f.Orderly)
    (hsphere : e.sphere company = f.sphere company) {event : Event}
    (hown : event.bearsOn company = true) : e.troubleIn event = f.troubleIn event := by
  obtain ⟨table, cycles, hready⟩ := he.ledger
  obtain ⟨table', cycles', hready'⟩ := hf.ledger
  cases event with
  | step step => rfl
  | cycle trouble subject _ | batched trouble subject =>
      obtain rfl : subject = company := by simpa [Event.bearsOn, Event.subject] using hown
      exact troubleMet_of_sphere hready hready' hsphere trouble

/-- An event of a company, or of none in particular, comes to what the sphere says. -/
theorem happen_agree (he : e.Orderly) (hf : f.Orderly)
    (hsphere : e.sphere company = f.sphere company) {event : Event}
    (hsingle : event.isSingle = true) (hbookkept : event.isBookkept = true)
    (hown : event.bearsOn company = true) (hcalm : e.Calm (e.troubleIn event) company)
    (hcalm' : f.Calm (e.troubleIn event) company) :
    (e.happen event).sphere company = (f.happen event).sphere company ∧
      e.resultsOf company event = f.resultsOf company event := by
  obtain ⟨table, cycles, hready⟩ := he.ledger
  obtain ⟨table', cycles', hready'⟩ := hf.ledger
  cases event with
  | step step =>
      have hafter := sphere_perform he company hsingle hbookkept
      have hafter' := sphere_perform hf company hsingle hbookkept
      refine ⟨hafter.trans ((congrArg (·.after company step) hsphere).trans hafter'.symm), ?_⟩
      cases step with
      | cycle _ _ | runAll _ _ => cases hsingle
      | _ => rfl
  | cycle trouble subject now =>
      obtain rfl : subject = company := by simpa [Event.bearsOn, Event.subject] using hown
      obtain ⟨hresult, hafter⟩ : Agree subject (e.runCycleUnder trouble Feeds.fetcher subject now)
          (f.runCycleUnder trouble Feeds.fetcher subject now) :=
        runCycleUnder_agree hready hready' hsphere hcalm hcalm' now
      refine ⟨hafter, ?_⟩
      simp only [resultsOf]
      rw [hresult]
  | batched trouble subject =>
      obtain rfl : subject = company := by simpa [Event.bearsOn, Event.subject] using hown
      obtain ⟨hresult, hafter⟩ : Agree subject (e.runCycleUnder trouble Feeds.fetcher subject none)
          (f.runCycleUnder trouble Feeds.fetcher subject none) :=
        runCycleUnder_agree hready hready' hsphere hcalm hcalm' none
      refine ⟨(sphere_runReportedUnder e trouble subject subject).trans
        (hafter.trans (sphere_runReportedUnder f trouble subject subject).symm), ?_⟩
      simp only [resultsOf, runReportedUnder_answer, hresult]
      cases (f.runCycleUnder trouble Feeds.fetcher subject none).1 with
      | ok report => rfl
      | error crash => simp only [answer, blankReport_of_sphere hafter]

theorem happen_orderly (h : e.Orderly) {event : Event} (hsingle : event.isSingle = true)
    (hbookkept : event.isBookkept = true) : (e.happen event).Orderly := by
  obtain ⟨table, cycles, hready⟩ := h.ledger
  have hcycle : ∀ trouble subject now,
      (e.runCycleUnder trouble Feeds.fetcher subject now).2.Orderly := by
    intro trouble subject now
    obtain ⟨ledger, metrics, hcycled, hafter⟩ := runCycleUnder_cycled hready trouble subject now
    rw [hafter]
    exact ⟨hready.cycled hcycled, h.sources⟩
  cases event with
  | step step => exact (perform_orderly h hsingle hbookkept).1
  | cycle trouble subject now => exact hcycle trouble subject now
  | batched trouble subject =>
      show (e.runReportedUnder trouble Feeds.fetcher subject).2.Orderly
      rw [runReportedUnder_eq]
      exact ⟨(hcycle trouble subject none).ledger, (hcycle trouble subject none).sources⟩

/-- Nothing of a company is pending after an event if nothing was before, unless the event is a
cycle of the company whose numbers cannot be stored. -/
theorem happen_steady (h : e.Orderly) {event : Event} (hsingle : event.isSingle = true)
    (hbookkept : event.isBookkept = true)
    (hsafe : event.bearsOn company = false ∨ e.eventFits event = true)
    (hsteady : e.ledger.Steady company) : (e.happen event).ledger.Steady company := by
  obtain ⟨table, cycles, hready⟩ := h.ledger
  have hcycle : ∀ {trouble subject now},
      (subject ≠ company ∨ e.cycleFits trouble Feeds.fetcher subject now = true) →
      (e.runCycleUnder trouble Feeds.fetcher subject now).2.ledger.Steady company := by
    intro trouble subject now hsafe
    obtain ⟨ledger, metrics, hcycled, hafter⟩ := runCycleUnder_cycled hready trouble subject now
    rw [hafter]
    exact hcycled.steady hready hsafe hsteady
  cases event with
  | step step => exact (perform_orderly h hsingle hbookkept).2 company hsteady
  | cycle trouble subject now =>
      refine hcycle (hsafe.imp_left fun hother => ?_)
      simpa [Event.bearsOn, Event.subject] using hother
  | batched trouble subject =>
      show (e.runReportedUnder trouble Feeds.fetcher subject).2.ledger.Steady company
      rw [runReportedUnder_eq]
      refine hcycle (hsafe.imp_left fun hother => ?_)
      simpa [Event.bearsOn, Event.subject] using hother

end Engine
end VacancyLedger
