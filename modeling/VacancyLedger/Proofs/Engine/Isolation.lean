/-
Companies are isolated from one another.

Take a run, and strike out of it every step and every entry of a batch that is of another
company.  What is left looks the same to the one company that is left: its postings but for
their numbers, their order, its row, its history, whether it is in flight, and what its cycles
come to.  This is so although all companies share the tables, the numbers, the connection with
what is pending in it and is forgotten when a transaction fails, and the set of those in flight.

The two runs are compared event by event.  An event of another company happens in one of the
runs only, and leaves the sphere of the company as it was; any other happens in both, and comes
to what the sphere says.  Batches differ in what they run, so both runs are unrolled, and it is
single events that are compared.
-/
import VacancyLedger.Proofs.Engine.Confinement

namespace VacancyLedger.Engine

/-! ### What a run does for a company -/

/-- An event without what it does for other companies. -/
def Event.onlyFor (company : String) : Event → Option Event
  | .step (.runAll workers (some companies)) =>
    some (.step (.runAll workers (some (companies.filter (· == company)))))
  | event => if event.bearsOn company then some event else none

/-- What the cycles of a company have come to in a run. -/
def results (e : Engine Feeds) (company : String) : List Event → List (Except Crash CycleReport)
  | [] => []
  | event :: rest => e.resultsOf company event ++ (e.happen event).results company rest

/-- Whether the numbers that the cycles of a company count can be stored, in a run of single
events. -/
def ownFit (e : Engine Feeds) (company : String) : List Event → Bool
  | [] => true
  | event :: rest =>
    (!event.bearsOn company || e.eventFits event) && (e.happen event).ownFit company rest

/-- There is no trouble in a run of single events: the database gives none, and no page has a text
that cannot be encoded. -/
def Untroubled (e : Engine Feeds) : List Event → Prop
  | [] => True
  | event :: rest => e.troubleIn event = .none ∧ (e.happen event).Untroubled rest

variable {e f : Engine Feeds} {company : String}

/-! ### Runs of single events -/

/-- Two runs with the same events that bear on a company, in the same order. -/
inductive AlikeFor (company : String) : List Event → List Event → Prop
  | nil : AlikeFor company [] []
  | left {event : Event} {xs ys : List Event} (hother : event.bearsOn company = false)
      (h : AlikeFor company xs ys) : AlikeFor company (event :: xs) ys
  | right {event : Event} {xs ys : List Event} (hother : event.bearsOn company = false)
      (h : AlikeFor company xs ys) : AlikeFor company xs (event :: ys)
  | both {event : Event} {xs ys : List Event} (hown : event.bearsOn company = true)
      (h : AlikeFor company xs ys) : AlikeFor company (event :: xs) (event :: ys)

theorem AlikeFor.rights {xs ys : List Event} (h : AlikeFor company xs ys) (before : List Event)
    (hothers : ∀ event ∈ before, event.bearsOn company = false) :
    AlikeFor company xs (before ++ ys) := by
  induction before with
  | nil => exact h
  | cons event rest ih =>
      obtain ⟨hother, hrest⟩ := List.forall_mem_cons.mp hothers
      exact .right hother (ih hrest)

theorem alikeFor_of_filter {xs : List Event} :
    ∀ {ys : List Event}, xs.filter (·.bearsOn company) = ys.filter (·.bearsOn company) →
      AlikeFor company xs ys := by
  induction xs with
  | nil =>
      intro ys h
      rw [← List.append_nil ys]
      refine AlikeFor.nil.rights ys fun event hevent => ?_
      exact Bool.eq_false_iff.mpr (List.filter_eq_nil_iff.mp h.symm event hevent)
  | cons event rest ih =>
      intro ys h
      cases hown : event.bearsOn company with
      | false =>
          rw [List.filter_cons_of_neg (by simp [hown])] at h
          exact .left hown (ih h)
      | true =>
          rw [List.filter_cons_of_pos (by simpa using hown)] at h
          obtain ⟨before, after, rfl, hothers, -, hafter⟩ := List.filter_eq_cons_iff.mp h.symm
          exact (AlikeFor.both hown (ih hafter.symm)).rights before fun x hx =>
            Bool.eq_false_iff.mpr (hothers x hx)

/-- Whether a run is of single events that write no postings and no history but by cycles. -/
def Plain (events : List Event) : Prop :=
  ∀ event ∈ events, event.isSingle = true ∧ event.isBookkept = true

theorem live_orderly (events : List Event) :
    ∀ {e : Engine Feeds}, e.Orderly → Plain events → (e.live events).Orderly := by
  induction events with
  | nil => exact fun h _ => h
  | cons event rest ih =>
      intro e h hplain
      obtain ⟨⟨hsingle, hbookkept⟩, hrest⟩ := List.forall_mem_cons.mp hplain
      exact ih (happen_orderly h hsingle hbookkept) hrest

theorem safe_of_ownFit {event : Event} {rest : List Event}
    (h : e.ownFit company (event :: rest) = true) :
    (event.bearsOn company = false ∨ e.eventFits event = true) ∧
      (e.happen event).ownFit company rest = true := by
  simpa [ownFit] using h

theorem live_steady (events : List Event) :
    ∀ {e : Engine Feeds}, e.Orderly → Plain events → e.ownFit company events = true →
      e.ledger.Steady company → (e.live events).ledger.Steady company := by
  induction events with
  | nil => exact fun _ _ _ h => h
  | cons event rest ih =>
      intro e h hplain hfit hsteady
      obtain ⟨⟨hsingle, hbookkept⟩, hrest⟩ := List.forall_mem_cons.mp hplain
      obtain ⟨hsafe, hfit'⟩ := safe_of_ownFit hfit
      exact ih (happen_orderly h hsingle hbookkept) hrest hfit'
        (happen_steady h hsingle hbookkept hsafe hsteady)

theorem eventFits_of_sphere (he : e.Orderly) (hf : f.Orderly)
    (hsphere : e.sphere company = f.sphere company) {event : Event}
    (hown : event.bearsOn company = true) (hcalm : e.Calm (e.troubleIn event) company)
    (hcalm' : f.Calm (e.troubleIn event) company) : e.eventFits event = f.eventFits event := by
  obtain ⟨table, cycles, hready⟩ := he.ledger
  obtain ⟨table', cycles', hready'⟩ := hf.ledger
  cases event with
  | step step => rfl
  | cycle trouble subject now =>
      obtain rfl : subject = company := by simpa [Event.bearsOn, Event.subject] using hown
      exact cycleFits_of_sphere hready hready' hsphere hcalm hcalm'
  | batched trouble subject =>
      obtain rfl : subject = company := by simpa [Event.bearsOn, Event.subject] using hown
      exact cycleFits_of_sphere hready hready' hsphere hcalm hcalm'

/-- Nothing of a company is forgotten in two runs: there is no trouble in them, or nothing of it is
pending and what its cycles count can be stored. -/
def Safe (e f : Engine Feeds) (company : String) (xs ys : List Event) : Prop :=
  e.Untroubled xs ∧ f.Untroubled ys ∨
    e.ledger.Steady company ∧ f.ledger.Steady company ∧ e.ownFit company xs = true

namespace Safe

variable {event : Event} {xs ys : List Event}

theorem calm (h : Safe e f company (event :: xs) ys) : e.Calm (e.troubleIn event) company :=
  h.imp (fun hnone => hnone.1.1) fun hsteady => hsteady.1

theorem calm' (h : Safe e f company xs (event :: ys)) : f.Calm (f.troubleIn event) company :=
  h.imp (fun hnone => hnone.2.1) fun hsteady => hsteady.2.1

theorem left (h : Safe e f company (event :: xs) ys) (he : e.Orderly)
    (hplain : Plain (event :: xs)) (hother : event.bearsOn company = false) :
    Safe (e.happen event) f company xs ys := by
  obtain ⟨⟨hsingle, hbookkept⟩, -⟩ := List.forall_mem_cons.mp hplain
  rcases h with ⟨hnone, hnone'⟩ | ⟨hsteady, hsteady', hfit⟩
  · exact .inl ⟨hnone.2, hnone'⟩
  · exact .inr ⟨happen_steady he hsingle hbookkept (.inl hother) hsteady, hsteady',
      (safe_of_ownFit hfit).2⟩

theorem right (h : Safe e f company xs (event :: ys)) (hf : f.Orderly)
    (hplain : Plain (event :: ys)) (hother : event.bearsOn company = false) :
    Safe e (f.happen event) company xs ys := by
  obtain ⟨⟨hsingle, hbookkept⟩, -⟩ := List.forall_mem_cons.mp hplain
  rcases h with ⟨hnone, hnone'⟩ | ⟨hsteady, hsteady', hfit⟩
  · exact .inl ⟨hnone, hnone'.2⟩
  · exact .inr ⟨hsteady, happen_steady hf hsingle hbookkept (.inl hother) hsteady', hfit⟩

theorem both (h : Safe e f company (event :: xs) (event :: ys)) (he : e.Orderly) (hf : f.Orderly)
    (hplain : Plain (event :: xs)) (hsame : e.eventFits event = f.eventFits event) :
    Safe (e.happen event) (f.happen event) company xs ys := by
  obtain ⟨⟨hsingle, hbookkept⟩, -⟩ := List.forall_mem_cons.mp hplain
  rcases h with ⟨hnone, hnone'⟩ | ⟨hsteady, hsteady', hfit⟩
  · exact .inl ⟨hnone.2, hnone'.2⟩
  · obtain ⟨hhead, htail⟩ := safe_of_ownFit hfit
    exact .inr ⟨happen_steady he hsingle hbookkept hhead hsteady,
      happen_steady hf hsingle hbookkept (hhead.imp_right (hsame ▸ ·)) hsteady', htail⟩

end Safe

/-- Runs that do the same for a company come to the same for it. -/
theorem live_agree {xs ys : List Event} (h : AlikeFor company xs ys) :
    ∀ {e f : Engine Feeds}, e.Orderly → f.Orderly → e.sphere company = f.sphere company →
      Plain xs → Plain ys → Safe e f company xs ys →
      (e.live xs).sphere company = (f.live ys).sphere company ∧
        e.results company xs = f.results company ys ∧
        e.ownFit company xs = f.ownFit company ys := by
  induction h with
  | nil => exact fun _ _ hsphere _ _ _ => ⟨hsphere, rfl, rfl⟩
  | @left event xs ys hother _ ih =>
      intro e f he hf hsphere hxs hys hsafe
      obtain ⟨⟨hsingle, hbookkept⟩, hxs'⟩ := List.forall_mem_cons.mp hxs
      obtain ⟨hkept, hresults⟩ :=
        happen_other he hsingle hbookkept hother hsafe.calm
      obtain ⟨hend, hrest, hfits⟩ := ih (happen_orderly he hsingle hbookkept) hf
        (hkept.trans hsphere) hxs' hys (hsafe.left he hxs hother)
      refine ⟨hend, ?_, ?_⟩
      · rw [results, hresults, List.nil_append, hrest]
      · rw [ownFit, hother, ← hfits]
        rfl
  | @right event xs ys hother _ ih =>
      intro e f he hf hsphere hxs hys hsafe
      obtain ⟨⟨hsingle, hbookkept⟩, hys'⟩ := List.forall_mem_cons.mp hys
      obtain ⟨hkept, hresults⟩ :=
        happen_other hf hsingle hbookkept hother hsafe.calm'
      obtain ⟨hend, hrest, hfits⟩ := ih he (happen_orderly hf hsingle hbookkept)
        (hsphere.trans hkept.symm) hxs hys' (hsafe.right hf hys hother)
      refine ⟨hend, ?_, ?_⟩
      · rw [hrest]
        show _ = f.resultsOf company event ++ _
        rw [hresults, List.nil_append]
      · rw [hfits]
        show _ = ((!event.bearsOn company || f.eventFits event) && _)
        rw [hother]
        rfl
  | @both event xs ys hown _ ih =>
      intro e f he hf hsphere hxs hys hsafe
      obtain ⟨⟨hsingle, hbookkept⟩, hxs'⟩ := List.forall_mem_cons.mp hxs
      obtain ⟨-, hys'⟩ := List.forall_mem_cons.mp hys
      have hcalm := hsafe.calm
      have hcalm' := hsafe.calm'
      rw [← troubleIn_of_sphere he hf hsphere hown] at hcalm'
      obtain ⟨hafter, hresults⟩ :=
        happen_agree he hf hsphere hsingle hbookkept hown hcalm hcalm'
      have hfit := eventFits_of_sphere he hf hsphere hown hcalm hcalm'
      obtain ⟨hend, hrest, hfits⟩ := ih (happen_orderly he hsingle hbookkept)
        (happen_orderly hf hsingle hbookkept) hafter hxs' hys' (hsafe.both he hf hxs hfit)
      refine ⟨hend, ?_, ?_⟩
      · rw [results, hresults, hrest]
        rfl
      · rw [ownFit, hfit, hfits]
        rfl

/-! ### Batches -/

theorem filter_batched (companies : List String) :
    (companies.map (Event.batched .none)).filter (·.bearsOn company) =
      (companies.filter (· == company)).map (.batched .none) := by
  rw [List.filter_map]
  rfl

/-- How often a batch of all companies that are enabled runs one is said by its sphere. -/
theorem filter_batchOf_enabled {table : Ledger.Numbered Posting}
    {cycles : Ledger.Numbered RecordedCycle} (h : e.ledger.Ready table cycles) (workers : Int) :
    (e.batchOf workers none).filter (· == company) =
      if workers < 1 then []
      else List.replicate
        ((e.sphere company).share.companies.countP (·.source.enabled)) company := by
  obtain ⟨rows, hview⟩ := h.view
  have hrows : e.ledger.view.companies = some rows := by rw [hview]
  obtain ⟨listed, hlisted, hperm, -⟩ := Ledger.listCompanies_enabled h.connected hrows
  unfold batchOf
  split
  · rfl
  · rw [hlisted]
    show (listed.map (·.id)).filter (· == company) = _
    rw [List.filter_beq]
    congr 1
    show _ = ((e.ledger.view.companies.getD []).filter (·.id == company)).countP (·.source.enabled)
    rw [hrows, Option.getD_some, List.countP_filter, (hperm.map _).count_eq, List.count,
      List.countP_map, List.countP_filter]
    exact List.countP_congr fun c _ => by simp [and_comm]

theorem parts_of_isSingle (e : Engine Feeds) {event : Event} (h : event.isSingle = true) :
    e.parts event = [event] := by
  unfold parts
  split
  · cases h
  · cases h
  · rfl

theorem onlyFor_eq (event : Event) (h : ∀ workers companies,
    event ≠ .step (.runAll workers (some companies))) :
    event.onlyFor company = if event.bearsOn company then some event else none := by
  unfold Event.onlyFor
  split
  · exact absurd rfl (h _ _)
  · rfl

/-- The single events that make up what an event does for a company. -/
def partsFor (e : Engine Feeds) (company : String) (event : Event) : List Event :=
  (event.onlyFor company).elim [] e.parts

/-- An event without what it does for other companies does the same for a company. -/
theorem parts_alikeFor (he : e.Orderly) (hf : f.Orderly)
    (hsphere : e.sphere company = f.sphere company) (event : Event) :
    AlikeFor company (e.parts event) (f.partsFor company event) := by
  unfold partsFor
  obtain ⟨table, cycles, hready⟩ := he.ledger
  obtain ⟨table', cycles', hready'⟩ := hf.ledger
  refine alikeFor_of_filter ?_
  by_cases hsingle : event.isSingle = true
  · rw [parts_of_isSingle e hsingle, onlyFor_eq event (by rintro _ _ rfl; cases hsingle)]
    cases hown : event.bearsOn company with
    | false => simp [hown]
    | true => simp [parts_of_isSingle f hsingle]
  · cases event with
    | cycle _ _ _ | batched _ _ => exact absurd rfl hsingle
    | step step =>
        cases step with
        | cycle subject now =>
            rw [onlyFor_eq _ fun _ _ h => by cases h]
            by_cases hown : subject = company
            · simp [parts, Event.bearsOn, Event.subject, hown]
            · simp [parts, Event.bearsOn, Event.subject, hown]
        | runAll workers companies =>
            cases companies with
            | some companies =>
                show ((e.batchOf workers _).map _).filter _ = ((f.batchOf workers _).map _).filter _
                rw [filter_batched, filter_batched]
                unfold batchOf
                split
                · rfl
                · simp only [List.filter_filter, Bool.and_self]
            | none =>
                show ((e.batchOf workers _).map _).filter _ = ((f.batchOf workers _).map _).filter _
                rw [filter_batched, filter_batched, filter_batchOf_enabled hready,
                  filter_batchOf_enabled hready', hsphere]
        | _ => exact absurd rfl hsingle

theorem ownFit_append (xs ys : List Event) :
    ∀ e : Engine Feeds,
      e.ownFit company (xs ++ ys) = (e.ownFit company xs && (e.live xs).ownFit company ys) := by
  induction xs with
  | nil => exact fun e => rfl
  | cons event rest ih =>
      intro e
      rw [List.cons_append, ownFit, ownFit, ih, Bool.and_assoc]
      rfl

theorem untroubled_append (xs ys : List Event) :
    ∀ e : Engine Feeds,
      e.Untroubled (xs ++ ys) ↔ e.Untroubled xs ∧ (e.live xs).Untroubled ys := by
  induction xs with
  | nil => exact fun e => by simp [Untroubled, live]
  | cons event rest ih =>
      intro e
      rw [List.cons_append, Untroubled, Untroubled, ih, and_assoc]
      rfl

theorem runReported_company (e : Engine Feeds) (subject : String) :
    (e.runReported Feeds.fetcher subject).1.company = subject := by
  rw [runReported_eq, runReportedUnder_answer]
  cases hresult : (e.runCycleUnder .none Feeds.fetcher subject none).1 with
  | ok report => exact runCycle_company hresult
  | error crash => rfl

/-- A batch answers for the cycles that it runs. -/
theorem results_batched (companies : List String) :
    ∀ e : Engine Feeds,
      ((e.runEach Feeds.fetcher companies).1.filter (·.company == company)).map .ok =
        e.results company (companies.map (.batched .none)) := by
  induction companies with
  | nil => exact fun e => rfl
  | cons subject rest ih =>
      intro e
      have hcompany := runReported_company e subject
      rw [List.map_cons, results, ← ih]
      show List.map _ (((e.runReported Feeds.fetcher subject).1 :: _).filter _) = _
      by_cases hown : subject = company
      · rw [List.filter_cons_of_pos (by simpa [hcompany] using hown)]
        simp only [resultsOf, if_pos hown]
        rfl
      · rw [List.filter_cons_of_neg (by simpa [hcompany] using hown)]
        simp only [resultsOf, if_neg hown]
        rfl

theorem results_parts (e : Engine Feeds) (company : String) (event : Event) :
    e.resultsOf company event = e.results company (e.parts event) := by
  have hone : ∀ single : Event, e.resultsOf company single = e.results company [single] :=
    fun single => (List.append_nil _).symm
  unfold parts
  split
  · exact hone (.cycle .none _ _)
  · rename_i workers companies
    rw [← results_batched]
    simp only [resultsOf, runAll, batchOf]
    by_cases hworkers : workers < 1
    · simp only [if_pos hworkers]
      rfl
    · simp only [if_neg hworkers]
      cases companies with
      | some companies => rfl
      | none => cases e.ledger.listCompanies true <;> rfl
  · exact hone _

/-! ### Runs -/

theorem plain_parts (e : Engine Feeds) {event : Event} (h : event.isBookkept = true) :
    Plain (e.parts event) := by
  intro single hsingle
  have hin : single ∈ e.unrolled [event] := List.mem_append_left _ hsingle
  refine ⟨isSingle_unrolled hin, isBookkept_unrolled (fun x hx => ?_) hin⟩
  rw [List.mem_singleton.mp hx]
  exact h

theorem plain_partsFor (e : Engine Feeds) (company : String) {event : Event}
    (h : event.isBookkept = true) : Plain (e.partsFor company event) := by
  unfold partsFor Event.onlyFor
  split
  · exact @plain_parts e (.step (.runAll _ (some _))) rfl
  · split
    · exact plain_parts e h
    · exact fun single hin => by cases hin

theorem unrolled_partsFor (e : Engine Feeds) (company : String) (event : Event)
    (rest : List Event) :
    e.unrolled ((event :: rest).filterMap (·.onlyFor company)) =
      e.partsFor company event ++
        (e.live (e.partsFor company event)).unrolled (rest.filterMap (·.onlyFor company)) := by
  unfold partsFor
  rw [List.filterMap_cons]
  cases event.onlyFor company with
  | none => rfl
  | some kept =>
      show e.unrolled (kept :: _) = e.parts kept ++ (e.live (e.parts kept)).unrolled _
      rw [unrolled, live_parts]

theorem live_partsFor (e : Engine Feeds) (company : String) (event : Event) (rest : List Event) :
    e.live ((event :: rest).filterMap (·.onlyFor company)) =
      (e.live (e.partsFor company event)).live (rest.filterMap (·.onlyFor company)) := by
  unfold partsFor
  rw [List.filterMap_cons]
  cases event.onlyFor company with
  | none => rfl
  | some kept =>
      show (e.happen kept).live _ = (e.live (e.parts kept)).live _
      rw [live_parts]

theorem results_partsFor (e : Engine Feeds) (company : String) (event : Event)
    (rest : List Event) :
    e.results company ((event :: rest).filterMap (·.onlyFor company)) =
      e.results company (e.partsFor company event) ++
        (e.live (e.partsFor company event)).results company
          (rest.filterMap (·.onlyFor company)) := by
  unfold partsFor
  rw [List.filterMap_cons]
  cases event.onlyFor company with
  | none => rfl
  | some kept =>
      show e.results company (kept :: _) =
        e.results company (e.parts kept) ++ (e.live (e.parts kept)).results company _
      rw [results, results_parts, live_parts]

namespace Safe

variable {xs xs' ys ys' : List Event}

theorem first (h : Safe e f company (xs ++ xs') (ys ++ ys')) : Safe e f company xs ys := by
  refine h.imp (fun hnone => ?_) fun hsteady => ?_
  · exact ⟨((untroubled_append _ _ _).mp hnone.1).1, ((untroubled_append _ _ _).mp hnone.2).1⟩
  · obtain ⟨hsteady, hsteady', hfit⟩ := hsteady
    rw [ownFit_append, Bool.and_eq_true] at hfit
    exact ⟨hsteady, hsteady', hfit.1⟩

theorem later (h : Safe e f company (xs ++ xs') (ys ++ ys')) (he : e.Orderly) (hf : f.Orderly)
    (hxs : Plain xs) (hys : Plain ys) (hsame : e.ownFit company xs = f.ownFit company ys) :
    Safe (e.live xs) (f.live ys) company xs' ys' := by
  refine h.imp (fun hnone => ?_) fun hsteady => ?_
  · exact ⟨((untroubled_append _ _ _).mp hnone.1).2, ((untroubled_append _ _ _).mp hnone.2).2⟩
  · obtain ⟨hsteady, hsteady', hfit⟩ := hsteady
    rw [ownFit_append, Bool.and_eq_true] at hfit
    exact ⟨live_steady _ he hxs hfit.1 hsteady, live_steady _ hf hys (hsame ▸ hfit.1) hsteady',
      hfit.2⟩

end Safe

/-- A run and what it does for a company alone come to the same for the company. -/
theorem live_onlyFor (events : List Event) :
    ∀ {e f : Engine Feeds}, e.Orderly → f.Orderly → e.sphere company = f.sphere company →
      (∀ event ∈ events, event.isBookkept = true) →
      Safe e f company (e.unrolled events)
        (f.unrolled (events.filterMap (·.onlyFor company))) →
      (e.live events).Orderly ∧ (f.live (events.filterMap (·.onlyFor company))).Orderly ∧
        (e.live events).sphere company =
          (f.live (events.filterMap (·.onlyFor company))).sphere company ∧
        e.results company events =
          f.results company (events.filterMap (·.onlyFor company)) := by
  induction events with
  | nil => exact fun he hf hsphere _ _ => ⟨he, hf, hsphere, rfl⟩
  | cons event rest ih =>
      intro e f he hf hsphere hevents hsafe
      obtain ⟨hbookkept, hrest⟩ := List.forall_mem_cons.mp hevents
      have hplain := plain_parts e hbookkept
      have hplain' := plain_partsFor f company hbookkept
      rw [unrolled, unrolled_partsFor, ← live_parts e] at hsafe
      have hsafe' : Safe e f company (e.parts event) (f.partsFor company event) :=
        hsafe.first
      obtain ⟨hafter, hsame, hfits⟩ := live_agree (parts_alikeFor he hf hsphere event) he hf hsphere
        hplain hplain' hsafe'
      have hlater := hsafe.later he hf hplain hplain' hfits
      obtain ⟨hend, hend', hfinal, htail⟩ := ih (live_orderly _ he hplain)
        (live_orderly _ hf hplain') hafter hrest hlater
      rw [live_parts] at hend hfinal htail
      rw [live_partsFor, results_partsFor]
      refine ⟨hend, hend', hfinal, ?_⟩
      rw [results, results_parts, hsame, htail]

/--
**Companies are isolated.**  Take any run from an empty ledger in which companies are entered,
pages are served and cycles are run, alone or in batches, and strike out of it what is of other
companies than one.  The two runs agree in what they leave of that company: its postings but
for their numbers, and the order of these; its row; its history; whether it is in flight; and
all that its cycles have come to.  The cycles of the other companies may fail in any way, and
there may be any trouble so long as what the cycles of the company count can be stored.
-/
theorem companies_isolated (e : Engine Feeds) (hempty : e.ledger = Ledger.unconnected.connect)
    (hsources : e.registry.sources = []) (company : String) (events : List Event)
    (hbookkept : ∀ event ∈ events, event.isBookkept = true)
    (hsafe : e.Untroubled (e.unrolled events) ∧
        e.Untroubled (e.unrolled (events.filterMap (·.onlyFor company))) ∨
      e.ownFit company (e.unrolled events) = true) :
    let alone := events.filterMap (·.onlyFor company)
    ∃ table cycles table' cycles',
      (e.live events).ledger.committed.postings = some table ∧
      (e.live events).ledger.committed.cycles = some cycles ∧
      (e.live alone).ledger.committed.postings = some table' ∧
      (e.live alone).ledger.committed.cycles = some cycles' ∧
      (table.rows.filter (·.company == company)).map (·.unnumbered) =
        (table'.rows.filter (·.company == company)).map (·.unnumbered) ∧
      table.rows.Pairwise (fun p q => p.id < q.id) ∧
      table'.rows.Pairwise (fun p q => p.id < q.id) ∧
      (e.live events).ledger.company? company = (e.live alone).ledger.company? company ∧
      (cycles.rows.filter (·.report.company == company)).map (·.report) =
        (cycles'.rows.filter (·.report.company == company)).map (·.report) ∧
      cycles.rows.Pairwise (fun a b => a.id < b.id) ∧
      cycles'.rows.Pairwise (fun a b => a.id < b.id) ∧
      InFlight.holds (e.live events).inFlight company =
        InFlight.holds (e.live alone).inFlight company ∧
      e.results company events = e.results company alone := by
  intro alone
  have hstart : e.Orderly := by
    refine ⟨⟨.empty, .empty, ?_⟩, ?_⟩
    · rw [hempty]
      exact Ledger.ready_start
    · rw [hsources]
      exact fun entry hentry => by cases hentry
  have hsteady : e.ledger.Steady company := by
    rw [hempty]
    exact Ledger.steady_of_settled rfl company
  obtain ⟨⟨⟨table, cycles, hready⟩, -⟩, ⟨⟨table', cycles', hready'⟩, -⟩, hsphere, hresults⟩ :=
    live_onlyFor events hstart hstart rfl hbookkept
      (hsafe.imp_right fun hfit => ⟨hsteady, hsteady, hfit⟩)
  have hshare := congrArg Sphere.share hsphere
  obtain ⟨rows, hcommitted⟩ := hready.committed
  obtain ⟨rows', hcommitted'⟩ := hready'.committed
  obtain ⟨viewed, hview⟩ := hready.view
  obtain ⟨viewed', hview'⟩ := hready'.view
  refine ⟨table, cycles, table', cycles', ?_, ?_, ?_, ?_, ?_, hready.postings.ids_lt,
    hready'.postings.ids_lt, ?_, ?_, hready.history.ids_lt, hready'.history.ids_lt,
    congrArg Sphere.isRunning hsphere, hresults⟩
  · rw [hcommitted]
  · rw [hcommitted]
  · rw [hcommitted']
  · rw [hcommitted']
  · have hpostings := congrArg Ledger.Share.postings hshare
    simp only [sphere, hview, hview'] at hpostings
    exact hpostings
  · rw [hready.company?_eq, hready'.company?_eq]
    exact congrArg (fun s => Except.ok s.companies.head?) hshare
  · have hreports := congrArg Ledger.Share.reports hshare
    simp only [sphere, hview, hview'] at hreports
    exact hreports

/-- A run of two companies whose pages hold the same adverts.  The cycles of the other company come
first, fail for trouble and crash; they take numbers, and they forget what is pending. -/
def crowdedEvents : List Event :=
  [.step (listedAs [some "Cook", some "Waiter"]),
   .step (.enter ⟨"beta", "", none, "", none, "fixed", true⟩),
   .step (.runAll 1 none),
   .step (.enter ⟨"acme", "", none, "", none, "fixed", true⟩),
   .step (.runAll 1 (some ["nobody", "acme", "beta"])),
   .step (listedAs [some "Cook"]),
   .cycle ⟨none, fun _ => some (.trouble "disk is full"), none⟩ "beta" none,
   .step (.claim "beta"),
   .step (.runAll 1 (some ["beta", "acme"])),
   .step (.release "beta"),
   .step (.extractor "fixed" (.fixed [⟨some "Cook", none, none, some "<![foo]>", none, none⟩])),
   .batched .none "beta"]

/-- A company with company has other numbers than on its own, and nothing else is different. -/
theorem companies_isolated_crowded :
    let crowded := (Engine.start ⟨0⟩ 20 []).live crowdedEvents
    let alone := (Engine.start ⟨0⟩ 20 []).live (crowdedEvents.filterMap (·.onlyFor "acme"))
    ∃ table table', crowded.ledger.committed.postings = some table ∧
      alone.ledger.committed.postings = some table' ∧
      (table.rows.filter (·.company == "acme")).map (·.unnumbered) =
        (table'.rows.filter (·.company == "acme")).map (·.unnumbered) ∧
      (table.rows.filter (·.company == "acme")).map (fun p => (p.id, p.isActive)) =
        [(3, true), (4, false)] ∧
      table'.rows.map (fun p => (p.id, p.isActive)) = [(1, true), (2, false)] ∧
      crowded.ledger.company? "acme" = alone.ledger.company? "acme" := by
  have hisolated := companies_isolated (Engine.start ⟨0⟩ 20 []) rfl rfl "acme" crowdedEvents
    (by decide) (.inr (by decide +kernel))
  dsimp only at hisolated
  have hnumbers : ((Engine.start ⟨0⟩ 20 []).live crowdedEvents).ledger.committed.postings.map
      (fun table => (table.rows.filter (·.company == "acme")).map fun p => (p.id, p.isActive)) =
        some [(3, true), (4, false)] := by
    decide +kernel
  have hnumbers' : ((Engine.start ⟨0⟩ 20 []).live (crowdedEvents.filterMap
      (·.onlyFor "acme"))).ledger.committed.postings.map
        (fun table => table.rows.map fun p => (p.id, p.isActive)) =
          some [(1, true), (2, false)] := by
    decide +kernel
  generalize (Engine.start ⟨0⟩ 20 []).live crowdedEvents = crowded at hisolated hnumbers ⊢
  generalize (Engine.start ⟨0⟩ 20 []).live (crowdedEvents.filterMap (·.onlyFor "acme")) = alone
    at hisolated hnumbers' ⊢
  obtain ⟨table, -, table', -, htable, -, htable', -, hpostings, -, -, hcompany, -⟩ := hisolated
  rw [htable, Option.map_some, Option.some.injEq] at hnumbers
  rw [htable', Option.map_some, Option.some.injEq] at hnumbers'
  exact ⟨table, table', htable, htable', hpostings, hnumbers, hnumbers', hcompany⟩

end VacancyLedger.Engine
