/-
What happens to an engine.

A run is a list of steps, and in none of these does the database give any trouble.  The
trouble that a cycle may meet is a parameter of it, so runs with trouble in them are lists of
events: a step, a cycle that meets trouble, or one of the cycles of a batch that does.  Such a
run can be unrolled into single events, each of which is one cycle or no cycle at all; what
holds of these by induction holds of batches as well.
-/
import VacancyLedger.Engine.Step
import VacancyLedger.Proofs.Engine.Cycle

namespace VacancyLedger.Engine

variable {φ : Type}

/-- Runs a cycle of a batch, the database giving trouble. -/
def runReportedUnder (e : Engine φ) (trouble : Ledger.Trouble) (fetcher : Fetcher φ)
    (company : String) : CycleReport × Engine φ :=
  match e.runCycleUnder trouble fetcher company none with
  | (.ok report, e) => (report, e)
  | (.error crash, e) =>
    let report := e.blankReport company .error (some crash.reportText) (some crash.name)
    (report, e.observe report)

/-- The cycles of a batch that is simply run meet no trouble. -/
theorem runReported_eq (e : Engine φ) (fetcher : Fetcher φ) (company : String) :
    e.runReported fetcher company = e.runReportedUnder .none fetcher company := rfl

/-- In a batch a cycle is counted in another way, and nothing else is different. -/
theorem runReportedUnder_eq (e : Engine φ) (trouble : Ledger.Trouble) (fetcher : Fetcher φ)
    (company : String) :
    (e.runReportedUnder trouble fetcher company).2 =
      { (e.runCycleUnder trouble fetcher company none).2 with
        metrics := (e.runReportedUnder trouble fetcher company).2.metrics } := by
  unfold runReportedUnder
  split
  · rename_i report after hrun
    rw [hrun]
  · rename_i crash after hrun
    rw [hrun]
    rfl

/-- What can happen to an engine whose pages are served from feeds. -/
inductive Event where
  | step (s : Step)
  /-- A cycle that may meet trouble. -/
  | cycle (trouble : Ledger.Trouble) (company : String) (now : Option Time.Stamp)
  /-- A cycle of a batch that may meet trouble. -/
  | batched (trouble : Ledger.Trouble) (company : String)

/-- The engine after an event. -/
def happen (e : Engine Feeds) : Event → Engine Feeds
  | .step s => (e.perform s).2
  | .cycle trouble company now => (e.runCycleUnder trouble Feeds.fetcher company now).2
  | .batched trouble company => (e.runReportedUnder trouble Feeds.fetcher company).2

/-- The engine after events, one after the other. -/
def live (e : Engine Feeds) (events : List Event) : Engine Feeds := events.foldl happen e

theorem live_append (e : Engine Feeds) (first rest : List Event) :
    e.live (first ++ rest) = (e.live first).live rest :=
  List.foldl_append

/-! ### Batches -/

/-- The companies whose cycles a batch runs. -/
def batchOf (e : Engine φ) (workers : Int) (companies : Option (List String)) : List String :=
  if workers < 1 then []
  else
    match companies with
    | some companies => companies
    | none =>
      match e.ledger.listCompanies true with
      | .error _ => []
      | .ok companies => companies.map (·.id)

theorem runAll_eq (e : Engine φ) (fetcher : Fetcher φ) (workers : Int)
    (companies : Option (List String)) :
    (e.runAll fetcher workers companies).2 =
      (e.runEach fetcher (e.batchOf workers companies)).2 := by
  unfold runAll batchOf
  split
  · rfl
  · cases companies with
    | some companies => rfl
    | none => cases e.ledger.listCompanies true <;> rfl

theorem runEach_eq_live (companies : List String) :
    ∀ e : Engine Feeds,
      (e.runEach Feeds.fetcher companies).2 = e.live (companies.map (.batched .none)) := by
  induction companies with
  | nil => exact fun e => rfl
  | cons company rest ih => exact fun e => ih _

/-- The events that make up an event. -/
def parts (e : Engine Feeds) : Event → List Event
  | .step (.cycle company now) => [.cycle .none company now]
  | .step (.runAll workers companies) => (e.batchOf workers companies).map (.batched .none)
  | event => [event]

/-- The single events that make up a run. -/
def unrolled (e : Engine Feeds) : List Event → List Event
  | [] => []
  | event :: rest => e.parts event ++ (e.happen event).unrolled rest

/-- Whether an event is one cycle, or none. -/
def Event.isSingle : Event → Bool
  | .step (.cycle _ _) | .step (.runAll _ _) => false
  | _ => true

theorem live_parts (e : Engine Feeds) (event : Event) :
    e.live (e.parts event) = e.happen event := by
  unfold parts
  split
  · rfl
  · rename_i workers companies
    rw [← runEach_eq_live, ← runAll_eq]
    rfl
  · rfl

/-- A run and what it is unrolled into leave the same engine behind. -/
theorem live_unrolled (events : List Event) :
    ∀ e : Engine Feeds, e.live (e.unrolled events) = e.live events := by
  induction events with
  | nil => exact fun e => rfl
  | cons event rest ih =>
      intro e
      rw [unrolled, live_append, live_parts, ih]
      rfl

/-- Whether an event is a cycle. -/
def Event.isCycle : Event → Bool
  | .step _ => false
  | _ => true

/-- A run is unrolled into cycles and those of its steps that are none. -/
theorem mem_unrolled {events : List Event} {single : Event} :
    ∀ {e : Engine Feeds}, single ∈ e.unrolled events →
      single.isCycle = true ∨ single ∈ events ∧ single.isSingle = true := by
  induction events with
  | nil => exact fun h => by cases h
  | cons event rest ih =>
      intro e h
      rcases List.mem_append.mp h with hfirst | hrest
      · unfold parts at hfirst
        split at hfirst
        · rw [List.mem_singleton.mp hfirst]
          exact Or.inl rfl
        · obtain ⟨company, -, rfl⟩ := List.mem_map.mp hfirst
          exact Or.inl rfl
        · rename_i hcycle hbatch
          obtain rfl := List.mem_singleton.mp hfirst
          refine Or.inr ⟨List.mem_cons_self, ?_⟩
          unfold Event.isSingle
          split
          · exact absurd rfl (hcycle _ _)
          · exact absurd rfl (hbatch _ _)
          · rfl
      · exact (ih hrest).imp_right fun h => ⟨List.mem_cons_of_mem _ h.1, h.2⟩

theorem isSingle_unrolled {e : Engine Feeds} {events : List Event} {single : Event}
    (h : single ∈ e.unrolled events) : single.isSingle = true := by
  rcases mem_unrolled h with hcycle | ⟨-, hsingle⟩
  · cases single with
    | step _ => cases hcycle
    | cycle _ _ _ | batched _ _ => rfl
  · exact hsingle

/-! ### Taking sources in -/

/-- A source is taken in if its extractor is there. -/
theorem register_eq (e : Engine φ) (source : Source) :
    (e.register source).2 =
      if (Table.get? e.registry.extractors source.extractor).isSome then
        { e with
          registry :=
            { e.registry with
              sources := Table.insert e.registry.sources source.company source } }
      else e := by
  unfold register Registry.add
  split
  · rename_i error hrefused
    split at hrefused
    · cases hrefused
    · rename_i hunknown
      rw [if_neg hunknown]
  · rename_i registry htaken
    split at htaken
    · rename_i hknown
      cases htaken
      rw [if_pos hknown]
    · cases htaken

/-- Only a source that was taken in is entered. -/
theorem enter_eq (e : Engine φ) (source : Source) :
    (e.enter source).2 =
      if (Table.get? e.registry.extractors source.extractor).isSome then
        ((e.register source).2.enterSource source).2
      else e := by
  unfold enter register Registry.add
  by_cases hknown : (Table.get? e.registry.extractors source.extractor).isSome = true
  · simp only [hknown, if_true]
  · simp only [hknown]
    rfl

/-! ### Steps that leave the postings alone -/

/-- Whether a step is none of those that may change what is seen of the postings. -/
def Step.leavesPostings : Step → Bool
  | .cycle _ _ | .runAll _ _ | .apply _ _ _ _ | .act _ _ | .drop _ | .connect => false
  | _ => true

theorem kept_register (e : Engine φ) (source : Source) :
    e.ledger.PostingsKept (e.register source).2.ledger := by
  rw [register_eq]
  split <;> exact .refl _

theorem kept_enterSource (e : Engine φ) (source : Source) :
    e.ledger.PostingsKept (e.enterSource source).2.ledger := by
  unfold enterSource
  split
  · exact .refl _
  · rename_i c ledger henter
    exact Ledger.kept_enter henter

theorem kept_enterStep (e : Engine φ) (source : Source) :
    e.ledger.PostingsKept (e.enter source).2.ledger := by
  rw [enter_eq]
  split
  · exact (kept_register e source).trans (kept_enterSource _ source)
  · exact .refl _

theorem kept_perform (e : Engine Feeds) {step : Step} (h : step.leavesPostings = true) :
    e.ledger.PostingsKept (e.perform step).2.ledger := by
  cases step with
  | cycle _ _ | runAll _ _ | apply _ _ _ _ | act _ _ | drop _ | connect => cases h
  | enter source => exact kept_enterStep e source
  | register source => exact kept_register e source
  | sync => exact Ledger.kept_enterAll _ _ e.ledger
  | extractor name extractor =>
      show e.ledger.PostingsKept (e.addExtractor name extractor).2.ledger
      unfold addExtractor
      split <;> exact .refl _
  | record report => exact Ledger.kept_record e.ledger report e.now.text
  | close => exact Ledger.kept_close e.ledger
  | feed _ _ | claim _ | release _ | setClock _ => exact .refl _

end VacancyLedger.Engine
