/-
What can be done with an engine, step by step.

Every step answers with what it has come to and leaves an engine behind, also if it was
refused, so a run is a list of steps and every engine that can come about is left behind by
one.
-/
import VacancyLedger.Engine.Batch
import VacancyLedger.Ledger.Action

namespace VacancyLedger.Engine

/-- What can be done with an engine whose pages are served from feeds. -/
inductive Step where
  /-- Takes a source in and enters its company. -/
  | enter (source : Source)
  /-- Takes a source in. -/
  | register (source : Source)
  /-- Enters the companies of all sources that were taken in. -/
  | sync
  | feed (company : String) (result : Crawl.FetchResult)
  | extractor (name : String) (extractor : Extractor)
  | cycle (company : String) (now : Option Time.Stamp)
  | runAll (workers : Int) (companies : Option (List String))
  | record (report : CycleReport)
  /-- Applies a difference, or the one between what is stored and the page. -/
  | apply (company : String) (difference : Option Difference) (page : Page) (now : String)
  | act (company : String) (actions : List Ledger.Action)
  | claim (company : String)
  | release (company : String)
  | drop (table : String)
  | close
  | connect
  | setClock (now : Time.Instant)

/-- Why a step is refused. -/
inductive StepError where
  | extractor (e : Registry.UnknownExtractor)
  | blankName
  | ledger (f : Ledger.Fault)
  | crash (c : Crash)
  | batch (e : BatchError)
  | transaction (a : Ledger.Abort Ledger.ActionError)

/-- What a step has come to. -/
inductive StepAnswer where
  | done
  | flag (b : Bool)
  | company (c : Company)
  | companies (cs : List Company)
  | report (r : CycleReport)
  | reports (rs : List CycleReport)
  | recorded (c : RecordedCycle)
  | counts (c : Counts)
  | actions (answers : List Ledger.ActionAnswer)

/-- What a step has come to, or why it is refused. -/
abbrev StepResult := Except StepError StepAnswer

variable {φ : Type}

/-! ### Sources -/

/-- Takes a source in. -/
def register (e : Engine φ) (source : Source) : StepResult × Engine φ :=
  match e.registry.add source with
  | .error x => (.error (.extractor x), e)
  | .ok registry => (.ok .done, { e with registry })

/-- Enters the company of a source. -/
def enterSource (e : Engine φ) (source : Source) : StepResult × Engine φ :=
  match e.ledger.enter source e.now.text with
  | .error fault => (.error (.ledger fault), e)
  | .ok (company, ledger) => (.ok (.company company), { e with ledger })

/-- Takes a source in and enters its company. -/
def enter (e : Engine φ) (source : Source) : StepResult × Engine φ :=
  match e.register source with
  | (.error x, e) => (.error x, e)
  | (.ok _, e) => e.enterSource source

/-- Enters the companies of all sources that were taken in. -/
def sync (e : Engine φ) : StepResult × Engine φ :=
  let (result, ledger) := e.ledger.enterAll e.now.text (Table.values e.registry.sources)
  ((result.mapError .ledger).map .companies, { e with ledger })

/-- Puts an extractor under a name. -/
def addExtractor (e : Engine φ) (name : String) (extractor : Extractor) : StepResult × Engine φ :=
  match Extractors.add? e.registry.extractors name extractor with
  | none => (.error .blankName, e)
  | some extractors => (.ok .done, { e with registry := { e.registry with extractors } })

/-! ### Writing to the ledger -/

/-- Records a cycle. -/
def record (e : Engine φ) (report : CycleReport) : StepResult × Engine φ :=
  let (result, ledger) := e.ledger.record report e.now.text
  ((result.mapError .ledger).map fun id => .recorded ⟨id, report⟩, { e with ledger })

/-- The difference between the active postings of a company and a page. -/
def differenceTo (e : Engine φ) (company : String) (page : Page) :
    Except (Ledger.Abort Ledger.ActionError) Difference :=
  (e.ledger.activePostings company).map fun postings =>
    Difference.between (postings.map (·.key)) (Table.keys page)

/-- Applies a difference to the postings of a company. -/
def applyDifference (e : Engine φ) (company : String) (difference : Option Difference)
    (page : Page) (now : String) : StepResult × Engine φ :=
  match difference.elim (e.differenceTo company page) .ok with
  | .error abort => (.error (.transaction abort), e)
  | .ok difference =>
    let (result, ledger) := e.ledger.apply company difference page now
    ((result.mapError .transaction).map .counts, { e with ledger })

/-- Does actions in one transaction. -/
def act (e : Engine φ) (company : String) (actions : List Ledger.Action) :
    StepResult × Engine φ :=
  let (result, ledger) := e.ledger.act company actions
  ((result.mapError .transaction).map .actions, { e with ledger })

/-- Drops a table. -/
def drop (e : Engine φ) (table : String) : StepResult × Engine φ :=
  match e.ledger.drop table with
  | .error fault => (.error (.ledger fault), e)
  | .ok ledger => (.ok .done, { e with ledger })

/-! ### Steps -/

/-- Does a step. -/
def perform (e : Engine Feeds) : Step → StepResult × Engine Feeds
  | .enter source => e.enter source
  | .register source => e.register source
  | .sync => e.sync
  | .feed company result =>
    (.ok .done, { e with memory := Table.insert e.memory company result })
  | .extractor name extractor => e.addExtractor name extractor
  | .cycle company now =>
    let (result, e) := e.runCycle Feeds.fetcher company now
    ((result.mapError .crash).map .report, e)
  | .runAll workers companies =>
    let (result, e) := e.runAll Feeds.fetcher workers companies
    ((result.mapError .batch).map .reports, e)
  | .record report => e.record report
  | .apply company difference page now => e.applyDifference company difference page now
  | .act company actions => e.act company actions
  | .claim company =>
    let (fresh, inFlight) := InFlight.claim e.inFlight company
    (.ok (.flag fresh), { e with inFlight })
  | .release company => (.ok .done, { e with inFlight := InFlight.release e.inFlight company })
  | .drop table => e.drop table
  | .close => (.ok .done, { e with ledger := e.ledger.close })
  | .connect => (.ok .done, { e with ledger := e.ledger.connect })
  | .setClock now => (.ok .done, { e with now })

/-- The engine that steps leave behind, done one after the other. -/
def run (e : Engine Feeds) (steps : List Step) : Engine Feeds :=
  steps.foldl (fun e step => (e.perform step).2) e

end VacancyLedger.Engine
