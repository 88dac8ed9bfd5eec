/-
One cycle of a company: fetch, read, normalise, compare, apply, record.

Postings are written in the last step before recording and in one transaction, so a cycle
that fails leaves them as they were.  A company whose cycle is running is skipped.  What the
database complains of on its own account meanwhile is a parameter of the steps; a cycle that
is simply run meets no such trouble.  A listing that cannot be encoded is trouble of its own
making: the statement that it is first written in is refused.
-/
import VacancyLedger.Engine.Basic
import VacancyLedger.Ledger.Apply
import VacancyLedger.Ledger.Companies
import VacancyLedger.Ledger.History

namespace VacancyLedger

/-- The adverts an extractor reads off a page. -/
def Extractor.read (e : Extractor) (name body : String) : Except CycleFailure (List Advert) :=
  match e with
  | .fixed adverts => .ok adverts
  | .failing message => .error (.extractor name "RuntimeError" message)
  | .format f =>
    match Advert.read f body with
    | .ok adverts => .ok adverts
    | .error e =>
      if e.concernsPage then .error (.page e) else .error (.extractor name e.name e.message)

/-- The adverts on the page of a source. -/
def Registry.read (r : Registry Extractor) (source : Source) (body : String) :
    Except CycleFailure (List Advert) :=
  match Table.get? r.extractors source.extractor with
  | some e => e.read source.extractor body
  | none =>
    .error (.extractor source.extractor "KeyError"
      (Text.quoted (Extractors.unknownMessage source.extractor)))

/-- What comes of the steps of a cycle: what was done, a failure, or a crash. -/
inductive CycleOutcome where
  | done (counts : Counts)
  | failed (failure : CycleFailure)
  | crashed (crash : Crash)

/-- What a cycle has come to, and how many adverts it has read and discarded. -/
structure CycleRun where
  fetched : Nat
  discarded : Nat
  outcome : CycleOutcome

namespace Engine

variable {φ : Type}

/-- The text of the time that a cycle happens at: the one given, else the time of day. -/
def cycleTime (e : Engine φ) (now : Option Time.Stamp) : Except Crash String :=
  match now with
  | none => .ok e.now.text
  | some stamp =>
    match stamp.instant? with
    | some t => .ok t.text
    | none => .error .timeOutOfRange

/-- What a transaction that nothing else can stop was stopped by. -/
def outcomeOfAbort : Ledger.Abort Empty → CycleOutcome
  | .persistence e => .failed (.persistence e)
  | .fault f => .crashed (.ledger f)

/-- Brings the postings of a company up to date with the listings of its page. -/
def applyPage (e : Engine φ) (trouble : Ledger.Trouble) (company : String) (page : Page)
    (now : Option Time.Stamp) : CycleOutcome × Engine φ :=
  match e.ledger.activePostingsUnder trouble.reading company with
  | .error abort => (outcomeOfAbort abort, e)
  | .ok active =>
    match e.cycleTime now with
    | .error crash => (.crashed crash, e)
    | .ok time =>
      let difference := Difference.between (active.map (·.key)) (Table.keys page)
      match e.ledger.applyUnder trouble company difference page time with
      | (.error abort, ledger) => (outcomeOfAbort abort, { e with ledger })
      | (.ok counts, ledger) => (.done counts, { e with ledger })

/-- The trouble there is with writing the page that adverts make. -/
def troubleWith (trouble : Ledger.Trouble) (adverts : List Advert) (base : String) :
    Ledger.Trouble :=
  match Advert.pageTear? adverts base with
  | some tear => trouble.refusing tear.statement tear.complaint
  | none => trouble

/-- Takes in adverts that were read off the page of a company. -/
def takeIn (e : Engine φ) (trouble : Ledger.Trouble) (source : Source) (adverts : List Advert)
    (now : Option Time.Stamp) : CycleRun × Engine φ :=
  let fetched := adverts.length
  match Advert.listings adverts source.base with
  | .error obstacle => (⟨fetched, 0, .crashed (.advert obstacle)⟩, e)
  | .ok (listings, discarded) =>
    if !adverts.isEmpty && listings.isEmpty then
      (⟨fetched, discarded, .failed (.allDiscarded fetched)⟩, e)
    else
      let trouble := troubleWith trouble adverts source.base
      let (outcome, e) := e.applyPage trouble source.company (Page.ofListings listings) now
      (⟨fetched, discarded, outcome⟩, e)

/-- The steps of a cycle of a company that has been claimed. -/
def runClaimed (e : Engine φ) (trouble : Ledger.Trouble) (fetcher : Fetcher φ) (source : Source)
    (now : Option Time.Stamp) : CycleRun × Engine φ :=
  let (result, memory) := fetcher e.now source e.memory
  let e := { e with memory }
  match result with
  | .crashed crash => (⟨0, 0, .crashed (.fetch crash)⟩, e)
  | .failed error => (⟨0, 0, .failed (.fetch error)⟩, e)
  | .page page =>
    match e.registry.read source page.body with
    | .error failure => (⟨0, 0, .failed failure⟩, e)
    | .ok adverts => e.takeIn trouble source adverts now

/-- A report with nothing counted. -/
def blankReport (e : Engine φ) (company : String) (status : CycleStatus)
    (error errorType : Option String) : CycleReport where
  company
  status
  startedAt := e.now.text
  finishedAt := e.now.text
  fetched := 0
  discarded := 0
  counts := .zero
  error
  errorType

/-- The report on the steps of a cycle. -/
def report (e : Engine φ) (company : String) (run : CycleRun) : Except Crash CycleReport :=
  match run.outcome with
  | .crashed crash => .error crash
  | .failed failure =>
    .ok { e.blankReport company .error (some failure.message) (some failure.name) with
      fetched := run.fetched, discarded := run.discarded }
  | .done counts =>
    .ok { e.blankReport company .ok none none with
      fetched := run.fetched, discarded := run.discarded, counts }

/-- Counts a cycle, if cycles are counted. -/
def observe (e : Engine φ) (report : CycleReport) : Engine φ :=
  { e with metrics := e.metrics.map (·.observeCycle report) }

/-- Records and counts a cycle. -/
def finish (e : Engine φ) (report : CycleReport) : Except Crash CycleReport × Engine φ :=
  match e.ledger.record report e.now.text with
  | (.error fault, ledger) => (.error (.ledger fault), { e with ledger })
  | (.ok _, ledger) => (.ok report, { e with ledger }.observe report)

/-- Reports on the steps of a cycle, unless they crashed. -/
def settle (e : Engine φ) (company : String) (run : CycleRun) :
    Except Crash CycleReport × Engine φ :=
  match e.report company run with
  | .error crash => (.error crash, e)
  | .ok report => e.finish report

/-- What is said of a cycle that is skipped. -/
def skippedMessage : String := "ingestion cycle already in flight"

/-- Runs a cycle of a company that is in the ledger. -/
def runStored (e : Engine φ) (trouble : Ledger.Trouble) (fetcher : Fetcher φ) (company : Company)
    (now : Option Time.Stamp) : Except Crash CycleReport × Engine φ :=
  match InFlight.claim e.inFlight company.id with
  | (false, _) => e.finish (e.blankReport company.id .skipped (some skippedMessage) none)
  | (true, inFlight) =>
    let (run, e) := { e with inFlight }.runClaimed trouble fetcher company.source now
    let (result, e) := e.settle company.id run
    (result, { e with inFlight := InFlight.release e.inFlight company.id })

/-- Runs a cycle of a company, the database giving trouble. -/
def runCycleUnder (e : Engine φ) (trouble : Ledger.Trouble) (fetcher : Fetcher φ) (company : String)
    (now : Option Time.Stamp) : Except Crash CycleReport × Engine φ :=
  match e.ledger.company? company with
  | .error fault => (.error (.ledger fault), e)
  | .ok none => (.error (.unknownCompany company), e)
  | .ok (some stored) => e.runStored trouble fetcher stored now

/-- Runs a cycle of a company. -/
def runCycle (e : Engine φ) (fetcher : Fetcher φ) (company : String) (now : Option Time.Stamp) :
    Except Crash CycleReport × Engine φ :=
  e.runCycleUnder .none fetcher company now

end Engine
end VacancyLedger
