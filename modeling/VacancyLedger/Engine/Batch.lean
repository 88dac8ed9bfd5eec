/-
Running the cycles of several companies, one after the other.

A cycle that crashes is reported as failed and does not keep the others from running.
-/
import VacancyLedger.Engine.Cycle

namespace VacancyLedger.Engine

variable {φ : Type}

/-- Runs a cycle; a crash becomes the report of a failure, which is counted but not recorded. -/
def runReported (e : Engine φ) (fetcher : Fetcher φ) (company : String) :
    CycleReport × Engine φ :=
  match e.runCycle fetcher company none with
  | (.ok report, e) => (report, e)
  | (.error crash, e) =>
    let report := e.blankReport company .error (some crash.reportText) (some crash.name)
    (report, e.observe report)

/-- Runs the cycles of companies in order. -/
def runEach (e : Engine φ) (fetcher : Fetcher φ) : List String → List CycleReport × Engine φ
  | [] => ([], e)
  | company :: companies =>
    let (report, e) := e.runReported fetcher company
    let (reports, e) := e.runEach fetcher companies
    (report :: reports, e)

/-- Why a batch is not run. -/
inductive BatchError where
  | noWorkers
  | ledger (f : Ledger.Fault)

/-- The name an error is reported by. -/
def BatchError.name : BatchError → String
  | .noWorkers => "ValueError"
  | .ledger f => f.name

/-- An error in words. -/
def BatchError.message : BatchError → String
  | .noWorkers => "worker_count must be at least 1"
  | .ledger f => f.message

/-- Runs the cycles of the companies given, else of all that are enabled. -/
def runAll (e : Engine φ) (fetcher : Fetcher φ) (workers : Int) (companies : Option (List String)) :
    Except BatchError (List CycleReport) × Engine φ :=
  if workers < 1 then (.error .noWorkers, e)
  else
    match companies with
    | some companies =>
      let (reports, e) := e.runEach fetcher companies
      (.ok reports, e)
    | none =>
      match e.ledger.listCompanies true with
      | .error fault => (.error (.ledger fault), e)
      | .ok companies =>
        let (reports, e) := e.runEach fetcher (companies.map (·.id))
        (.ok reports, e)

end VacancyLedger.Engine
