/-
The history of cycles.

Recording a cycle also notes on its company how it ended, unless the cycle was skipped.
-/
import VacancyLedger.Ledger.Basic

namespace VacancyLedger

/-- The company after a cycle of its own. -/
def Company.noted (c : Company) (report : CycleReport) (now : String) : Company :=
  match report.status with
  | .ok =>
    { c with
      lastCycleAt := some report.finishedAt
      lastSuccessAt := some report.finishedAt
      lastStatus := some .ok
      lastError := none
      failures := 0
      updatedAt := now }
  | .error =>
    { c with
      lastCycleAt := some report.finishedAt
      lastStatus := some .error
      lastError := report.error
      failures := c.failures + 1
      updatedAt := now }
  | .skipped => c

namespace Ledger

/-- The numbers of a report. -/
def reportNumbers (r : CycleReport) : List Int :=
  [r.fetched, r.discarded, r.counts.created, r.counts.renewed, r.counts.reopened, r.counts.updated,
   r.counts.closed]

/-- Notes on its company how a cycle ended; what is written stays pending. -/
def note (l : Ledger) (report : CycleReport) (now : String) : Except Fault Ledger := do
  let tables ← l.writable
  if report.status = .skipped then return l
  let rows ← requireTable companiesName tables.companies
  let rows := rows.map fun c => if c.id == report.company then c.noted report now else c
  return { l with pending := some { tables with companies := some rows } }

/-- Appends a cycle to the history, and commits: its number, and the ledger after it.  A number that
cannot be stored is found only once writing has begun. -/
def append (l : Ledger) (report : CycleReport) : Except Fault Nat × Ledger :=
  match l.view.cycles with
  | none => (.error (.noTable cyclesName), l)
  | some cycles =>
    if !(reportNumbers report).all isStorable then
      (.error .integerTooLarge, { l with pending := some l.view })
    else
      let id := cycles.lastId + 1
      let cycles := { rows := cycles.rows ++ [⟨id, report⟩], lastId := id : Numbered RecordedCycle }
      (.ok id, { l with pending := some { l.view with cycles := some cycles } }.commit)

/-- Records a cycle: its number, and the ledger after it. -/
def record (l : Ledger) (report : CycleReport) (now : String) : Except Fault Nat × Ledger :=
  match l.note report now with
  | .error fault => (.error fault, l)
  | .ok l => l.append report

/-- The last cycles, the last one first; perhaps only those of a company.  A limit below zero is
none. -/
def listCycles (l : Ledger) (company : Option String) (limit : Int) :
    Except Fault (List RecordedCycle) := do
  let cycles ← requireTable cyclesName (← l.writable).cycles
  if !isStorable limit then throw .integerTooLarge
  let wanted := company.filter (!·.isEmpty)
  let rows := cycles.rows.reverse.filter fun c => wanted.all (· == c.report.company)
  return if limit < 0 then rows else rows.take limit.toNat

end Ledger
end VacancyLedger
