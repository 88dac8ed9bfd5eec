/-
The companies of a ledger.

A company that is entered again takes its configuration from the new source and keeps
when it was first entered and how its cycles ended.
-/
import VacancyLedger.Ledger.Basic

namespace VacancyLedger

/-- A company that is entered for the first time. -/
def Company.ofSource (source : Source) (now : String) : Company where
  source
  createdAt := now
  updatedAt := now
  lastCycleAt := none
  lastSuccessAt := none
  lastStatus := none
  lastError := none
  failures := 0

/-- A company with a new configuration. -/
def Company.reconfigured (c : Company) (source : Source) (now : String) : Company :=
  { c with source, updatedAt := now }

namespace Ledger

/-- The companies as a writer sees them. -/
def companyRows (l : Ledger) : Except Fault (List Company) := do
  requireTable companiesName (← l.writable).companies

/-- The company with an identifier. -/
def company? (l : Ledger) (id : String) : Except Fault (Option Company) := do
  return (← l.companyRows).find? (·.id == id)

/-- The rows with a source entered. -/
def enterRow (rows : List Company) (source : Source) (now : String) : List Company :=
  if rows.any (·.id == source.company) then
    rows.map fun c => if c.id == source.company then c.reconfigured source now else c
  else rows ++ [.ofSource source now]

/-- Enters a source, and commits: the company as it is stored, and the ledger after it. -/
def enter (l : Ledger) (source : Source) (now : String) : Except Fault (Company × Ledger) := do
  let tables ← l.writable
  let rows := enterRow (← requireTable companiesName tables.companies) source now
  let l := { l with pending := some { tables with companies := some rows } }.commit
  return ((rows.find? (·.id == source.company)).getD (.ofSource source now), l)

/-- Puts a company into a list that is sorted by identifiers. -/
def insertById (c : Company) : List Company → List Company
  | [] => [c]
  | d :: ds => if c.id < d.id then c :: d :: ds else d :: insertById c ds

/-- The companies, perhaps only those that are enabled, sorted by their identifiers. -/
def listCompanies (l : Ledger) (enabledOnly : Bool) : Except Fault (List Company) := do
  let rows := (← l.companyRows).filter fun c => !enabledOnly || c.source.enabled
  return rows.foldr insertById []

/-- Enters sources one after the other: the companies as they are stored, and the ledger after
it. -/
def enterAll (l : Ledger) (now : String) : List Source → Except Fault (List Company) × Ledger
  | [] => (.ok [], l)
  | source :: sources =>
    match l.enter source now with
    | .error fault => (.error fault, l)
    | .ok (company, l) =>
      let (companies, l) := l.enterAll now sources
      (companies.map (company :: ·), l)

end Ledger
end VacancyLedger
