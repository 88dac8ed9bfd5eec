/-
The ledger: companies, the postings seen on their pages, and the history of cycles.

The ledger is kept in three tables, each of which may be missing.  What a writer has
changed is pending until it is committed; readers see what has been committed.  Numbers
of postings and of cycles are never given twice, unless what they were given to was
rolled back.
-/
import VacancyLedger.Config.Source
import VacancyLedger.Listing.Basic
import VacancyLedger.Number.Digits
import VacancyLedger.Text.Half

namespace VacancyLedger

/-- A vacancy that has been seen on the page of a company. -/
structure Posting where
  id : Nat
  company : String
  key : String
  content : Content
  isActive : Bool
  firstSeen : String
  lastSeen : String
  closedAt : Option String
  deriving DecidableEq, Inhabited

/-- How a cycle can end. -/
inductive CycleStatus where
  | ok
  | error
  | skipped
  deriving DecidableEq, Inhabited

/-- The name a status is stored under. -/
def CycleStatus.name : CycleStatus → String
  | .ok => "ok"
  | .error => "error"
  | .skipped => "skipped"

/-- All statuses. -/
def CycleStatus.all : List CycleStatus := [.ok, .error, .skipped]

/-- A company in the ledger: its source, and how its last cycles ended. -/
structure Company where
  source : Source
  createdAt : String
  updatedAt : String
  lastCycleAt : Option String
  lastSuccessAt : Option String
  lastStatus : Option CycleStatus
  lastError : Option String
  /-- How many cycles have failed since the last one that did not. -/
  failures : Nat
  deriving DecidableEq, Inhabited

/-- The identifier of a company. -/
abbrev Company.id (c : Company) : String := c.source.company

/-- How many postings a cycle has created, renewed and so on. -/
structure Counts where
  created : Int
  renewed : Int
  reopened : Int
  updated : Int
  closed : Int
  deriving DecidableEq, Inhabited

/-- Nothing has been changed. -/
def Counts.zero : Counts := ⟨0, 0, 0, 0, 0⟩

/-- How a cycle went. -/
structure CycleReport where
  company : String
  status : CycleStatus
  startedAt : String
  finishedAt : String
  fetched : Int
  discarded : Int
  counts : Counts
  error : Option String
  errorType : Option String
  deriving DecidableEq, Inhabited

/-- A cycle in the history. -/
structure RecordedCycle where
  id : Nat
  report : CycleReport
  deriving DecidableEq, Inhabited

namespace Ledger

/-! ### Tables -/

/-- Rows that are numbered as they come in, and the last number given. -/
structure Numbered (α : Type) where
  rows : List α
  lastId : Nat
  deriving DecidableEq

/-- No rows. -/
def Numbered.empty {α : Type} : Numbered α := ⟨[], 0⟩

/-- The tables of a ledger, each of which may be missing. -/
structure Tables where
  companies : Option (List Company)
  postings : Option (Numbered Posting)
  cycles : Option (Numbered RecordedCycle)
  deriving DecidableEq

/-- No table is there. -/
def Tables.none : Tables := ⟨.none, .none, .none⟩

/-- The tables with those that are missing created. -/
def Tables.complete (t : Tables) : Tables where
  companies := some (t.companies.getD [])
  postings := some (t.postings.getD .empty)
  cycles := some (t.cycles.getD .empty)

/-- The name of the table of companies. -/
def companiesName : String := "companies"

/-- The name of the table of postings. -/
def postingsName : String := "job_postings"

/-- The name of the table of cycles. -/
def cyclesName : String := "ingestion_cycles"

/-! ### Faults -/

/-- Why the ledger cannot do what it is asked to. -/
inductive Fault where
  | disconnected
  | noTable (name : String)
  | noCompany
  | duplicateKey
  | integerTooLarge
  | unencodable (e : Text.Unencodable)
  /-- What a database complains of on its own account. -/
  | trouble (message : String)
  deriving DecidableEq

/-- A fault in words. -/
def Fault.message : Fault → String
  | .disconnected => "Database connection is not initialized"
  | .noTable name => s!"no such table: {name}"
  | .noCompany => "FOREIGN KEY constraint failed"
  | .duplicateKey => "UNIQUE constraint failed: job_postings.company_id, job_postings.identity_key"
  | .integerTooLarge => "Python int too large to convert to SQLite INTEGER"
  | .unencodable e => e.message
  | .trouble message => message

/-- The name a fault is reported by. -/
def Fault.name : Fault → String
  | .disconnected => "RuntimeError"
  | .noTable _ | .trouble _ => "OperationalError"
  | .noCompany | .duplicateKey => "IntegrityError"
  | .integerTooLarge => "OverflowError"
  | .unencodable _ => Text.Unencodable.name

/-- Whether it is the database itself that complains. -/
def Fault.isDatabase : Fault → Bool
  | .noTable _ | .noCompany | .duplicateKey | .trouble _ => true
  | _ => false

/-- A table that must be there. -/
def requireTable {α : Type} (name : String) (table : Option α) : Except Fault α :=
  match table with
  | some rows => .ok rows
  | none => .error (.noTable name)

end Ledger

open Ledger in
/-- A ledger: what has been committed, what is pending, and whether there is a connection to write
through. -/
structure Ledger where
  committed : Tables
  pending : Option Tables
  connected : Bool
  deriving DecidableEq

namespace Ledger

/-- The ledger before anybody has connected to it. -/
def unconnected : Ledger := ⟨.none, none, false⟩

/-- The tables as a writer sees them. -/
def view (l : Ledger) : Tables := l.pending.getD l.committed

/-- Makes what is pending visible to all. -/
def commit (l : Ledger) : Ledger := { l with committed := l.view, pending := none }

/-- Forgets what is pending. -/
def rollback (l : Ledger) : Ledger := { l with pending := none }

/-- Connects; tables that are missing are created. -/
def connect (l : Ledger) : Ledger := ⟨l.committed.complete, none, true⟩

/-- Ends the connection; what is pending is lost. -/
def close (l : Ledger) : Ledger := ⟨l.committed, none, false⟩

/-- The tables as a writer sees them, if there is a connection. -/
def writable (l : Ledger) : Except Fault Tables :=
  if l.connected then .ok l.view else .error .disconnected

/-- Whether an integer can be stored. -/
def isStorable (n : Int) : Bool := Number.fitsBits 63 n

/-- Drops a table; companies that postings refer to cannot be dropped. -/
def Tables.drop (t : Tables) (name : String) : Except Fault Tables :=
  if name = companiesName then do
    let companies ← requireTable name t.companies
    let referred := ((t.postings.map (·.rows)).getD []).any fun p =>
      companies.any (·.id == p.company)
    if referred then .error .noCompany else .ok { t with companies := .none }
  else if name = postingsName then do
    discard (requireTable name t.postings)
    return { t with postings := .none }
  else if name = cyclesName then do
    discard (requireTable name t.cycles)
    return { t with cycles := .none }
  else .error (.noTable name)

/-- Drops a table, and commits. -/
def drop (l : Ledger) (name : String) : Except Fault Ledger := do
  let tables ← (← l.writable).drop name
  return { l with pending := some tables }.commit

end Ledger
end VacancyLedger
