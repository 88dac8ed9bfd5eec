/-
Transactions on the postings of a company.

What is written in a transaction is committed as a whole if all of it succeeds, and
forgotten as a whole if anything fails.  A database may also complain on its own account, a
full disk or a lock that is held being two reasons; of such trouble nothing is said but when
it strikes.
-/
import VacancyLedger.Ledger.Writer

namespace VacancyLedger.Ledger

/-- Postings that could not be read or written. -/
inductive PersistenceError where
  | reading (company : String) (fault : Fault)
  | writing (company : String) (fault : Fault)
  deriving DecidableEq

/-- The failure in words. -/
def PersistenceError.message : PersistenceError → String
  | .reading company fault => s!"could not read active postings for {company}: {fault.message}"
  | .writing company fault => s!"posting transaction failed for {company}: {fault.message}"

/-- Why a transaction came to nothing: the database complained, or something else went wrong. -/
inductive Abort (ε : Type) where
  | persistence (e : PersistenceError)
  | fault (f : Fault)
  | other (e : ε)

/-- What a transaction does: it works on the tables and may fail. -/
abbrev Work (ε α : Type) := Tables → Except (Fault ⊕ ε) (α × Tables)

variable {ε α : Type}

/-- What a database complains of on its own account while a cycle uses it. -/
structure Trouble where
  /-- When the active postings are read. -/
  reading : Option Fault
  /-- At the statements of the transaction, by their numbers. -/
  writing : Nat → Option Fault
  /-- When the transaction is committed. -/
  committing : Option Fault

/-- A database that complains of nothing on its own account. -/
def Trouble.none : Trouble := ⟨.none, fun _ => .none, .none⟩

/-- The trouble of a database that also refuses statement `n` of the transaction, for a text that
cannot be encoded. -/
def Trouble.refusing (trouble : Trouble) (n : Nat) (e : Text.Unencodable) : Trouble :=
  { trouble with
    writing := fun m => (trouble.writing m).or (if m = n then some (.unencodable e) else .none) }

/-- What a statement does, unless there is trouble with it. -/
def attempt (trouble : Option Fault) (statement : Except Fault α) : Except Fault α :=
  match trouble with
  | some fault => .error fault
  | none => statement

/-- What is reported if a transaction on a company fails. -/
def Abort.of (company : String) : Fault ⊕ ε → Abort ε
  | .inl f => if f.isDatabase then .persistence (.writing company f) else .fault f
  | .inr e => .other e

/-- Runs a transaction. -/
def transaction (l : Ledger) (company : String) (work : Work ε α) :
    Except (Abort ε) α × Ledger :=
  if !l.connected then (.error (.fault .disconnected), l)
  else
    match work l.view with
    | .ok (a, tables) => (.ok a, { l with pending := some tables }.commit)
    | .error e => (.error (.of company e), l.rollback)

/-- What is reported if the active postings of a company cannot be read. -/
def Abort.ofReading (company : String) (fault : Fault) : Abort ε :=
  if fault.isDatabase then .persistence (.reading company fault) else .fault fault

/-- The active postings of a company, unless there is trouble with reading them. -/
def activePostingsUnder (l : Ledger) (trouble : Option Fault) (company : String) :
    Except (Abort ε) (List Posting) :=
  match l.writable with
  | .error fault => .error (.fault fault)
  | .ok tables =>
    match attempt trouble tables.postingRows with
    | .error fault => .error (.ofReading company fault)
    | .ok rows => .ok (rows.filter fun p => p.company == company && p.isActive)

/-- The active postings of a company. -/
def activePostings (l : Ledger) (company : String) : Except (Abort ε) (List Posting) :=
  l.activePostingsUnder none company

end VacancyLedger.Ledger
