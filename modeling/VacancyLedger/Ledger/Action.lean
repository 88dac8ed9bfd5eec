/-
Actions on the postings of a company, done one after the other in one transaction.

An action sees what those before it have written.  Renewing and reopening look up the
posting first, and fail if there is none.
-/
import VacancyLedger.Config.Field
import VacancyLedger.Ledger.Transaction

namespace VacancyLedger.Ledger

/-- What can be done to the postings of a company. -/
inductive Action where
  | find (key : String)
  | insert (listing : Listing) (now : String)
  | close (key now : String)
  | renew (listing : Listing) (now : String)
  | reopen (listing : Listing) (now : String)
  | raise (message : String)
  | malformed (problems : List Config.Problem)

/-- What an action answers. -/
inductive ActionAnswer where
  | found (p : Option Posting)
  | inserted (id : Nat)
  | changed (b : Bool)
  | done

/-- Why an action fails that the database does not complain of. -/
inductive ActionError where
  | raised (message : String)
  | nothingToRenew
  | nothingToReopen
  | malformed (problems : List Config.Problem)

/-- The name an error is reported by. -/
def ActionError.name : ActionError → String
  | .raised _ => "RuntimeError"
  | .nothingToRenew | .nothingToReopen => "AttributeError"
  | .malformed _ => "ValidationError"

/-- An error in words. -/
def ActionError.message : ActionError → String
  | .raised message => message
  | .nothingToRenew => "'NoneType' object has no attribute 'title'"
  | .nothingToReopen => "'NoneType' object has no attribute 'id'"
  | .malformed _ => ""

/-- Does an action. -/
def Action.run (company : String) : Action → Work ActionError ActionAnswer
  | .find key, t => do
    let p ← (t.find company key).mapError .inl
    return (.found p, t)
  | .insert listing now, t => do
    let (id, t) ← (t.insert company listing now).mapError .inl
    return (.inserted id, t)
  | .close key now, t => do
    let (closed, t) ← (t.close company key now).mapError .inl
    return (.changed closed, t)
  | .renew listing now, t => do
    match ← (t.find company listing.key).mapError .inl with
    | none => throw (.inr .nothingToRenew)
    | some stored =>
      let (changed, t) ← (t.renew stored listing now).mapError .inl
      return (.changed changed, t)
  | .reopen listing now, t => do
    match ← (t.find company listing.key).mapError .inl with
    | none => throw (.inr .nothingToReopen)
    | some stored =>
      let t ← (t.reopen stored listing now).mapError .inl
      return (.done, t)
  | .raise message, _ => .error (.inr (.raised message))
  | .malformed problems, _ => .error (.inr (.malformed problems))

/-- Does actions one after the other. -/
def runActions (company : String) : List Action → Work ActionError (List ActionAnswer)
  | [], t => .ok ([], t)
  | action :: actions, t => do
    let (answer, t) ← action.run company t
    let (answers, t) ← runActions company actions t
    return (answer :: answers, t)

/-- Does actions in one transaction. -/
def act (l : Ledger) (company : String) (actions : List Action) :
    Except (Abort ActionError) (List ActionAnswer) × Ledger :=
  l.transaction company (runActions company actions)

end VacancyLedger.Ledger
