/-
Searching the postings of an engine.

The query is read before anything else, so a query that cannot be read is reported
whatever else is asked.
-/
import VacancyLedger.Engine.Basic
import VacancyLedger.Ledger.Search
import VacancyLedger.Time.Since

namespace VacancyLedger

/-- What a reader searches for. -/
structure SearchRequest where
  company : Option String
  query : Option String
  active : Option Bool
  since : Option String
  limit : Option Int

/-- Why a search is not answered. -/
inductive SearchError where
  | query (e : Query.Error)
  | since (e : Time.SinceError)
  | limit
  | ledger (f : Ledger.Fault)

/-- The name an error is reported by. -/
def SearchError.name : SearchError → String
  | .query _ => "ParseError"
  | .since e => e.name
  | .limit => "ValueError"
  | .ledger f => f.name

/-- An error in words. -/
def SearchError.message : SearchError → String
  | .query e => e.message
  | .since e => e.message
  | .limit => "limit must be at least 1"
  | .ledger f => f.message

/-- Whether a query finds a posting. -/
def Posting.isFoundBy (p : Posting) (q : Query) : Bool :=
  q.accepts p.content.title p.content.plain

/-- Why a posting is not shown. -/
inductive LookupError where
  | unknown (id : Int)
  | ledger (f : Ledger.Fault)

/-- The name an error is reported by. -/
def LookupError.name : LookupError → String
  | .unknown _ => "PostingNotFound"
  | .ledger f => f.name

/-- An error in words. -/
def LookupError.message : LookupError → String
  | .unknown id => s!"Unknown posting id: {id}"
  | .ledger f => f.message

namespace Engine

variable {φ : Type}

/-- The postings a reader searches for; the time since which they are wanted is given apart. -/
def searchSince (e : Engine φ) (r : SearchRequest) (since : Option Time.Since) :
    Except SearchError (List Posting) := do
  let query ← (Query.parse (r.query.getD "")).mapError .query
  let since ← (Time.Since.resolve? since).mapError .since
  let limit := r.limit.getD e.searchLimit
  if limit < 1 then throw .limit
  (e.ledger.search ⟨r.company, r.active, since⟩ limit (·.isFoundBy query)).mapError .ledger

/-- The postings a reader searches for. -/
def search (e : Engine φ) (r : SearchRequest) : Except SearchError (List Posting) :=
  e.searchSince r (r.since.map .text)

/-- The posting with a number. -/
def posting (e : Engine φ) (id : Int) : Except LookupError Posting := do
  match ← (e.ledger.posting? id).mapError .ledger with
  | some p => return p
  | none => throw (.unknown id)

end Engine
end VacancyLedger
