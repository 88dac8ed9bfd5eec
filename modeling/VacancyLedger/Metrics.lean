/-
Counting requests and cycles.

Requests are counted in all, by endpoint and by class of status; cycles by how they ended.
What the cycles changed is added up, and failures are counted by their type.
-/
import VacancyLedger.Ledger.Basic
import VacancyLedger.Table

namespace VacancyLedger

/-- What is known of the requests to an endpoint. -/
structure Endpoint (τ : Type) where
  count : Nat
  /-- How many requests had a status of a class, by the name of the class. -/
  classes : Table String Nat
  totalTime : τ
  longestTime : τ

/-- What has been counted. -/
structure Metrics (τ : Type) where
  requests : Nat
  /-- How many of the requests had a status of an error. -/
  errors : Nat
  endpoints : Table String (Endpoint τ)
  /-- How many cycles ended in which way. -/
  cycles : Table String Nat
  /-- What the cycles changed. -/
  counts : Counts
  discarded : Int
  failures : Table String Nat

/-- Adds one to the number under a key. -/
def Table.increment (t : Table String Nat) (key : String) : Table String Nat :=
  Table.insert t key ((Table.get? t key).getD 0 + 1)

/-- The name of the class of a status. -/
def statusClass (status : Int) : String := s!"{status.fdiv 100}xx"

/-- Whether the status is that of an error. -/
def isErrorStatus (status : Int) : Bool := 400 ≤ status

/-- The sum of two counts, number by number. -/
def Counts.add (a b : Counts) : Counts :=
  ⟨a.created + b.created, a.renewed + b.renewed, a.reopened + b.reopened, a.updated + b.updated,
   a.closed + b.closed⟩

section

variable {τ : Type} [Add τ] [OfNat τ 0] [LT τ] [DecidableLT τ]

/-- An endpoint that has had no requests. -/
def Endpoint.empty : Endpoint τ := ⟨0, [], 0, 0⟩

/-- An endpoint after one more request, which took some time. -/
def Endpoint.observe (e : Endpoint τ) (status : Int) (time : τ) : Endpoint τ where
  count := e.count + 1
  classes := Table.increment e.classes (statusClass status)
  totalTime := e.totalTime + time
  longestTime := if e.longestTime < time then time else e.longestTime

/-- Counts a request, the endpoint being told by method and route. -/
def Metrics.observe (m : Metrics τ) (method route : String) (status : Int) (time : τ) :
    Metrics τ :=
  let key := method ++ " " ++ route
  let endpoint := (Table.get? m.endpoints key).getD .empty
  { m with
    requests := m.requests + 1
    errors := if isErrorStatus status then m.errors + 1 else m.errors
    endpoints := Table.insert m.endpoints key (endpoint.observe status time) }

end

/-- Nothing has been counted. -/
def Metrics.empty {τ : Type} : Metrics τ where
  requests := 0
  errors := 0
  endpoints := []
  cycles := CycleStatus.all.map fun s => (s.name, 0)
  counts := .zero
  discarded := 0
  failures := []

/-- Counts a cycle. -/
def Metrics.observeCycle {τ : Type} (m : Metrics τ) (report : CycleReport) : Metrics τ :=
  { m with
    cycles := Table.increment m.cycles report.status.name
    counts := m.counts.add report.counts
    discarded := m.discarded + report.discarded
    failures :=
      match report.errorType with
      | some type => if type.isEmpty then m.failures else Table.increment m.failures type
      | none => m.failures }

end VacancyLedger
