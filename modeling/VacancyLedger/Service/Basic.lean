/-
The service: an engine that is asked over the web.

Every request is counted under its route, however it is answered.  What goes wrong beyond
what a reply can say is answered with a reply of its own and does not stop the service.
-/
import VacancyLedger.Engine.Batch
import VacancyLedger.Engine.Search
import VacancyLedger.Service.Reply
import VacancyLedger.Service.Request
import VacancyLedger.Service.Route

namespace VacancyLedger

/-- An engine that is asked over the web; `φ` is what its fetcher remembers. -/
structure Service (φ : Type) where
  engine : Engine φ
  fetcher : Fetcher φ
  workers : Nat

namespace Service

variable {φ : Type}

/-- What comes of a request: a reply, or none if something went wrong. -/
abbrev Outcome := Option Reply

/-- What is shown of a result, if there is one. -/
def showing {ε α : Type} (result : Except ε α) (body : α → Json) : Outcome :=
  match result with
  | .ok a => some (.shown (body a))
  | .error _ => none

/-- The list of values as JSON. -/
def listed {α : Type} (body : α → Json) (as : List α) : Json := .list (as.map body)

/-! ### Companies and cycles -/

/-- Lists the companies. -/
def companies (s : Service φ) (r : Request) : Outcome :=
  match Config.withDefault r.parameters "enabled_only" false Config.choice with
  | .error problems => some (.invalid "query" problems)
  | .ok enabledOnly => showing (s.engine.ledger.listCompanies enabledOnly) (listed Company.toJson)

/-- Goes on with a company, if there is one with this identifier. -/
def withCompany (s : Service φ) (id : String) (next : Company → Outcome) : Outcome :=
  match s.engine.ledger.company? id with
  | .error _ => none
  | .ok none => some .unknownCompany
  | .ok (some company) => next company

/-- Shows a company. -/
def company (s : Service φ) (id : String) : Outcome :=
  s.withCompany id fun company => some (.shown company.toJson)

/-- How many cycles of a history are shown if the visitor does not say. -/
def historyLimit : Int := 50

/-- The most items a visitor can ask for. -/
def mostItems : Int := 500

/-- Lists the last cycles of a company. -/
def history (s : Service φ) (id : String) (r : Request) : Outcome :=
  match Config.withDefault r.parameters "limit" historyLimit (Config.intWithin 1 mostItems) with
  | .error problems => some (.invalid "query" problems)
  | .ok limit =>
    s.withCompany id fun _ =>
      showing (s.engine.ledger.listCycles (some id) limit) (listed RecordedCycle.toJson)

/-- The reply to a request for a cycle. -/
def cycleReply (result : Except Crash CycleReport) : Outcome :=
  match result with
  | .error (.unknownCompany _) => some .unknownCompany
  | .error _ => none
  | .ok report =>
    some (if report.status = .error then .failedCycle report else .shown report.toJson)

/-- Runs a cycle of a company. -/
def runCycle (s : Service φ) (id : String) : Outcome × Service φ :=
  let (result, engine) := s.engine.runCycle s.fetcher id none
  (cycleReply result, { s with engine })

/-- The reports on a batch of cycles as JSON. -/
def batchJson (startedAt : String) (reports : List CycleReport) : Json :=
  let count (status : CycleStatus) : Json :=
    .int (reports.countP (·.status = status) : Nat)
  .object [("started_at", .text startedAt), ("requested", .int reports.length),
    ("successful", count .ok), ("failed", count .error), ("skipped", count .skipped),
    ("results", listed CycleReport.toJson reports)]

/-- Runs the cycles of all companies that are enabled. -/
def runAll (s : Service φ) : Outcome × Service φ :=
  let (result, engine) := s.engine.runAll s.fetcher s.workers none
  (showing result (batchJson s.engine.now.text), { s with engine })

/-! ### Postings -/

/-- What a request searches for. -/
def searchRequest (r : Request) : Config.Checked SearchRequest :=
  let limit := Config.intWithin 1 mostItems
  Config.Checked.apply
    ((Config.withDefault r.parameters "active" none fun v => (Config.choice v).map some).map
      fun active => (⟨r.text? "company_id", r.text? "q", active, r.text? "since", ·⟩))
    (Config.withDefault r.parameters "limit" none fun v => (limit v).map some)

/-- Whether the time since which postings are asked for cannot be read. -/
def hasUnreadableSince (r : SearchRequest) : Bool :=
  r.since.any fun since => !since.isEmpty && (Time.Iso.parse? since).isNone

/-- Searches postings. -/
def search (s : Service φ) (r : Request) : Outcome :=
  match searchRequest r with
  | .error problems => some (.invalid "query" problems)
  | .ok wanted =>
    if hasUnreadableSince wanted then some .unreadableSince
    else
      match s.engine.search wanted with
      | .error (.query e) => some (.unreadableQuery e)
      | found => showing found (listed Posting.toJson)

/-- Shows a posting. -/
def posting (s : Service φ) (number : String) : Outcome :=
  match Config.under "posting_id" (Config.intOfText number) with
  | .error problems => some (.invalid "path" problems)
  | .ok id =>
    match s.engine.posting id with
    | .error (.unknown _) => some .unknownPosting
    | found => showing found Posting.toJson

/-! ### Requests -/

/-- What the service says if it is asked how it is. -/
def healthJson : Json := .object [("status", .text "ok"), ("service", .text "tracker")]

/-- What has been counted, as JSON. -/
def metricsJson (s : Service φ) : Json :=
  (s.engine.metrics.getD .empty).toJson s.engine.now

/-- Goes along a route. -/
def along (s : Service φ) (route : Route) (name : String) (r : Request) :
    Outcome × Service φ :=
  match route with
  | .health => (some (.shown healthJson), s)
  | .metrics => (some (.shown s.metricsJson), s)
  | .companies => (s.companies r, s)
  | .company => (s.company name, s)
  | .runCycle => s.runCycle name
  | .runAll => s.runAll
  | .history => (s.history name r, s)
  | .postings => (s.search r, s)
  | .posting => (s.posting name, s)

/-- Whether the character may stand in an address that visitors are sent to. -/
def isLocationChar (c : Char) : Bool :=
  Address.isUnreserved c || ":/%#?=@[]!$&'()*+,;".toList.contains c

/-- Where a visitor is sent who asked for a path that has moved. -/
def locationOf (r : Request) (path : List Char) : String :=
  let query := match r.target.query with
    | some (c :: cs) => '?' :: c :: cs
    | _ => []
  let address := r.target.scheme ++ "://".toList ++ r.target.authority ++ path ++ query
  String.ofList (Address.encodeExcept isLocationChar address)

/-- What comes of a request. -/
def outcome (s : Service φ) (routing : Routing) (r : Request) : Outcome × Service φ :=
  match routing with
  | .found route name => s.along route name r
  | .otherMethod _ => (some .otherMethod, s)
  | .moved path => (some (.moved (locationOf r path)), s)
  | .unmatched => (some .notFound, s)

/-- Counts a request. -/
def observe (s : Service φ) (method route : String) (status : Nat) : Service φ :=
  let metrics := s.engine.metrics.map (·.observe method route status 0)
  { s with engine := { s.engine with metrics } }

/-- Answers a request; `name` is the name it goes by. -/
def answer (s : Service φ) (r : Request) (name : String) : Reply × Service φ :=
  let routing := Routing.of r.method r.path
  let (outcome, s) := s.outcome routing r
  let reply := (outcome.getD (.crashed name)).forMethod r.method
  (reply, s.observe r.method routing.template reply.status)

end Service
end VacancyLedger
