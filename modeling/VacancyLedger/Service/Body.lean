/-
What the service answers with, as JSON.

Every member is always there; what is not known is null.
-/
import VacancyLedger.Config.Field
import VacancyLedger.Ledger.Basic
import VacancyLedger.Metrics
import VacancyLedger.Time.Stamp

namespace VacancyLedger

/-- A text that may be missing. -/
def Json.ofText? (s : Option String) : Json := s.elim .null .text

/-- Numbers by name. -/
def Json.ofNumbers (numbers : Table String Nat) : Json :=
  .object (numbers.map fun (name, n) => (name, .int n))

/-- The members that show a source. -/
def Source.members (s : Source) : List (String × Json) :=
  [("company_id", .text s.company), ("name", .text s.name), ("ticker", .ofText? s.ticker),
   ("fetch_url", .text s.fetchUrl), ("base_url", .ofText? s.baseUrl),
   ("extractor", .text s.extractor), ("enabled", .bool s.enabled)]

/-- A company as JSON. -/
def Company.toJson (c : Company) : Json :=
  .object (c.source.members ++
    [("created_at", .text c.createdAt), ("updated_at", .text c.updatedAt),
     ("last_cycle_at", .ofText? c.lastCycleAt), ("last_success_at", .ofText? c.lastSuccessAt),
     ("last_status", .ofText? (c.lastStatus.map (·.name))), ("last_error", .ofText? c.lastError),
     ("consecutive_failures", .int c.failures)])

/-- The members that show what is on a page under a key. -/
def Content.members (key : String) (c : Content) : List (String × Json) :=
  [("identity_key", .text key), ("title", .text c.title), ("location_text", .text c.location),
   ("date_posted_raw", .ofText? c.datePosted), ("description_text", .text c.description),
   ("description_plain", .text c.plain), ("source_url", .text c.sourceUrl),
   ("canonical_url", .text c.canonicalUrl)]

/-- A posting as JSON. -/
def Posting.toJson (p : Posting) : Json :=
  .object ([("id", .int p.id), ("company_id", .text p.company)] ++ p.content.members p.key ++
    [("is_active", .bool p.isActive), ("first_seen_at", .text p.firstSeen),
     ("last_seen_at", .text p.lastSeen), ("closed_at", .ofText? p.closedAt),
     ("display_url", .text p.content.displayUrl)])

/-- The members that show what a cycle has changed. -/
def Counts.members (c : Counts) : List (String × Json) :=
  [("created", .int c.created), ("renewed", .int c.renewed), ("reopened", .int c.reopened),
   ("updated", .int c.updated), ("closed", .int c.closed)]

/-- The members that show a report. -/
def CycleReport.members (r : CycleReport) : List (String × Json) :=
  [("company_id", .text r.company), ("status", .text r.status.name),
   ("started_at", .text r.startedAt), ("finished_at", .text r.finishedAt),
   ("fetched", .int r.fetched), ("discarded", .int r.discarded)] ++ r.counts.members ++
  [("error", .ofText? r.error), ("error_type", .ofText? r.errorType)]

/-- A report as JSON. -/
def CycleReport.toJson (r : CycleReport) : Json := .object r.members

/-- A cycle of the history as JSON. -/
def RecordedCycle.toJson (c : RecordedCycle) : Json :=
  .object (("cycle_id", .int c.id) :: c.report.members)

/-- The requests to an endpoint as JSON. -/
def Endpoint.toJson (e : Endpoint Float) : Json :=
  .object ([("count", .int e.count), ("latency_ms_total", .real e.totalTime),
    ("latency_ms_max", .real e.longestTime)] ++ e.classes.map fun (name, n) => (name, .int n))

/-- What has been counted at a time of day, as JSON. -/
def Metrics.toJson (m : Metrics Float) (now : Time.Instant) : Json :=
  .object [("generated_at", .text now.text),
    ("requests", .object [("total", .int m.requests), ("errors", .int m.errors)]),
    ("endpoints", .object (m.endpoints.map fun (key, e) => (key, e.toJson))),
    ("cycles", .ofNumbers m.cycles),
    ("postings", .object (m.counts.members ++ [("discarded", .int m.discarded)])),
    ("failures_by_type", .ofNumbers m.failures)]

/-- Problems with what was asked, as JSON; `place` says where they were found. -/
def Config.problemsJson (place : List String) (problems : List Config.Problem) : Json :=
  .list (problems.map fun p =>
    .object [("loc", .list ((place ++ p.path).map .text)), ("type", .text p.fault.name)])

end VacancyLedger
