/-
The replies of the service.

A request that is refused is told why under `detail`.
-/
import VacancyLedger.Query.Token
import VacancyLedger.Service.Body

namespace VacancyLedger.Service

/-- A reply to a request. -/
structure Reply where
  status : Nat
  body : Json
  /-- Where the visitor is sent instead. -/
  location : Option String

namespace Reply

/-- What was asked for. -/
def shown (body : Json) : Reply := ⟨200, body, none⟩

/-- A refusal with its reason. -/
def refused (status : Nat) (detail : Json) : Reply :=
  ⟨status, .object [("detail", detail)], none⟩

/-- A refusal of parameters; `place` says where they were. -/
def invalid (place : String) (problems : List Config.Problem) : Reply :=
  refused 422 (Config.problemsJson [place] problems)

/-- There is no such page. -/
def notFound : Reply := refused 404 (.text "Not Found")

/-- The page is there, but not for this method. -/
def otherMethod : Reply := refused 405 (.text "Method Not Allowed")

/-- There is no such company. -/
def unknownCompany : Reply := refused 404 (.text "Unknown company_id")

/-- There is no such posting. -/
def unknownPosting : Reply := refused 404 (.text "Unknown posting_id")

/-- The time since which postings are asked for cannot be read. -/
def unreadableSince : Reply := refused 422 (.text "Invalid since timestamp")

/-- A query that cannot be read. -/
def unreadableQuery (e : Query.Error) : Reply :=
  refused 400 (.object [("message", .text e.fault.message), ("position", .int e.position)])

/-- A cycle that failed. -/
def failedCycle (r : CycleReport) : Reply :=
  refused 502 (.object [("company_id", .text r.company), ("error", .ofText? r.error),
    ("error_type", .ofText? r.errorType)])

/-- The visitor is sent elsewhere. -/
def moved (location : String) : Reply := ⟨307, .null, some location⟩

/-- Something went wrong while the request with this name was answered. -/
def crashed (request : String) : Reply :=
  ⟨500, .object [("detail", .text "Internal Server Error"), ("request_id", .text request)], none⟩

/-- The reply as it is sent to a request with this method: one for the head alone has no body. -/
def forMethod (r : Reply) (method : String) : Reply :=
  if method = "HEAD" then { r with body := .null } else r

end Reply
end VacancyLedger.Service
