/-
Requests to the service.

The path of a request is decoded twice, and a parameter that is given more than once has
the value given last.
-/
import VacancyLedger.Address.Percent
import VacancyLedger.Address.Request
import VacancyLedger.Json.Basic

namespace VacancyLedger.Service

/-- A request to the service. -/
structure Request where
  method : String
  target : Address.Request.Target
  headers : List (String × String)

namespace Request

/-- The path that is asked for. -/
def path (r : Request) : List Char :=
  let path := if r.target.path.isEmpty then ['/'] else r.target.path
  Address.decodePercent (Address.decodePercent path)

/-- A part of a query as a name and a value. -/
def parameterOf (part : List Char) : String × Json :=
  let (name, value) := Text.cutAt '=' part
  (String.ofList (Address.decodeQuery name),
   .text (String.ofList (Address.decodeQuery (value.getD []))))

/-- The parameters of a request, as an object. -/
def parameters (r : Request) : Json :=
  let parts := (Text.splitAll '&' (r.target.query.getD [])).filter (!·.isEmpty)
  .object (Table.ofPairs (parts.map parameterOf))

/-- The text of a parameter. -/
def text? (r : Request) (name : String) : Option String :=
  match r.parameters.get? name with
  | some (.text s) => some s
  | _ => none

/-- The header that names a request. -/
def nameHeader : String := "x-request-id"

/-- The name of a request: the one it has been given unless that is empty, else a fresh one. -/
def name (r : Request) (fresh : String) : String :=
  match r.headers.find? fun (h, _) => h.map Char.toLower == nameHeader with
  | some (_, given) => if given.isEmpty then fresh else given
  | none => fresh

end Request
end VacancyLedger.Service
