/-
The routes of the service.

A path is matched part by part, and the routes are tried in order.  A path that no route
matches may be one with a slash too many or too few at its end, which is redirected.
-/
import VacancyLedger.Text.Scan

namespace VacancyLedger.Service

/-- A part of the path of a route: a word, or something that is named by the visitor. -/
inductive Part where
  | word (w : String)
  | named (name : String)
  deriving DecidableEq

/-- What a visitor can ask of the service. -/
inductive Route where
  | health
  | metrics
  | companies
  | company
  | runCycle
  | runAll
  | history
  | postings
  | posting
  deriving DecidableEq

namespace Route

/-- The routes in the order in which they are tried. -/
def all : List Route :=
  [.health, .metrics, .companies, .company, .runCycle, .runAll, .history, .postings, .posting]

/-- The method a route is asked by. -/
def method : Route → String
  | .runCycle | .runAll => "POST"
  | _ => "GET"

/-- The parts of the path of a route. -/
def parts : Route → List Part
  | .health => [.word "health"]
  | .metrics => [.word "metrics"]
  | .companies => [.word "companies"]
  | .company => [.word "companies", .named "company_id"]
  | .runCycle | .history => [.word "companies", .named "company_id", .word "cycles"]
  | .runAll => [.word "cycles"]
  | .postings => [.word "postings"]
  | .posting => [.word "postings", .named "posting_id"]

/-- A part as it is written in the path of a route. -/
def partText : Part → String
  | .word w => w
  | .named name => "\x7b" ++ name ++ "\x7d"

/-- The path of a route as it is written. -/
def template (r : Route) : String :=
  String.join (r.parts.map fun p => "/" ++ partText p)

/-- Matches the parts of a path: what the named parts stand for.  A line feed after the last word
is disregarded. -/
def matchParts : List Part → List (List Char) → Option (List String)
  | [], [] => some []
  | [.word w], [s] => if s = w.toList ∨ s = w.toList ++ ['\n'] then some [] else none
  | .word w :: ps, s :: ss => if s = w.toList then matchParts ps ss else none
  | .named _ :: ps, s :: ss =>
    if s.isEmpty then none else (matchParts ps ss).map (String.ofList s :: ·)
  | _, _ => none

/-- Matches a path: what the named parts stand for. -/
def matchPath (r : Route) (path : List Char) : Option (List String) :=
  match path with
  | '/' :: path => matchParts r.parts (Text.splitAll '/' path)
  | _ => none

end Route

/-- Where a request leads. -/
inductive Routing where
  /-- To a route; `name` is what its named part stands for, if it has one. -/
  | found (route : Route) (name : String)
  /-- To a route that is asked by another method. -/
  | otherMethod (route : Route)
  /-- To another path. -/
  | moved (path : List Char)
  | unmatched

/-- The path with the slashes at its end taken away, or with one if it has none. -/
def otherEnd (path : List Char) : List Char :=
  if path.getLast? = some '/' then (path.reverse.dropWhile (· == '/')).reverse
  else path ++ ['/']

/-- Where a request leads. -/
def Routing.of (method : String) (path : List Char) : Routing :=
  let matching := Route.all.filterMap fun r => (r.matchPath path).map (r, ·)
  match matching.find? fun (r, _) => r.method == method with
  | some (r, names) => .found r (names.headD "")
  | none =>
    match matching with
    | (r, _) :: _ => .otherMethod r
    | [] =>
      let other := otherEnd path
      if path ≠ ['/'] ∧ Route.all.any fun r => (r.matchPath other).isSome then .moved other
      else .unmatched

/-- How the route of requests is counted that lead nowhere. -/
def unmatchedName : String := "<unmatched>"

/-- How the route of a request is counted. -/
def Routing.template : Routing → String
  | .found r _ | .otherMethod r => r.template
  | .moved _ | .unmatched => unmatchedName

end VacancyLedger.Service
