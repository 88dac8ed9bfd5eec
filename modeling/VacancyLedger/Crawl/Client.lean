/-
Asking for a page.

A client is anything that is asked for pages, one after the other, and gives a page or comes to
a loss.  The one here asks a web and follows redirections, up to a number of times in a row.
Where a redirection leads is told relative to the address it was found at, and keeps the fragment
of that address unless it has its own.
-/
import VacancyLedger.Address.Join
import VacancyLedger.Address.Request
import VacancyLedger.Crawl.Exchange

namespace VacancyLedger.Crawl

open Address (Naming)
open Address.Request (Target)

/-- Why asking for a page comes to nothing: trouble, an address that cannot be asked for, or one
that cannot be read. -/
inductive Loss where
  | trouble (t : Trouble)
  | target (e : Address.Request.Refusal)
  | address (e : Address.Error)

/-- The name a loss is reported by. -/
def Loss.name : Loss → String
  | .trouble t => t.name
  | .target _ => "InvalidURL"
  | .address _ => "ValueError"

/-- A loss in words. -/
def Loss.message : Loss → String
  | .trouble t => t.message
  | .target e => e.message
  | .address e => e.message

/-- What comes of asking for a page: a response and where it was found, or nothing. -/
inductive Got where
  | page (url : String) (r : Response)
  | lost (l : Loss)

/-- What is asked for pages: what it gives for an address, and what is left after it. -/
abbrev Client (ω : Type) := String → ω → Got × ω

/-! ### Redirections -/

/-- How many redirections are followed in a row. -/
def maxRedirections : Nat := 20

/-- Where a response redirects to, as it says. -/
def Response.redirection? (r : Response) : Option String :=
  if [301, 302, 303, 307, 308].contains r.status then r.header? "location" else none

/-- The trouble with a redirection that leads nowhere. -/
def badRedirection (e : Address.Request.Refusal) : Loss :=
  .trouble ⟨"RemoteProtocolError", s!"Invalid URL in location header: {e.message}."⟩

/-- The trouble with too many redirections. -/
def tooManyRedirections : Loss :=
  .trouble ⟨"TooManyRedirects", "Exceeded maximum allowed redirects."⟩

/-- Resolves a target against the one it was found at. -/
def resolveTarget (naming : Naming) (found next : Target) : Except Loss Target :=
  if next.isAbsolute then .ok next
  else do
    let url ← (Address.join found.text next.text).mapError .address
    (Target.read naming url).mapError .target

/-- The target that a redirection found at another target leads to. -/
def redirected (naming : Naming) (found : Target) (location : String) : Except Loss Target := do
  let next ← (Target.read naming location.toList).mapError badRedirection
  let next :=
    if !next.scheme.isEmpty ∧ next.host.isEmpty then { next with host := found.host } else next
  let next ← resolveTarget naming found next
  return if (next.fragment.getD []).isEmpty ∧ !(found.fragment.getD []).isEmpty then
      { next with fragment := found.fragment }
    else next

/-- A target that does not say where it is, as it is asked for. -/
def rooted (t : Target) : Target :=
  if t.isAbsolute then t
  else { t with
    scheme := [], user := [], host := [], port := none, fragment := none
    path := '/' :: t.path.dropWhile (· == '/') }

/-! ### Clients of a web -/

/-- Asks for a target and for what it redirects to, so many times at most. -/
def follow {ω : Type} (naming : Naming) (web : Web ω) : Nat → Target → ω → Got × ω
  | 0, _, w => (.lost tooManyRedirections, w)
  | times + 1, target, w =>
    match web w (String.ofList target.text) with
    | (.trouble t, w) => (.lost (.trouble t), w)
    | (.response r, w) =>
      match r.redirection? with
      | none => (.page (String.ofList target.text) r, w)
      | some location =>
        match redirected naming target location with
        | .error l => (.lost l, w)
        | .ok next => follow naming web times next w

/-- The client that asks a web for a page, and follows where it is redirected. -/
def get {ω : Type} (naming : Naming) (web : Web ω) : Client ω := fun url w =>
  match Target.read naming url.toList with
  | .error e => (.lost (.target e), w)
  | .ok target => follow naming web (maxRedirections + 1) (rooted target) w

/-- A response that was found at a target, if what it redirects to can be told. -/
def taken (naming : Naming) (found : Target) (r : Response) : Got :=
  match r.redirection?.map (redirected naming found) with
  | some (.error l) => .lost l
  | _ => .page (String.ofList found.text) r

/-- The client that takes the first response, without following it. -/
def getDirectly {ω : Type} (naming : Naming) (web : Web ω) : Client ω := fun url w =>
  match Target.read naming url.toList with
  | .error e => (.lost (.target e), w)
  | .ok target =>
    match web w (String.ofList (rooted target).text) with
    | (.trouble t, w) => (.lost (.trouble t), w)
    | (.response r, w) => (taken naming (rooted target) r, w)

end VacancyLedger.Crawl
