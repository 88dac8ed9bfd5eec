/-
The canonical form of an address, by which listings of one vacancy are recognised.

User information, default ports, tracking parameters, empty parts of the query and
fragments that name a place in a page are dropped; scheme and host are in lower case.
What is left is an address only if it is one of a web page.
-/
import VacancyLedger.Address.Join
import VacancyLedger.Address.Percent
import VacancyLedger.Text.Blank

namespace VacancyLedger.Address

/-- The port a scheme of the web has if none is written. -/
def defaultPort? (scheme : List Char) : Option Nat :=
  if scheme = "http".toList then some 80
  else if scheme = "https".toList then some 443
  else none

/-! ### Addresses of web pages -/

/-- What crawlers write in place of an address they could not read. -/
def placeholder : List Char := "invalid-url".toList

/-- Whether the parts are those of an address on the web: a scheme of the web, a host, and a port
other than zero if one is written. -/
def Parts.isWeb (p : Parts) : Bool :=
  (defaultPort? p.scheme).isSome && !p.host.isEmpty &&
    match p.port with
    | .ok port => port != some 0
    | .error _ => false

/-- Whether the text is the address of a web page. -/
def isWebChars (url : List Char) : Bool :=
  !url.any Text.isBlank && !Text.contains placeholder (Text.lowerChars url) &&
    match split url with
    | .ok p => p.isWeb
    | .error _ => false

/-- Whether the text is the address of a web page. -/
def isWeb (url : String) : Bool :=
  isWebChars url.toList

/-! ### Queries -/

/-- Parameters that tell where a visitor came from. -/
def trackingNames : List String :=
  ["ref", "source", "gh_src", "lever-source", "gclid", "fbclid", "msclkid", "mc_cid", "mc_eid",
   "_ga", "_gl", "_hsenc", "_hsmi"]

/-- How the names of a whole family of such parameters start. -/
def trackingFamily : List Char := "utm_".toList

/-- The name of a parameter, decoded and in lower case. -/
def parameterName (part : List Char) : List Char :=
  Text.lowerChars (decodeQuery (Text.cutAt '=' part).1)

/-- Whether the parameter tells where a visitor came from. -/
def isTracking (part : List Char) : Bool :=
  let name := parameterName part
  Text.startsWith trackingFamily name || trackingNames.contains (String.ofList name)

/-- The parts of a query that tell pages apart. -/
def essentialParts (query : List Char) : List (List Char) :=
  (Text.splitAll '&' query).filter fun part => !part.isEmpty && !isTracking part

/-- The query without tracking parameters and empty parts. -/
def essentialQuery (query : List Char) : List Char :=
  List.intercalate ['&'] (essentialParts query)

/-! ### The canonical form -/

/-- A host as it is written in an authority: the address of a host with colons in it stands in
brackets. -/
def bracketed (host : List Char) : List Char :=
  if host.contains ':' then '[' :: host ++ [']'] else host

/-- The authority that is left of the host and the port. -/
def essentialAuthority (scheme host : List Char) (port : Option Nat) : List Char :=
  match port with
  | some n =>
    if defaultPort? scheme = some n then bracketed host
    else bracketed host ++ ':' :: (toString n).toList
  | none => bracketed host

/-- The fragment if it names a page of its own and not a place in a page. -/
def essentialFragment (fragment : List Char) : List Char :=
  if fragment.head? = some '/' ∨ fragment.head? = some '!' then fragment else []

/-- The parts of the canonical form. -/
def Parts.canonical (p : Parts) (port : Option Nat) : Parts where
  scheme := p.scheme
  authority := essentialAuthority p.scheme p.host port
  path := if p.path.isEmpty then ['/'] else p.path
  query := essentialQuery p.query
  fragment := essentialFragment p.fragment

/-- The text resolved against the base, if there is one, and cut into parts. -/
def resolve (raw base : List Char) : Except Error (Parts × Option Nat) := do
  let url ← if base.isEmpty then .ok raw else join base raw
  let parts ← split url
  return (parts, ← parts.port)

/-- The canonical form of an address found at a base; empty if it is no address of a web page. -/
def canonicalChars (raw base : List Char) : List Char :=
  let raw := Text.trim raw
  if raw.isEmpty then []
  else
    match resolve raw base with
    | .error _ => []
    | .ok (parts, port) =>
      let url := unsplit (parts.canonical port)
      if isWebChars url then url else []

/-- The canonical form of an address found at a base, either of them perhaps empty; empty if it is
no address of a web page. -/
def canonical (raw base : String) : String :=
  String.ofList (canonicalChars raw.toList base.toList)

/-! ### Sites -/

/-- Scheme and authority of an address, in lower case: where a site keeps its rules for robots. -/
def origin (url : String) : Except Error String := do
  let p ← split url.toList
  return String.ofList (Text.lowerChars p.scheme ++ "://".toList ++ Text.lowerChars p.authority)

/-- The host of an address in lower case, empty if there is none. -/
def host (url : String) : Except Error String := do
  let p ← split url.toList
  return String.ofList (Text.lowerChars p.host)

end VacancyLedger.Address
