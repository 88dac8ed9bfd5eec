/-
Requests and what they are answered with.

A response comes with its body read, or with the complaint of whoever could not read it: which
character sets there are is not for a crawler to know.  `Response.ofBytes` makes responses from
bytes, for the sets of `Text.Charset`.

A request is answered by a response or comes to trouble.  The web is anything that
answers requests, one after the other; `Script` is a web that answers from a list.
-/
import VacancyLedger.Table
import VacancyLedger.Text.Charset

namespace VacancyLedger.Crawl

/-- A response to a request.  Its body is a text, or the complaint of whoever has tried to read one
from it. -/
structure Response where
  status : Int
  headers : List (String × String)
  body : Except Text.Illegible String

/-- What a header says; the names of headers are in any case.  Where a name comes several times its
values are taken together. -/
def Response.header? (r : Response) (name : String) : Option String :=
  match r.headers.filter fun (n, _) => n.map Char.toLower == name with
  | [] => none
  | found => some (", ".intercalate (found.map (·.2)))

/-- Whether the response is what was asked for. -/
def Response.isSuccess (r : Response) : Bool := 200 ≤ r.status && r.status ≤ 299

/-- A response whose body is read in the character set of its content type. -/
def Response.ofBytes (status : Int) (headers : List (String × String)) (bytes : List UInt8) :
    Response :=
  let r : Response := ⟨status, headers, .ok ""⟩
  { r with body := (Text.Charset.ofContentType (r.header? "content-type")).read bytes }

/-- Why a request came to nothing. -/
structure Trouble where
  name : String
  message : String
  deriving DecidableEq

/-- The troubles on the way to and from a host, which may not come again. -/
def transportTroubles : List String :=
  ["TransportError", "TimeoutException", "ConnectTimeout", "ReadTimeout", "WriteTimeout",
   "PoolTimeout", "NetworkError", "ConnectError", "ReadError", "WriteError", "CloseError",
   "ProtocolError", "LocalProtocolError", "RemoteProtocolError", "ProxyError",
   "UnsupportedProtocol"]

/-- Whether the trouble was on the way to or from the host. -/
def Trouble.isTransport (t : Trouble) : Bool := transportTroubles.contains t.name

/-- The troubles a request can come to that are not on the way. -/
def otherTroubles : List String :=
  ["HTTPError", "RequestError", "HTTPStatusError", "DecodingError", "TooManyRedirects"]

/-- Whether the trouble is one that requests can come to.  Any other is not dealt with. -/
def Trouble.isExpected (t : Trouble) : Bool := t.isTransport || otherTroubles.contains t.name

/-- What comes of a request. -/
inductive Answer where
  | response (r : Response)
  | trouble (t : Trouble)

/-- What answers requests: an answer to a request for an address, and what is left after it. -/
abbrev Web (ω : Type) := ω → String → Answer × ω

/-! ### A web from a script -/

/-- The answers for every address, and the requests made so far, the last one first. -/
structure Script where
  answers : Table String (List Answer)
  requests : List String

/-- What an address is answered with that the script does not know. -/
def notFound : Answer := .response ⟨404, [], .ok ""⟩

/-- Answers with the first answer an address has left; the last one is used again and again. -/
def Script.answer : Web Script := fun s url =>
  let s := { s with requests := url :: s.requests }
  match Table.get? s.answers url with
  | some (a :: b :: rest) => (a, { s with answers := Table.insert s.answers url (b :: rest) })
  | some [a] => (a, s)
  | _ => (notFound, s)

end VacancyLedger.Crawl
