/-
The addresses that requests are made for.

An address is written out with scheme and host in lower case, without the default port
and dot segments, and with everything that may not stand in it encoded; what looks
encoded is left alone.  An empty path stays empty.
-/
import VacancyLedger.Address.Domain
import VacancyLedger.Address.Literal
import VacancyLedger.Address.Percent
import VacancyLedger.Address.Split
import VacancyLedger.Text.Blank
import VacancyLedger.Text.Digit

namespace VacancyLedger.Address.Request

/-- Why no request can be made for a text. -/
inductive Refusal where
  | tooLong
  | control (c : Char) (position : Nat)
  | port (text : String)
  | v4 (host : String)
  | v6 (host : String)
  | name (host : String)
  | relativePath
  | doubleSlash
  | colon

/-- A refusal in words. -/
def Refusal.message : Refusal → String
  | .tooLong => "URL too long"
  | .control c position =>
    s!"Invalid non-printable ASCII character in URL, {Text.quoted c.toString} at position {position}."
  | .port text => s!"Invalid port: {Text.quoted text}"
  | .v4 host => s!"Invalid IPv4 address: {Text.quoted host}"
  | .v6 host => s!"Invalid IPv6 address: {Text.quoted host}"
  | .name host => s!"Invalid IDNA hostname: {Text.quoted host}"
  | .relativePath => "For absolute URLs, path must be empty or begin with '/'"
  | .doubleSlash => "Relative URLs cannot have a path starting with '//'"
  | .colon => "Relative URLs cannot have a path starting with ':'"

/-- The parts of an address that a request is made for. -/
structure Target where
  scheme : List Char
  user : List Char
  host : List Char
  port : Option Int
  path : List Char
  query : Option (List Char)
  fragment : Option (List Char)

/-! ### Encoding -/

/-- The text with the characters encoded that do not satisfy `keep`; an encoded byte is left as it
is. -/
def encode (keep : Char → Bool) : List Char → List Char
  | '%' :: a :: b :: cs =>
    if Number.isHexDigit a && Number.isHexDigit b then '%' :: a :: b :: encode keep cs
    else (if keep '%' then ['%'] else encodeChar '%') ++ encode keep (a :: b :: cs)
  | c :: cs => (if keep c then [c] else encodeChar c) ++ encode keep cs
  | [] => []

/-- Whether the character may stand for itself, `marks` being encoded. -/
def isPlain (marks : List Char) (c : Char) : Bool :=
  32 < c.toNat && c.toNat < 127 && !marks.contains c

/-- The grave accent. -/
def grave : Char := Char.ofNat 96

/-- What is encoded in fragments. -/
def fragmentMarks : List Char := ['"', '<', '>', grave]

/-- What is encoded in queries. -/
def queryMarks : List Char := ['"', '#', '<', '>']

/-- What is encoded in paths. -/
def pathMarks : List Char := queryMarks ++ ['?', grave, '\x7b', '\x7d']

/-- What is encoded in the name and the password of a user. -/
def userMarks : List Char := pathMarks ++ ['/', ';', '=', '@', '[', '\\', ']', '^', '|']

/-- What may stand in a host. -/
def isHostChar (c : Char) : Bool :=
  isUnreserved c || "!$&'()*+,;=\"%|\\".toList.contains c || [grave, '\x7b', '\x7d'].contains c

/-! ### Hosts and ports -/

/-- Whether a text whose first character has been read, a digit, goes on as that many more runs of
digits, each with any character before it. -/
def runsOn : Nat → List Char → Bool
  | runs, [] => runs == 0
  | runs, [c] => c.isDigit && runs == 0
  | runs, c :: d :: cs =>
    (c.isDigit && runsOn runs (d :: cs)) || (runs != 0 && d.isDigit && runsOn (runs - 1) cs)

/-- Whether the host looks like an address of the fourth version: four runs of digits with any
character between two of them. -/
def looksV4 : List Char → Bool
  | c :: cs => c.isDigit && runsOn 3 cs
  | [] => false

/-- The host as it is written in a request; a name beyond ASCII is written as `naming` says. -/
def hostText (naming : Naming) (host : List Char) : Except Refusal (List Char) :=
  if looksV4 host then
    if isV4 host then .ok host else .error (.v4 (String.ofList host))
  else if host.head? = some '[' ∧ host.getLast? = some ']' then
    if isV6 (host.drop 1).dropLast then .ok (host.drop 1).dropLast
    else .error (.v6 (String.ofList host))
  else if host.all isAscii then .ok (encode isHostChar (host.map Char.toLower))
  else
    match naming host with
    | some name => .ok name
    | none => .error (.name (String.ofList host))

/-- The ports that are not written. -/
def defaultPorts : List (String × Int) :=
  [("ftp", 21), ("http", 80), ("https", 443), ("ws", 80), ("wss", 443)]

/-- The port as a number, if it is written and is not the default one. -/
def portOf (scheme : List Char) (port : List Char) : Except Refusal (Option Int) :=
  if port.isEmpty then .ok none
  else
    match Text.intOfText? (Text.trim port) with
    | none => .error (.port (String.ofList port))
    | some n =>
      .ok (if defaultPorts.lookup (String.ofList scheme) = some n then none else some n)

/-- Cuts an authority into user, host and port; a host in brackets ends at its last bracket. -/
def cutAuthority (authority : List Char) : List Char × List Char × List Char :=
  let (user, place) := Text.cutAtLast '@' authority
  let (host, port) :=
    match place.head?, Text.cutAtLast ']' place with
    | some '[', (some inner, port) => (inner ++ [']'], port)
    | _, _ => place.span fun c => c != ':'
  (user.getD [], host, if port.head? = some ':' then port.drop 1 else port)

/-! ### Paths -/

/-- The path without dot segments. -/
def withoutDots (path : List Char) : List Char :=
  let segments := Text.splitAll '/' path
  if segments.any fun s => s = ['.'] ∨ s = ['.', '.'] then
    let resolved := segments.foldl (fun above s =>
      if s = ['.'] then above
      else if s = ['.', '.'] then (if above = [[]] then above else above.drop 1)
      else s :: above) []
    List.intercalate ['/'] resolved.reverse
  else path

/-! ### Targets -/

/-- How long an address may be. -/
def maxLength : Nat := 65536

/-- The scheme a text starts with, and what follows its colon. -/
def schemeAndRest (url : List Char) : List Char × List Char :=
  match Text.cutAt ':' url with
  | (c :: name, some rest) =>
    if c.isAlpha && (c :: name).all isSchemeChar then ((c :: name), rest) else ([], url)
  | ([], some rest) => ([], rest)
  | _ => ([], url)

/-- Cuts a text into the parts of an address. -/
def Target.read (naming : Naming) (url : List Char) : Except Refusal Target := do
  if maxLength < url.length then throw .tooLong
  match url.findIdx? fun c => c.toNat < 32 ∨ c.toNat = 127 with
  | some i => throw (.control (url.getD i ' ') i)
  | none => pure ()
  let (scheme, rest) := schemeAndRest url
  let (authority, rest) := match rest with
    | '/' :: '/' :: rest => rest.span fun c => !(c == '/' || c == '?' || c == '#')
    | _ => ([], rest)
  let (rest, fragment) := Text.cutAt '#' rest
  let (path, query) := Text.cutAt '?' rest
  let (user, host, port) := cutAuthority authority
  let host ← hostText naming host
  let port ← portOf scheme port
  let located := !user.isEmpty || !host.isEmpty || port.isSome
  if located ∧ !path.isEmpty ∧ path.head? ≠ some '/' then throw .relativePath
  if scheme.isEmpty ∧ !located then
    if path.take 2 = ['/', '/'] then throw .doubleSlash
    if path.head? = some ':' then throw .colon
  let path := if !scheme.isEmpty || located then withoutDots path else path
  return {
    scheme := scheme.map Char.toLower
    user := encode (isPlain userMarks) user
    host
    port
    path := encode (isPlain pathMarks) path
    query := query.map (encode (isPlain queryMarks))
    fragment := fragment.map (encode (isPlain fragmentMarks)) }

/-- The authority of a target. -/
def Target.authority (t : Target) : List Char :=
  (if t.user.isEmpty then [] else t.user ++ ['@']) ++
    (if t.host.contains ':' then '[' :: t.host ++ [']'] else t.host) ++
    (t.port.elim [] fun n => ':' :: (toString n).toList)

/-- A target as text. -/
def Target.text (t : Target) : List Char :=
  (if t.scheme.isEmpty then [] else t.scheme ++ [':']) ++
    (if t.authority.isEmpty then [] else '/' :: '/' :: t.authority) ++ t.path ++
    (t.query.elim [] ('?' :: ·)) ++ (t.fragment.elim [] ('#' :: ·))

/-- Whether the target says where it is. -/
def Target.isAbsolute (t : Target) : Bool :=
  !t.scheme.isEmpty && !t.host.isEmpty

end VacancyLedger.Address.Request
