/-
The addresses a source may have, in the form browsers give them.

An address has a scheme of the web and a host.  It is written with scheme and host in
lower case, the host in ASCII, without the default port, with at least a slash for a path,
without dot segments, and with everything that may not stand in it percent-encoded.
-/
import VacancyLedger.Address.Canonical
import VacancyLedger.Address.Domain
import VacancyLedger.Number.Digits

namespace VacancyLedger.Address.Strict

/-- Why a text is refused as the address of a source. -/
inductive Refusal where
  | unreadable
  | otherScheme
  deriving DecidableEq

/-! ### Percent-encoding -/

/-- The text with the characters encoded that are no printable ASCII or are in `marks`. -/
def encode (marks : List Char) (cs : List Char) : List Char :=
  encodeExcept (fun c => 32 < c.toNat && c.toNat < 127 && !marks.contains c) cs

/-- What is encoded in fragments. -/
def fragmentMarks : List Char := ['"', '<', '>', (Char.ofNat 96)]

/-- What is encoded in queries. -/
def queryMarks : List Char := ['"', '#', '<', '>', '\'']

/-- What is encoded in paths. -/
def pathMarks : List Char := fragmentMarks ++ ['#', '?', '\x7b', '\x7d']

/-- What is encoded in the name and the password of a user. -/
def userMarks : List Char := pathMarks ++ ['/', ':', ';', '=', '@', '[', '\\', ']', '^', '|']

/-! ### Hosts -/

/-- The marks that no host may have in it. -/
def hostMarks : List Char :=
  ['%', '#', '/', ':', '<', '>', '?', '@', '[', '\\', ']', '^', '|']

/-- Whether the character may not stand in a host. -/
def isForbiddenInHost (c : Char) : Bool :=
  c.toNat ≤ 32 || c.toNat == 127 || hostMarks.contains c

/-- A number of an address of the fourth version; the outer answer says whether the text is a
number, the inner one whether it is small enough to count. -/
def v4Number? (cs : List Char) : Option (Option Nat) :=
  let bounded (n : Nat) : Option Nat := if n < Number.twoTo 32 then some n else none
  match cs with
  | [] => none
  | '0' :: x :: ds =>
    if x = 'x' ∨ x = 'X' then
      if ds.all Number.isHexDigit then some (bounded (Number.ofHexDigits ds)) else none
    else if (x :: ds).all fun d => '0' ≤ d && d ≤ '7' then
      some (bounded ((x :: ds).foldl (fun n d => 8 * n + (d.toNat - 48)) 0))
    else none
  | ds => if ds.all Char.isDigit then some (bounded (Number.ofDigits ds)) else none

/-- The parts of a name, without the empty one after a point at the end. -/
def partsOf (name : List Char) : List (List Char) :=
  let parts := Text.splitAll '.' name
  if 1 < parts.length ∧ parts.getLast? = some [] then parts.dropLast else parts

/-- Whether a name ends in a number and so must be an address of the fourth version. -/
def endsInNumber (name : List Char) : Bool :=
  match (partsOf name).getLast? with
  | some last => (!last.isEmpty && last.all Char.isDigit) || (v4Number? last).isSome
  | none => false

/-- The address of the fourth version that numbers make: the last one fills what the others
leave. -/
def v4OfNumbers? (numbers : List Nat) : Option Nat := do
  let last ← numbers.getLast?
  let others := numbers.dropLast
  if 4 < numbers.length ∨ others.any (255 < ·) ∨ Nat.pow 256 (4 - others.length) ≤ last then none
  else return others.zipIdx.foldl (fun total (n, i) => total + n * Nat.pow 256 (3 - i)) last

/-- An address of the fourth version as text. -/
def v4Text (n : Nat) : List Char :=
  List.intercalate ['.'] ([3, 2, 1, 0].map fun i => (toString (Number.digitAt 256 n i)).toList)

/-- The normal form of a name that ends in a number. -/
def v4Host? (name : List Char) : Option (List Char) := do
  let numbers ← (partsOf name).mapM fun part => (v4Number? part).join
  return v4Text (← v4OfNumbers? numbers)

/-- The two pieces that the last part of an address of the sixth version is if it is one of the
fourth. -/
def v4Pieces? (cs : List Char) : Option (List Nat) :=
  if isV4 cs then
    match (Text.splitAll '.' cs).map Number.ofDigits with
    | [a, b, c, d] => some [256 * a + b, 256 * c + d]
    | _ => none
  else none

/-- The pieces that parts between colons make. -/
def pieces? : List (List Char) → Option (List Nat)
  | [] => some []
  | part :: parts =>
    if !part.isEmpty && part.length ≤ 4 && part.all Number.isHexDigit then
      (pieces? parts).map (Number.ofHexDigits part :: ·)
    else if parts.isEmpty then v4Pieces? part
    else none

/-- The parts between colons; a text without characters has none. -/
def colonParts (cs : List Char) : List (List Char) :=
  if cs.isEmpty then [] else Text.splitAll ':' cs

/-- Cuts at the first pair of colons. -/
def cutAtGap : List Char → List Char × Option (List Char)
  | ':' :: ':' :: rest => ([], some rest)
  | c :: cs =>
    let (before, after) := cutAtGap cs
    (c :: before, after)
  | [] => ([], none)

/-- The eight pieces of an address of the sixth version. -/
def v6Pieces? (cs : List Char) : Option (List Nat) := do
  match cutAtGap cs with
  | (all, none) =>
    let ps ← pieces? (colonParts all)
    if ps.length = 8 then return ps else none
  | (before, some after) =>
    let front ← pieces? (colonParts before)
    let back ← pieces? (colonParts after)
    if 8 < front.length + back.length then none
    else return front ++ List.replicate (8 - front.length - back.length) 0 ++ back

/-- The length of the run of zeros that a list starts with. -/
def zeroRun (ps : List Nat) : Nat := (ps.takeWhile (· == 0)).length

/-- Where the first of the longest runs of zeros starts, if it is longer than `longest`. -/
def longestGap (longest : Nat) (place : Option Nat) (i : Nat) : List Nat → Option Nat × Nat
  | [] => (place, longest)
  | p :: ps =>
    let n := zeroRun (p :: ps)
    if longest < n then longestGap n (some i) (i + 1) ps else longestGap longest place (i + 1) ps

/-- Pieces of an address in hexadecimal with colons between them. -/
def hexPieces (ps : List Nat) : List Char :=
  List.intercalate [':'] (ps.map (Nat.toDigits 16 ·))

/-- An address of the sixth version as text. -/
def v6Text (ps : List Nat) : List Char :=
  match longestGap 1 none 0 ps with
  | (some i, n) => hexPieces (ps.take i) ++ ':' :: ':' :: hexPieces (ps.drop (i + n))
  | (none, _) => hexPieces ps

/-- The normal form of the host of an address of the web; any name is written as `naming` says. -/
def webHost? (naming : Naming) (host : List Char) : Option (List Char) :=
  match host with
  | '[' :: inner =>
    if inner.getLast? = some ']' then
      (v6Pieces? inner.dropLast).map fun ps => '[' :: v6Text ps ++ [']']
    else none
  | _ =>
    match Text.Utf8.readFrom 0 (bytesOf (encodeExcept isAscii host)) with
    | .error _ => none
    | .ok name => do
      let name ← naming name
      if name.isEmpty || name.any isForbiddenInHost then none
      else if endsInNumber name then v4Host? name
      else some name

/-- Whether the text may be the host of an address beyond the web. -/
def isOtherHost (host : List Char) : Bool :=
  match host with
  | '[' :: inner => inner.getLast? = some ']' && (v6Pieces? inner.dropLast).isSome
  | _ => !host.any fun c =>
    c != '%' && c.toNat != 127 && (c.toNat == 0 || c.toNat == 32 || hostMarks.contains c)

/-! ### Authorities -/

/-- The name and the password of a user, as they are written before a host. -/
def userText (user : List Char) : List Char :=
  let (name, password) := Text.cutAt ':' user
  let name := encode userMarks name
  let password := encode userMarks (password.getD [])
  if name.isEmpty && password.isEmpty then []
  else if password.isEmpty then name ++ ['@']
  else name ++ ':' :: password ++ ['@']

/-- Cuts a host from the port after it; a colon in brackets is part of the host. -/
def cutHost : Bool → List Char → List Char × Option (List Char)
  | _, [] => ([], none)
  | bracketed, c :: cs =>
    if c = ':' ∧ !bracketed then ([], some cs)
    else
      let (host, port) := cutHost (if c = '[' then true else if c = ']' then false else bracketed) cs
      (c :: host, port)

/-- The port as it is written, without the default one of the scheme. -/
def portText? (scheme : List Char) (port : List Char) : Option (List Char) :=
  if !port.all Char.isDigit then none
  else if port.isEmpty then some []
  else if 65535 < Number.ofDigits port then none
  else if defaultPort? scheme = some (Number.ofDigits port) then some []
  else some (':' :: (toString (Number.ofDigits port)).toList)

/-- The normal form of an authority, the host being read by `host?`. -/
def authorityText? (scheme : List Char) (host? : List Char → Option (List Char))
    (authority : List Char) : Option (List Char) := do
  let (user, place) := Text.cutAtLast '@' authority
  let (host, port) := cutHost false place
  return userText (user.getD []) ++ (← host? host) ++ (← portText? scheme (port.getD []))

/-! ### Paths -/

/-- Whether a segment stands for the folder itself. -/
def isSingleDot (segment : List Char) : Bool :=
  [".", "%2e"].contains (String.ofList (segment.map Char.toLower))

/-- Whether a segment stands for the folder above. -/
def isDoubleDot (segment : List Char) : Bool :=
  ["..", ".%2e", "%2e.", "%2e%2e"].contains (String.ofList (segment.map Char.toLower))

/-- The segments of a path without dot segments; `above` are those before, the last one first. -/
def resolveSegments (above : List (List Char)) : List (List Char) → List (List Char)
  | [] => above.reverse
  | segment :: rest =>
    if isDoubleDot segment then
      resolveSegments (if rest.isEmpty then [] :: above.drop 1 else above.drop 1) rest
    else if isSingleDot segment then
      resolveSegments (if rest.isEmpty then [] :: above else above) rest
    else resolveSegments (encode pathMarks segment :: above) rest

/-- The normal form of a path. -/
def pathText (path : List Char) : List Char :=
  let path := path.map fun c => if c = '\\' then '/' else c
  let path := if path.head? = some '/' then path.drop 1 else path
  '/' :: List.intercalate ['/'] (resolveSegments [] (Text.splitAll '/' path))

/-! ### Addresses -/

/-- Without the controls and spaces at the ends, and without tabs and line ends. -/
def clean (cs : List Char) : List Char :=
  let inner := ((cs.dropWhile (·.toNat ≤ 32)).reverse.dropWhile (·.toNat ≤ 32)).reverse
  inner.filter fun c => !(c == '\t' || c == '\r' || c == '\n')

/-- The normal form of what follows the colon of a scheme of the web. -/
def webText? (naming : Naming) (scheme rest : List Char) : Option (List Char) := do
  let (rest, fragment) := Text.cutAt '#' rest
  let (rest, query) := Text.cutAt '?' rest
  let rest := rest.dropWhile fun c => c == '/' || c == '\\'
  let (authority, path) := cutWhere (fun c => c == '/' || c == '\\') rest
  let authority ← authorityText? scheme (webHost? naming) authority
  let query := (query.map fun q => '?' :: encode queryMarks q).getD []
  let fragment := (fragment.map fun f => '#' :: encode fragmentMarks f).getD []
  return scheme ++ "://".toList ++ authority ++ pathText path ++ query ++ fragment

/-- Whether what follows the colon of another scheme can be read. -/
def isReadable (naming : Naming) (scheme rest : List Char) : Bool :=
  if ["ftp", "ws", "wss"].contains (String.ofList scheme) then (webText? naming scheme rest).isSome
  else if scheme = "file".toList then true
  else
    match rest with
    | '/' :: '/' :: rest =>
      let authority := (cutWhere (fun c => c == '/' || c == '?' || c == '#') rest).1
      let host? (host : List Char) := if isOtherHost host then some host else none
      (authorityText? scheme host? authority).isSome
    | _ => true

/-- The normal form of the address of a source. -/
def normalChars (naming : Naming) (url : List Char) : Except Refusal (List Char) :=
  match cutScheme (clean url) with
  | none => .error .unreadable
  | some (scheme, rest) =>
    if (defaultPort? scheme).isSome then
      match webText? naming scheme rest with
      | some text => .ok text
      | none => .error .unreadable
    else if isReadable naming scheme rest then .error .otherScheme
    else .error .unreadable

/-- The normal form of the address of a source. -/
def normal (naming : Naming) (url : String) : Except Refusal String :=
  (normalChars naming url.toList).map String.ofList

end VacancyLedger.Address.Strict
