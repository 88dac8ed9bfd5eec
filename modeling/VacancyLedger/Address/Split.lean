/-
URLs cut into their five parts.

`split` cuts a text into scheme, authority, path, query and fragment, and `unsplit`
writes the parts back.  Nearly every text is a URL: refused are only authorities with
brackets that hold no address, and those with a character that stands for one of the
marks that structure a URL.
-/
import VacancyLedger.Address.Literal
import VacancyLedger.Text.Case
import VacancyLedger.Text.Quoted

namespace VacancyLedger.Address

/-- The five parts of a URL, without the marks between them. -/
structure Parts where
  scheme : List Char
  authority : List Char
  path : List Char
  query : List Char
  fragment : List Char
  deriving DecidableEq

/-- Why a text is refused as a URL, or its port as a port. -/
inductive Error where
  | brackets
  | futureAddress
  | notAnAddress (host : String)
  | bracketedV4
  | disguisedMark (authority : String)
  | portNotANumber (port : String)
  | portTooLong (e : Number.TooManyDigits)
  | portOutOfRange

/-- A refusal in words. -/
def Error.message : Error → String
  | .brackets => "Invalid IPv6 URL"
  | .futureAddress => "IPvFuture address is invalid"
  | .notAnAddress host => s!"{Text.quoted host} does not appear to be an IPv4 or IPv6 address"
  | .bracketedV4 => "An IPv4 address cannot be in brackets"
  | .disguisedMark authority =>
    s!"netloc '{authority}' contains invalid characters under NFKC normalization"
  | .portNotANumber port => s!"Port could not be cast to integer value as {Text.quoted port}"
  | .portTooLong e => e.message
  | .portOutOfRange => "Port out of range 0-65535"

/-! ### Schemes -/

/-- Whether the character may stand in a scheme. -/
def isSchemeChar (c : Char) : Bool :=
  c.isAlphanum || c == '+' || c == '-' || c == '.'

/-- The scheme a text starts with, in lower case, and what follows its colon. -/
def cutScheme (cs : List Char) : Option (List Char × List Char) :=
  match Text.cutAt ':' cs with
  | (c :: name, some rest) =>
    if c.isAlpha && (c :: name).all isSchemeChar then some ((c :: name).map Char.toLower, rest)
    else none
  | _ => none

/-- Schemes whose URLs have an authority. -/
def schemesWithAuthority : List String :=
  ["", "ftp", "http", "gopher", "nntp", "telnet", "imap", "wais", "file", "mms", "https", "shttp",
   "snews", "prospero", "rtsp", "rtsps", "rtspu", "rsync", "svn", "svn+ssh", "sftp", "nfs", "git",
   "git+ssh", "ws", "wss"]

/-! ### Authorities -/

/-- Compatibility characters whose plain form holds a mark that structures a URL. -/
def disguisedMarks : List Nat :=
  [0x2047, 0x2048, 0x2049, 0x2100, 0x2101, 0x2105, 0x2106, 0x2A74, 0xFE13, 0xFE16, 0xFE55, 0xFE56,
   0xFE5F, 0xFE6B, 0xFF03, 0xFF0F, 0xFF1A, 0xFF1F, 0xFF20]

/-- A host in brackets must be an address of the sixth version or of one yet to come. -/
def checkBracketed (host : List Char) : Except Error Unit :=
  if host.head? = some 'v' then (if isFuture host then .ok () else .error .futureAddress)
  else if isV4 host then .error .bracketedV4
  else if isV6 host then .ok ()
  else .error (.notAnAddress (String.ofList host))

/-- What follows the last `@` of an authority. -/
def hostAndPort (authority : List Char) : List Char :=
  (Text.cutAtLast '@' authority).2

/-- Brackets must stand in pairs and hold an address, with nothing before them and nothing but a
port after them. -/
def checkBrackets (authority : List Char) : Except Error Unit :=
  let opened := authority.contains '['
  let closed := authority.contains ']'
  if opened != closed then .error .brackets
  else if !opened then .ok ()
  else
    match Text.cutAt '[' (hostAndPort authority) with
    | (_ :: _, some _) => .error .brackets
    | ([], some inner) =>
      match Text.cutAt ']' inner with
      | (host, some (c :: _)) => if c = ':' then checkBracketed host else .error .brackets
      | (host, _) => checkBracketed host
    | (_, none) => checkBracketed (Text.cutAt ':' (hostAndPort authority)).1

/-- No character may stand for a mark that structures a URL. -/
def checkMarks (authority : List Char) : Except Error Unit :=
  if authority.any fun c => disguisedMarks.contains c.toNat then
    .error (.disguisedMark (String.ofList authority))
  else .ok ()

/-- The host as it is written, and the port if there is one. -/
def Parts.hostAndPort (p : Parts) : List Char × Option (List Char) :=
  let place := Address.hostAndPort p.authority
  let (host, port) :=
    match Text.cutAt '[' place with
    | (_, some inner) =>
      let (host, rest) := Text.cutAt ']' inner
      (host, (Text.cutAt ':' (rest.getD [])).2)
    | (_, none) => Text.cutAt ':' place
  (host, if port = some [] then none else port)

/-- The host in lower case, apart from the zone of an address. -/
def Parts.host (p : Parts) : List Char :=
  match Text.cutAt '%' p.hostAndPort.1 with
  | (name, some zone) => Text.lowerChars name ++ '%' :: zone
  | (name, none) => Text.lowerChars name

/-- The port as a number. -/
def Parts.port (p : Parts) : Except Error (Option Nat) :=
  match p.hostAndPort.2 with
  | none => .ok none
  | some port =>
    if !port.all Char.isDigit then .error (.portNotANumber (String.ofList port))
    else do
      let n ← (Number.convert port).mapError .portTooLong
      if 65535 < n then .error .portOutOfRange else .ok (some n)

/-! ### Splitting -/

/-- Cuts after the characters that satisfy `p`. -/
def cutWhere (p : Char → Bool) (cs : List Char) : List Char × List Char :=
  cs.span fun c => !p c

/-- The text without the controls and spaces it starts with, and without tabs and line ends. -/
def clean (cs : List Char) : List Char :=
  (cs.dropWhile fun c => c.toNat ≤ 32).filter fun c => !(c == '\t' || c == '\r' || c == '\n')

/-- Cuts a URL into its parts; one without a scheme of its own has the scheme given. -/
def splitWith (scheme : List Char) (url : List Char) : Except Error Parts := do
  let url := clean url
  let (scheme, rest) := (cutScheme url).getD (scheme, url)
  let (authority, rest) :=
    match rest with
    | '/' :: '/' :: more => cutWhere (fun c => c == '/' || c == '?' || c == '#') more
    | _ => ([], rest)
  checkBrackets authority
  let (rest, fragment) := Text.cutAt '#' rest
  let (path, query) := Text.cutAt '?' rest
  checkMarks authority
  return ⟨scheme, authority, path, query.getD [], fragment.getD []⟩

/-- Cuts a URL into its parts. -/
def split (url : List Char) : Except Error Parts :=
  splitWith [] url

/-- Writes the parts of a URL with the marks between them. -/
def unsplit (p : Parts) : List Char :=
  let doubled := p.path.take 2 = ['/', '/']
  let located :=
    if !p.authority.isEmpty ||
        (!p.scheme.isEmpty && schemesWithAuthority.contains (String.ofList p.scheme) && !doubled)
    then
      let path := if p.path.isEmpty || p.path.head? = some '/' then p.path else '/' :: p.path
      '/' :: '/' :: (p.authority ++ path)
    else p.path
  let schemed := if p.scheme.isEmpty then located else p.scheme ++ ':' :: located
  let queried := if p.query.isEmpty then schemed else schemed ++ '?' :: p.query
  if p.fragment.isEmpty then queried else queried ++ '#' :: p.fragment

end VacancyLedger.Address
