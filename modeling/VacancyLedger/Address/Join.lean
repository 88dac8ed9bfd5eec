/-
Resolving a reference against the URL it was found at.

The path of the reference is laid over the path of the base, dot segments are
resolved and doubled slashes in the middle go.  Parameters after the last segment of
a path, behind a semicolon, stay with it.
-/
import VacancyLedger.Address.Split

namespace VacancyLedger.Address

/-- Schemes whose references may be relative. -/
def relativeSchemes : List String :=
  ["", "ftp", "http", "gopher", "nntp", "imap", "wais", "file", "https", "shttp", "mms", "prospero",
   "rtsp", "rtsps", "rtspu", "sftp", "svn", "svn+ssh", "ws", "wss"]

/-- Schemes whose paths may end in parameters. -/
def schemesWithParameters : List String :=
  ["", "ftp", "hdl", "prospero", "http", "imap", "https", "shttp", "rtsp", "rtsps", "rtspu", "sip",
   "sips", "mms", "sftp", "tel"]

/-- Cuts a path at the semicolon that starts its parameters, which only the last segment has. -/
def cutParameters (scheme path : List Char) : List Char × List Char :=
  if schemesWithParameters.contains (String.ofList scheme) then
    let (folders, last) := match Text.cutAtLast '/' path with
      | (some folders, last) => (folders ++ ['/'], last)
      | (none, last) => ([], last)
    match Text.cutAt ';' last with
    | (name, some parameters) => (folders ++ name, parameters)
    | (_, none) => (path, [])
  else (path, [])

/-- A path with its parameters. -/
def withParameters (path parameters : List Char) : List Char :=
  if parameters.isEmpty then path else path ++ ';' :: parameters

/-- The segments of a path in which dot segments have been resolved, the last one first. -/
def resolveDots (segments : List (List Char)) : List (List Char) :=
  segments.foldl (fun resolved s =>
    if s = ['.', '.'] then resolved.drop 1 else if s = ['.'] then resolved else s :: resolved) []

/-- The list without its empty members, its first and its last excepted. -/
def dropInnerEmpty (segments : List (List Char)) : List (List Char) :=
  match segments with
  | [] => []
  | first :: rest => first :: (rest.dropLast.filter (!·.isEmpty) ++ rest.getLast?.toList)

/-- The path of a reference laid over the path of its base. -/
def mergePaths (base path : List Char) : List Char :=
  let own := Text.splitAll '/' path
  let segments :=
    if path.head? = some '/' then own
    else
      let parts := Text.splitAll '/' base
      let folders := if parts.getLast? = some [] then parts else parts.dropLast
      dropInnerEmpty (folders ++ own)
  let last := segments.getLast?.getD []
  let resolved := (resolveDots segments).reverse
  let resolved := if last = ['.'] ∨ last = ['.', '.'] then resolved ++ [[]] else resolved
  let joined := List.intercalate ['/'] resolved
  if joined.isEmpty then ['/'] else joined

/-- Resolves a reference against a base. -/
def join (base url : List Char) : Except Error (List Char) := do
  if base.isEmpty then return url
  if url.isEmpty then return base
  let b ← split base
  let r ← splitWith b.scheme url
  let (basePath, baseParameters) := cutParameters b.scheme b.path
  let (path, parameters) := cutParameters r.scheme r.path
  let scheme := String.ofList r.scheme
  if r.scheme ≠ b.scheme ∨ !relativeSchemes.contains scheme then return url
  let located := schemesWithAuthority.contains scheme
  if located ∧ !r.authority.isEmpty then
    return unsplit { r with path := withParameters path parameters }
  let authority := if located then b.authority else r.authority
  if path.isEmpty ∧ parameters.isEmpty then
    return unsplit { r with
      authority := authority
      path := withParameters basePath baseParameters
      query := if r.query.isEmpty then b.query else r.query }
  return unsplit { r with
    authority := authority
    path := withParameters (mergePaths basePath path) parameters }

end VacancyLedger.Address
