/-
Visiting the service.

A visitor who is sent elsewhere goes there, with the same method and headers.
-/
import VacancyLedger.Crawl.Client
import VacancyLedger.Service.Basic

namespace VacancyLedger.Service

open Address (Naming)
open Address.Request (Target)

/-! ### Headers -/

/-- A text of a header that has characters beyond ASCII: the first run of them and its position. -/
structure ForeignText where
  run : List Char
  position : Nat

/-- The characters beyond ASCII that a text has first, if it has any. -/
def foreignText? (text : String) : Option ForeignText :=
  match text.toList.span Address.isAscii with
  | (_, []) => none
  | (plain, rest) => some ⟨rest.takeWhile fun c => !Address.isAscii c, plain.length⟩

/-- A character beyond ASCII, as messages show it. -/
def shownChar (c : Char) : String :=
  if c.toNat < 256 then "\\x" ++ String.ofList (Text.hexPadded 2 c.toNat)
  else if c.toNat < 65536 then "\\u" ++ String.ofList (Text.hexPadded 4 c.toNat)
  else "\\U" ++ String.ofList (Text.hexPadded 8 c.toNat)

/-- The complaint in words. -/
def ForeignText.message (e : ForeignText) : String :=
  let shown := String.join ((e.run.take 1).map shownChar)
  let place :=
    if e.run.length ≤ 1 then s!"character '{shown}' in position {e.position}"
    else s!"characters in position {e.position}-{e.position + e.run.length - 1}"
  s!"'ascii' codec can't encode {place}: ordinal not in range(128)"

/-! ### Visits -/

/-- Why a visitor comes back without a reply. -/
inductive VisitError where
  | header (e : ForeignText)
  | lost (l : Crawl.Loss)

/-- The name an error is reported by. -/
def VisitError.name : VisitError → String
  | .header _ => "UnicodeEncodeError"
  | .lost l => l.name

/-- An error in words. -/
def VisitError.message : VisitError → String
  | .header e => e.message
  | .lost l => l.message

/-- Where the service is found. -/
def home : List Char := "localhost".toList

/-- A target at the service, if it does not say where it is. -/
def atHome (t : Target) : Target :=
  if t.isAbsolute then t
  else {
    scheme := "http".toList
    user := []
    host := home
    port := none
    path := Address.Request.withoutDots ('/' :: t.path.dropWhile (· == '/'))
    query := t.query
    fragment := none }

/-- Makes a request and follows where it leads, so many times at most: the name of the last request
and the reply to it. -/
def follow {φ : Type} (naming : Naming) (fresh : String) :
    Nat → Request → Service φ → Except VisitError (String × Reply) × Service φ
  | 0, _, s => (.error (.lost Crawl.tooManyRedirections), s)
  | times + 1, r, s =>
    let name := r.name fresh
    let (reply, s) := s.answer r name
    match reply.location with
    | none => (.ok (name, reply), s)
    | some location =>
      match Crawl.redirected naming r.target location with
      | .error l => (.error (.lost l), s)
      | .ok target => follow naming fresh times { r with target } s

/-- Visits an address of the service; requests without a name get the fresh one. -/
def visit {φ : Type} (naming : Naming) (s : Service φ) (method address : String)
    (headers : List (String × String)) (fresh : String) :
    Except VisitError (String × Reply) × Service φ :=
  match Target.read naming address.toList with
  | .error e => (.error (.lost (.target e)), s)
  | .ok target =>
    match (headers.flatMap fun (n, v) => [n, v]).findSome? foreignText? with
    | some e => (.error (.header e), s)
    | none =>
      let r := ⟨method.map Char.toUpper, atHome target, headers⟩
      follow naming fresh (Crawl.maxRedirections + 1) r s

end VacancyLedger.Service
