/-
The file that lists the sources.

It holds a list of sources, or an object with that list under `companies`.  The first
source that is refused, or whose company was listed before, is reported.
-/
import VacancyLedger.Config.Source
import VacancyLedger.Json.Reader
import VacancyLedger.Text.Utf8

namespace VacancyLedger.SourceFile

open Address (Naming)

/-- Why a file lists no sources. -/
inductive Error where
  | absent
  | undecodable (e : Text.Utf8.Error)
  | malformed (fault : Json.Fault) (position line column : Nat)
  | tooManyDigits (e : Number.TooManyDigits)
  | notAList
  | invalid (index : Nat) (problems : List Config.Problem)
  | duplicate (company : String)

/-- An error in words, `path` being the place of the file. -/
def Error.message (path : String) : Error → String
  | .absent => s!"Cannot read sources file {path}: [Errno 2] No such file or directory: '{path}'"
  | .undecodable e => e.message
  | .malformed fault position line column =>
    s!"Sources file {path} is not valid JSON: {fault.message}: line {line} column {column} (char {position})"
  | .tooManyDigits e => e.message
  | .notAList => s!"Sources file {path} must contain a list of companies."
  | .invalid index _ => s!"Invalid company at index {index} in {path}"
  | .duplicate company => s!"Duplicate company_id in {path}: {company}"

/-- The name an error is reported by.  An error of a text that cannot be decoded is also one of a
value. -/
def Error.name : Error → String
  | .undecodable _ => "UnicodeDecodeError"
  | _ => "ValueError"

/-- The text with every line end written as a line feed. -/
def unifyLineEnds : List Char → List Char
  | '\r' :: '\n' :: cs => '\n' :: unifyLineEnds cs
  | '\r' :: cs => '\n' :: unifyLineEnds cs
  | c :: cs => c :: unifyLineEnds cs
  | [] => []

/-- The sources that values make; `index` is the number of the first and `seen` are the companies
before it. -/
def ofItems (naming : Naming) (index : Nat) (seen : List String) :
    List Json → Except Error (List Source)
  | [] => .ok []
  | item :: items =>
    match Source.ofJson naming item with
    | .error problems => .error (.invalid index problems)
    | .ok source =>
      if seen.contains source.company then .error (.duplicate source.company)
      else do
        return source :: (← ofItems naming (index + 1) (source.company :: seen) items)

/-- The sources that a value lists. -/
def ofJson (naming : Naming) (value : Json) : Except Error (List Source) :=
  let listed := match value with
    | .object _ => (value.get? "companies").getD .null
    | _ => value
  match listed with
  | .list items => ofItems naming 0 [] items
  | _ => .error .notAList

/-- Reads the text of a file. -/
def ofText (naming : Naming) (content : String) : Except Error (List Source) :=
  let content := String.ofList (unifyLineEnds content.toList)
  match Json.read content with
  | .ok value => ofJson naming value
  | .error (.malformed fault position) =>
    let (line, column) := Json.lineAndColumn content position
    .error (.malformed fault position line column)
  | .error (.tooManyDigits e) => .error (.tooManyDigits e)

/-- Reads the bytes of a file. -/
def ofBytes (naming : Naming) (bytes : List UInt8) : Except Error (List Source) :=
  match Text.Utf8.read bytes with
  | .ok content => ofText naming content
  | .error e => .error (.undecodable e)

end VacancyLedger.SourceFile
