/-
JSON values.

An object keeps its members in the order their names were first written, with
the value that was written last.
Integers are kept apart from numbers with a fraction or an exponent, and texts of characters
from those in which there are halves of surrogate pairs.
-/
import VacancyLedger.Number.Shortest
import VacancyLedger.Table
import VacancyLedger.Text.Half

namespace VacancyLedger

/-- A JSON value. -/
inductive Json where
  | null
  | bool (b : Bool)
  | int (n : Int)
  | real (x : Float)
  | text (s : String)
  /-- A text with halves of surrogate pairs in it, and how many marks stand before each. -/
  | torn (marks : Nat) (s : String)
  | list (items : List Json)
  | object (members : List (String × Json))
  deriving Inhabited

namespace Json

/-- The members of an object, given every name and value that was written, in order. -/
def ofWritten (written : List (String × Json)) : List (String × Json) :=
  Table.ofPairs written

/-- The text that pieces make. -/
def ofPieces (marks : Nat) (pieces : List Text.Piece) : Json :=
  let s := String.ofList (Text.spelling marks pieces)
  if pieces.any (·.isHalf) then .torn marks s else .text s

/-- The value under a name of an object. -/
def get? (name : String) : Json → Option Json
  | .object members => members.lookup name
  | _ => none

mutual

/-- How many marks stand before the halves of surrogate pairs in a value, if there are any. -/
def marks? : Json → Option Nat
  | .torn marks _ => some marks
  | .list items => marksOfItems? items
  | .object members => marksOfMembers? members
  | _ => none

/-- The same for the items of a list. -/
def marksOfItems? : List Json → Option Nat
  | [] => none
  | item :: items => (marks? item).or (marksOfItems? items)

/-- The same for the members of an object. -/
def marksOfMembers? : List (String × Json) → Option Nat
  | [] => none
  | (_, value) :: members => (marks? value).or (marksOfMembers? members)

end

end Json
end VacancyLedger
