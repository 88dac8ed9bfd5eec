/-
Halves of surrogate pairs in texts.

A JSON text may write one half of a surrogate pair without the other.  Such a half is no
character, but it passes through whatever compares, cuts and joins texts; only when the text
is encoded is it refused.

In a text of characters a half is spelled out: by a run of replacement characters, its marks,
and by a character for private use that tells which half it is.  If the run is longer than any
other in the document that the text is from, spellings are found again, and two texts are the
same exactly if they are spelled the same.
-/
import VacancyLedger.Text.Quoted

namespace VacancyLedger.Text

/-- Half of a surrogate pair: the first one below `0x400`, the second one from there on. -/
abbrev Half := Fin 0x800

/-- What a text is made of in which surrogate pairs may be broken. -/
inductive Piece where
  | char (c : Char)
  | half (h : Half)
  deriving DecidableEq

/-- Whether the piece is half of a pair. -/
def Piece.isHalf : Piece → Bool
  | .char _ => false
  | .half _ => true

/-- The character that marks are made of. -/
def markChar : Char := '\uFFFD'

/-- The first of the characters that halves are told by. -/
def firstTeller : Nat := 0xE000

/-- A piece in characters, with so many marks before a half. -/
def Piece.spelling (marks : Nat) : Piece → List Char
  | .char c => [c]
  | .half h => List.replicate marks markChar ++ [Char.ofNat (firstTeller + h)]

/-- Pieces in characters, with so many marks before every half. -/
def spelling (marks : Nat) (pieces : List Piece) : List Char :=
  pieces.flatMap (·.spelling marks)

/-- The half whose spelling the text starts with, and the rest. -/
def half? (marks : Nat) (cs : List Char) : Option (Half × List Char) :=
  match cs.span (· == markChar) with
  | (run, teller :: rest) =>
    if run.length = marks then
      if h : teller.toNat - firstTeller < 0x800 ∧ firstTeller ≤ teller.toNat then
        some (⟨teller.toNat - firstTeller, h.1⟩, rest)
      else none
    else none
  | (_, []) => none

/-- How many halves the text starts with, by fuel, one unit for each. -/
def halfCount (marks : Nat) : Nat → List Char → Nat
  | 0, _ => 0
  | fuel + 1, cs =>
    match half? marks cs with
    | some (_, rest) => halfCount marks fuel rest + 1
    | none => 0

/-- Why a text cannot be encoded: where its first halves stand, and how many they are. -/
structure Unencodable where
  first : Half
  position : Nat
  count : Nat
  deriving DecidableEq

/-- Why a text with so many marks before every half cannot be encoded, if it cannot. -/
def unencodable? (marks : Nat) : List Char → Option Unencodable
  | [] => none
  | c :: cs =>
    match half? marks (c :: cs) with
    | some (first, rest) => some ⟨first, 0, halfCount marks rest.length rest + 1⟩
    | none => (unencodable? marks cs).map fun e => { e with position := e.position + 1 }

/-- The name the complaint is reported by. -/
def Unencodable.name : String := "UnicodeEncodeError"

/-- The complaint in words. -/
def Unencodable.message (e : Unencodable) : String :=
  if e.count = 1 then
    let unit := String.ofList (hexPadded 4 (0xD800 + e.first))
    s!"'utf-8' codec can't encode character '\\u{unit}' in position {e.position}" ++
      ": surrogates not allowed"
  else
    let last := e.position + e.count - 1
    s!"'utf-8' codec can't encode characters in position {e.position}-{last}" ++
      ": surrogates not allowed"

end VacancyLedger.Text
