/-
Reading JSON text.

A failed reading keeps the text from the place of the fault on, so a position is
the length of what had been read before it.  Beyond the JSON grammar, `NaN`,
`Infinity` and `-Infinity` are numbers, and an integer may have at most 4300
digits.  Half of a surrogate pair may be written without the other half; there is one mark
more before it than the text has characters.  Reading is by fuel, one unit for each value, item
or member; two for every character of the text are always enough.
-/
import VacancyLedger.Json.Basic
import VacancyLedger.Number.Digits
import VacancyLedger.Text.Scan

namespace VacancyLedger.Json

/-- The ways in which a text can fail to be JSON. -/
inductive Fault where
  | byteOrderMark
  | expectedValue
  | expectedName
  | expectedColon
  | expectedComma
  | unterminatedString
  | controlCharacter
  | badEscape
  | badUnicodeEscape
  | extraData

/-- A fault in words. -/
def Fault.message : Fault → String
  | .byteOrderMark => "Unexpected UTF-8 BOM (decode using utf-8-sig)"
  | .expectedValue => "Expecting value"
  | .expectedName => "Expecting property name enclosed in double quotes"
  | .expectedColon => "Expecting ':' delimiter"
  | .expectedComma => "Expecting ',' delimiter"
  | .unterminatedString => "Unterminated string starting at"
  | .controlCharacter => "Invalid control character at"
  | .badEscape => "Invalid \\escape"
  | .badUnicodeEscape => "Invalid \\uXXXX escape"
  | .extraData => "Extra data"

/-- Why a reading stopped: a fault and the text from its place on, or an integer that is too
long to be converted. -/
inductive Failure where
  | malformed (fault : Fault) (rest : List Char)
  | tooManyDigits (e : Number.TooManyDigits)

/-- Whether the character may stand between the parts of a JSON text. -/
def isSpace (c : Char) : Bool :=
  c == ' ' || c == '\t' || c == '\n' || c == '\r'

/-- The text without the spaces it starts with. -/
def skipSpace (cs : List Char) : List Char :=
  cs.dropWhile isSpace

/-! ### Strings -/

/-- The number four hexadecimal digits write, if the text starts with four. -/
def hex4? : List Char → Option (Nat × List Char)
  | a :: b :: c :: d :: rest => do
    let a ← Number.hexValue? a
    let b ← Number.hexValue? b
    let c ← Number.hexValue? c
    let d ← Number.hexValue? d
    return (4096 * a + 256 * b + 16 * c + d, rest)
  | _ => none

/-- The character an escape other than `\u` stands for. -/
def simpleEscape? : Char → Option Char
  | '"' => some '"'
  | '\\' => some '\\'
  | '/' => some '/'
  | 'b' => some (Char.ofNat 8)
  | 'f' => some (Char.ofNat 12)
  | 'n' => some '\n'
  | 'r' => some '\r'
  | 't' => some '\t'
  | _ => none

/-- Whether a code unit is the first of a pair. -/
def isHighSurrogate (n : Nat) : Bool := 0xD800 ≤ n && n ≤ 0xDBFF

/-- Whether a code unit is the second of a pair. -/
def isLowSurrogate (n : Nat) : Bool := 0xDC00 ≤ n && n ≤ 0xDFFF

/-- What a code unit is by itself. -/
def pieceOfUnit (n : Nat) : Text.Piece :=
  if h : n - 0xD800 < 0x800 ∧ 0xD800 ≤ n then .half ⟨n - 0xD800, h.1⟩ else .char (Char.ofNat n)

/-- Reads the text after `\u`, which must hold four digits and at least one more character.  Two
escapes that write the two units of a pair are one character. -/
def readUnicodeEscape (cs : List Char) : Except Failure (Text.Piece × List Char) :=
  let fault := Failure.malformed .badUnicodeEscape ('u' :: cs)
  if cs.length < 5 then .error fault
  else
    match hex4? cs with
    | none => .error fault
    | some (n, rest) =>
      match rest with
      | '\\' :: 'u' :: more =>
        if isHighSurrogate n ∧ 5 ≤ more.length then
          match hex4? more with
          | none => .error (.malformed .badUnicodeEscape ('u' :: more))
          | some (n₂, rest₂) =>
            if isLowSurrogate n₂ then
              .ok (.char (Char.ofNat (0x10000 + (n - 0xD800) * 0x400 + (n₂ - 0xDC00))), rest₂)
            else .ok (pieceOfUnit n, rest)
        else .ok (pieceOfUnit n, rest)
      | _ => .ok (pieceOfUnit n, rest)

/-- Reads what a string is made of, up to its closing quote.  `opening` is the text from the
opening quote on, which an unterminated string is reported at. -/
def readPieces (opening : List Char) :
    Nat → List Char → Except Failure (List Text.Piece × List Char)
  | 0, _ => .error (.malformed .unterminatedString opening)
  | _, [] => .error (.malformed .unterminatedString opening)
  | fuel + 1, c :: cs =>
    if c = '"' then .ok ([], cs)
    else if c = '\\' then
      match cs with
      | [] => .error (.malformed .unterminatedString opening)
      | 'u' :: more => do
        let (piece, rest) ← readUnicodeEscape more
        let (pieces, rest) ← readPieces opening fuel rest
        return (piece :: pieces, rest)
      | e :: more =>
        match simpleEscape? e with
        | none => .error (.malformed .badEscape (c :: cs))
        | some d => do
          let (pieces, rest) ← readPieces opening fuel more
          return (.char d :: pieces, rest)
    else if c.toNat < 32 then .error (.malformed .controlCharacter (c :: cs))
    else do
      let (pieces, rest) ← readPieces opening fuel cs
      return (.char c :: pieces, rest)

/-- Reads a string, given the text after its opening quote. -/
def readString (cs : List Char) : Except Failure (List Text.Piece × List Char) :=
  readPieces ('"' :: cs) (cs.length + 1) cs

/-! ### Numbers -/

/-- The digits the text starts with, and the rest. -/
def spanDigits (cs : List Char) : List Char × List Char :=
  cs.span Char.isDigit

/-- The integer digits of a number: a zero alone, or a run that starts with another digit. -/
def integerDigits : List Char → List Char × List Char
  | '0' :: cs => (['0'], cs)
  | cs => spanDigits cs

/-- The digits of a fraction, if a point and a digit follow. -/
def fractionDigits : List Char → List Char × List Char
  | '.' :: d :: cs => if d.isDigit then spanDigits (d :: cs) else ([], '.' :: d :: cs)
  | cs => ([], cs)

/-- The exponent, if an `e`, perhaps a sign, and a digit follow. -/
def exponentPart? (cs : List Char) : Option (Int × List Char) :=
  match cs with
  | e :: more =>
    if e = 'e' ∨ e = 'E' then
      let (negative, digits) := match more with
        | '-' :: ds => (true, ds)
        | '+' :: ds => (false, ds)
        | ds => (false, ds)
      match spanDigits digits with
      | ([], _) => none
      | (ds, rest) =>
        let n : Int := Number.ofDigits ds
        some (if negative then -n else n, rest)
    else none
  | [] => none

/-- Reads a number without the names for the infinities. -/
def readNumber (cs : List Char) : Except Failure (Json × List Char) :=
  let (negative, unsigned) := match cs with
    | '-' :: more => (true, more)
    | more => (false, more)
  match integerDigits unsigned with
  | ([], _) => .error (.malformed .expectedValue cs)
  | (whole, rest) =>
    let (fraction, rest) := fractionDigits rest
    match exponentPart? rest with
    | some (e, rest) =>
      .ok (.real (Number.ofDecimal negative (Number.ofDigits (whole ++ fraction))
        (e - fraction.length)), rest)
    | none =>
      if fraction.isEmpty then
        match Number.convert whole with
        | .error e => .error (.tooManyDigits e)
        | .ok n => .ok (.int (if negative then -(n : Int) else n), rest)
      else
        .ok (.real (Number.ofDecimal negative (Number.ofDigits (whole ++ fraction))
          (-(fraction.length : Int))), rest)

/-- The names that are values, and the values they are. -/
def names : List (String × Json) :=
  [("null", .null), ("true", .bool true), ("false", .bool false),
   ("NaN", .real Number.notANumber), ("Infinity", .real Number.infinity),
   ("-Infinity", .real (-Number.infinity))]

/-- Reads one of the names that are values, or a number. -/
def readAtom (cs : List Char) : Except Failure (Json × List Char) :=
  match names.findSome? fun (name, value) => (Text.dropPrefix? name.toList cs).map (value, ·) with
  | some answer => .ok answer
  | none => readNumber cs

/-! ### Values -/

mutual

/-- Reads one value, with so many marks before the halves of pairs in it. -/
def readValue (marks : Nat) : Nat → List Char → Except Failure (Json × List Char)
  | 0, cs => .error (.malformed .expectedValue cs)
  | fuel + 1, cs =>
    match cs with
    | '"' :: rest => do
      let (pieces, rest) ← readString rest
      return (.ofPieces marks pieces, rest)
    | '[' :: rest =>
      match skipSpace rest with
      | ']' :: rest => .ok (.list [], rest)
      | rest => do
        let (items, rest) ← readItems marks fuel rest
        return (.list items, rest)
    | '\x7b' :: rest =>
      match skipSpace rest with
      | '\x7d' :: rest => .ok (.object [], rest)
      | rest => do
        let (written, rest) ← readMembers marks fuel rest
        return (.object (ofWritten written), rest)
    | _ => readAtom cs

/-- Reads the items of a list up to its closing bracket. -/
def readItems (marks : Nat) : Nat → List Char → Except Failure (List Json × List Char)
  | 0, cs => .error (.malformed .expectedValue cs)
  | fuel + 1, cs => do
    let (item, rest) ← readValue marks fuel cs
    match skipSpace rest with
    | ']' :: rest => return ([item], rest)
    | ',' :: rest =>
      let (items, rest) ← readItems marks fuel (skipSpace rest)
      return (item :: items, rest)
    | rest => .error (.malformed .expectedComma rest)

/-- Reads the members of an object up to its closing brace. -/
def readMembers (marks : Nat) : Nat → List Char → Except Failure (List (String × Json) × List Char)
  | 0, cs => .error (.malformed .expectedName cs)
  | fuel + 1, cs =>
    match cs with
    | '"' :: rest => do
      let (pieces, rest) ← readString rest
      let name := String.ofList (Text.spelling marks pieces)
      match skipSpace rest with
      | ':' :: rest =>
        let (value, rest) ← readValue marks fuel (skipSpace rest)
        match skipSpace rest with
        | '\x7d' :: rest => return ([(name, value)], rest)
        | ',' :: rest =>
          let (members, rest) ← readMembers marks fuel (skipSpace rest)
          return ((name, value) :: members, rest)
        | rest => .error (.malformed .expectedComma rest)
      | rest => .error (.malformed .expectedColon rest)
    | _ => .error (.malformed .expectedName cs)

end

/-- Reads a whole text as one value. -/
def readChars (cs : List Char) : Except Failure Json :=
  match cs with
  | '\uFEFF' :: _ => .error (.malformed .byteOrderMark cs)
  | _ => do
    let (value, rest) ← readValue (cs.length + 1) (2 * cs.length + 2) (skipSpace cs)
    match skipSpace rest with
    | [] => return value
    | rest => .error (.malformed .extraData rest)

/-- Why a text is not JSON: a fault at a position, or an integer that is too long. -/
inductive Error where
  | malformed (fault : Fault) (position : Nat)
  | tooManyDigits (e : Number.TooManyDigits)

/-- Reads a text as one value. -/
def read (s : String) : Except Error Json :=
  let cs := s.toList
  match readChars cs with
  | .ok value => .ok value
  | .error (.malformed fault rest) => .error (.malformed fault (cs.length - rest.length))
  | .error (.tooManyDigits e) => .error (.tooManyDigits e)

/-- The line and the column of a position in a text, both counted from one. -/
def lineAndColumn (s : String) (position : Nat) : Nat × Nat :=
  let before := s.toList.take position
  (before.count '\n' + 1, (before.reverse.takeWhile (· ≠ '\n')).length + 1)

end VacancyLedger.Json
