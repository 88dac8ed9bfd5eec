/-
Character references in markup: `&eacute;`, `&#233;`, `&#xE9;`.

There are two ways to read them.  `decodeAll` is for attribute values and for
text that was escaped as a whole: a name may end without its semicolon, even inside
a word, if it is one of the bare names.  The text of a document is read by the
lexer, which asks `numericCharacter` and `namedText` about one reference at a time.
-/
import VacancyLedger.Markup.CharacterNames
import VacancyLedger.Number.Digits

namespace VacancyLedger.Markup

open Number (TooManyDigits)

/-- What stands for a reference that names no character. -/
def replacement : Char := Char.ofNat 0xFFFD

/-- The characters that numbers from 128 to 159 stand for. -/
def windowsCharacters : List Nat := [
  0x20AC, 0x81, 0x201A, 0x192, 0x201E, 0x2026, 0x2020, 0x2021, 0x2C6, 0x2030, 0x160, 0x2039, 0x152,
  0x8D, 0x17D, 0x8F, 0x90, 0x2018, 0x2019, 0x201C, 0x201D, 0x2022, 0x2013, 0x2014, 0x2DC, 0x2122,
  0x161, 0x203A, 0x153, 0x9D, 0x17E, 0x178]

/-- The character a number stands for in text. -/
def numericCharacter (n : Nat) : Char :=
  if n = 0 ∨ 0x10FFFF < n ∨ (0xD800 ≤ n ∧ n ≤ 0xDFFF) then replacement
  else if 0x80 ≤ n ∧ n ≤ 0x9F then Char.ofNat (windowsCharacters.getD (n - 0x80) n)
  else Char.ofNat n

/-- Code points that are no characters, and controls; a reference to one is dropped. -/
def isDropped (n : Nat) : Bool :=
  (1 ≤ n && n ≤ 8) || n == 0xB || (0xE ≤ n && n ≤ 0x1F) || n == 0x7F ||
    (0xFDD0 ≤ n && n ≤ 0xFDEF) || 0xFFFE ≤ n % 0x10000

/-- The characters a number stands for in an attribute value. -/
def numericCharacters (n : Nat) : List Char :=
  if n = 0 ∨ 0x10FFFF < n ∨ (0xD800 ≤ n ∧ n ≤ 0xDFFF) then [replacement]
  else if 0x80 ≤ n ∧ n ≤ 0x9F then [numericCharacter n]
  else if isDropped n then []
  else [Char.ofNat n]

/-- What a name in text stands for; an unknown name stands for itself, its semicolon dropped. -/
def namedText (name : List Char) : List Char :=
  (namedCharacters? (String.ofList name)).getD ('&' :: name)

/-! ### References in attribute values -/

/-- Whether the character may stand in a name. -/
def isNameChar (c : Char) : Bool :=
  !(c == '\t' || c == '\n' || c == '\x0c' || c == ' ' || c == '<' || c == '&' || c == '#' ||
    c == ';')

/-- The longest start of `name`, of two characters or more, that is a bare name is replaced; a
name without such a start stands for itself. -/
def bareNamed (name : List Char) : Nat → List Char
  | 0 | 1 => '&' :: name
  | n + 2 =>
    let start := String.ofList (name.take (n + 2))
    if bareNames.contains start then
      (namedCharacters? start).getD [] ++ name.drop (n + 2)
    else bareNamed name (n + 1)

/-- What a name stands for, with or without its semicolon. -/
def namedValue (name : List Char) (closed : Bool) : List Char :=
  let written := if closed then name ++ [';'] else name
  let known :=
    if closed then namedCharacters? (String.ofList name)
    else if bareNames.contains (String.ofList name) then namedCharacters? (String.ofList name)
    else none
  match known with
  | some cs => cs
  | none => bareNamed written (written.length - 1)

/-- The rest without a semicolon at its start, and whether there was one. -/
def takeSemicolon : List Char → Bool × List Char
  | ';' :: rest => (true, rest)
  | rest => (false, rest)

/-- Reads the reference that an ampersand before `cs` starts: what it stands for, and the text
after it. -/
def readReference? (cs : List Char) : Except TooManyDigits (Option (List Char × List Char)) :=
  match cs with
  | '#' :: more =>
    match more.span Char.isDigit with
    | ([], _) =>
      match more with
      | x :: hex =>
        if x = 'x' ∨ x = 'X' then
          match hex.span Number.isHexDigit with
          | ([], _) => .ok none
          | (ds, rest) =>
            .ok (some (numericCharacters (Number.ofHexDigits ds), (takeSemicolon rest).2))
        else .ok none
      | [] => .ok none
    | (ds, rest) => do
      let n ← Number.convert ds
      return some (numericCharacters n, (takeSemicolon rest).2)
  | _ =>
    let name := (cs.take 32).takeWhile isNameChar
    if name.isEmpty then .ok none
    else
      let (closed, rest) := takeSemicolon (cs.drop name.length)
      .ok (some (namedValue name closed, rest))

/-- Replaces every reference of a text that needs at most `fuel` steps. -/
def decodeFrom : Nat → List Char → Except TooManyDigits (List Char)
  | 0, cs => .ok cs
  | _ + 1, [] => .ok []
  | fuel + 1, '&' :: cs => do
    match ← readReference? cs with
    | some (characters, rest) => return characters ++ (← decodeFrom fuel rest)
    | none => return '&' :: (← decodeFrom fuel cs)
  | fuel + 1, c :: cs => return c :: (← decodeFrom fuel cs)

/-- Replaces every reference of a text. -/
def decodeAll (cs : List Char) : Except TooManyDigits (List Char) :=
  decodeFrom cs.length cs

end VacancyLedger.Markup
