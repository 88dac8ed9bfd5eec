/-
A text between quotes, as error messages show it.

The single quote is used unless the text holds one and no double quote.  The
backslash, the quote in use and everything that is not printed as itself is
written as an escape, the shortest of `\xhh`, `\uhhhh` and `\Uhhhhhhhh` that has room.
-/
import VacancyLedger.Number.Digits
import VacancyLedger.Text.Case
import VacancyLedger.Text.PrintableTable
import VacancyLedger.Text.Sha256

namespace VacancyLedger.Text

/-- Whether the character is written as itself inside quotes. -/
def isPrintable (c : Char) : Bool :=
  !inRanges unprintableRanges c.toNat

/-- A number as exactly `width` hexadecimal digits, in lower case. -/
def hexPadded (width n : Nat) : List Char :=
  (List.range width).reverse.map fun i => Sha256.hexDigit (Number.digitAt 16 n i)

/-- One character of a text between the quotes `q`. -/
def quoteChar (q c : Char) : List Char :=
  if c = q ∨ c = '\\' then ['\\', c]
  else if c = '\n' then ['\\', 'n']
  else if c = '\r' then ['\\', 'r']
  else if c = '\t' then ['\\', 't']
  else if isPrintable c then [c]
  else if c.toNat < 0x100 then '\\' :: 'x' :: hexPadded 2 c.toNat
  else if c.toNat < 0x10000 then '\\' :: 'u' :: hexPadded 4 c.toNat
  else '\\' :: 'U' :: hexPadded 8 c.toNat

/-- The quote a text is written between. -/
def quoteFor (cs : List Char) : Char :=
  if cs.contains '\'' && !cs.contains '"' then '"' else '\''

/-- The text between quotes. -/
def quoted (s : String) : String :=
  let cs := s.toList
  let q := quoteFor cs
  String.ofList (q :: (cs.flatMap (quoteChar q) ++ [q]))

end VacancyLedger.Text
