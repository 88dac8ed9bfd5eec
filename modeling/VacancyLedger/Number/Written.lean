/-
Numbers as people write them in settings.

Around a number there may be blanks.  An integer may have a plus sign, leading zeros,
underscores between its digits and a fraction of zeros; any other number may have an
exponent, and the infinities and not-a-number have names.
-/
import VacancyLedger.Number.Binary64
import VacancyLedger.Number.Digits
import VacancyLedger.Text.Blank
import VacancyLedger.Text.Scan

namespace VacancyLedger.Number

/-- Whether the character may stand around a number. -/
def isPadding (c : Char) : Bool :=
  Text.isBlank c && !(28 ≤ c.toNat && c.toNat ≤ 31)

/-- A number without what stands around it. -/
def unpadded (cs : List Char) : List Char :=
  ((cs.dropWhile isPadding).reverse.dropWhile isPadding).reverse

/-- The text without its underscores, if there is none at its ends and no two stand together. -/
def withoutUnderscores? (cs : List Char) : Option (List Char) :=
  if cs.head? = some '_' ∨ cs.getLast? = some '_' ∨ Text.contains ['_', '_'] cs then none
  else some (cs.filter (· ≠ '_'))

/-! ### Integers -/

/-- The integer part of a text that may have a fraction of zeros. -/
def withoutFraction? (cs : List Char) : Option (List Char) :=
  match Text.cutAt '.' cs with
  | (whole, none) => some whole
  | (whole, some zeros) =>
    if !zeros.isEmpty && zeros.all (· == '0') then some whole else none

/-- The digits of a magnitude that does not start with a zero unless it is zero. -/
def plainDigits? (cs : List Char) : Option (List Char) := do
  let ds ← withoutUnderscores? cs
  if ds.isEmpty || !ds.all Char.isDigit then none
  else if ds.head? = some '0' ∧ 1 < ds.length then none
  else some ds

/-- A magnitude without the zeros and underscores it starts with, the last zero of all excepted. -/
def withoutLeadingZeros (cs : List Char) : List Char :=
  match cs with
  | '0' :: _ =>
    match cs.dropWhile fun c => c == '0' || c == '_' with
    | [] => cs.reverse.take 1
    | rest => if rest.head? = some '.' then '0' :: rest else rest
  | _ => cs

/-- The sign and the digits of an integer. -/
def signAndDigits? (cs : List Char) : Option (Bool × List Char) :=
  match unpadded cs with
  | '-' :: rest => do return (true, ← plainDigits? (← withoutFraction? rest))
  | '+' :: rest => do return (false, ← plainDigits? (← withoutFraction? (withoutLeadingZeros rest)))
  | rest => do return (false, ← plainDigits? (← withoutFraction? (withoutLeadingZeros rest)))

/-- What a text is as an integer: none, too long to be converted, or a value. -/
inductive WrittenInt where
  | none
  | tooLong
  | value (n : Int)

/-- Reads an integer. -/
def readInt (cs : List Char) : WrittenInt :=
  match signAndDigits? cs with
  | .none => .none
  | some (negative, ds) =>
    if maxDigits < ds.length then .tooLong
    else .value (if negative then -(ofDigits ds : Int) else ofDigits ds)

/-! ### Other numbers -/

/-- The exponent of a number, which is zero if nothing is left. -/
def exponent? : List Char → Option Int
  | [] => some 0
  | e :: rest =>
    if e ≠ 'e' ∧ e ≠ 'E' then none
    else
      let (negative, ds) := match rest with
        | '-' :: ds => (true, ds)
        | '+' :: ds => (false, ds)
        | ds => (false, ds)
      if ds.isEmpty || !ds.all Char.isDigit then none
      else some (if negative then -(ofDigits ds : Int) else ofDigits ds)

/-- Reads digits, perhaps with a point among them and an exponent after them. -/
def unsignedReal? (negative : Bool) (cs : List Char) : Option Float := do
  let whole := cs.takeWhile Char.isDigit
  let (fraction, rest) := match cs.dropWhile Char.isDigit with
    | '.' :: rest => (rest.takeWhile Char.isDigit, rest.dropWhile Char.isDigit)
    | rest => ([], rest)
  if whole.isEmpty && fraction.isEmpty then none
  else return ofDecimal negative (ofDigits (whole ++ fraction)) ((← exponent? rest) - fraction.length)

/-- Reads a number with a sign, by its name or in digits. -/
def signedReal? (cs : List Char) : Option Float :=
  let (negative, cs) := match cs with
    | '-' :: cs => (true, cs)
    | '+' :: cs => (false, cs)
    | cs => (false, cs)
  let name := cs.map Char.toLower
  if name = "inf".toList ∨ name = "infinity".toList then
    some (if negative then -infinity else infinity)
  else if name = "nan".toList then some notANumber
  else unsignedReal? negative cs

/-- Reads a number. -/
def readReal? (cs : List Char) : Option Float :=
  match signedReal? (unpadded cs) with
  | some x => some x
  | none => (withoutUnderscores? cs).bind signedReal?

end VacancyLedger.Number
