/-
Exact conversion between fractions and binary floating point.

A finite number is `m · 2^q` with `m < 2^53`.  `ofFraction` rounds a fraction to
the nearest such number, to the even one of two that are equally near, and
`decode` reads the mantissa and the exponent back.  Everything between is
arithmetic on natural numbers; `nearest` is the one after the other, without a
`Float` in between.
-/
import VacancyLedger.Number.Digits

namespace VacancyLedger.Number

/-- What a floating point number is: not a number, an infinity, or `± m · 2^q`. -/
inductive Decoded where
  | nan
  | infinite (negative : Bool)
  | finite (negative : Bool) (m : Nat) (q : Int)

/-- The parts of the floating point number that has these bits. -/
def decodeBits (bits : Nat) : Decoded :=
  let negative : Bool := twoTo 63 ≤ bits
  let exponent : Nat := bits / twoTo 52 % twoTo 11
  let fraction := bits % twoTo 52
  if exponent = 2047 then (if fraction = 0 then .infinite negative else .nan)
  else if exponent = 0 then .finite negative fraction (-1074)
  else .finite negative (twoTo 52 + fraction) ((exponent : Int) - 1075)

/-- The parts of a floating point number, read off its bits. -/
def decode (x : Float) : Decoded :=
  decodeBits x.toBits.toNat

/-- The quotient rounded to the nearest integer, to the even one of two equally near. -/
def divRoundEven (num den : Nat) : Nat :=
  let quotient := num / den
  let twice := 2 * (num % den)
  if den < twice ∨ (twice = den ∧ quotient % 2 = 1) then quotient + 1 else quotient

/-- `num / den / 2^q` as a fraction. -/
def scaleDown (num den : Nat) (q : Int) : Nat × Nat :=
  (num * twoTo (-q).toNat, den * twoTo q.toNat)

/-- The exponent at which the fraction has a mantissa of 53 bits, or the least exponent. -/
def exponentFor (num den : Nat) : Int :=
  let guess : Int := (Nat.log2 num : Int) - Nat.log2 den - 53
  let (n, d) := scaleDown num den guess
  max (if twoTo 53 ≤ n / d then guess + 1 else guess) (-1074)

/-- The bits of the number nearest to a positive fraction. -/
def nearestBits (num den : Nat) : Nat :=
  let q := exponentFor num den
  let (n, d) := scaleDown num den q
  let m := divRoundEven n d
  if m < twoTo 52 then m
  else min ((q + 1075).toNat * twoTo 52 + (m - twoTo 52)) (2047 * twoTo 52)

/-- The bits of the number nearest to `± num / den`. -/
def fractionBits (negative : Bool) (num den : Nat) : Nat :=
  let sign := if negative then twoTo 63 else 0
  sign + if num = 0 then 0 else nearestBits num den

/-- The floating point number nearest to `± num / den`. -/
def ofFraction (negative : Bool) (num den : Nat) : Float :=
  Float.ofBits (UInt64.ofNat (fractionBits negative num den))

/-- The parts of the floating point number nearest to `± num / den`. -/
def nearest (negative : Bool) (num den : Nat) : Decoded :=
  decodeBits (fractionBits negative num den)

/-- The floating point number nearest to an integer divided by a positive number. -/
def ofIntDiv (n : Int) (den : Nat) : Float :=
  ofFraction (n < 0) n.natAbs den

/-- Positive infinity. -/
def infinity : Float := Float.ofBits (UInt64.ofNat (2047 * twoTo 52))

/-- A quiet not-a-number. -/
def notANumber : Float := Float.ofBits (UInt64.ofNat (2047 * twoTo 52 + twoTo 51))

/-- The floating point number nearest to `± mantissa · 10^exponent`.  Exponents beyond the range
of the format are answered without computing the power. -/
def ofDecimal (negative : Bool) (mantissa : Nat) (exponent : Int) : Float :=
  let magnitude := exponent + (Nat.log2 mantissa / 4 : Nat)
  if mantissa = 0 then ofFraction negative 0 1
  else if 400 < magnitude then (if negative then -infinity else infinity)
  else if exponent + (Nat.log2 mantissa : Nat) < -400 then ofFraction negative 0 1
  else ofFraction negative (mantissa * tenTo exponent.toNat) (tenTo (-exponent).toNat)

end VacancyLedger.Number
