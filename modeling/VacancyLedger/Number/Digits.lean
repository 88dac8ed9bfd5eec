/-
Powers of a base, digits, and the integers that they write.

Decimal text of any length could be converted, but a conversion of more than 4300
digits is refused with a complaint that names the count.
-/

namespace VacancyLedger.Number

/-! ### Powers -/

/-- Two to the power `n`. -/
def twoTo (n : Nat) : Nat := Nat.pow 2 n

/-- Ten to the power `n`. -/
def tenTo (n : Nat) : Nat := Nat.pow 10 n

/-- Whether an integer fits into a sign and so many bits. -/
def fitsBits (bits : Nat) (n : Int) : Bool :=
  -Int.ofNat (twoTo bits) ≤ n && n < Int.ofNat (twoTo bits)

/-- The digit that a power of the base stands for in a number. -/
def digitAt (base n place : Nat) : Nat := n / Nat.pow base place % base

/-! ### Digits -/

/-- A decimal integer with more digits than may be converted. -/
structure TooManyDigits where
  count : Nat

/-- How many digits an integer may have. -/
def maxDigits : Nat := 4300

/-- The complaint in words. -/
def TooManyDigits.message (e : TooManyDigits) : String :=
  s!"Exceeds the limit ({maxDigits} digits) for integer string conversion: value has {e.count} digits; use sys.set_int_max_str_digits() to increase the limit"

/-- The number a run of ASCII digits writes, of whatever length. -/
def ofDigits (ds : List Char) : Nat :=
  ds.foldl (fun n d => 10 * n + (d.toNat - 48)) 0

theorem ofDigits_toDigits (n : Nat) : ofDigits (Nat.toDigits 10 n) = n := calc
  ofDigits (Nat.toDigits 10 n) = Nat.ofDigitChars 10 (Nat.toDigits 10 n) 0 := by
    rw [Nat.ofDigitChars_eq_foldl]
    rfl
  _ = n := Nat.ofDigitChars_ten_toDigits

/-- The number a run of ASCII digits writes, if it is not too long. -/
def convert (ds : List Char) : Except TooManyDigits Nat :=
  if maxDigits < ds.length then .error ⟨ds.length⟩ else .ok (ofDigits ds)

/-- The value of a hexadecimal digit. -/
def hexValue? (c : Char) : Option Nat :=
  if '0' ≤ c ∧ c ≤ '9' then some (c.toNat - 48)
  else if 'a' ≤ c ∧ c ≤ 'f' then some (c.toNat - 87)
  else if 'A' ≤ c ∧ c ≤ 'F' then some (c.toNat - 55)
  else none

/-- Whether the character is a hexadecimal digit. -/
def isHexDigit (c : Char) : Bool :=
  (hexValue? c).isSome

/-- The number a run of hexadecimal digits writes. -/
def ofHexDigits (ds : List Char) : Nat :=
  ds.foldl (fun n d => 16 * n + (hexValue? d).getD 0) 0

end VacancyLedger.Number
