/-
Percent-encoded text.

A percent sign with two hexadecimal digits stands for a byte, and a character is encoded
as its bytes in UTF-8.  The bytes of each
stretch of ASCII text are read together as UTF-8; characters beyond ASCII stand for
themselves.
-/
import VacancyLedger.Number.Digits
import VacancyLedger.Text.Quoted
import VacancyLedger.Text.Scan
import VacancyLedger.Text.Utf8

namespace VacancyLedger.Address

/-- The byte two hexadecimal digits write. -/
def byteOfDigits? (high low : Char) : Option UInt8 := do
  let high ← Number.hexValue? high
  let low ← Number.hexValue? low
  return UInt8.ofNat (16 * high + low)

/-- The bytes that ASCII text stands for. -/
def bytesOf : List Char → List UInt8
  | '%' :: high :: low :: cs =>
    match byteOfDigits? high low with
    | some b => b :: bytesOf cs
    | none => 37 :: bytesOf (high :: low :: cs)
  | c :: cs => UInt8.ofNat c.toNat :: bytesOf cs
  | [] => []

/-- Whether the character is an ASCII character. -/
def isAscii (c : Char) : Bool := c.toNat < 128

/-- The text that percent-encoded text stands for. -/
def decodePercent : List Char → List Char
  | [] => []
  | c :: cs =>
    if isAscii c then
      Text.Utf8.readLenientChars (bytesOf (c :: cs.takeWhile isAscii)) ++
        decodePercent (cs.dropWhile isAscii)
    else c :: decodePercent cs
termination_by cs => cs.length
decreasing_by
  · exact Nat.lt_succ_of_le (List.dropWhile_sublist _).length_le
  · simp

/-- A character as percent-encoded bytes. -/
def encodeChar (c : Char) : List Char :=
  (String.utf8EncodeChar c).flatMap fun b => '%' :: (Text.hexPadded 2 b.toNat).map Char.toUpper

/-- The text with every character encoded that does not satisfy `keep`. -/
def encodeExcept (keep : Char → Bool) (cs : List Char) : List Char :=
  cs.flatMap fun c => if keep c then [c] else encodeChar c

/-- The characters that mean themselves wherever they stand. -/
def isUnreserved (c : Char) : Bool :=
  c.isAlphanum || ['_', '.', '-', '~'].contains c

/-- The text that a name or value in a query stands for, where a plus sign is a space. -/
def decodeQuery (cs : List Char) : List Char :=
  decodePercent (Text.replaceChar '+' [' '] cs)

end VacancyLedger.Address
