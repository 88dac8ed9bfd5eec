/-
Reading bytes as UTF-8.

`step` reads one character or says what is wrong with the bytes at hand and how
many of them are to blame.  A strict reading stops at the first fault and tells
where it is; a lenient one writes the replacement character for each fault.
-/
import VacancyLedger.Number.Digits
import VacancyLedger.Text.Quoted

namespace VacancyLedger.Text.Utf8

/-- What can be wrong with bytes that are read as UTF-8. -/
inductive Fault where
  | startByte
  | continuationByte
  | endOfData

/-- The reason a fault is reported with. -/
def Fault.reason : Fault → String
  | .startByte => "invalid start byte"
  | .continuationByte => "invalid continuation byte"
  | .endOfData => "unexpected end of data"

/-- Where the bytes stop being UTF-8: the position, the bytes to blame and the fault. -/
structure Error where
  position : Nat
  bytes : List UInt8
  fault : Fault

/-- A decoding error in words. -/
def Error.message (e : Error) : String :=
  let place :=
    match e.bytes with
    | [b] => s!"byte 0x{String.ofList (hexPadded 2 b.toNat)} in position {e.position}"
    | bs => s!"bytes in position {e.position}-{e.position + bs.length - 1}"
  s!"'utf-8' codec can't decode {place}: {e.fault.reason}"

/-- What reading one character comes to: the character, or a fault, and the bytes it takes. -/
inductive Step where
  | char (c : Char) (size : Nat)
  | fault (f : Fault) (size : Nat)

/-- The bytes a step takes. -/
def Step.size : Step → Nat
  | .char _ n => n
  | .fault _ n => n

/-- Whether the byte may follow the first byte of a character. -/
def isContinuation (b : UInt8) : Bool :=
  0x80 ≤ b && b ≤ 0xBF

/-- How many bytes follow this first byte, and the bounds of the second byte. -/
def follow? (b : UInt8) : Option (Nat × UInt8 × UInt8) :=
  if 0xC2 ≤ b ∧ b ≤ 0xDF then some (1, 0x80, 0xBF)
  else if b = 0xE0 then some (2, 0xA0, 0xBF)
  else if b = 0xED then some (2, 0x80, 0x9F)
  else if 0xE1 ≤ b ∧ b ≤ 0xEF then some (2, 0x80, 0xBF)
  else if b = 0xF0 then some (3, 0x90, 0xBF)
  else if b = 0xF4 then some (3, 0x80, 0x8F)
  else if 0xF1 ≤ b ∧ b ≤ 0xF3 then some (3, 0x80, 0xBF)
  else none

/-- The payload of the bytes that follow, after `taken` of `wanted` have been read. -/
def followFrom (acc taken : Nat) : Nat → List UInt8 → Step
  | 0, _ => .char (Char.ofNat acc) (taken + 1)
  | _ + 1, [] => .fault .endOfData (taken + 1)
  | n + 1, b :: bs =>
    if isContinuation b then followFrom (64 * acc + (b.toNat - 0x80)) (taken + 1) n bs
    else .fault .continuationByte (taken + 1)

/-- Reads one character from bytes that start with `b`. -/
def step (b : UInt8) (bs : List UInt8) : Step :=
  if b < 0x80 then .char (Char.ofNat b.toNat) 1
  else
    match follow? b with
    | none => .fault .startByte 1
    | some (n, lo, hi) =>
      match bs with
      | [] => .fault .endOfData 1
      | b₂ :: rest =>
        if lo ≤ b₂ ∧ b₂ ≤ hi then
          followFrom (64 * (b.toNat % Number.twoTo (6 - n)) + (b₂.toNat - 0x80)) 1 (n - 1) rest
        else .fault .continuationByte 1

/-- Reads bytes as text, or finds the first fault; `position` counts the bytes already read. -/
def readFrom (position : Nat) : List UInt8 → Except Error (List Char)
  | [] => .ok []
  | b :: bs =>
    match step b bs with
    | .fault f n => .error ⟨position, (b :: bs).take n, f⟩
    | .char c n => do
      let cs ← readFrom (position + n) (bs.drop (n - 1))
      return c :: cs
termination_by bs => bs.length
decreasing_by simp only [List.length_drop, List.length_cons]; omega

/-- Reads bytes as text, or finds the first fault. -/
def read (bytes : List UInt8) : Except Error String :=
  (readFrom 0 bytes).map String.ofList

/-- Reads bytes as text with the replacement character in place of each fault. -/
def readLenientChars : List UInt8 → List Char
  | [] => []
  | b :: bs =>
    let s := step b bs
    (match s with
      | .char c _ => c
      | .fault _ _ => Char.ofNat 0xFFFD) :: readLenientChars (bs.drop (s.size - 1))
termination_by bs => bs.length
decreasing_by simp only [List.length_drop, List.length_cons]; omega

/-- Reads bytes as text with the replacement character in place of each fault. -/
def readLenient (bytes : List UInt8) : String :=
  String.ofList (readLenientChars bytes)

end VacancyLedger.Text.Utf8
