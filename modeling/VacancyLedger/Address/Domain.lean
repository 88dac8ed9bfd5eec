/-
Domain names in ASCII.

Which names hosts may have, and how they are written in ASCII, is for a `Naming` to say.  The
one here folds a name and encodes its labels: a label with characters beyond ASCII is written
as `xn--` and an encoding of it: first its ASCII characters, then, for every other character in
the order of their numbers, the distance from the one before, in digits of varying weight.  Of
the labels that come encoded it refuses those that encode nothing; it does not look into tables
of the characters that names may have.
-/
import VacancyLedger.Text.Case
import VacancyLedger.Text.Quoted
import VacancyLedger.Text.Scan

namespace VacancyLedger.Address

/-- How the name of a host is written in ASCII, if a host may have that name. -/
abbrev Naming := List Char → Option (List Char)

namespace Domain

/-! ### Labels -/

/-- A digit of the encoding: the letters, then the figures. -/
def digitOf (n : Nat) : Char :=
  if n < 26 then Char.ofNat (97 + n) else Char.ofNat (22 + n)

/-- How far a distance is scaled down before digits are spent on it. -/
def reduce : Nat → Nat → Nat → Nat × Nat
  | 0, delta, k => (delta, k)
  | fuel + 1, delta, k => if 455 < delta then reduce fuel (delta / 35) (k + 36) else (delta, k)

/-- The bias after a distance has been written; `count` characters have been. -/
def adapt (delta count : Nat) (first : Bool) : Nat :=
  let delta := if first then delta / 700 else delta / 2
  let (delta, k) := reduce delta (delta + delta / count) 0
  k + 36 * delta / (delta + 38)

/-- The weight at which the digits of a number end. -/
def threshold (k bias : Nat) : Nat :=
  if k ≤ bias then 1 else if bias + 26 ≤ k then 26 else k - bias

/-- The digits of a distance. -/
def digits (bias : Nat) : Nat → Nat → Nat → List Char
  | 0, _, _ => []
  | fuel + 1, k, q =>
    let t := threshold k bias
    if q < t then [digitOf q]
    else digitOf (t + (q - t) % (36 - t)) :: digits bias fuel (k + 36) ((q - t) / (36 - t))

/-- Where an encoding has come to. -/
structure Progress where
  delta : Nat
  bias : Nat
  handled : Nat
  written : List Char

/-- Writes the places at which the character `n` stands. -/
def place (basic n : Nat) (p : Progress) (c : Nat) : Progress :=
  if c < n then { p with delta := p.delta + 1 }
  else if c = n then
    { delta := 0
      bias := adapt p.delta (p.handled + 1) (p.handled == basic)
      handled := p.handled + 1
      written := p.written ++ digits p.bias (p.delta + 1) 36 p.delta }
  else p

/-- Writes the characters from `n` on that stand in a label. -/
def encodeFrom (label : List Nat) (basic : Nat) : Nat → Nat → Progress → List Char
  | 0, _, p => p.written
  | fuel + 1, n, p =>
    match (label.filter (n ≤ ·)).min? with
    | none => p.written
    | some m =>
      let p := { p with delta := p.delta + (m - n) * (p.handled + 1) }
      let p := label.foldl (place basic m) p
      encodeFrom label basic fuel (m + 1) { p with delta := p.delta + 1 }

/-- The encoding of a label. -/
def encodeLabel (label : List Char) : List Char :=
  let basic := label.filter (·.toNat < 128)
  let start := if basic.isEmpty then [] else basic ++ ['-']
  start ++ encodeFrom (label.map Char.toNat) basic.length label.length 128 ⟨0, 72, basic.length, []⟩

/-! ### Encoded labels -/

/-- The number a digit of the encoding stands for. -/
def digitValue? (c : Char) : Option Nat :=
  if 'a' ≤ c ∧ c ≤ 'z' then some (c.toNat - 97)
  else if '0' ≤ c ∧ c ≤ '9' then some (c.toNat - 22)
  else none

/-- Reads the distance that digits start with, of which those before, worth `read`, were read; the
next one has a weight. -/
def distance? (bias : Nat) : Nat → Nat → Nat → List Char → Option (Nat × List Char)
  | _, _, _, [] => none
  | k, weight, read, c :: cs => do
    let d ← digitValue? c
    let t := threshold k bias
    if d < t then return (read + d * weight, cs)
    else distance? bias (k + 36) (weight * (36 - t)) (read + d * weight) cs

/-- Reads the characters that digits put into a label, one after the other: `n` was put last, before
the place `i`. -/
def decodeFrom : Nat → Nat → Nat → Nat → List Nat → List Char → Option (List Nat)
  | 0, _, _, _, _, _ => none
  | _ + 1, _, _, _, label, [] => some label
  | fuel + 1, n, i, bias, label, c :: cs => do
    let (delta, rest) ← distance? bias 36 1 0 (c :: cs)
    let count := label.length + 1
    let n := n + (i + delta) / count
    let place := (i + delta) % count
    decodeFrom fuel n (place + 1) (adapt delta count (i == 0))
      (label.take place ++ n :: label.drop place) rest

/-- The numbers of the characters that an encoding stands for. -/
def decodeLabel? (encoded : List Char) : Option (List Nat) :=
  let (basic, digits) := Text.cutAtLast '-' encoded
  decodeFrom (digits.length + 1) 128 0 72 ((basic.getD []).map Char.toNat) digits

/-! ### Names -/

/-- The characters that are dropped from a name. -/
def isIgnored (c : Char) : Bool :=
  [0xAD, 0x200B, 0x2060, 0x2064, 0xFEFF].contains c.toNat ||
    (0xFE00 ≤ c.toNat && c.toNat ≤ 0xFE0F)

/-- The form in which a character of a name is compared: folded, wide forms as plain ones, and
the full stops of other scripts as points. -/
def plainChar (c : Char) : List Char :=
  if c.toNat < 128 then [c.toLower]
  else if c == 'ß' || c == 'ς' then [c]
  else if [0x3002, 0xFF0E, 0xFF61].contains c.toNat then ['.']
  else if 0xFF01 ≤ c.toNat ∧ c.toNat ≤ 0xFF5E then [(Char.ofNat (c.toNat - 0xFEE0)).toLower]
  else if isIgnored c then []
  else Text.foldChar c

/-- Whether a character may stand in a label: it is in ASCII, or it is shown, and in the form in
which it is compared. -/
def isLabelChar (c : Char) : Bool :=
  c.toNat < 128 || (plainChar c == [c] && Text.isPrintable c)

/-- Whether a label that comes encoded stands for one that has to be. -/
def isEncoding (encoded : List Char) : Bool :=
  match decodeLabel? encoded with
  | some label =>
    label.any (128 ≤ ·) &&
      label.all fun n => (Char.ofNat n).toNat == n && isLabelChar (Char.ofNat n)
  | none => false

/-- A label in ASCII, if it may be one. -/
def asciiLabel? (label : List Char) : Option (List Char) :=
  if label.all (·.toNat < 128) then
    match Text.dropPrefix? "xn--".toList label with
    | some encoded => if isEncoding encoded then some label else none
    | none => some label
  else if label.all isLabelChar then some ("xn--".toList ++ encodeLabel label)
  else none

/-- A name in ASCII. -/
def naming : Naming := fun name =>
  ((Text.splitAll '.' (name.flatMap plainChar)).mapM asciiLabel?).map (List.intercalate ['.'])

end Domain
end VacancyLedger.Address
