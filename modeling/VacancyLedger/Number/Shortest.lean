/-
The shortest decimal text that reads back as a floating point number.

The numbers that round to `m · 2^q` form an interval whose ends count when `m` is
even.  For one digit, two digits and so on, at most two multiples of a power of
ten are near enough to lie in it; the first count of digits with a hit gives the
digits, and of two hits the nearer.
-/
import VacancyLedger.Number.Binary64
import VacancyLedger.Number.Digits

namespace VacancyLedger.Number

/-- A positive number `m · 2^q`, with the interval of numbers that round to it: in units of
`2^(q-2)` it reaches from `4m - below` to `4m + 2`. -/
structure Rounding where
  m : Nat
  q : Int
  below : Nat

/-- The interval around `m · 2^q`: the step below is half as wide at a power of two. -/
def Rounding.of (m : Nat) (q : Int) : Rounding :=
  ⟨m, q, if m = twoTo 52 ∧ -1074 < q then 1 else 2⟩

/-- Compares `d · 10^k` with `u · 2^e`. -/
def comparePowers (d : Nat) (k : Int) (u : Nat) (e : Int) : Ordering :=
  compare (d * tenTo k.toNat * twoTo (-e).toNat) (u * tenTo (-k).toNat * twoTo e.toNat)

/-- Whether `d · 10^k` rounds to the number. -/
def Rounding.covers (r : Rounding) (d : Nat) (k : Int) : Bool :=
  let low := comparePowers d k (4 * r.m - r.below) (r.q - 2)
  let high := comparePowers d k (4 * r.m + 2) (r.q - 2)
  (low == .gt && high == .lt) || (r.m % 2 == 0 && (low == .eq || high == .eq))

/-- The exponent `e` with `10^(e-1) ≤ m · 2^q < 10^e`. -/
def Rounding.magnitude (r : Rounding) : Int :=
  let binary : Int := (Nat.log2 r.m : Int) + r.q
  let guess := (binary * 30103).fdiv 100000
  if comparePowers 1 guess r.m r.q == .gt then guess
  else if comparePowers 1 (guess + 1) r.m r.q == .gt then guess + 1
  else guess + 2

/-- The multiple of `10^k` that rounds to the number, if there is one: the nearer of two. -/
def Rounding.atGrid (r : Rounding) (k : Int) : Option Nat :=
  let num := r.m * twoTo r.q.toNat * tenTo (-k).toNat
  let den := twoTo (-r.q).toNat * tenTo k.toNat
  let near := divRoundEven num den
  let far := if num / den = near then near + 1 else near - 1
  if r.covers near k then some near
  else if r.covers far k then some far
  else none

/-- The digits and the exponent of the shortest decimal, looking from `n` digits on. -/
def Rounding.shortestFrom (r : Rounding) (magnitude : Int) : Nat → Nat → Nat × Int
  | 0, n => (divRoundEven (r.m * twoTo r.q.toNat * tenTo (n - magnitude).toNat)
      (twoTo (-r.q).toNat * tenTo (magnitude - n).toNat), magnitude - n)
  | fuel + 1, n =>
    match r.atGrid (magnitude - n) with
    | some d => (d, magnitude - n)
    | none => r.shortestFrom magnitude fuel (n + 1)

/-- The number without the zeros it ends with, for the digits `ds` in reverse. -/
def dropZeros (ds : List Char) : List Char :=
  (ds.reverse.dropWhile (· == '0')).reverse

/-- The significant digits of a positive number, and where the point stands: the number is
`0.ddd… · 10^point`. -/
def shortestDigits (m : Nat) (q : Int) : List Char × Int :=
  let r := Rounding.of m q
  let (d, k) := r.shortestFrom r.magnitude 16 1
  let ds := (toString d).toList
  (dropZeros ds, k + ds.length)

/-- The digits with the point at its place: written out for exponents from -4 to 15, otherwise
with an exponent of at least two digits. -/
def layout (ds : List Char) (point : Int) : List Char :=
  if -4 < point ∧ point ≤ 16 then
    if point ≤ 0 then '0' :: '.' :: (List.replicate (-point).toNat '0' ++ ds)
    else if (ds.length : Int) ≤ point then
      ds ++ List.replicate (point.toNat - ds.length) '0' ++ ['.', '0']
    else ds.take point.toNat ++ '.' :: ds.drop point.toNat
  else
    let exponent := point - 1
    let size := (toString exponent.natAbs).toList
    let mantissa := match ds with
      | d :: rest@(_ :: _) => d :: '.' :: rest
      | _ => ds
    mantissa ++ 'e' :: (if exponent < 0 then '-' else '+') ::
      (List.replicate (2 - size.length) '0' ++ size)

/-- The shortest text that reads back as the number. -/
def shortest (x : Float) : String :=
  match decode x with
  | .nan => "nan"
  | .infinite negative => if negative then "-inf" else "inf"
  | .finite negative m q =>
    let body :=
      if m = 0 then ['0', '.', '0']
      else
        let (ds, point) := shortestDigits m q
        layout ds point
    String.ofList (if negative then '-' :: body else body)

/-- The number rounded to an integer, to the even one of two equally near, as text. -/
def rounded (x : Float) : String :=
  match decode x with
  | .nan => "nan"
  | .infinite negative => if negative then "-inf" else "inf"
  | .finite negative m q =>
    (if negative then "-" else "") ++
      toString (divRoundEven (m * twoTo q.toNat) (twoTo (-q).toNat))

end VacancyLedger.Number
