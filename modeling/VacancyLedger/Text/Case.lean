/-
Lower case and case folding of a whole text.

Both are Unicode's full mappings, so one character may become several.  Folding
looks at a character alone; lowering has one rule that looks around it, for the
sigma that ends a word.
-/
import VacancyLedger.Text.CaseTable

namespace VacancyLedger.Text

/-- Whether the code point lies in one of the ranges, which stand in ascending order. -/
def inRanges : List (Nat × Nat) → Nat → Bool
  | [], _ => false
  | (lo, hi) :: rest, n => lo ≤ n && (n ≤ hi || inRanges rest n)

/-- Whether the character is passed over when the context of a sigma is looked at. -/
def isCaseIgnorable (c : Char) : Bool :=
  inRanges caseIgnorableRanges c.toNat

/-- Whether the character carries case. -/
def isCased (c : Char) : Bool :=
  c.isAlpha || inRanges casedRanges c.toNat

/-- The first run that moves the code point says where it goes. -/
def shiftBy (shifts : List Shift) (c : Char) : Char :=
  match shifts.findSome? (·.target? c.toNat) with
  | some n => Char.ofNat n
  | none => c

/-- Full lower case of a character that is not a capital sigma. -/
def lowerChar (c : Char) : List Char :=
  if c.toNat < 128 then [c.toLower]
  else if c = 'İ' then ['i', Char.ofNat 0x307]
  else [shiftBy lowerShifts c]

/-- Lower case of the rest of a text, knowing whether the last character that counts carried
case: a capital sigma ends a word if one did before it and none does after it. -/
def lowerFrom (casedBefore : Bool) : List Char → List Char
  | [] => []
  | c :: cs =>
    let casedNow := if isCaseIgnorable c then casedBefore else isCased c
    if c = 'Σ' then
      let casedAfter := (cs.dropWhile isCaseIgnorable).head?.any isCased
      (if casedBefore && !casedAfter then 'ς' else 'σ') :: lowerFrom casedNow cs
    else lowerChar c ++ lowerFrom casedNow cs

/-- Full lower case of a text. -/
def lowerChars (cs : List Char) : List Char :=
  lowerFrom false cs

/-- Full case folding of a character. -/
def foldChar (c : Char) : List Char :=
  if c.toNat < 128 then [c.toLower]
  else
    match foldExpansions.lookup c.toNat with
    | some ns => ns.map Char.ofNat
    | none => [shiftBy foldShifts c]

/-- Full case folding of a text. -/
def foldChars (cs : List Char) : List Char :=
  cs.flatMap foldChar

/-- Full lower case of a text. -/
def lower (s : String) : String :=
  String.ofList (lowerChars s.toList)

/-- Full case folding of a text. -/
def fold (s : String) : String :=
  String.ofList (foldChars s.toList)

end VacancyLedger.Text
