/-
Reading the fields of a configuration.

Every field is read on its own, so that all problems are reported and not only the first.
A problem names the field and says of what kind it is.  Readers are generous: a number
may be written as a text, and a choice as a number or one of several words.
-/
import VacancyLedger.Address.Strict
import VacancyLedger.Json.Basic
import VacancyLedger.Number.Digits
import VacancyLedger.Number.Written

namespace VacancyLedger.Config

/-- The ways in which a value can fail to be what a field holds. -/
inductive Fault where
  | missing
  | notAnObject
  | notAText
  | tornText
  | tooShort
  | tooLong
  | unexpectedCharacter
  | unreadableChoice
  | notAChoice
  | unreadableInt
  | intTooLong
  | notAnInt
  | intWithFraction
  | infiniteInt
  | unreadableReal
  | notAReal
  | notGreater
  | tooSmall
  | tooGreat
  | notListed
  | notAUrl
  | unreadableUrl
  | otherScheme
  | urlTooLong
  deriving DecidableEq

/-- The name a fault is reported by. -/
def Fault.name : Fault → String
  | .missing => "missing"
  | .notAnObject => "model_type"
  | .notAText => "string_type"
  | .tornText => "string_unicode"
  | .tooShort => "string_too_short"
  | .tooLong => "string_too_long"
  | .unexpectedCharacter => "string_pattern_mismatch"
  | .unreadableChoice => "bool_parsing"
  | .notAChoice => "bool_type"
  | .unreadableInt => "int_parsing"
  | .intTooLong => "int_parsing_size"
  | .notAnInt => "int_type"
  | .intWithFraction => "int_from_float"
  | .infiniteInt => "finite_number"
  | .unreadableReal => "float_parsing"
  | .notAReal => "float_type"
  | .notGreater => "greater_than"
  | .tooSmall => "greater_than_equal"
  | .tooGreat => "less_than_equal"
  | .notListed => "literal_error"
  | .notAUrl => "url_type"
  | .unreadableUrl => "url_parsing"
  | .otherScheme => "url_scheme"
  | .urlTooLong => "url_too_long"

/-- A fault and the path to the field that has it. -/
structure Problem where
  path : List String
  fault : Fault
  deriving DecidableEq

/-- A value that was read, or all problems with it. -/
abbrev Checked (α : Type) := Except (List Problem) α

/-- Applies what was read to what is read next, the problems of both being reported. -/
def Checked.apply {α β : Type} (f : Checked (α → β)) (x : Checked α) : Checked β :=
  match f, x with
  | .ok f, .ok a => .ok (f a)
  | .error ps, .ok _ => .error ps
  | .ok _, .error qs => .error qs
  | .error ps, .error qs => .error (ps ++ qs)

/-! ### Values -/

/-- A text as it is. -/
def text : Json → Except Fault String
  | .text s => .ok s
  | .torn _ _ => .error .tornText
  | _ => .error .notAText

/-- A text with a length in bounds. -/
def boundedText (least most : Nat) (value : Json) : Except Fault String := do
  let s ← text value
  if s.length < least then throw .tooShort
  if most < s.length then throw .tooLong
  return s

/-- The words for a choice that is made. -/
def yesWords : List String := ["1", "on", "t", "true", "y", "yes"]

/-- The words for a choice that is not made. -/
def noWords : List String := ["0", "off", "f", "false", "n", "no"]

/-- A choice written as a word, in any case. -/
def choiceOfText (s : String) : Except Fault Bool :=
  let word := String.ofList (s.toList.map Char.toLower)
  if yesWords.contains word then .ok true
  else if noWords.contains word then .ok false
  else .error .unreadableChoice

/-- The integers that fit into 64 bits. -/
def fitsWord (n : Int) : Bool := Number.fitsBits 63 n

/-- The integer a floating point number is, if it is one. -/
def intOfReal? (x : Float) : Except Fault Int :=
  match Number.decode x with
  | .finite negative m q =>
    let den := Number.twoTo (-q).toNat
    let num := m * Number.twoTo q.toNat
    if num % den ≠ 0 then .error .intWithFraction
    else
      let n : Int := if negative then -Int.ofNat (num / den) else Int.ofNat (num / den)
      if n.natAbs < Number.twoTo 63 then .ok n else .error .intTooLong
  | _ => .error .infiniteInt

/-- A choice written as one of the integers zero and one. -/
def choiceOfInt (n : Int) : Except Fault Bool :=
  if n = 0 then .ok false else if n = 1 then .ok true else .error .unreadableChoice

/-- A choice. -/
def choice : Json → Except Fault Bool
  | .bool b => .ok b
  | .text s => choiceOfText s
  | .int n => if fitsWord n then choiceOfInt n else .error .notAChoice
  | .real x =>
    match intOfReal? x with
    | .ok n => choiceOfInt n
    | .error _ => .error .notAChoice
  | .torn _ _ => .error .tornText
  | _ => .error .notAChoice

/-- An integer written as a text. -/
def intOfText (s : String) : Except Fault Int :=
  match Number.readInt s.toList with
  | .value n => .ok n
  | .tooLong => .error .intTooLong
  | .none => .error .unreadableInt

/-- An integer. -/
def int : Json → Except Fault Int
  | .int n => .ok n
  | .bool b => .ok (if b then 1 else 0)
  | .real x => intOfReal? x
  | .text s => intOfText s
  | .torn _ _ => .error .tornText
  | _ => .error .notAnInt

/-- An integer between bounds. -/
def intWithin (least most : Int) (value : Json) : Except Fault Int := do
  let n ← int value
  if n < least then throw .tooSmall
  if most < n then throw .tooGreat
  return n

/-- A number. -/
def real : Json → Except Fault Float
  | .int n => .ok (Number.ofIntDiv n 1)
  | .bool b => .ok (if b then 1 else 0)
  | .real x => .ok x
  | .text s =>
    match Number.readReal? s.toList with
    | some x => .ok x
    | none => .error .unreadableReal
  | .torn _ _ => .error .tornText
  | _ => .error .notAReal

/-- A number greater than zero. -/
def positiveReal (value : Json) : Except Fault Float := do
  let x ← real value
  if x ≤ 0 then throw .notGreater
  return x

/-- A number that is not less than zero. -/
def nonnegativeReal (value : Json) : Except Fault Float := do
  let x ← real value
  if x < 0 then throw .tooSmall
  return x

/-- How many bytes an address may have. -/
def maxUrlBytes : Nat := 2083

/-- The address of a web page, in its normal form. -/
def url (naming : Address.Naming) : Json → Except Fault String
  | .text s =>
    if maxUrlBytes < s.utf8ByteSize then .error .urlTooLong
    else
      match Address.Strict.normal naming s with
      | .ok t => .ok t
      | .error .unreadable => .error .unreadableUrl
      | .error .otherScheme => .error .otherScheme
  | .torn _ _ => .error .tornText
  | _ => .error .notAUrl

/-- A value that may be left out by writing null. -/
def optional {α : Type} (read : Json → Except Fault α) : Json → Except Fault (Option α)
  | .null => .ok none
  | value => (read value).map some

/-! ### Fields -/

/-- A value read under a name. -/
def under {α : Type} (name : String) (result : Except Fault α) : Checked α :=
  result.mapError fun fault => [⟨[name], fault⟩]

/-- A field that must be there. -/
def required {α : Type} (object : Json) (name : String) (read : Json → Except Fault α) :
    Checked α :=
  match object.get? name with
  | some value => under name (read value)
  | none => under name (.error .missing)

/-- A field that has a value of its own if it is not there. -/
def withDefault {α : Type} (object : Json) (name : String) (default : α)
    (read : Json → Except Fault α) : Checked α :=
  match object.get? name with
  | some value => under name (read value)
  | none => .ok default

end VacancyLedger.Config
