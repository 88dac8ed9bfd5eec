/-
What the fields of an advert are read from.

Pages write the same field in many ways: as a text, a number, or an object with a
name.  The functions here read a text off any JSON value, places off nested
addresses, the nodes that describe vacancies off a whole document, and a date off a
count of milliseconds.
-/
import VacancyLedger.Json.Basic
import VacancyLedger.Number.Binary64
import VacancyLedger.Text.Blank
import VacancyLedger.Text.Case
import VacancyLedger.Text.Scan
import VacancyLedger.Time.Stamp

namespace VacancyLedger.Advert

/-- A text without the blanks around it, if anything is left. -/
def trimmed? (s : String) : Option String :=
  let t := Text.strip s
  if t.isEmpty then none else some t

mutual

/-- The text of a value: of a text, of a number, or of what an object has for a name. -/
def textOf? : Json → Option String
  | .text s | .torn _ s => trimmed? s
  | .int n => some (toString n)
  | .real x => some (Number.shortest x)
  | .object members => nameOf? members
  | _ => none

/-- The text of the first member that is a name. -/
def nameOf? : List (String × Json) → Option String
  | [] => none
  | (key, value) :: members => if key = "name" then textOf? value else nameOf? members

end

/-- The text under a name of an object. -/
def field? (node : Json) (name : String) : Option String :=
  (node.get? name).bind textOf?

/-- The text under the first of several names that has one. -/
def firstField? (node : Json) (names : List String) : Option String :=
  names.findSome? (field? node)

/-! ### Places -/

/-- The place an object describes: its address, else its name. -/
def placeOf (node : Json) : List String :=
  let named := (field? node "name").toList
  match (node.get? "address").getD node with
  | .object members =>
    let address := Json.object members
    let parts := ["addressLocality", "addressRegion", "addressCountry"].filterMap (field? address)
    if parts.isEmpty then named else [Text.joinWith ", " parts]
  | .text s | .torn _ s => (trimmed? s).elim named ([·])
  | _ => named

mutual

/-- The places a value names, in order. -/
def placesIn : Json → List String
  | .list items => placesInAll items
  | .text s | .torn _ s => (trimmed? s).toList
  | .object members => placeOf (.object members)
  | _ => []

/-- The places several values name, in order. -/
def placesInAll : List Json → List String
  | [] => []
  | item :: items => placesIn item ++ placesInAll items

end

/-- The distinct places a value names, as one text. -/
def location? (value : Option Json) : Option String :=
  let places := ((value.map placesIn).getD []).eraseDups
  if places.isEmpty then none else some (Text.joinWith "; " places)

/-! ### Vacancies in a document -/

/-- Whether a value is the name of the type of vacancies, in any case. -/
def isVacancyType : Json → Bool
  | .text s => Text.lower s == "jobposting"
  | _ => false

/-- Whether an object with these members describes a vacancy. -/
def isVacancy (members : List (String × Json)) : Bool :=
  match members.lookup "@type" with
  | some (.list types) => types.any isVacancyType
  | some type => isVacancyType type
  | none => false

mutual

/-- The objects that describe vacancies, at any depth, each before those inside it. -/
def vacanciesIn : Json → List Json
  | .object members =>
    (if isVacancy members then [.object members] else []) ++ vacanciesInMembers members
  | .list items => vacanciesInItems items
  | _ => []

/-- The same for the members of an object. -/
def vacanciesInMembers : List (String × Json) → List Json
  | [] => []
  | (_, value) :: members => vacanciesIn value ++ vacanciesInMembers members

/-- The same for the items of a list. -/
def vacanciesInItems : List Json → List Json
  | [] => []
  | item :: items => vacanciesIn item ++ vacanciesInItems items

end

/-! ### Dates -/

/-- The day that the count of milliseconds starts at. -/
def epochDay : Nat := Time.Date.dayNumber ⟨1970, 1, 1⟩

/-- The date so many days after the epoch, if the calendar has it. -/
def dateOfDays? (days : Int) : Option String :=
  let n := days + epochDay
  if 0 ≤ n ∧ n < Time.dayCount then some (Time.Date.ofDayNumber n.toNat).text else none

/-- A number of magnitude `m · 2^q` rounded to the nearest integer. -/
def roundedMagnitude : Number.Decoded → Nat
  | .finite _ m q => Number.divRoundEven (m * Number.twoTo q.toNat) (Number.twoTo (-q).toNat)
  | _ => 0

/-- The microseconds of a fraction of a second. -/
def microsOf (num den : Nat) : Nat :=
  roundedMagnitude (Number.nearest false (num * Time.second) den)

/-- The whole second that `± m · 2^q` seconds fall into once they are rounded to microseconds. -/
def wholeSecond (negative : Bool) (m : Nat) (q : Int) : Int :=
  let den := Number.twoTo (-q).toNat
  let num := m * Number.twoTo q.toNat
  let seconds : Int := Int.ofNat (num / den)
  let micros := microsOf (num % den) den
  if negative then (if micros = 0 then -seconds else -seconds - 1)
  else if micros < Time.second then seconds else seconds + 1

/-- The day of an instant in seconds since the epoch; those that are no numbers or beyond all of
them have none. -/
def dateOfSeconds? : Number.Decoded → Option String
  | .finite negative m q => dateOfDays? ((wholeSecond negative m q).fdiv 86400)
  | _ => none

/-- The day of an instant in milliseconds since the epoch, which are divided into seconds as
floating point numbers are. -/
def dateOfMillis? (millis : Int) : Option String :=
  dateOfSeconds? (Number.nearest (millis < 0) millis.natAbs 1000)

/-- The day of an instant in milliseconds since the epoch that need not be whole. -/
def dateOfRealMillis? (millis : Float) : Option String :=
  dateOfSeconds? (Number.decode (millis / 1000))

/-- The date a value in milliseconds since the epoch stands for. -/
def date? : Json → Option String
  | .int n => dateOfMillis? n
  | .real x => dateOfRealMillis? x
  | _ => none

end VacancyLedger.Advert
