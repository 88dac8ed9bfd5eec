/-
Reading the dates of mail and HTTP headers, such as `Sun, 01 Mar 2026 12:01:30 GMT`.

The reading is lenient about the order of the parts, the name of the day and the way
the year and the time are written.  A number that is too large to be a part of a date
at all is a fault of its own; anything else that is wrong means there is no date.
-/
import VacancyLedger.Number.Digits
import VacancyLedger.Text.Blank
import VacancyLedger.Text.Digit
import VacancyLedger.Text.Scan
import VacancyLedger.Time.Stamp

namespace VacancyLedger.Time.MailDate

/-- A number in a date that is out of any range. -/
inductive Overflow where
  | beyondWord
  | tooGreat
  | tooSmall
  | offsetBeyondWord
  | offsetDays (days : Int)

/-- The complaint about such a number. -/
def Overflow.message : Overflow → String
  | .beyondWord => "Python int too large to convert to C long"
  | .tooGreat => "signed integer is greater than maximum"
  | .tooSmall => "signed integer is less than minimum"
  | .offsetBeyondWord => "Python int too large to convert to C int"
  | .offsetDays days => s!"days={days}; must have magnitude <= 999999999"

/-- The names of the months, short and long. -/
def monthNames : List (String × Nat) :=
  [("jan", 1), ("feb", 2), ("mar", 3), ("apr", 4), ("may", 5), ("jun", 6), ("jul", 7), ("aug", 8),
   ("sep", 9), ("oct", 10), ("nov", 11), ("dec", 12), ("january", 1), ("february", 2), ("march", 3),
   ("april", 4), ("june", 6), ("july", 7), ("august", 8), ("september", 9), ("october", 10),
   ("november", 11), ("december", 12)]

/-- The short names of the days. -/
def dayNames : List String := ["mon", "tue", "wed", "thu", "fri", "sat", "sun"]

/-- The names of the zones, and their hours and minutes as one number. -/
def zoneNames : List (String × Int) :=
  [("UT", 0), ("UTC", 0), ("GMT", 0), ("Z", 0), ("AST", -400), ("ADT", -300), ("EST", -500),
   ("EDT", -400), ("CST", -600), ("CDT", -500), ("MST", -700), ("MDT", -600), ("PST", -800),
   ("PDT", -700)]

/-- The number of the month with this name, whatever its case. -/
def month? (name : List Char) : Option Nat :=
  monthNames.lookup (String.ofList (Text.lowerChars name))

/-- The text without a comma at its end. -/
def dropComma (cs : List Char) : List Char :=
  if cs.getLast? = some ',' then cs.dropLast else cs

/-- The words of a date without the name of the day. -/
def withoutDayName : List (List Char) → List (List Char)
  | [] => []
  | first :: rest =>
    if first.getLast? = some ',' ∨ dayNames.contains (String.ofList (Text.lowerChars first)) then rest
    else
      match Text.cutAtLast ',' first with
      | (some _, after) => after :: rest
      | (none, _) => first :: rest

/-- Cuts a time before the sign of a zone that follows it, if the sign is not at its start. -/
def cutZone (cs : List Char) : List Char × List Char :=
  let sign := if cs.contains '+' then '+' else '-'
  match cs.span (· ≠ sign) with
  | ([], _) | (_, []) => (cs, [])
  | (time, zone) => (time, zone)

/-- Day, month, year, time and zone, as they stand. -/
def fields? (words : List (List Char)) :
    Option (List Char × List Char × List Char × List Char × List Char) :=
  let words := match words with
    | [date, time, zone] =>
      match Text.splitAll '-' date with
      | [d, m, y] => [d, m, y, time, zone]
      | _ => words
    | _ => words
  match words with
  | [d, m, y, time] =>
    let (time, zone) := cutZone time
    some (d, m, y, time, zone)
  | d :: m :: y :: time :: zone :: _ => some (d, m, y, time, zone)
  | _ => none

/-- Hours, minutes and seconds, as they stand, between colons or, failing those, points. -/
def timeFields? (time : List Char) : Option (List Char × List Char × List Char) :=
  match Text.splitAll ':' time with
  | [h, m] => some (h, m, ['0'])
  | [h, m, s] => some (h, m, s)
  | [_] =>
    match Text.splitAll '.' time with
    | [h, m] => some (h, m, ['0'])
    | [h, m, s] => some (h, m, s)
    | _ => none
  | _ => none

/-- An integer of a date; one with too many digits counts as no integer. -/
def integer? (cs : List Char) : Option Int :=
  if Number.maxDigits < cs.length then none else Text.intOfText? cs

/-- A year of two digits is one of the years from 1969 to 2068. -/
def fullYear (year : Int) : Int :=
  if 100 ≤ year then year else if 68 < year then year + 1900 else year + 2000

/-- The seconds a zone is ahead of universal time; a zone that says nothing has none. -/
def zoneSeconds? (zone : List Char) : Option Int :=
  let hundreds? := match zoneNames.lookup (String.ofList (zone.map Char.toUpper)) with
    | some n => some n
    | none => integer? zone
  match hundreds? with
  | none => none
  | some 0 => if zone.head? = some '-' then none else some 0
  | some n =>
    let seconds : Int := (n.natAbs / 100 * 3600 + n.natAbs % 100 * 60 : Nat)
    some (if n < 0 then -seconds else seconds)

/-- The numbers of a date as they were written. -/
structure Numbers where
  year : Int
  month : Int
  day : Int
  hour : Int
  minute : Int
  second : Int
  zone : Option Int

/-- Reads the numbers of a date. -/
def numbers? (cs : List Char) : Option Numbers := do
  let (d, m, y, time, zone) ← fields? (withoutDayName (Text.words cs))
  if d.isEmpty ∨ m.isEmpty ∨ y.isEmpty then none
  let (d, month) ← match month? m with
    | some n => some (d, n)
    | none => (month? d).map (m, ·)
  let d := dropComma d
  let (y, time) := if (y.drop 1).contains ':' ∧ y.head? ≠ some ':' then (time, y) else (y, time)
  let y := dropComma y
  let first ← y.head?
  let (y, zone) := if Text.isDigit first then (y, zone) else (zone, y)
  let (h, mi, s) ← timeFields? (dropComma time)
  return ⟨fullYear (← integer? y), month, ← integer? d, ← integer? h, ← integer? mi, ← integer? s,
    zoneSeconds? zone⟩

/-- A number that must fit a word of 32 bits. -/
def fits (n : Int) : Except Overflow Unit :=
  if !Number.fitsBits 63 n then .error .beyondWord
  else if Number.fitsBits 31 n then .ok ()
  else if n < 0 then .error .tooSmall
  else .error .tooGreat

/-- An offset in seconds must be of at most 999999999 days. -/
def offsetFits (seconds : Int) : Except Overflow Unit :=
  let days := seconds.fdiv 86400
  if !Number.fitsBits 31 days then .error .offsetBeyondWord
  else if days < -999999999 ∨ 999999999 < days then .error (.offsetDays days)
  else .ok ()

/-- The stamp that numbers make, if there is such a time. -/
def Numbers.stamp? (n : Numbers) : Option Stamp :=
  if n.year < 0 ∨ n.day < 0 ∨ n.hour < 0 ∨ n.minute < 0 ∨ n.second < 0 then none
  else
    let s : Stamp := ⟨⟨n.year.toNat, n.month.toNat, n.day.toNat⟩, n.hour.toNat, n.minute.toNat,
      n.second.toNat, 0, n.zone.map (· * Time.second)⟩
    if s.isValid then some s else none

/-- Reads a date. -/
def parse (cs : List Char) : Except Overflow (Option Stamp) :=
  match numbers? cs with
  | none => .ok none
  | some n => do
    match n.zone with
    | some seconds => offsetFits seconds
    | none => pure ()
    if (n.zone.map fun z => decide (z ≤ -86400 ∨ 86400 ≤ z)).getD false then return none
    for part in [n.year, n.month, n.day, n.hour, n.minute, n.second] do fits part
    return n.stamp?

end VacancyLedger.Time.MailDate
