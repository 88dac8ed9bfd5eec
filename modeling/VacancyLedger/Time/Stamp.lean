/-
Points in time and their text.

An instant is a count of microseconds since the start of the calendar, in universal
time.  Its text has a fixed width, so that texts sort as the instants do.  A stamp is
what was read from text: a local time and perhaps its distance from universal time.
-/
import VacancyLedger.Time.Calendar

namespace VacancyLedger.Time

/-- Microseconds in a second. -/
def second : Nat := 1000000

/-- Microseconds in a day. -/
def day : Nat := 86400 * second

/-- A point in time, in microseconds since the start of the calendar. -/
structure Instant where
  microseconds : Nat
  deriving DecidableEq

/-- A local time, with the distance of the local clock from universal time in microseconds if it is
known. -/
structure Stamp where
  date : Date
  hour : Nat
  minute : Nat
  second : Nat
  microsecond : Nat
  offset : Option Int
  deriving DecidableEq

/-- Whether there is such a time. -/
def Stamp.isValid (s : Stamp) : Bool :=
  s.date.isValid && s.hour < 24 && s.minute < 60 && s.second < 60 && s.microsecond < Time.second &&
    match s.offset with
    | some o => -(day : Int) < o && o < day
    | none => true

/-- The microseconds of a local time of day. -/
def Stamp.timeOfDay (s : Stamp) : Nat :=
  (3600 * s.hour + 60 * s.minute + s.second) * Time.second + s.microsecond

/-- The microseconds since the start of the calendar, which may lie before it. -/
def Stamp.microseconds (s : Stamp) : Int :=
  (day * s.date.dayNumber + s.timeOfDay : Nat) - s.offset.getD 0

/-- The instant of a stamp, a stamp without an offset being in universal time; there is none if it
falls outside the calendar. -/
def Stamp.instant? (s : Stamp) : Option Instant :=
  if 0 ≤ s.microseconds ∧ s.microseconds < day * dayCount then some ⟨s.microseconds.toNat⟩
  else none

/-- The complaint about a stamp whose instant falls outside the calendar. -/
def outOfRangeMessage : String := "date value out of range"

/-- Hours, minutes and seconds, and microseconds if there are any. -/
def clockText (hour minute second microsecond : Nat) : String :=
  padded 2 hour ++ ":" ++ padded 2 minute ++ ":" ++ padded 2 second ++
    (if microsecond = 0 then "" else "." ++ padded 6 microsecond)

/-- A distance from universal time as text; seconds are written only if there are any. -/
def offsetText (offset : Int) : String :=
  let n := offset.natAbs
  let seconds := n / Time.second
  (if offset < 0 then "-" else "+") ++ padded 2 (seconds / 3600) ++ ":" ++
    padded 2 (seconds / 60 % 60) ++
    (if n % (60 * Time.second) = 0 then ""
     else ":" ++ padded 2 (seconds % 60) ++
       (if n % Time.second = 0 then "" else "." ++ padded 6 (n % Time.second)))

/-- A stamp as text. -/
def Stamp.text (s : Stamp) : String :=
  s.date.text ++ "T" ++ clockText s.hour s.minute s.second s.microsecond ++
    (s.offset.map offsetText).getD ""

/-- An instant as text: date, time and microseconds, always of 32 characters. -/
def Instant.text (t : Instant) : String :=
  let n := t.microseconds % day
  let seconds := n / second
  (Date.ofDayNumber (t.microseconds / day)).text ++ "T" ++ padded 2 (seconds / 3600) ++ ":" ++
    padded 2 (seconds / 60 % 60) ++ ":" ++ padded 2 (seconds % 60) ++ "." ++
    padded 6 (n % second) ++ "+00:00"

end VacancyLedger.Time
