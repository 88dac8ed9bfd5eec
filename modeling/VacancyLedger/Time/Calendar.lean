/-
The proleptic Gregorian calendar.

Days are counted from the first of January of the year one, which is day 0.
`dayNumber` counts them for a date and `Date.ofDayNumber` is its inverse; years run from
1 to 9999.
-/

namespace VacancyLedger.Time

/-- A date of the calendar. -/
structure Date where
  year : Nat
  month : Nat
  day : Nat
  deriving DecidableEq

/-- Whether a year has a 29th of February. -/
def isLeap (year : Nat) : Bool :=
  year % 4 == 0 && (year % 100 != 0 || year % 400 == 0)

/-- The length of a month. -/
def daysInMonth (year month : Nat) : Nat :=
  if month = 2 then (if isLeap year then 29 else 28)
  else if month = 4 ∨ month = 6 ∨ month = 9 ∨ month = 11 then 30
  else 31

/-- How many days the years before this one have. -/
def daysBeforeYear (year : Nat) : Nat :=
  let y := year - 1
  365 * y + y / 4 - y / 100 + y / 400

/-- How many days of the year the months before this one have. -/
def daysBeforeMonth (year month : Nat) : Nat :=
  (List.range (month - 1)).foldl (fun days i => days + daysInMonth year (i + 1)) 0

/-- Whether there is such a date. -/
def Date.isValid (d : Date) : Bool :=
  1 ≤ d.year && d.year ≤ 9999 && 1 ≤ d.month && d.month ≤ 12 && 1 ≤ d.day &&
    d.day ≤ daysInMonth d.year d.month

/-- How many days come before the date. -/
def Date.dayNumber (d : Date) : Nat :=
  daysBeforeYear d.year + daysBeforeMonth d.year d.month + (d.day - 1)

/-- How many days the calendar has. -/
def dayCount : Nat := daysBeforeYear 10000

/-- The month and the day of the month of a day of the year, looking from `month` on. -/
def monthAndDay (year : Nat) : Nat → Nat → Nat → Nat × Nat
  | 0, month, day => (month, day + 1)
  | fuel + 1, month, day =>
    if day < daysInMonth year month then (month, day + 1)
    else monthAndDay year fuel (month + 1) (day - daysInMonth year month)

/-- The date with so many days before it.  A cycle of 400 years has 146097 days; of its centuries
the last has one day more than the others, and so has the last year of four. -/
def Date.ofDayNumber (n : Nat) : Date :=
  let inCycle := n % 146097
  let century := min 3 (inCycle / 36524)
  let inCentury := inCycle - 36524 * century
  let inFour := inCentury % 1461
  let year := min 3 (inFour / 365)
  let fullYear := 400 * (n / 146097) + 100 * century + 4 * (inCentury / 1461) + year + 1
  let (month, day) := monthAndDay fullYear 11 1 (inFour - 365 * year)
  ⟨fullYear, month, day⟩

/-- The day of the week, counted from Monday. -/
def Date.weekday (d : Date) : Nat :=
  d.dayNumber % 7

/-- The number of the Monday that starts the first week of a year: the week that holds its first
Thursday. -/
def firstMonday (year : Nat) : Int :=
  let newYear := daysBeforeYear year
  let weekday := newYear % 7
  let monday : Int := (newYear : Int) - weekday
  if 3 < weekday then monday + 7 else monday

/-- How many weeks a year has: 53 if it starts on a Thursday, or on a Wednesday and is leap. -/
def weeksInYear (year : Nat) : Nat :=
  let weekday := daysBeforeYear year % 7
  if weekday = 3 ∨ (weekday = 2 ∧ isLeap year) then 53 else 52

/-- The date of a day of a week of a year, if there is one in the calendar. -/
def Date.ofWeek? (year week day : Nat) : Option Date :=
  if 1 ≤ year ∧ 1 ≤ week ∧ week ≤ weeksInYear year ∧ 1 ≤ day ∧ day ≤ 7 then
    let n := firstMonday year + (7 * (week - 1) + (day - 1) : Nat)
    if 0 ≤ n ∧ n < dayCount then some (.ofDayNumber n.toNat) else none
  else none

/-- A number in decimal with at least `width` digits. -/
def padded (width n : Nat) : String :=
  let digits := toString n
  String.ofList (List.replicate (width - digits.length) '0') ++ digits

/-- A date as text: year, month and day. -/
def Date.text (d : Date) : String :=
  padded 4 d.year ++ "-" ++ padded 2 d.month ++ "-" ++ padded 2 d.day

end VacancyLedger.Time
