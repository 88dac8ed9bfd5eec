/-
Reading a stamp in one of the forms of ISO 8601.

The date is `2026-03-01`, `20260301` or a week date such as `2026-W09-7`.  One
character of any kind separates it from the time, whose parts may do without their
colons and whose fraction is cut after six digits.  A zone follows a sign.
-/
import VacancyLedger.Number.Digits
import VacancyLedger.Text.Blank
import VacancyLedger.Text.Scan
import VacancyLedger.Time.Stamp

namespace VacancyLedger.Time.Iso

/-- Exactly `n` digits at the start of the text, and the rest. -/
def digits? (n : Nat) (cs : List Char) : Option (Nat × List Char) :=
  let ds := cs.take n
  if ds.length = n ∧ ds.all Char.isDigit then
    some (ds.foldl (fun acc d => 10 * acc + (d.toNat - 48)) 0, cs.drop n)
  else none

/-- How long the date at the start of the text is.  A week date is followed by a separator; where a
hyphen and two digits follow the week, the hyphen is taken for the separator. -/
def dateLength (cs : List Char) : Nat :=
  let at? (i : Nat) : Char := cs.getD i '\x00'
  if cs.length = 7 then 7
  else if at? 4 = '-' then
    if at? 5 = 'W' then
      if at? 8 = '-' then (if (at? 10).isDigit then 8 else 10) else 8
    else 10
  else if at? 4 = 'W' then
    let end' := 7 + ((cs.drop 7).takeWhile Char.isDigit).length
    if end' < 9 then end' else if end' % 2 = 0 then 7 else 8
  else 8

/-- Reads the text of a date. -/
def date? (cs : List Char) : Option Date := do
  let (year, rest) ← digits? 4 cs
  let (separated, rest) := match rest with
    | '-' :: more => (true, more)
    | more => (false, more)
  match rest with
  | 'W' :: rest =>
    let (week, rest) ← digits? 2 rest
    match rest with
    | [] => Date.ofWeek? year week 1
    | c :: more =>
      let (day, _) ← digits? 1 (← if separated then (if c = '-' then some more else none)
        else some rest)
      Date.ofWeek? year week day
  | rest =>
    let (month, rest) ← digits? 2 rest
    let rest ← if separated then Text.dropPrefix? ['-'] rest else some rest
    let (day, _) ← digits? 2 rest
    return ⟨year, month, day⟩

/-- A time of day as it was read, and whether something is left over after it.  A null character
ends a time. -/
structure Clock where
  parts : List Nat
  microsecond : Nat
  leftOver : Bool

/-- Reads the fraction of a second: of its digits the first six count. -/
def fraction? (parts : List Nat) (cs : List Char) : Option Clock := do
  let n := min 6 cs.length
  let (value, rest) ← digits? n cs
  let leftOver := (rest.dropWhile Char.isDigit).head?.any (· ≠ '\x00')
  return ⟨parts, value * Number.tenTo (6 - n), leftOver⟩

/-- Reads the parts of a time from the one after `parts` on: hour, minute, second, fraction.  Whether
colons separate them is told by what follows the hour. -/
def clockFrom? (colons : Bool) (parts : List Nat) : Nat → List Char → Option Clock
  | 0, cs => fraction? parts cs
  | n + 1, cs => do
    let (part, rest) ← digits? 2 cs
    let parts := parts ++ [part]
    match rest with
    | [] => return ⟨parts, 0, false⟩
    | c :: more =>
      let colons := if parts.length = 1 then c == ':' else colons
      if more.isEmpty && c.toNat < 128 then return ⟨parts, 0, c ≠ '\x00'⟩
      else if colons && c == ':' then clockFrom? colons parts n more
      else if c == '.' || c == ',' then fraction? parts more
      else if !colons then clockFrom? colons parts n rest
      else none

/-- Reads a time of day. -/
def clock? (cs : List Char) : Option Clock :=
  clockFrom? true [] 3 cs

/-- The seconds of a time of day. -/
def Clock.seconds (c : Clock) : Nat :=
  3600 * c.parts.getD 0 0 + 60 * c.parts.getD 1 0 + c.parts.getD 2 0

/-- The distance from universal time that a zone after its sign names; a distance of less than a
second counts as none. -/
def zone? (negative : Bool) (cs : List Char) : Option Int := do
  let c ← clock? cs
  if c.leftOver then none
  else
    let n : Int := if c.seconds = 0 then 0 else c.seconds * Time.second + c.microsecond
    return if negative then -n else n

/-- Reads a time and the zone after it.  What is left over between a time and its zone does not
matter. -/
def time? (cs : List Char) : Option (Clock × Option Int) :=
  match cs.span fun c => !(c == '+' || c == '-') with
  | (time, []) => do
    let c ← clock? time
    if c.leftOver then none else return (c, none)
  | (time, sign :: zone) => do
    let c ← clock? time
    return (c, some (← zone? (sign == '-') zone))

/-- Reads a stamp. -/
def stamp? (cs : List Char) : Option Stamp := do
  let n := dateLength cs
  let date ← if cs.length < 7 then none else date? (cs.take n)
  let (clock, offset) ← match cs.drop n with
    | [] => some (⟨[], 0, false⟩, none)
    | _ :: time => time? time
  let s : Stamp := ⟨date, clock.parts.getD 0 0, clock.parts.getD 1 0, clock.parts.getD 2 0,
    clock.microsecond, offset⟩
  if s.isValid then return s else none

/-- Reads a stamp, blanks around it aside; a `Z` anywhere stands for the zone of universal time. -/
def parse? (s : String) : Option Stamp :=
  stamp? (Text.replaceChar 'Z' "+00:00".toList (Text.trim s.toList))

end VacancyLedger.Time.Iso
