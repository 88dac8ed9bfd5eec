/-
How long a server asks to be left alone.

The header holds a number of seconds or a date.  A date that has passed asks for no
wait at all; a text that is neither asks for nothing.
-/
import VacancyLedger.Number.Shortest
import VacancyLedger.Text.Quoted
import VacancyLedger.Time.MailDate

namespace VacancyLedger.Crawl

/-- Why a header that looks like a number or a date cannot be used. -/
inductive RetryAfterError where
  | notANumber (text : String)
  | overflow (e : Time.MailDate.Overflow)

/-- The name the complaint is reported by. -/
def RetryAfterError.name : RetryAfterError → String
  | .notANumber _ => "ValueError"
  | .overflow _ => "OverflowError"

/-- The complaint in words. -/
def RetryAfterError.message : RetryAfterError → String
  | .notANumber text => s!"could not convert string to float: {Text.quoted text}"
  | .overflow e => e.message

/-- The microseconds from now to a stamp, none if it has passed. -/
def microsecondsUntil (stamp : Time.Stamp) (now : Int) : Nat :=
  (stamp.microseconds - now).toNat

/-- The microseconds a header asks for, `now` being in microseconds since the start of the
calendar. -/
def retryAfter (header : String) (now : Int) : Except RetryAfterError (Option Nat) :=
  let cs := Text.trim header.toList
  if cs.isEmpty then .ok none
  else if cs.all Text.isDigit then
    match Text.natOfDigits? cs with
    | some n => .ok (some (n * Time.second))
    | none => .error (.notANumber (String.ofList cs))
  else
    match Time.MailDate.parse cs with
    | .error e => .error (.overflow e)
    | .ok stamp => .ok (stamp.map (microsecondsUntil · now))

/-- Microseconds as seconds. -/
def secondsOfMicros (n : Nat) : Float := Number.ofFraction false n Time.second

end VacancyLedger.Crawl
