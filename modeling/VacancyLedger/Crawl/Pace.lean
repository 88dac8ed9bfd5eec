/-
How fast a host may be asked.

A limiter spaces the starts of requests to one host.  A cooldown keeps away from a host
that has said it is asked too often, longer each time until a request succeeds.  A retry
waits twice as long as the one before, up to a limit, and up to half as long again.

Times are numbers of seconds of any kind that can be added, subtracted and compared.
-/
import VacancyLedger.Table

namespace VacancyLedger.Crawl

variable {τ : Type} [Add τ] [Sub τ] [OfNat τ 0] [LT τ] [DecidableLT τ]

/-- The later of two times. -/
def later (a b : τ) : τ := if a < b then b else a

/-- The earlier of two times. -/
def earlier (a b : τ) : τ := if b < a then b else a

/-! ### Spacing -/

/-- The spacing of requests, and for every host the time at which it may be asked again. -/
structure Limiter (τ : Type) where
  spacing : τ
  ready : Table String τ

/-- How long a request to a host has to wait at a time, and the limiter after it; the time the host
is left alone after this request may be given. -/
def Limiter.wait (l : Limiter τ) (now : τ) (host : String) (interval : Option τ) :
    τ × Limiter τ :=
  let ready := (Table.get? l.ready host).getD now
  let next := later now ready + interval.getD l.spacing
  (later 0 (ready - now), { l with ready := Table.insert l.ready host next })

/-! ### Cooldowns -/

/-- For every host how often in a row it has refused requests, and until when it is left alone. -/
structure Cooldowns (τ : Type) where
  /-- How long a host is left alone the first time, the second time and so on. -/
  steps : List τ
  refusals : Table String Nat
  ending : Table String τ

/-- How long a host still has to be left alone. -/
def Cooldowns.remaining (c : Cooldowns τ) (now : τ) (host : String) : τ :=
  match Table.get? c.ending host with
  | none => 0
  | some ending => later 0 (ending - now)

/-- A host has refused a request and may have said for how long: how long it is left alone, and the
cooldowns after it.  Without any steps there is no answer. -/
def Cooldowns.refused (c : Cooldowns τ) (now : τ) (host : String) (asked : Option τ) :
    Option τ × Cooldowns τ :=
  let count := (Table.get? c.refusals host).getD 0 + 1
  let counted := { c with refusals := Table.insert c.refusals host count }
  match c.steps[min count c.steps.length - 1]? with
  | none => (none, counted)
  | some step =>
    let length := asked.elim step (later step)
    (some length, { counted with ending := Table.insert c.ending host (now + length) })

/-- A host has answered: its refusals are forgotten. -/
def Cooldowns.succeeded (c : Cooldowns τ) (host : String) : Cooldowns τ :=
  { c with refusals := Table.erase c.refusals host, ending := Table.erase c.ending host }

/-- The seconds a host is left alone the first time, the second time and so on. -/
def standardSteps : List Nat := [300, 900, 3600, 21600, 86400]

/-- The complaint about cooldowns without steps. -/
def noStepsMessage : String := "tuple index out of range"

/-! ### Retries -/

variable [Mul τ] [Div τ] [OfNat τ 2]

/-- A delay doubled once for every attempt after the first; before the first it is halved. -/
def scaled (delay : τ) : Int → τ
  | .ofNat 0 => delay / 2
  | .ofNat (n + 1) => (List.range n).foldl (fun d _ => d * 2) delay
  | .negSucc n => (List.range (n + 2)).foldl (fun d _ => d / 2) delay

/-- The wait after a failed attempt: `jitter`, between zero and one, says how much of half the delay
is added to it. -/
def backoff (base most jitter : τ) (attempt : Int) : τ :=
  let delay := earlier (scaled base attempt) most
  delay + delay / 2 * jitter

/-- The greatest number of an attempt whose delay can be counted. -/
def lastCountedAttempt : Int := 1024

/-- The complaint about an attempt beyond. -/
def uncountedMessage : String := "int too large to convert to float"

/-- The wait after a failed attempt, if it can be counted. -/
def backoff? (base most jitter : τ) (attempt : Int) : Option τ :=
  if lastCountedAttempt < attempt then none else some (backoff base most jitter attempt)

end VacancyLedger.Crawl
