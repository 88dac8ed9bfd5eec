/-
The rules for robots, kept for a while.

Rules are kept for every origin and asked for again once they are too old.  A site that
refuses to show them allows nothing; one that has none allows everything; and what goes
for a site that is in trouble is a matter of policy.
-/
import VacancyLedger.Address.Canonical
import VacancyLedger.Crawl.Client
import VacancyLedger.Crawl.Pace
import VacancyLedger.Crawl.Rules
import VacancyLedger.Number.Digits

namespace VacancyLedger.Crawl

/-- What a site has been found to allow. -/
inductive Verdict where
  | everything
  | nothing
  | rules (r : Rules)

/-- What is found out by asking a site for its rules; `failOpen` says what goes for a site that is
in trouble. -/
def Verdict.ofGot (failOpen : Bool) : Got → Except RuleError Verdict
  | .lost (.target e) => .error (.target e)
  | .lost (.address e) => .error (.address e)
  | .lost (.trouble t) =>
    if t.isExpected then .ok (if failOpen then .everything else .nothing) else .error (.trouble t)
  | .page _ r =>
    if r.isSuccess then
      match r.body with
      | .error e => .error (.illegible e)
      | .ok text => (Rules.read text).map .rules
    else if r.status = 401 ∨ r.status = 403 then .ok .nothing
    else if (400 ≤ r.status ∧ r.status < 500) ∨ failOpen then .ok .everything
    else .ok .nothing

/-- Whether a robot may ask for an address. -/
def Verdict.allows (v : Verdict) (agent url : String) : Except RuleError Bool :=
  match v with
  | .everything => .ok true
  | .nothing => .ok false
  | .rules r => r.allows agent url

/-- The seconds a robot should wait between two requests. -/
def Verdict.delay? (v : Verdict) (agent : String) : Option Nat :=
  match v with
  | .rules r => r.delay? agent
  | _ => none

/-- Seconds beyond what a floating point number can be. -/
def longestDelay : Nat := Number.twoTo 1024 - Number.twoTo 970

/-- The seconds a robot should wait, if they can be counted. -/
def Verdict.countedDelay? (v : Verdict) (agent : String) : Except RuleError (Option Nat) :=
  match v.delay? agent with
  | some n => if longestDelay ≤ n then .error .delayTooLong else .ok (some n)
  | none => .ok none

/-- The rules found so far, with the time until which they are kept. -/
structure Robots (τ : Type) where
  agent : String
  lifetime : τ
  failOpen : Bool
  kept : Table String (Verdict × τ)

namespace Robots

variable {τ : Type} [Add τ] [LT τ] [DecidableLT τ]

/-- The rules of an origin, if they are still good. -/
def kept? (r : Robots τ) (now : τ) (origin : String) : Option Verdict :=
  match Table.get? r.kept origin with
  | some (v, ending) => if now < ending then some v else none
  | none => none

/-- Keeps the rules of an origin that were asked for at a time. -/
def keep (r : Robots τ) (asked : τ) (origin : String) (v : Verdict) : Robots τ :=
  { r with kept := Table.insert r.kept origin (v, asked + r.lifetime) }

/-- Where an origin keeps its rules. -/
def rulesUrl (origin : String) : String := origin ++ "/robots.txt"

variable {σ : Type}

/-- Asking a host for an address. -/
abbrev Load (σ : Type) := String → String → σ → Got × σ

/-- The rules of the origin of an address at a time, asked for by `load` if they are not kept. -/
def rulesFor (r : Robots τ) (load : Load σ) (now : τ) (url : String) (s : σ) :
    Except RuleError Verdict × Robots τ × σ :=
  match Address.origin url with
  | .error e => (.error (.address e), r, s)
  | .ok origin =>
    match r.kept? now origin with
    | some v => (.ok v, r, s)
    | none =>
      match Address.host (rulesUrl origin) with
      | .error e => (.error (.address e), r, s)
      | .ok host =>
        let (got, s) := load host (rulesUrl origin) s
        match Verdict.ofGot r.failOpen got with
        | .error e => (.error e, r, s)
        | .ok v => (.ok v, r.keep now origin v, s)

/-- Whether the robot may ask for an address. -/
def allows (r : Robots τ) (load : Load σ) (now : τ) (url : String) (s : σ) :
    Except RuleError Bool × Robots τ × σ :=
  let (verdict, r, s) := r.rulesFor load now url s
  (verdict >>= fun v => v.allows r.agent url, r, s)

/-- The seconds the robot should wait between two requests. -/
def delay? (r : Robots τ) (load : Load σ) (now : τ) (url : String) (s : σ) :
    Except RuleError (Option Nat) × Robots τ × σ :=
  let (verdict, r, s) := r.rulesFor load now url s
  (verdict >>= fun v => v.countedDelay? r.agent, r, s)

end Robots
end VacancyLedger.Crawl
