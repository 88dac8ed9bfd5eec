/-
Fetching the page of a source, politely.

A host that is cooling down is left alone, and so is a page that the rules for robots
forbid.  Requests to a host are spaced.  A request that fails in a way that may pass is
made again, a few times, after a growing wait.  A refusal for asking too often starts a
cooldown; a page that is fetched ends it.

The clock is part of the state.  Only sleeping moves it, and not even that if it is set
from outside.
-/
import VacancyLedger.Crawl.RetryAfter
import VacancyLedger.Crawl.Robots
import VacancyLedger.Time.Stamp

namespace VacancyLedger.Crawl

/-- Times that can be made from microseconds and shown in whole seconds. -/
class Seconds (τ : Type) where
  ofMicros : Nat → τ
  wholeText : τ → String

instance : Seconds Float where
  ofMicros := secondsOfMicros
  wholeText := Number.rounded

/-- How pages are fetched. -/
structure Manner (τ : Type) where
  userAgent : String
  /-- How often a failed request is made again. -/
  retries : Nat
  /-- The wait before the first retry. -/
  retryDelay : τ
  /-- The longest wait before a retry. -/
  longestDelay : τ
  /-- The time between two requests to one host. -/
  spacing : τ
  /-- How much of half a delay is added to it, after each attempt. -/
  jitter : Nat → τ

/-- The state of a crawler: its clock, what it knows of hosts, and the web. -/
structure Crawler (τ ω : Type) where
  clock : τ
  /-- Whether sleeping moves the clock. -/
  clockRuns : Bool
  limiter : Limiter τ
  cooldowns : Cooldowns τ
  robots : Option (Robots τ)
  web : ω
  /-- How long it has slept each time, the last time first. -/
  sleeps : List τ

/-- Why a page was not fetched. -/
inductive FetchFault where
  | status (code : Int)
  | trouble (t : Trouble)
  | coolingDown (host seconds : String)
  | disallowed
  | told (message : String)

/-- A page that was not fetched: its address, why, and at which attempt. -/
structure FetchError where
  url : String
  fault : FetchFault
  attempts : Nat

/-- The status of a refusal for asking too often. -/
def tooManyRequests : Int := 429

/-- Whether a request that is answered with this status may be made again. -/
def isRetryable (status : Int) : Bool := 500 ≤ status || status == 408

/-- Whether the request may be made again. -/
def FetchFault.isRetryable : FetchFault → Bool
  | .status code => Crawl.isRetryable code
  | .trouble t => t.isTransport
  | _ => false

/-- The status the page was refused with. -/
def FetchFault.status? : FetchFault → Option Int
  | .status code => some code
  | _ => none

/-- Why a page was not fetched, in words. -/
def FetchError.message (e : FetchError) : String :=
  match e.fault with
  | .status code => s!"GET {e.url} returned HTTP {code}"
  | .trouble t => s!"request to {e.url} failed: {t.name}: {t.message}"
  | .coolingDown host seconds =>
    s!"{host} is cooling down after HTTP 429 for another {seconds}s"
  | .disallowed => s!"robots.txt disallows {e.url}"
  | .told message => message

/-- What fetching cannot deal with. -/
inductive FetchCrash where
  | address (e : Address.Error)
  | target (e : Address.Request.Refusal)
  | trouble (t : Trouble)
  | rules (e : RuleError)
  | illegible (e : Text.Illegible)
  | retryAfter (e : RetryAfterError)
  | noSteps
  | told (message : String)

/-- The name of what went wrong. -/
def FetchCrash.name : FetchCrash → String
  | .address _ => "ValueError"
  | .target _ => "InvalidURL"
  | .trouble t => t.name
  | .rules e => e.name
  | .illegible e => e.name
  | .retryAfter e => e.name
  | .noSteps => "IndexError"
  | .told _ => "RuntimeError"

/-- What went wrong, in words. -/
def FetchCrash.message : FetchCrash → String
  | .address e => e.message
  | .target e => e.message
  | .trouble t => t.message
  | .rules e => e.message
  | .illegible e => e.message
  | .retryAfter e => e.message
  | .noSteps => noStepsMessage
  | .told message => message

/-- A page as it was fetched. -/
structure Fetched where
  url : String
  finalUrl : String
  status : Int
  contentType : Option String
  body : String
  deriving DecidableEq

/-- What comes of fetching a page. -/
inductive FetchResult where
  | page (p : Fetched)
  | failed (e : FetchError)
  | crashed (c : FetchCrash)

/-- What a fetch comes to whose page was found: the page, if its body is a text. -/
def Response.delivered (r : Response) (url found : String) : FetchResult :=
  match r.body with
  | .ok body => .page ⟨url, found, r.status, r.header? "content-type", body⟩
  | .error e => .crashed (.illegible e)

section

variable {τ ω : Type} [Add τ] [Sub τ] [Mul τ] [Div τ] [OfNat τ 0] [OfNat τ 2] [LT τ]
  [DecidableLT τ] [Seconds τ]

/-- Sleeps. -/
def Crawler.sleep (c : Crawler τ ω) (delay : τ) : Crawler τ ω :=
  { c with
    clock := if c.clockRuns then c.clock + delay else c.clock
    sleeps := delay :: c.sleeps }

/-- Waits until a host may be asked. -/
def Crawler.wait (c : Crawler τ ω) (host : String) (interval : Option τ) : Crawler τ ω :=
  let (delay, limiter) := c.limiter.wait c.clock host interval
  let c := { c with limiter }
  if 0 < delay then c.sleep delay else c

/-- Asks for the rules of a site, whose host is asked no faster than for pages. -/
def Crawler.loadRules (client : Client ω) : Robots.Load (Crawler τ ω) := fun host url c =>
  let c := c.wait host none
  let (got, w) := client url c.web
  (got, { c with web := w })

/-- What comes of asking whether a page may be fetched now: a crawl delay, or a reason not to. -/
inductive Permission (τ : Type) where
  | granted (delay : Option τ)
  | denied (fault : FetchFault)
  | crashed (e : FetchCrash)

/-- Whether the rules for robots allow a page, and the delay they ask for. -/
def Crawler.askRobots (c : Crawler τ ω) (client : Client ω) (url : String) :
    Permission τ × Crawler τ ω :=
  match c.robots with
  | none => (.granted none, c)
  | some robots =>
    let (allowed, robots, c) := robots.allows (Crawler.loadRules client) c.clock url c
    match allowed with
    | .error e => (.crashed (.rules e), { c with robots := some robots })
    | .ok false => (.denied .disallowed, { c with robots := some robots })
    | .ok true =>
      let (delay, robots, c) := robots.delay? (Crawler.loadRules client) c.clock url c
      let c := { c with robots := some robots }
      match delay with
      | .error e => (.crashed (.rules e), c)
      | .ok delay => (.granted (delay.map fun n => Seconds.ofMicros (n * Time.second)), c)

/-- Whether a page may be fetched now. -/
def Crawler.permission (c : Crawler τ ω) (client : Client ω) (url host : String) :
    Permission τ × Crawler τ ω :=
  let remaining := c.cooldowns.remaining c.clock host
  if 0 < remaining then (.denied (.coolingDown host (Seconds.wholeText remaining)), c)
  else c.askRobots client url

/-- What comes of one attempt. -/
inductive Attempt where
  | page (url : String) (r : Response)
  | failed (fault : FetchFault)
  | crashed (e : FetchCrash)

/-- Notes that a host has refused a request, and what it asks for. -/
def Crawler.noteRefusal (c : Crawler τ ω) (now : Int) (host : String) (r : Response) :
    Attempt × Crawler τ ω :=
  match retryAfter ((r.header? "retry-after").getD "") now with
  | .error e => (.crashed (.retryAfter e), c)
  | .ok asked =>
    match c.cooldowns.refused c.clock host (asked.map Seconds.ofMicros) with
    | (none, cooldowns) => (.crashed .noSteps, { c with cooldowns })
    | (some _, cooldowns) => (.failed (.status r.status), { c with cooldowns })

/-- Asks for a page once; `now` is the time of day in microseconds. -/
def Crawler.attempt (c : Crawler τ ω) (client : Client ω) (now : Int) (url host : String) :
    Attempt × Crawler τ ω :=
  let (got, w) := client url c.web
  let c := { c with web := w }
  match got with
  | .lost (.trouble t) => (if t.isExpected then .failed (.trouble t) else .crashed (.trouble t), c)
  | .lost (.target e) => (.crashed (.target e), c)
  | .lost (.address e) => (.crashed (.address e), c)
  | .page found r =>
    if r.isSuccess then (.page found r, c)
    else if r.status = tooManyRequests then c.noteRefusal now host r
    else (.failed (.status r.status), c)

/-- Asks for a page until it is there, or must be given up; `left` attempts are left after this
one. -/
def Crawler.attempts (manner : Manner τ) (client : Client ω) (now : Int) (url host : String)
    (interval : τ) : Nat → Nat → Crawler τ ω → FetchResult × Crawler τ ω
  | left, number, c =>
    match (c.wait host (some interval)).attempt client now url host with
    | (.crashed e, c) => (.crashed e, c)
    | (.page found r, c) =>
      (r.delivered url found, { c with cooldowns := c.cooldowns.succeeded host })
    | (.failed fault, c) =>
      match left with
      | 0 => (.failed ⟨url, fault, number⟩, c)
      | left + 1 =>
        if fault.isRetryable then
          let delay := backoff manner.retryDelay manner.longestDelay (manner.jitter number) number
          Crawler.attempts manner client now url host interval left (number + 1) (c.sleep delay)
        else (.failed ⟨url, fault, number⟩, c)

/-- Fetches a page. -/
def Crawler.fetch (manner : Manner τ) (client : Client ω) (now : Int) (url : String)
    (c : Crawler τ ω) : FetchResult × Crawler τ ω :=
  match Address.host url with
  | .error e => (.crashed (.address e), c)
  | .ok host =>
    match c.permission client url host with
    | (.crashed e, c) => (.crashed e, c)
    | (.denied fault, c) => (.failed ⟨url, fault, 1⟩, c)
    | (.granted delay, c) =>
      Crawler.attempts manner client now url host (later manner.spacing (delay.getD 0))
        manner.retries 1 c

end

end VacancyLedger.Crawl
