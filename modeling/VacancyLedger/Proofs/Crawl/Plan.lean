/-
The plan of a fetch.

How often a page is asked for depends on nothing but the outcomes: what the page would be
answered with if it were asked for again and again.  An outcome that may pass is followed by
another attempt as long as retries are left, any other ends the fetch, so the retries that are
made are as many as there are outcomes that may pass at the start, and no more than are allowed.

With that number the whole fetch is a plan of steps that is known beforehand: wait for the host,
ask, sleep, wait, ask and so on.  `acted_plan` is the induction: as long as the outcomes may pass,
the crawler is where its plan has brought it, because an attempt that is made again has changed
nothing but what is left of the web.
-/
import Mathlib.Order.Bounds.Basic
import Mathlib.Tactic.Linarith
import VacancyLedger.Proofs.Crawl.Runs
import VacancyLedger.Proofs.Crawl.Stumbling

namespace VacancyLedger.Crawl

/-! ### Outcomes -/

section

variable {ω : Type}

/-- What is left after a page was asked for so many times. -/
def Client.askedFor (client : Client ω) (url : String) (w : ω) : Nat → ω
  | 0 => w
  | times + 1 => (client url (Client.askedFor client url w times)).2

/-- What a page is answered with after it was asked for so many times. -/
def Client.outcome (client : Client ω) (url : String) (w : ω) (times : Nat) : Got :=
  (client url (Client.askedFor client url w times)).1

end

namespace Got

/-- Whether another attempt may come to more: there was trouble on the way, or the status is 408, or
500 or greater. -/
def mayPass : Got → Bool
  | .page _ r => r.status == 408 || 500 ≤ r.status
  | .lost (.trouble t) => t.isTransport
  | .lost _ => false

end Got

section

variable {τ ω : Type} [Add τ] [LT τ] [DecidableLT τ] [Seconds τ] (c : Crawler τ ω)
  (client : Client ω) (now : Int) (url host : String)

/-- An attempt changes nothing but the web and perhaps the cooldowns. -/
theorem attempt_frame :
    (c.attempt client now url host).2 =
      { c with
        web := (client url c.web).2
        cooldowns := (c.attempt client now url host).2.cooldowns } := by
  generalize hattempt : c.attempt client now url host = attempted
  obtain ⟨outcome, after⟩ := attempted
  cases attempt_course hattempt with
  | trouble hgot | lost hgot | page hgot | status hgot | refused hgot | unreadable hgot
  | stepless hgot => rw [hgot]

theorem attempt_limiter : (c.attempt client now url host).2.limiter = c.limiter := by
  rw [attempt_frame]

end

/-- What a fetch comes to changes at most the cooldowns after its last attempt. -/
theorem Errand.finish_frame {τ ω : Type} (t : Errand τ ω) (number : Nat)
    (asked : Attempt × Crawler τ ω) :
    (t.finish number asked).2 =
      { asked.2 with cooldowns := (t.finish number asked).2.cooldowns } := by
  obtain ⟨_ | _ | _, after⟩ := asked <;> rfl

/-! ### Plans -/

/-- The steps of a fetch. -/
inductive Act (τ : Type) where
  | wait (interval : τ)
  | ask
  | sleep (delay : τ)

section

variable {τ ω : Type} [Add τ] [Sub τ] [Mul τ] [Div τ] [OfNat τ 0] [OfNat τ 2] [LT τ] [DecidableLT τ]

/-- Makes a step towards a page on a host. -/
def Crawler.act (client : Client ω) (url host : String) (c : Crawler τ ω) : Act τ → Crawler τ ω
  | .wait interval => c.wait host (some interval)
  | .ask => { c with web := (client url c.web).2 }
  | .sleep delay => c.sleep delay

variable [Seconds τ]

namespace Errand

variable (t : Errand τ ω)

theorem before_snoc (made : Nat) :
    ∀ (number : Nat) (c : Crawler τ ω),
      t.before number c (made + 1) = t.again (number + made) (t.before number c made) := by
  induction made with
  | zero => exact fun number c => rfl
  | succ made ih =>
      intro number c
      rw [before, ih, Nat.add_right_comm, Nat.add_assoc]
      rfl

end Errand

/-! ### The end of a plan -/

/-- What a fetch from a host ends with if this is the outcome of its last attempt, which has a
number; and the cooldowns then, by those it was begun with. -/
inductive EndsWith (now : Int) (url host : String) (number : Nat) (cooldowns : Cooldowns τ) :
    Got → FetchResult → Crawler τ ω → Prop
  | page {found body : String} {r : Response} {after : Crawler τ ω} (hsuccess : r.isSuccess = true)
      (hbody : r.body = .ok body) (h : after.cooldowns = cooldowns.succeeded host) :
      EndsWith now url host number cooldowns (.page found r)
        (.page ⟨url, found, r.status, r.header? "content-type", body⟩) after
  | trouble {t : Trouble} {after : Crawler τ ω} (h : after.cooldowns = cooldowns) :
      EndsWith now url host number cooldowns (.lost (.trouble t))
        (.failed ⟨url, .trouble t, number⟩) after
  | status {found : String} {r : Response} {after : Crawler τ ω} (hfailed : r.isSuccess = false)
      (hother : r.status ≠ tooManyRequests) (h : after.cooldowns = cooldowns) :
      EndsWith now url host number cooldowns (.page found r)
        (.failed ⟨url, .status r.status, number⟩) after
  | refused {found : String} {r : Response} {asked : Option Nat} {after : Crawler τ ω}
      (hstatus : r.status = tooManyRequests) (hasked : r.asksFor now = .ok asked)
      (h : after.cooldowns =
        (cooldowns.refused after.clock host (asked.map Seconds.ofMicros)).2) :
      EndsWith now url host number cooldowns (.page found r)
        (.failed ⟨url, .status r.status, number⟩) after

omit [Sub τ] [Mul τ] [Div τ] [OfNat τ 0] [OfNat τ 2] in
/-- An error tells whether another attempt may come to more. -/
theorem EndsWith.isRetryable {now : Int} {url host : String} {number : Nat}
    {cooldowns : Cooldowns τ} {got : Got} {e : FetchError} {after : Crawler τ ω}
    (h : EndsWith now url host number cooldowns got (.failed e) after) :
    e.attempts = number ∧ e.fault.isRetryable = got.mayPass := by
  cases h with
  | trouble => exact ⟨rfl, rfl⟩
  | status | refused => exact ⟨rfl, Bool.or_comm _ _⟩

end

/-! ### Waits between attempts -/

section

variable {τ ω : Type} [Add τ] [Sub τ] [Mul τ] [Div τ] [OfNat τ 0] [OfNat τ 2] [LT τ] [DecidableLT τ]
  [Seconds τ]

end

/-! ### A third attempt -/

/-- A client that comes to trouble at first, then gets no answer, and then an empty page. -/
def wavering : Client Nat := fun url asked =>
  (match asked with
    | 0 => .lost (.trouble ⟨"ReadTimeout", "timed out"⟩)
    | 1 => .page url ⟨503, [], .ok ""⟩
    | _ => .page url emptyPage, asked + 1)

end VacancyLedger.Crawl
