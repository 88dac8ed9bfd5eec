/-
Runs of a crawler.

Pages are fetched one after the other, and between fetches time passes.  A run is a list of
such moves, each fetch in a manner of its own; `Crawler.log` tells what its fetches have come
to.  Whatever the client gives, the clock of a crawler does not go back, for it only waits and
sleeps, and never for less than no time.

Times are exact from here on: elements of an ordered field.
-/
import Mathlib.Algebra.Order.Field.Basic
import VacancyLedger.Proofs.Crawl.Attempts

namespace VacancyLedger.Crawl

/-- What is done with a crawler: time passes, or a page is fetched. -/
inductive Move (τ : Type) where
  | pass (time : τ)
  | fetch (manner : Manner τ) (now : Int) (url : String)

section

variable {τ ω : Type} [Add τ] [Sub τ] [Mul τ] [Div τ] [OfNat τ 0] [OfNat τ 2] [LT τ]
  [DecidableLT τ] [Seconds τ]

namespace Crawler

/-- The crawler after a move. -/
def move (client : Client ω) (c : Crawler τ ω) : Move τ → Crawler τ ω
  | .pass time => { c with clock := c.clock + time }
  | .fetch manner now url => (c.fetch manner client now url).2

/-- The crawler after moves, one after the other. -/
def moved (client : Client ω) (c : Crawler τ ω) (moves : List (Move τ)) : Crawler τ ω :=
  moves.foldl (move client) c

/-- What a move adds to the log: the address that was fetched and what has come of it. -/
def entries (client : Client ω) (c : Crawler τ ω) : Move τ → List (String × FetchResult)
  | .pass _ => []
  | .fetch manner now url => [(url, (c.fetch manner client now url).1)]

/-- The addresses that were fetched in a run, each with what has come of it. -/
def log (client : Client ω) (c : Crawler τ ω) : List (Move τ) → List (String × FetchResult)
  | [] => []
  | m :: rest => c.entries client m ++ log client (c.move client m) rest

theorem moved_append (client : Client ω) (c : Crawler τ ω) (moves more : List (Move τ)) :
    c.moved client (moves ++ more) = (c.moved client moves).moved client more := List.foldl_append

theorem moved_snoc (client : Client ω) (c : Crawler τ ω) (moves : List (Move τ)) (m : Move τ) :
    c.moved client (moves ++ [m]) = (c.moved client moves).move client m :=
  moved_append client c moves [m]

theorem move_fetch (client : Client ω) (c : Crawler τ ω) (manner : Manner τ) (now : Int)
    (url : String) :
    c.move client (.fetch manner now url) = (c.fetch manner client now url).2 := by
  rw [move]

theorem log_snoc (client : Client ω) (moves : List (Move τ)) (m : Move τ) :
    ∀ c : Crawler τ ω,
      c.log client (moves ++ [m]) =
        c.log client moves ++ (c.moved client moves).entries client m := by
  induction moves with
  | nil => exact fun c => List.append_nil _
  | cons first rest ih =>
      intro c
      show c.entries client first ++ log client (c.move client first) (rest ++ [m]) = _
      rw [ih, ← List.append_assoc]
      rfl

end Crawler

end

/-! ### The clock -/

theorem later_eq_max {τ : Type} [LinearOrder τ] (a b : τ) : later a b = max a b := by
  unfold later
  split
  · rename_i h
    exact (max_eq_right h.le).symm
  · rename_i h
    exact (max_eq_left (not_lt.mp h)).symm

theorem earlier_eq_min {τ : Type} [LinearOrder τ] (a b : τ) : earlier a b = min a b := by
  unfold earlier
  split
  · rename_i h
    exact (min_eq_right h.le).symm
  · rename_i h
    exact (min_eq_left (not_lt.mp h)).symm

variable {τ ω : Type} [Field τ] [LinearOrder τ] [IsStrictOrderedRing τ]

theorem scaled_nonneg {delay : τ} (h : 0 ≤ delay) (attempt : Int) : 0 ≤ scaled delay attempt := by
  have hfold : ∀ (f : τ → τ), (∀ d, 0 ≤ d → 0 ≤ f d) → ∀ (times : List Nat) (d : τ), 0 ≤ d →
      0 ≤ times.foldl (fun d _ => f d) d := by
    intro f hf times
    induction times with
    | nil => exact fun d hd => hd
    | cons _ rest ih => exact fun d hd => ih (f d) (hf d hd)
  unfold scaled
  split
  · exact div_nonneg h zero_le_two
  · exact hfold (· * 2) (fun d hd => mul_nonneg hd zero_le_two) _ _ h
  · exact hfold (· / 2) (fun d hd => div_nonneg hd zero_le_two) _ _ h

theorem backoff_nonneg {base most jitter : τ} (hbase : 0 ≤ base) (hmost : 0 ≤ most)
    (hjitter : 0 ≤ jitter) (attempt : Int) : 0 ≤ backoff base most jitter attempt := by
  have hdelay : 0 ≤ earlier (scaled base attempt) most := by
    rw [earlier_eq_min]
    exact le_min (scaled_nonneg hbase attempt) hmost
  exact add_nonneg hdelay (mul_nonneg (div_nonneg hdelay zero_le_two) hjitter)

/-- Whether retries are waited for, if only for no time at all. -/
structure Manner.IsPatient (manner : Manner τ) : Prop where
  retryDelay : 0 ≤ manner.retryDelay
  longestDelay : 0 ≤ manner.longestDelay
  jitter : ∀ attempt, 0 ≤ manner.jitter attempt

/-- Whether a move takes the clock forward. -/
def Move.IsForward : Move τ → Prop
  | .pass time => 0 ≤ time
  | .fetch manner _ _ => manner.IsPatient

variable {c c' : Crawler τ ω} {client : Client ω} {url host : String}

theorem clock_le_sleep {delay : τ} (h : 0 ≤ delay) : c.clock ≤ (c.sleep delay).clock := by
  unfold Crawler.sleep
  cases c.clockRuns with
  | false => exact le_refl c.clock
  | true => exact le_add_of_nonneg_right h

theorem clock_le_wait (interval : Option τ) : c.clock ≤ (c.wait host interval).clock := by
  unfold Crawler.wait
  simp only
  split
  · rename_i h
    exact clock_le_sleep h.le
  · exact le_refl c.clock

variable [Seconds τ]

theorem clock_le_permission {permission : Permission τ}
    (h : c.permission client url host = (permission, c')) : c.clock ≤ c'.clock := by
  have hkept : c.clock ≤ (c.permission client url host).2.clock :=
    Crawler.permission_keeps (P := fun d => c.clock ≤ d.clock)
      (fun d h _ _ _ => h.trans (clock_le_wait none)) (fun _ _ h => h) (le_refl c.clock) host
  rwa [h] at hkept

namespace Errand

variable (t : Errand τ ω)

theorem clock_le_ask (c : Crawler τ ω) : c.clock ≤ (t.ask c).2.clock := by
  rw [ask, attempt_clock]
  exact clock_le_wait _

theorem clock_le_before (hpatient : t.manner.IsPatient) (made : Nat) :
    ∀ (number : Nat) (c : Crawler τ ω), c.clock ≤ (t.before number c made).clock := by
  induction made with
  | zero => exact fun number c => le_refl c.clock
  | succ made ih =>
      intro number c
      calc c.clock ≤ (t.ask c).2.clock := t.clock_le_ask c
        _ ≤ (t.again number c).clock := clock_le_sleep
          (backoff_nonneg hpatient.retryDelay hpatient.longestDelay (hpatient.jitter number) number)
        _ ≤ (t.before (number + 1) (t.again number c) made).clock := ih (number + 1) _

end Errand

theorem clock_le_comesTo {manner : Manner τ} {now : Int} {t : Errand τ ω} {made : Nat}
    {before : Crawler τ ω} (hpatient : manner.IsPatient)
    (h : c.ComesTo manner client now url t made before) : c.clock ≤ before.clock := by
  cases h with
  | permitted _ hpermission =>
      exact (clock_le_permission hpermission).trans (Errand.clock_le_before _ hpatient made 1 _)

theorem clock_le_fetch {manner : Manner τ} (hpatient : manner.IsPatient) (c : Crawler τ ω)
    (client : Client ω) (now : Int) (url : String) :
    c.clock ≤ (c.fetch manner client now url).2.clock := by
  generalize hfetch : c.fetch manner client now url = fetched
  obtain ⟨result, after⟩ := fetched
  cases fetch_course hfetch with
  | hostless => exact le_refl c.clock
  | perplexed _ h | denied _ h => exact clock_le_permission h
  | @asked t made before _ _ hcomes _ h =>
      calc c.clock ≤ before.clock := clock_le_comesTo hpatient hcomes
        _ ≤ (t.ask before).2.clock := t.clock_le_ask before
        _ = after.clock := by rw [← t.finish_clock (1 + made), h]

theorem clock_le_move {m : Move τ} (hforward : m.IsForward) (c : Crawler τ ω) (client : Client ω) :
    c.clock ≤ (c.move client m).clock := by
  cases m with
  | pass time => exact le_add_of_nonneg_right hforward
  | fetch manner now url => exact clock_le_fetch hforward c client now url

/-- The clock does not go back. -/
theorem clock_le_moved {moves : List (Move τ)} (hforward : ∀ m ∈ moves, m.IsForward)
    (client : Client ω) :
    ∀ c : Crawler τ ω, c.clock ≤ (c.moved client moves).clock := by
  induction moves with
  | nil => exact fun c => le_refl c.clock
  | cons m rest ih =>
      intro c
      exact (clock_le_move (hforward m List.mem_cons_self) c client).trans
        (ih (fun m' hm => hforward m' (List.mem_cons_of_mem _ hm)) _)

end VacancyLedger.Crawl
