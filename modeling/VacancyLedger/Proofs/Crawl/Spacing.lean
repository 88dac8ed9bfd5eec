/-
How far apart requests to a host are.

A limiter keeps one time for every host, before which the host is not asked again.  A call starts
at that time, or when the clock is read if that is later, and puts down the time that is its start
and the spacing after it.  What is kept for other hosts stays.  So the start of a call is told by
its reading and by the call before it that was for the same host, whatever the clock does
meanwhile.

Fetches call the limiter for pages and for rules, with intervals of their own.  The invariant that
carries the second half is `Limiter.Spares`: a host that is not asked before a time is not asked
before it whatever else is done, as long as no interval is negative.  An attempt spares its host
until its interval is over, and no attempt starts before the time until which its host is spared.
What the clock shows plays no part in this.
-/
import VacancyLedger.Proofs.Crawl.Cooldowns
import VacancyLedger.Proofs.Crawl.Plan
import VacancyLedger.Proofs.Table

namespace VacancyLedger.Crawl

/-- A call for a host: the time that is read, and for how long the host is left alone after it, if
that is not the spacing of the limiter. -/
structure Call (τ : Type) where
  reading : τ
  host : String
  interval : Option τ

section

variable {τ ω : Type} [Add τ] [Sub τ] [OfNat τ 0] [LT τ] [DecidableLT τ]

namespace Crawler

/-- The crawler after a call. -/
def call (c : Crawler τ ω) (request : Call τ) : Crawler τ ω :=
  { c with clock := request.reading }.wait request.host request.interval

/-- The crawler after calls, one after the other. -/
def called (c : Crawler τ ω) (calls : List (Call τ)) : Crawler τ ω := calls.foldl call c

/-- How long a call has to wait. -/
def delay (c : Crawler τ ω) (request : Call τ) : τ :=
  (c.limiter.wait request.reading request.host request.interval).1

/-- When a call starts. -/
def start (c : Crawler τ ω) (request : Call τ) : τ := request.reading + c.delay request

/-- How long a host is left alone after a call. -/
def spacingAfter (c : Crawler τ ω) (request : Call τ) : τ :=
  request.interval.getD c.limiter.spacing

variable (c : Crawler τ ω) (request : Call τ)

/-- A call that has to wait sleeps once, for as long as it has to. -/
theorem call_sleeps : (c.call request).sleeps =
    if 0 < c.delay request then c.delay request :: c.sleeps else c.sleeps := by
  unfold call wait delay
  simp only
  split <;> rfl

theorem call_limiter : (c.call request).limiter =
    (c.limiter.wait request.reading request.host request.interval).2 := by
  unfold call wait
  simp only
  split <;> rfl

theorem call_spacing : (c.call request).limiter.spacing = c.limiter.spacing := by
  rw [call_limiter]
  rfl

/-- What is kept for other hosts stays. -/
theorem call_ready_of_ne {host : String} (h : host ≠ request.host) :
    Table.get? (c.call request).limiter.ready host = Table.get? c.limiter.ready host := by
  rw [call_limiter]
  exact Table.get?_insert_of_ne h _ _

theorem called_spacing (calls : List (Call τ)) :
    ∀ c : Crawler τ ω, (c.called calls).limiter.spacing = c.limiter.spacing := by
  induction calls with
  | nil => exact fun c => rfl
  | cons first rest ih => exact fun c => (ih (c.call first)).trans (c.call_spacing first)

theorem called_ready_of_ne {host : String} {calls : List (Call τ)}
    (h : ∀ e ∈ calls, e.host ≠ host) :
    ∀ c : Crawler τ ω,
      Table.get? (c.called calls).limiter.ready host = Table.get? c.limiter.ready host := by
  induction calls with
  | nil => exact fun c => rfl
  | cons first rest ih =>
      intro c
      exact (ih (fun e he => h e (List.mem_cons_of_mem first he)) (c.call first)).trans
        (c.call_ready_of_ne first (h first List.mem_cons_self).symm)

variable {c request}

/-- When a call starts is told by what is kept for its host. -/
theorem delay_congr {c' : Crawler τ ω}
    (h : Table.get? c.limiter.ready request.host = Table.get? c'.limiter.ready request.host) :
    c.delay request = c'.delay request := by
  unfold delay Limiter.wait
  rw [h]

end Crawler

end

/-! ### In exact time -/

variable {τ ω : Type} [Field τ] [LinearOrder τ]

namespace Crawler

variable {c : Crawler τ ω} {request : Call τ} {host : String} {ready : τ}

/-- A call that comes too early waits for the rest of the time. -/
theorem delay_of_ready (h : Table.get? c.limiter.ready request.host = some ready) :
    c.delay request = max 0 (ready - request.reading) := by
  unfold delay Limiter.wait
  rw [h]
  exact later_eq_max _ _

/-- A host that has not been called yet does not have to be waited for. -/
theorem delay_of_new (h : Table.get? c.limiter.ready request.host = none) :
    c.delay request = 0 := by
  unfold delay Limiter.wait
  rw [h]
  show later 0 (request.reading - request.reading) = 0
  rw [later_eq_max, sub_self, max_self]

theorem start_of_new (h : Table.get? c.limiter.ready request.host = none) :
    c.start request = request.reading := by
  rw [start, delay_of_new h, add_zero]

/-- If sleeping moves the clock, it shows the start of a call after it. -/
theorem call_clock (hruns : c.clockRuns = true) (request : Call τ) :
    (c.call request).clock = c.start request := by
  have hdelay : 0 ≤ c.delay request := by
    show 0 ≤ later 0 _
    rw [later_eq_max]
    exact le_max_left _ _
  have hclock : (c.call request).clock =
      if 0 < c.delay request then request.reading + c.delay request else request.reading := by
    unfold call wait delay sleep
    simp only [hruns, if_true]
    split <;> rfl
  rw [hclock, start]
  split
  · rfl
  · rename_i hnow
    rw [le_antisymm (not_lt.mp hnow) hdelay, add_zero]

variable [IsStrictOrderedRing τ]

theorem start_of_ready (h : Table.get? c.limiter.ready request.host = some ready) :
    c.start request = max request.reading ready := by
  rw [start, delay_of_ready h, ← max_add_add_left, add_zero, add_sub_cancel]

/-- After a call its host is left alone until the spacing after the start of the call is over. -/
theorem call_ready (c : Crawler τ ω) (request : Call τ) :
    Table.get? (c.call request).limiter.ready request.host =
      some (c.start request + c.spacingAfter request) := by
  have hkept : Table.get? (c.call request).limiter.ready request.host =
      some (later request.reading ((Table.get? c.limiter.ready request.host).getD request.reading) +
        c.spacingAfter request) := by
    rw [call_limiter]
    exact Table.get?_insert_self _ _ _
  rw [hkept]
  cases h : Table.get? c.limiter.ready request.host with
  | none =>
      rw [start_of_new h, Option.getD_none, later_eq_max, max_self]
  | some ready => rw [start_of_ready h, Option.getD_some, later_eq_max]

/-- After a call for a host and any calls for others, it is left alone until the spacing is over. -/
theorem called_ready {earlier between : List (Call τ)} {prev : Call τ} (hhost : prev.host = host)
    (hbetween : ∀ e ∈ between, e.host ≠ host) (c : Crawler τ ω) :
    Table.get? (c.called (earlier ++ prev :: between)).limiter.ready host =
      some ((c.called earlier).start prev + prev.interval.getD c.limiter.spacing) := by
  have hcalled : c.called (earlier ++ prev :: between) =
      ((c.called earlier).call prev).called between := by
    rw [called, List.foldl_append]
    rfl
  rw [hcalled, called_ready_of_ne hbetween, ← hhost, call_ready, spacingAfter, called_spacing]

/-- Calls for other hosts make no difference to a host. -/
theorem called_ready_filter (calls : List (Call τ)) :
    ∀ c c' : Crawler τ ω, c.limiter.spacing = c'.limiter.spacing →
      Table.get? c.limiter.ready host = Table.get? c'.limiter.ready host →
      Table.get? (c.called calls).limiter.ready host =
        Table.get? (c'.called (calls.filter (·.host = host))).limiter.ready host := by
  induction calls with
  | nil => exact fun c c' _ h => h
  | cons first rest ih =>
      intro c c' hspacing hready
      by_cases hfirst : first.host = host
      · rw [List.filter_cons_of_pos (by simpa using hfirst)]
        refine ih (c.call first) (c'.call first) ?_ ?_
        · rw [call_spacing, call_spacing, hspacing]
        · rw [← hfirst] at hready
          rw [← hfirst, call_ready, call_ready, start, start, spacingAfter, spacingAfter,
            delay_congr hready, hspacing]
      · rw [List.filter_cons_of_neg (by simpa using hfirst)]
        refine ih (c.call first) c' ?_ ?_
        · rw [call_spacing, hspacing]
        · rw [call_ready_of_ne _ _ (Ne.symm hfirst), hready]

end Crawler

/-! ### Hosts that are spared -/

namespace Limiter

/-- A host is not asked before a time, and never asked for a negative spacing. -/
structure Spares (l : Limiter τ) (host : String) (time : τ) : Prop where
  spacing : 0 ≤ l.spacing
  kept : ∃ ready, Table.get? l.ready host = some ready ∧ time ≤ ready

/-- What stays true when a host is waited for, if not for a negative interval. -/
def Stays (P : Limiter τ → Prop) : Prop :=
  ∀ (l : Limiter τ) now host interval, P l → (∀ i ∈ interval, 0 ≤ i) →
    P (l.wait now host interval).2

theorem stays_spacing : Stays fun l : Limiter τ => 0 ≤ l.spacing := fun _ _ _ _ h _ => h

/-- A host is spared whatever host is waited for. -/
theorem stays_spares [IsStrictOrderedRing τ] (host : String) (time : τ) :
    Stays fun l : Limiter τ => l.Spares host time := by
  intro l now other interval h hinterval
  refine ⟨h.spacing, ?_⟩
  obtain ⟨ready, hready, hle⟩ := h.kept
  by_cases hhost : host = other
  · have hspacing : 0 ≤ interval.getD l.spacing := by
      cases interval with
      | none => exact h.spacing
      | some i => exact hinterval i rfl
    subst hhost
    refine ⟨_, Table.get?_insert_self _ _ _, ?_⟩
    rw [hready, Option.getD_some, later_eq_max]
    exact (hle.trans (le_max_right now ready)).trans (le_add_of_nonneg_right hspacing)
  · exact ⟨ready, (Table.get?_insert_of_ne hhost _ _).trans hready, hle⟩

end Limiter

/-- Whether a move does not ask for a negative time between requests. -/
def Move.IsSpaced : Move τ → Prop
  | .pass _ => True
  | .fetch manner _ _ => 0 ≤ manner.spacing

section

variable {P : Limiter τ → Prop} {c c' : Crawler τ ω} {manner : Manner τ} {client : Client ω}
  {now : Int} {url host : String}

theorem Limiter.Stays.wait (hP : Limiter.Stays P) (h : P c.limiter) (host : String)
    {interval : Option τ} (hinterval : ∀ i ∈ interval, 0 ≤ i) :
    P (c.wait host interval).limiter := by
  have hwait : (c.wait host interval).limiter = (c.limiter.wait c.clock host interval).2 :=
    Crawler.call_limiter c ⟨c.clock, host, interval⟩
  rw [hwait]
  exact hP _ _ _ _ h hinterval

variable [Seconds τ]

theorem Limiter.Stays.permission (hP : Limiter.Stays P) (h : P c.limiter) (client : Client ω)
    (url host : String) : P (c.permission client url host).2.limiter :=
  Crawler.permission_keeps (P := fun d => P d.limiter)
    (fun _ h host _ _ => hP.wait h host fun _ hi => nomatch hi) (fun _ _ h => h) h host

namespace Errand

variable (t : Errand τ ω)

/-- When an attempt starts. -/
def start (c : Crawler τ ω) : τ := c.start ⟨c.clock, t.host, some t.interval⟩

theorem before_add (number : Nat) (c : Crawler τ ω) (made more : Nat) :
    t.before number c (made + more) = t.before (number + made) (t.before number c made) more := by
  induction more with
  | zero => rfl
  | succ more ih => rw [before_snoc, ← Nat.add_assoc, before_snoc, ih, Nat.add_assoc]

variable {t}

theorem ask_stays (hP : Limiter.Stays P) (hinterval : 0 ≤ t.interval) (h : P c.limiter) :
    P (t.ask c).2.limiter := by
  rw [ask, attempt_limiter]
  exact hP.wait h t.host fun i hi => Option.some.inj hi ▸ hinterval

theorem before_stays (hP : Limiter.Stays P) (hinterval : 0 ≤ t.interval) (made : Nat) :
    ∀ (number : Nat) (c : Crawler τ ω), P c.limiter → P (t.before number c made).limiter := by
  induction made with
  | zero => exact fun number c h => h
  | succ made ih => exact fun number c h => ih (number + 1) _ (ask_stays hP hinterval h)

end Errand

/-- An attempt is one of those a fetch makes for the interval it was granted. -/
theorem Crawler.ComesTo.permission {t : Errand τ ω} {made : Nat} {before : Crawler τ ω}
    (h : c.ComesTo manner client now url t made before) :
    ∃ delay c', c.permission client url t.host = (.granted delay, c') ∧
      t = errand manner client now url t.host delay ∧ before = t.before 1 c' made := by
  cases h with
  | permitted _ hpermission => exact ⟨_, _, hpermission, rfl, rfl⟩

/-- The attempts of one fetch are those of one errand. -/
theorem Crawler.ComesTo.same {t t' : Errand τ ω} {made made' : Nat} {before before' : Crawler τ ω}
    (h : c.ComesTo manner client now url t made before)
    (h' : c.ComesTo manner client now url t' made' before') :
    ∃ delay c', c.permission client url t.host = (.granted delay, c') ∧ t' = t ∧
      before = t.before 1 c' made ∧ before' = t.before 1 c' made' := by
  have hhost : t.host = t'.host := Except.ok.inj (h.host.symm.trans h'.host)
  obtain ⟨delay, d, hpermission, ht, hbefore⟩ := h.permission
  obtain ⟨delay', d', hpermission', ht', hbefore'⟩ := h'.permission
  rw [← hhost, hpermission] at hpermission'
  cases hpermission'
  rw [← hhost, ← ht] at ht'
  subst ht'
  exact ⟨delay, d, hpermission, rfl, hbefore, hbefore'⟩

/-- A fetch that comes to an attempt ends with that one or a later one. -/
theorem Crawler.ComesTo.last {t : Errand τ ω} {made : Nat} {before : Crawler τ ω}
    (h : c.ComesTo manner client now url t made before) :
    ∃ last before', c.ComesTo manner client now url t last before' ∧ made ≤ last ∧
      c.fetch manner client now url = t.finish (1 + last) (t.ask before') := by
  cases h with
  | @permitted host delay d _ hhost hpermission hle hretried =>
      obtain ⟨last, hlast, -⟩ :=
        (errand manner client now url host delay).attempts_eq manner.retries 1 d
      have hcomes : c.ComesTo manner client now url _ last _ :=
        .permitted hhost hpermission hlast.le hlast.retried
      refine ⟨last, _, hcomes, ?_, fetch_of_comesTo hcomes hlast.last⟩
      by_contra hlt
      have hlt := Nat.lt_of_not_le hlt
      have hfinal := hlast.last (Nat.lt_of_lt_of_le hlt hle)
      rw [hretried last hlt] at hfinal
      cases hfinal

omit [Seconds τ] in
theorem errand_interval (manner : Manner τ) (client : Client ω) (now : Int) (url host : String)
    (delay : Option τ) :
    (errand manner client now url host delay).interval = max manner.spacing (delay.getD 0) :=
  later_eq_max _ _

theorem Limiter.Stays.comesTo {t : Errand τ ω} {made : Nat} {before : Crawler τ ω}
    (hP : Limiter.Stays P) (h : P c.limiter) (hmanner : 0 ≤ manner.spacing)
    (hcomes : c.ComesTo manner client now url t made before) :
    0 ≤ t.interval ∧ P before.limiter := by
  obtain ⟨delay, c', hpermission, ht, rfl⟩ := hcomes.permission
  have hinterval : 0 ≤ t.interval := by
    rw [ht, errand_interval]
    exact hmanner.trans (le_max_left _ _)
  have hpermitted := hP.permission h client url t.host
  rw [hpermission] at hpermitted
  exact ⟨hinterval, Errand.before_stays hP hinterval made 1 c' hpermitted⟩

theorem Limiter.Stays.fetch (hP : Limiter.Stays P) (h : P c.limiter)
    (hmanner : 0 ≤ manner.spacing) (client : Client ω) (now : Int) (url : String) :
    P (c.fetch manner client now url).2.limiter := by
  generalize hfetch : c.fetch manner client now url = fetched
  obtain ⟨result, after⟩ := fetched
  cases fetch_course hfetch with
  | hostless => exact h
  | @perplexed host _ _ _ hpermission | @denied host _ _ _ hpermission =>
      have hpermitted := hP.permission h client url host
      rw [hpermission] at hpermitted
      exact hpermitted
  | asked hcomes _ hfinish =>
      obtain ⟨hinterval, hbefore⟩ := hP.comesTo h hmanner hcomes
      have hafter := congrArg Prod.snd hfinish
      rw [Errand.finish_frame] at hafter
      rw [← show _ = after from hafter]
      exact Errand.ask_stays hP hinterval hbefore

theorem Limiter.Stays.moved (hP : Limiter.Stays P) (client : Client ω) {moves : List (Move τ)}
    (hmoves : ∀ m ∈ moves, m.IsSpaced) :
    ∀ c : Crawler τ ω, P c.limiter → P (c.moved client moves).limiter := by
  induction moves with
  | nil => exact fun c h => h
  | cons m rest ih =>
      intro c h
      refine ih (fun m' hm => hmoves m' (List.mem_cons_of_mem _ hm)) (c.move client m) ?_
      cases m with
      | pass time => exact h
      | fetch manner now url => exact hP.fetch h (hmoves _ List.mem_cons_self) client now url

/-! ### Attempts that are spaced -/

variable [IsStrictOrderedRing τ]

namespace Errand

variable {t : Errand τ ω}

/-- After an attempt its host is spared until its interval is over. -/
theorem ask_spares (hspacing : 0 ≤ c.limiter.spacing) :
    (t.ask c).2.limiter.Spares t.host (t.start c + t.interval) := by
  rw [ask, attempt_limiter]
  show (c.call ⟨c.clock, t.host, some t.interval⟩).limiter.Spares _ _
  refine ⟨?_, _, Crawler.call_ready c _, le_refl _⟩
  rw [Crawler.call_spacing]
  exact hspacing

omit [Seconds τ] in
/-- No attempt starts before the time until which its host is spared. -/
theorem le_start {time : τ} (h : c.limiter.Spares t.host time) : time ≤ t.start c := by
  obtain ⟨ready, hready, hle⟩ := h.kept
  rw [start, Crawler.start_of_ready hready]
  exact hle.trans (le_max_right _ _)

/-- Between two attempts the host is spared. -/
theorem before_spares (hinterval : 0 ≤ t.interval) (hspacing : 0 ≤ c.limiter.spacing)
    {made later : Nat} (h : made < later) :
    (t.before 1 c later).limiter.Spares t.host (t.start (t.before 1 c made) + t.interval) := by
  obtain ⟨more, rfl⟩ := Nat.exists_eq_add_of_lt h
  rw [Nat.add_assoc, before_add]
  have hspacing' := before_stays Limiter.stays_spacing hinterval made 1 c hspacing
  exact before_stays (Limiter.stays_spares _ _) hinterval more _ _ (ask_spares hspacing')

end Errand

variable {t t' : Errand τ ω} {made made' : Nat} {before before' : Crawler τ ω}

/-- A later attempt of a fetch starts when the interval after an earlier one is over. -/
theorem spaced_in_fetch (hspacing : 0 ≤ c.limiter.spacing) (hmanner : 0 ≤ manner.spacing)
    (h : c.ComesTo manner client now url t made before)
    (h' : c.ComesTo manner client now url t' made' before') (hlt : made < made') :
    t.start before + t.interval ≤ t'.start before' := by
  have hinterval := (Limiter.stays_spacing.comesTo hspacing hmanner h).1
  obtain ⟨delay, d, hpermission, rfl, rfl, rfl⟩ := h.same h'
  have hpermitted := Limiter.stays_spacing.permission hspacing client url t'.host
  rw [hpermission] at hpermitted
  exact Errand.le_start (Errand.before_spares hinterval hpermitted hlt)

/-- When a fetch is over its host is spared until the interval after any of its attempts is over. -/
theorem fetch_spares (hspacing : 0 ≤ c.limiter.spacing) (hmanner : 0 ≤ manner.spacing)
    (h : c.ComesTo manner client now url t made before) :
    (c.fetch manner client now url).2.limiter.Spares t.host (t.start before + t.interval) := by
  have hinterval := (Limiter.stays_spacing.comesTo hspacing hmanner h).1
  -- The last attempt is this one or a later one, for this one was come to.
  obtain ⟨last, before', h', hle, hfetch⟩ := h.last
  obtain ⟨delay, d, hpermission, -, rfl, rfl⟩ := h.same h'
  have hpermitted := Limiter.stays_spacing.permission hspacing client url t.host
  rw [hpermission] at hpermitted
  rw [hfetch, Errand.finish_frame]
  show (t.ask (t.before 1 d last)).2.limiter.Spares _ _
  rcases Nat.lt_or_eq_of_le hle with hlt | rfl
  · exact Errand.ask_stays (Limiter.stays_spares _ _) hinterval
      (Errand.before_spares hinterval hpermitted hlt)
  · exact Errand.ask_spares
      (Errand.before_stays Limiter.stays_spacing hinterval made 1 d hpermitted)

/--
**The starts of requests to a host are spaced, and no more than they have to be.**  For a limiter
that has not been called yet:

* The first call for a host starts when the clock is read, and any other when the spacing after the
  start of the call before it is over, or when the clock is read if that is later.  A call sleeps,
  once and for as long as it has to wait, if that time has not come; calls for other hosts make no
  difference.
* In a run of fetches, no attempt starts before the interval after an earlier attempt on its host is
  over, be it one of the same fetch or of one before.  The interval is the spacing of pages, or the
  delay robots have asked for if that is longer; if sleeping moves the clock, an attempt is made
  when it starts.
-/
theorem requests_spaced {spacing : τ} {new : Crawler τ ω} (hnew : new.limiter = ⟨spacing, []⟩) :
    (∀ calls request,
      ((∀ e ∈ calls, e.host ≠ request.host) →
        (new.called calls).start request = request.reading ∧
        ((new.called calls).call request).sleeps = (new.called calls).sleeps) ∧
      (∀ earlier prev between, calls = earlier ++ prev :: between → prev.host = request.host →
        (∀ e ∈ between, e.host ≠ request.host) →
        let next := (new.called earlier).start prev + prev.interval.getD spacing
        (new.called calls).start request = max request.reading next ∧
        next ≤ (new.called calls).start request ∧
        ((new.called calls).call request).sleeps =
          if request.reading < next then
            (new.called calls).delay request :: (new.called calls).sleeps
          else (new.called calls).sleeps) ∧
      (new.called calls).start request =
        (new.called (calls.filter (·.host = request.host))).start request) ∧
    (0 ≤ spacing → ∀ (client : Client ω) moves manner now url t made before,
      (∀ m ∈ moves, m.IsSpaced) → 0 ≤ manner.spacing →
      (new.moved client moves).ComesTo manner client now url t made before →
      (∃ delay c', (new.moved client moves).permission client url t.host = (.granted delay, c') ∧
        t.interval = max manner.spacing (delay.getD 0)) ∧
      (before.clockRuns = true → (t.ready before).clock = t.start before) ∧
      (∀ t' made' before', (new.moved client moves).ComesTo manner client now url t' made' before' →
        made < made' → t.start before + t.interval ≤ t'.start before') ∧
      ∀ between manner' now' url' t' made' before', (∀ m ∈ between, m.IsSpaced) →
        0 ≤ manner'.spacing →
        (new.moved client (moves ++ .fetch manner now url :: between)).ComesTo manner' client now'
          url' t' made' before' →
        t'.host = t.host → t.start before + t.interval ≤ t'.start before') := by
  refine ⟨fun calls request => ⟨fun hfirst => ?_, ?_, ?_⟩, ?_⟩
  · have hready : Table.get? (new.called calls).limiter.ready request.host = none := by
      rw [Crawler.called_ready_of_ne hfirst, hnew]
      rfl
    rw [Crawler.call_sleeps, Crawler.delay_of_new hready, if_neg (lt_irrefl 0)]
    exact ⟨Crawler.start_of_new hready, rfl⟩
  · rintro earlier prev between rfl hhost hbetween next
    have hready : Table.get? (new.called (earlier ++ prev :: between)).limiter.ready request.host =
        some next := by
      rw [Crawler.called_ready hhost hbetween, hnew]
    have hstart := Crawler.start_of_ready hready
    refine ⟨hstart, hstart ▸ le_max_right _ _, ?_⟩
    rw [Crawler.call_sleeps]
    refine if_congr ?_ rfl rfl
    rw [Crawler.delay_of_ready hready, lt_max_iff, sub_pos]
    exact or_iff_right (lt_irrefl 0)
  · rw [Crawler.start, Crawler.start,
      Crawler.delay_congr (Crawler.called_ready_filter calls new new rfl rfl)]
  · intro hspacing client moves manner now url t made before hmoves hmanner h
    have hstart : 0 ≤ (new.moved client moves).limiter.spacing :=
      Limiter.stays_spacing.moved client hmoves new (by rw [hnew]; exact hspacing)
    refine ⟨?_, fun hruns => ?_, fun t' made' before' => spaced_in_fetch hstart hmanner h, ?_⟩
    · obtain ⟨delay, c', hpermission, ht, -⟩ := h.permission
      exact ⟨delay, c', hpermission, by rw [ht, errand_interval]⟩
    · exact Crawler.call_clock hruns ⟨before.clock, t.host, some t.interval⟩
    · intro between manner' now' url' t' made' before' hbetween hmanner' h' hhost
      have hspares := fetch_spares hstart hmanner h
      rw [← Crawler.move_fetch] at hspares
      rw [Crawler.moved_append] at h'
      rw [← hhost] at hspares
      have hstays := Limiter.stays_spares t'.host (t.start before + t.interval)
      exact Errand.le_start
        (hstays.comesTo (hstays.moved client hbetween _ hspares) hmanner' h').2

end

/-! ### A retry and another page -/

/-- A request is made again up to twice, and requests are five seconds apart. -/
def unhurried : Manner ℚ := ⟨"job-corpus/0.1 (+contact)", 2, 1, 8, 5, fun _ => 0⟩

/-- A crawler with a client that wavers at first, which has asked for nothing yet. -/
def unhurriedCrawler : Crawler ℚ Nat := ⟨0, true, ⟨5, []⟩, ⟨[300], [], []⟩, none, 0, []⟩

/-- What fetching a page is about for this crawler. -/
def unhurriedErrand (url : String) : Errand ℚ Nat :=
  errand unhurried wavering 0 url "acme.example" none

/-- The second attempt starts no sooner than five seconds after the first, and another page is asked
for no sooner than five seconds after the third. -/
theorem requests_spaced_again :
    5 ≤ (unhurriedErrand "https://acme.example/careers").start
        ((unhurriedErrand "https://acme.example/careers").before 1 unhurriedCrawler 1) ∧
      15 ≤ (unhurriedErrand "https://acme.example/team").start (unhurriedCrawler.moved wavering
        [.fetch unhurried 0 "https://acme.example/careers"]) := by
  have hretried : ∀ k < 2, ((unhurriedErrand "https://acme.example/careers").ask
      ((unhurriedErrand "https://acme.example/careers").before 1 unhurriedCrawler
        k)).1.isRetryable = true := by decide +kernel
  have hcomes : ∀ made ≤ 2, (unhurriedCrawler.moved wavering []).ComesTo unhurried wavering 0
      "https://acme.example/careers" (unhurriedErrand "https://acme.example/careers") made
        ((unhurriedErrand "https://acme.example/careers").before 1 unhurriedCrawler made) :=
    fun made hmade => .permitted rfl rfl hmade fun k hk => hretried k (hk.trans_le hmade)
  have hnext : (unhurriedCrawler.moved wavering [.fetch unhurried 0
      "https://acme.example/careers"]).ComesTo unhurried wavering 0 "https://acme.example/team"
        (unhurriedErrand "https://acme.example/team") 0 (unhurriedCrawler.moved wavering
          [.fetch unhurried 0 "https://acme.example/careers"]) :=
    .permitted rfl (permission_of_warm (by decide +kernel)
      (Option.isNone_iff_eq_none.mp (by decide +kernel)) _ _) (Nat.zero_le 2)
      fun k hk => absurd hk (Nat.not_lt_zero k)
  have hnew : unhurriedCrawler.limiter = ⟨5, []⟩ := rfl
  have hspaced := (requests_spaced hnew).2 (by decide) wavering [] unhurried 0
    "https://acme.example/careers" (unhurriedErrand "https://acme.example/careers")
  constructor
  · obtain ⟨-, -, hagain, -⟩ := hspaced 0 _ (by simp) (by decide) (hcomes 0 (Nat.zero_le 2))
    refine le_trans ?_ (hagain _ 1 _ (hcomes 1 (by decide)) Nat.zero_lt_one)
    decide +kernel
  · obtain ⟨-, -, -, hother⟩ := hspaced 2 _ (by simp) (by decide) (hcomes 2 (le_refl 2))
    refine le_trans ?_ (hother [] unhurried 0 _ _ 0 _ (by simp) (by decide) hnext rfl)
    decide +kernel

end VacancyLedger.Crawl
