/-
One fetch, attempt by attempt.

A page that may be asked for is asked for until it is there, or the last attempt has failed, or
an attempt has failed in a way that does not pass.  So what a fetch comes to is what its last
attempt comes to, and that is the first one which is not made again: `LastAttempt` says which
one, and `attempts_eq` that the loop finds it.  Nothing is said here of what the answers are, or
of how times are counted.

A fetch takes one of four ways, and `fetch_course` lists them: the host of the page cannot be
told, asking for permission crashes, permission is denied, or the page is asked for.
-/
import VacancyLedger.Crawl.Fetch

namespace VacancyLedger.Crawl

/-! ### What the steps of a fetch leave alone -/

section

variable {τ ω : Type} [Add τ] [LT τ] [DecidableLT τ]

namespace Robots

variable {σ : Type} {load : Load σ}

/-- Where the rules for an address are asked for: at the address where its origin keeps them, from
the host of that. -/
structure HasRulesAt (url host address : String) : Prop where
  kept : ∃ origin, Address.origin url = .ok origin ∧ address = rulesUrl origin
  host : Address.host address = .ok host

/-- Looking rules up changes what is asked by asking it once, if at all. -/
theorem rulesFor_keeps {P : σ → Prop} (r : Robots τ) {s : σ} (h : P s) (now : τ) {url : String}
    (hload : ∀ host address, HasRulesAt url host address → P (load host address s).2) :
    P (r.rulesFor load now url s).2.2 := by
  unfold rulesFor
  split
  · exact h
  · rename_i origin horigin
    split
    · exact h
    · split
      · exact h
      · rename_i host hhost
        have hasked := hload host _ ⟨⟨origin, horigin, rfl⟩, hhost⟩
        simp only
        split
        · exact hasked
        · exact hasked

theorem allows_eq (r : Robots τ) (load : Load σ) (now : τ) (url : String) (s : σ) :
    r.allows load now url s =
      ((r.rulesFor load now url s).1 >>= fun v => v.allows (r.rulesFor load now url s).2.1.agent url,
        (r.rulesFor load now url s).2) := by
  rw [allows]

theorem delay?_eq (r : Robots τ) (load : Load σ) (now : τ) (url : String) (s : σ) :
    r.delay? load now url s =
      ((r.rulesFor load now url s).1 >>= fun v =>
          v.countedDelay? (r.rulesFor load now url s).2.1.agent,
        (r.rulesFor load now url s).2) := by
  rw [delay?]

end Robots

namespace Crawler

variable [Sub τ] [OfNat τ 0]

theorem wait_cooldowns (c : Crawler τ ω) (host : String) (interval : Option τ) :
    (c.wait host interval).cooldowns = c.cooldowns := by
  unfold wait
  simp only
  split <;> rfl

theorem wait_web (c : Crawler τ ω) (host : String) (interval : Option τ) :
    (c.wait host interval).web = c.web := by
  unfold wait
  simp only
  split <;> rfl

variable [Seconds τ]

/-- What loading its rules keeps, whichever rules are kept, asking robots about an address keeps. -/
theorem askRobots_keeps {P : Crawler τ ω → Prop} {client : Client ω} {url : String}
    (hload : ∀ c, P c → ∀ host address, Robots.HasRulesAt url host address →
      P (loadRules client host address c).2)
    (hrobots : ∀ (c : Crawler τ ω) robots, P c → P { c with robots }) {c : Crawler τ ω}
    (h : P c) : P (c.askRobots client url).2 := by
  unfold askRobots
  split
  · exact h
  · rename_i robots _
    rw [Robots.allows_eq]
    have hrules := robots.rulesFor_keeps h c.clock (hload c h)
    generalize robots.rulesFor (loadRules client) c.clock url c = looked at hrules ⊢
    obtain ⟨verdict, robots', c'⟩ := looked
    simp only
    split
    · exact hrobots _ _ hrules
    · exact hrobots _ _ hrules
    · rw [Robots.delay?_eq]
      have hagain := robots'.rulesFor_keeps hrules c'.clock (hload c' hrules)
      generalize robots'.rulesFor (loadRules client) c'.clock url c' = looked at hagain ⊢
      obtain ⟨verdict', robots'', c''⟩ := looked
      simp only
      split
      · exact hrobots _ _ hagain
      · exact hrobots _ _ hagain

theorem permission_keeps {P : Crawler τ ω → Prop} {client : Client ω} {url : String}
    (hload : ∀ c, P c → ∀ host address, Robots.HasRulesAt url host address →
      P (loadRules client host address c).2)
    (hrobots : ∀ (c : Crawler τ ω) robots, P c → P { c with robots }) {c : Crawler τ ω}
    (h : P c) (host : String) : P (c.permission client url host).2 := by
  unfold permission
  simp only
  split
  · exact h
  · exact askRobots_keeps hload hrobots h

/-- Cooldowns are not touched before a page is asked for. -/
theorem permission_cooldowns {c c' : Crawler τ ω} {client : Client ω} {url host : String}
    {permission : Permission τ} (h : c.permission client url host = (permission, c')) :
    c'.cooldowns = c.cooldowns := by
  have hkept : (c.permission client url host).2.cooldowns = c.cooldowns :=
    permission_keeps (P := fun d => d.cooldowns = c.cooldowns)
      (fun d h _ _ _ => (d.wait_cooldowns _ _).trans h) (fun _ _ h => h) rfl host
  rwa [h] at hkept

/-- Permission is denied because the host is cooling down, which changes nothing, or by robots. -/
theorem permission_denied {c c' : Crawler τ ω} {client : Client ω} {url host : String}
    {fault : FetchFault} (h : c.permission client url host = (.denied fault, c')) :
    0 < c.cooldowns.remaining c.clock host ∧
        fault = .coolingDown host (Seconds.wholeText (c.cooldowns.remaining c.clock host)) ∧ c' = c ∨
      ¬0 < c.cooldowns.remaining c.clock host ∧ fault = .disallowed := by
  unfold permission at h
  simp only at h
  split at h
  · rename_i hcooling
    cases h
    exact .inl ⟨hcooling, rfl, rfl⟩
  · rename_i hwarm
    refine .inr ⟨hwarm, ?_⟩
    unfold askRobots at h
    split at h
    · cases h
    · simp only at h
      split at h
      · cases h
      · cases h
        rfl
      · split at h
        · cases h
        · cases h

/-- Asking for permission crashes with the complaint about rules alone. -/
theorem permission_crashed {c c' : Crawler τ ω} {client : Client ω} {url host : String}
    {crash : FetchCrash} (h : c.permission client url host = (.crashed crash, c')) :
    ∃ e, crash = .rules e := by
  unfold permission at h
  simp only at h
  split at h
  · cases h
  · unfold askRobots at h
    split at h
    · cases h
    · simp only at h
      split at h
      · cases h
        exact ⟨_, rfl⟩
      · cases h
      · split at h
        · cases h
          exact ⟨_, rfl⟩
        · cases h

end Crawler

end

/-! ### Steps of a cooldown -/

/-- A refusal has an answer as long as there are steps. -/
theorem Cooldowns.refused_fst_eq_none_iff {τ : Type} [Add τ] [LT τ] [DecidableLT τ]
    (c : Cooldowns τ) (now : τ) (host : String) (asked : Option τ) :
    (c.refused now host asked).1 = none ↔ c.steps = [] := by
  unfold refused
  simp only
  split
  · rename_i hnone
    refine iff_of_true rfl ?_
    have hle := List.getElem?_eq_none_iff.mp hnone
    rw [← List.length_eq_zero_iff]
    omega
  · rename_i step hstep
    refine iff_of_false (fun h => nomatch h) ?_
    rintro hnil
    simp [hnil] at hstep

/-! ### One attempt -/

/-- Whether what comes of an attempt may be different another time. -/
def Attempt.isRetryable : Attempt → Bool
  | .failed fault => fault.isRetryable
  | _ => false

/-- What crashes a fetch if this comes of its last attempt: a complaint, or a page whose body is no
text. -/
def Attempt.crash? : Attempt → Option FetchCrash
  | .crashed e => some e
  | .page _ r =>
    match r.body with
    | .error e => some (.illegible e)
    | .ok _ => none
  | .failed _ => none

section

variable {τ ω : Type} [Add τ] [LT τ] [DecidableLT τ] [Seconds τ] {c after : Crawler τ ω}
  {client : Client ω} {now : Int} {url host : String} {outcome : Attempt}

/-- What asking for a page comes to that is dealt with by nobody. -/
def Loss.crash? : Loss → Option FetchCrash
  | .trouble t => if t.isExpected then none else some (.trouble t)
  | .target e => some (.target e)
  | .address e => some (.address e)

theorem Loss.crash?_cases {l : Loss} {crash : FetchCrash} (h : l.crash? = some crash) :
    (∃ t, crash = .trouble t) ∨ (∃ e, crash = .target e) ∨ ∃ e, crash = .address e := by
  cases l with
  | trouble t =>
      rw [Loss.crash?] at h
      split at h
      · cases h
      · cases h
        exact .inl ⟨t, rfl⟩
  | target e =>
      cases h
      exact .inr (.inl ⟨e, rfl⟩)
  | address e =>
      cases h
      exact .inr (.inr ⟨e, rfl⟩)

/-- How long a response asks to be left alone. -/
def Response.asksFor (r : Response) (now : Int) : Except RetryAfterError (Option Nat) :=
  retryAfter ((r.header? "retry-after").getD "") now

/-- What one attempt comes to, by what the client gives. -/
inductive AttemptCourse (c : Crawler τ ω) (client : Client ω) (now : Int) (url host : String) :
    Attempt → Crawler τ ω → Prop
  | trouble {t : Trouble} {w : ω} (hgot : client url c.web = (.lost (.trouble t), w))
      (hexpected : t.isExpected = true) :
      AttemptCourse c client now url host (.failed (.trouble t)) { c with web := w }
  | lost {l : Loss} {e : FetchCrash} {w : ω} (hgot : client url c.web = (.lost l, w))
      (hcrash : l.crash? = some e) :
      AttemptCourse c client now url host (.crashed e) { c with web := w }
  | page {found : String} {r : Response} {w : ω} (hgot : client url c.web = (.page found r, w))
      (hsuccess : r.isSuccess = true) :
      AttemptCourse c client now url host (.page found r) { c with web := w }
  | status {found : String} {r : Response} {w : ω} (hgot : client url c.web = (.page found r, w))
      (hfailed : r.isSuccess = false) (hother : r.status ≠ tooManyRequests) :
      AttemptCourse c client now url host (.failed (.status r.status)) { c with web := w }
  | refused {found : String} {r : Response} {w : ω} {asked : Option Nat} {length : τ}
      {cooldowns : Cooldowns τ} (hgot : client url c.web = (.page found r, w))
      (hstatus : r.status = tooManyRequests) (hasked : r.asksFor now = .ok asked)
      (h : c.cooldowns.refused c.clock host (asked.map Seconds.ofMicros) = (some length, cooldowns)) :
      AttemptCourse c client now url host (.failed (.status r.status))
        { c with web := w, cooldowns }
  | unreadable {found : String} {r : Response} {w : ω} {e : RetryAfterError}
      (hgot : client url c.web = (.page found r, w)) (hstatus : r.status = tooManyRequests)
      (hasked : r.asksFor now = .error e) :
      AttemptCourse c client now url host (.crashed (.retryAfter e)) { c with web := w }
  | stepless {found : String} {r : Response} {w : ω} {asked : Option Nat} {cooldowns : Cooldowns τ}
      (hgot : client url c.web = (.page found r, w)) (hstatus : r.status = tooManyRequests)
      (hasked : r.asksFor now = .ok asked)
      (h : c.cooldowns.refused c.clock host (asked.map Seconds.ofMicros) = (none, cooldowns)) :
      AttemptCourse c client now url host (.crashed .noSteps) { c with web := w, cooldowns }

/-- A response that refuses a request is no page. -/
theorem isSuccess_of_tooManyRequests {r : Response} (h : r.status = tooManyRequests) :
    r.isSuccess = false := by
  rw [Response.isSuccess, h]
  rfl

/-- An attempt takes one of the courses. -/
theorem attempt_course (h : c.attempt client now url host = (outcome, after)) :
    AttemptCourse c client now url host outcome after := by
  unfold Crawler.attempt at h
  generalize hgot : client url c.web = got at h
  obtain ⟨⟨found, r⟩ | ⟨t | e | e⟩, w⟩ := got
  · simp only at h
    split at h
    · rename_i hsuccess
      cases h
      exact .page hgot hsuccess
    · rename_i hfailed
      split at h
      · rename_i hstatus
        unfold Crawler.noteRefusal at h
        split at h
        · rename_i e hasked
          cases h
          exact .unreadable hgot hstatus hasked
        · rename_i asked hasked
          split at h
          · rename_i cooldowns hrefused
            cases h
            exact .stepless hgot hstatus hasked hrefused
          · rename_i length cooldowns hrefused
            cases h
            exact .refused hgot hstatus hasked hrefused
      · rename_i hother
        cases h
        exact .status hgot (Bool.eq_false_iff.mpr hfailed) hother
  · cases hexpected : t.isExpected with
    | true =>
        simp only [hexpected, if_true] at h
        cases h
        exact .trouble hgot hexpected
    | false =>
        simp only [hexpected, Bool.false_eq_true, if_false] at h
        cases h
        exact .lost hgot (by simp [Loss.crash?, hexpected])
  · cases h
    exact .lost hgot rfl
  · cases h
    exact .lost hgot rfl

/-- Asking for a page takes no time. -/
theorem attempt_clock (c : Crawler τ ω) (client : Client ω) (now : Int) (url host : String) :
    (c.attempt client now url host).2.clock = c.clock := by
  generalize hattempt : c.attempt client now url host = attempted
  obtain ⟨outcome, after⟩ := attempted
  cases attempt_course hattempt <;> rfl

/-- Only a refusal for asking too often changes the cooldowns, and that is not retried. -/
theorem attempt_cooldowns_of_isRetryable
    (h : (c.attempt client now url host).1.isRetryable = true) :
    (c.attempt client now url host).2.cooldowns = c.cooldowns := by
  generalize hattempt : c.attempt client now url host = attempted at h
  obtain ⟨outcome, after⟩ := attempted
  cases attempt_course hattempt with
  | trouble | status => rfl
  | refused _ hstatus =>
      exfalso
      simp only [Attempt.isRetryable, FetchFault.isRetryable, hstatus] at h
      exact absurd h (by decide)
  | page | lost | unreadable | stepless => cases h

end

/-! ### Attempts -/

/-- What stays the same while a page is asked for again and again. -/
structure Errand (τ ω : Type) where
  manner : Manner τ
  client : Client ω
  now : Int
  url : String
  host : String
  interval : τ

variable {τ ω : Type}

namespace Errand

/-- What comes of a fetch if this comes of its last attempt, which has a number. -/
def finish (t : Errand τ ω) (number : Nat) : Attempt × Crawler τ ω → FetchResult × Crawler τ ω
  | (.crashed e, c) => (.crashed e, c)
  | (.page found r, c) =>
    (r.delivered t.url found, { c with cooldowns := c.cooldowns.succeeded t.host })
  | (.failed fault, c) => (.failed ⟨t.url, fault, number⟩, c)

theorem finish_clock (t : Errand τ ω) (number : Nat) (asked : Attempt × Crawler τ ω) :
    (t.finish number asked).2.clock = asked.2.clock := by
  obtain ⟨_ | _ | _, after⟩ := asked <;> rfl

end Errand

variable [Add τ] [Sub τ] [Mul τ] [Div τ] [OfNat τ 0] [OfNat τ 2] [LT τ] [DecidableLT τ] [Seconds τ]

namespace Errand

variable (t : Errand τ ω)

/-- The crawler once the host may be asked. -/
def ready (c : Crawler τ ω) : Crawler τ ω := c.wait t.host (some t.interval)

/-- One attempt, made as soon as the host may be asked. -/
def ask (c : Crawler τ ω) : Attempt × Crawler τ ω :=
  (t.ready c).attempt t.client t.now t.url t.host

/-- The crawler when it has slept after an attempt with a number. -/
def again (number : Nat) (c : Crawler τ ω) : Crawler τ ω :=
  (t.ask c).2.sleep
    (backoff t.manner.retryDelay t.manner.longestDelay (t.manner.jitter number) number)

/-- The crawler before it makes one more attempt after so many, the first of which has a number. -/
def before (number : Nat) (c : Crawler τ ω) : Nat → Crawler τ ω
  | 0 => c
  | made + 1 => before (number + 1) (t.again number c) made

/-- After so many attempts the next one is the last: those before it may be made again, and it may
not, or none is left. -/
structure LastAttempt (left number : Nat) (c : Crawler τ ω) (made : Nat) : Prop where
  le : made ≤ left
  retried : ∀ k < made, (t.ask (t.before number c k)).1.isRetryable = true
  last : made < left → (t.ask (t.before number c made)).1.isRetryable = false

/-- As long as attempts may be made again the cooldowns stay as they are. -/
theorem before_cooldowns (made : Nat) :
    ∀ (number : Nat) (c : Crawler τ ω),
      (∀ k < made, (t.ask (t.before number c k)).1.isRetryable = true) →
      (t.before number c made).cooldowns = c.cooldowns := by
  induction made with
  | zero => exact fun number c _ => rfl
  | succ made ih =>
      intro number c h
      have hagain : (t.again number c).cooldowns = c.cooldowns :=
        (attempt_cooldowns_of_isRetryable (h 0 (Nat.succ_pos made))).trans (c.wait_cooldowns _ _)
      exact (ih (number + 1) _ fun k hk => h (k + 1) (Nat.succ_lt_succ hk)).trans hagain

theorem LastAttempt.unique {t : Errand τ ω} {left number made made' : Nat} {c : Crawler τ ω}
    (h : t.LastAttempt left number c made) (h' : t.LastAttempt left number c made') :
    made = made' := by
  have hnot : ∀ {a b : Nat}, t.LastAttempt left number c a → t.LastAttempt left number c b →
      ¬a < b := by
    intro a b ha hb hlt
    have hfalse := ha.last (Nat.lt_of_lt_of_le hlt hb.le)
    rw [hb.retried a hlt] at hfalse
    cases hfalse
  have := hnot h h'
  have := hnot h' h
  omega

/-- An attempt that is not made again, be it that none is left, is what the fetch comes to. -/
theorem attempts_last {left : Nat} (number : Nat) (c : Crawler τ ω)
    (h : 0 < left → (t.ask c).1.isRetryable = false) :
    Crawler.attempts t.manner t.client t.now t.url t.host t.interval left number c =
      t.finish number (t.ask c) := by
  unfold Crawler.attempts
  have hask : (c.wait t.host (some t.interval)).attempt t.client t.now t.url t.host = t.ask c := rfl
  rw [hask]
  generalize t.ask c = asked at h
  obtain ⟨_ | fault | _, after⟩ := asked
  · rfl
  · cases left with
    | zero => rfl
    | succ left =>
        have hfault : fault.isRetryable = false := h (Nat.succ_pos left)
        simp only [hfault]
        rfl
  · rfl

/-- An attempt that may be made again is, after a wait, if one is left. -/
theorem attempts_again {left : Nat} (number : Nat) (c : Crawler τ ω)
    (h : (t.ask c).1.isRetryable = true) :
    Crawler.attempts t.manner t.client t.now t.url t.host t.interval (left + 1) number c =
      Crawler.attempts t.manner t.client t.now t.url t.host t.interval left (number + 1)
        (t.again number c) := by
  rw [Crawler.attempts, again]
  have hask : (c.wait t.host (some t.interval)).attempt t.client t.now t.url t.host = t.ask c := rfl
  rw [hask]
  generalize t.ask c = asked at h
  obtain ⟨_ | fault | _, after⟩ := asked
  · cases h
  · have hfault : fault.isRetryable = true := h
    simp only [hfault, if_true]
  · cases h

/-- The loop comes to what its last attempt comes to. -/
theorem attempts_eq (left : Nat) :
    ∀ (number : Nat) (c : Crawler τ ω), ∃ made, t.LastAttempt left number c made ∧
      Crawler.attempts t.manner t.client t.now t.url t.host t.interval left number c =
        t.finish (number + made) (t.ask (t.before number c made)) := by
  induction left with
  | zero =>
      intro number c
      exact ⟨0, ⟨Nat.le_refl 0, by simp, fun h => absurd h (Nat.lt_irrefl 0)⟩,
        t.attempts_last number c fun h => absurd h (Nat.lt_irrefl 0)⟩
  | succ left ih =>
      intro number c
      cases hagain : (t.ask c).1.isRetryable with
      | false =>
          exact ⟨0, ⟨Nat.zero_le _, by simp, fun _ => hagain⟩,
            t.attempts_last number c fun _ => hagain⟩
      | true =>
          obtain ⟨made, ⟨hle, hretried, hlast⟩, heq⟩ := ih (number + 1) (t.again number c)
          refine ⟨made + 1,
            ⟨Nat.succ_le_succ hle, ?_, fun h => hlast (Nat.lt_of_succ_lt_succ h)⟩, ?_⟩
          · intro k hk
            cases k with
            | zero => exact hagain
            | succ k => exact hretried k (Nat.lt_of_succ_lt_succ hk)
          · rw [t.attempts_again number c hagain, heq, Nat.add_assoc, Nat.add_comm 1 made]
            rfl

end Errand

/-! ### The ways through a fetch -/

variable {c after before : Crawler τ ω} {manner : Manner τ} {client : Client ω} {now : Int}
  {url : String} {result : FetchResult} {t : Errand τ ω} {made : Nat}

/-- What a fetch of an address from a host is about, if robots are asked for a delay. -/
def errand (manner : Manner τ) (client : Client ω) (now : Int) (url host : String)
    (delay : Option τ) : Errand τ ω :=
  ⟨manner, client, now, url, host, later manner.spacing (delay.getD 0)⟩

/-- A fetch comes to an attempt: it is permitted, and the attempts before, so many, have failed in a
way that may pass; and the crawler before the attempt. -/
inductive Crawler.ComesTo (c : Crawler τ ω) (manner : Manner τ) (client : Client ω) (now : Int)
    (url : String) : Errand τ ω → Nat → Crawler τ ω → Prop
  | permitted {host : String} {delay : Option τ} {c' : Crawler τ ω} {made : Nat}
      (hhost : Address.host url = .ok host)
      (hpermission : c.permission client url host = (.granted delay, c'))
      (hle : made ≤ manner.retries)
      (hretried : ∀ k < made, ((errand manner client now url host delay).ask
        ((errand manner client now url host delay).before 1 c' k)).1.isRetryable = true) :
      ComesTo c manner client now url (errand manner client now url host delay) made
        ((errand manner client now url host delay).before 1 c' made)

namespace Crawler.ComesTo

theorem host (h : c.ComesTo manner client now url t made before) :
    Address.host url = .ok t.host := by
  cases h with
  | permitted hhost => exact hhost

theorem ready_cooldowns (h : c.ComesTo manner client now url t made before) :
    (t.ready before).cooldowns = c.cooldowns := by
  cases h with
  | permitted _ hpermission _ hretried =>
      exact ((wait_cooldowns _ _ _).trans (Errand.before_cooldowns _ _ 1 _ hretried)).trans
        (permission_cooldowns hpermission)

/-- What comes of the attempt, by what the client gives. -/
theorem attempt_course {outcome : Attempt} (h : c.ComesTo manner client now url t made before)
    (hask : t.ask before = (outcome, after)) :
    AttemptCourse (t.ready before) client now url t.host outcome after := by
  cases h with
  | permitted => exact Crawl.attempt_course hask

end Crawler.ComesTo

/-- The ways through a fetch, with what each of them comes to. -/
inductive FetchCourse (c : Crawler τ ω) (manner : Manner τ) (client : Client ω) (now : Int)
    (url : String) : FetchResult → Crawler τ ω → Prop
  | hostless {e : Address.Error} (hhost : Address.host url = .error e) :
      FetchCourse c manner client now url (.crashed (.address e)) c
  | perplexed {host : String} {e : FetchCrash} {c' : Crawler τ ω}
      (hhost : Address.host url = .ok host) (h : c.permission client url host = (.crashed e, c')) :
      FetchCourse c manner client now url (.crashed e) c'
  | denied {host : String} {fault : FetchFault} {c' : Crawler τ ω}
      (hhost : Address.host url = .ok host)
      (h : c.permission client url host = (.denied fault, c')) :
      FetchCourse c manner client now url (.failed ⟨url, fault, 1⟩) c'
  | asked {t : Errand τ ω} {made : Nat} {before after : Crawler τ ω} {result : FetchResult}
      (hcomes : c.ComesTo manner client now url t made before)
      (hlast : made < manner.retries → (t.ask before).1.isRetryable = false)
      (h : t.finish (1 + made) (t.ask before) = (result, after)) :
      FetchCourse c manner client now url result after

/-- A fetch takes one of the courses. -/
theorem fetch_course (h : c.fetch manner client now url = (result, after)) :
    FetchCourse c manner client now url result after := by
  unfold Crawler.fetch at h
  split at h
  · rename_i e hhost
    cases h
    exact .hostless hhost
  · rename_i host hhost
    split at h
    · rename_i e c' hpermission
      cases h
      exact .perplexed hhost hpermission
    · rename_i fault c' hpermission
      cases h
      exact .denied hhost hpermission
    · rename_i delay c' hpermission
      obtain ⟨made, ⟨hle, hretried, hlast⟩, heq⟩ :=
        (errand manner client now url host delay).attempts_eq manner.retries 1 c'
      exact .asked (.permitted hhost hpermission hle hretried) hlast (heq.symm.trans h)

/-- An attempt that is not made again is what the fetch comes to. -/
theorem fetch_of_comesTo (hcomes : c.ComesTo manner client now url t made before)
    (hlast : made < manner.retries → (t.ask before).1.isRetryable = false) :
    c.fetch manner client now url = t.finish (1 + made) (t.ask before) := by
  cases hcomes with
  | @permitted host delay c' _ hhost hpermission hle hretried =>
      obtain ⟨made', hlast', heq⟩ :=
        (errand manner client now url host delay).attempts_eq manner.retries 1 c'
      have hmade : made = made' := Errand.LastAttempt.unique ⟨hle, hretried, hlast⟩ hlast'
      simp only [Crawler.fetch, hhost, hpermission]
      rw [hmade]
      exact heq

end VacancyLedger.Crawl
