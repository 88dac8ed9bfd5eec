/-
Hosts that are left alone.

A host that refuses a request for being asked too often is left alone for a while, longer with
every refusal in a row, and at least as long as it asks for.  What a crawler keeps of this
are two entries for each host, a count and an ending.  The first agrees at any time with the log
of the run: `refusalsInARow` counts the refusals of a host since its last page.  The second
stands until the host is asked again, which is not before the ending; `ending_kept` is the
induction on what is done in between.

A fetch changes the entries of no host but that of its page, and changes those only by its last
attempt, if that is a page or a refusal (`fetch_cooldowns`).  That is all the main statement needs to
know of a fetch.
-/
import Mathlib.Algebra.Order.Field.Rat
import Mathlib.Data.List.Induction
import VacancyLedger.Proofs.Crawl.Runs
import VacancyLedger.Proofs.Outcome
import VacancyLedger.Proofs.Table

namespace VacancyLedger.Crawl

/-! ### What the log tells of a host -/

/-- Whether an address is that of a page on a host. -/
def isOn (host url : String) : Bool := (Address.host url).toOption == some host

theorem isOn_iff {host url : String} : isOn host url = true ↔ Address.host url = .ok host := by
  unfold isOn
  rw [beq_iff_eq]
  exact ⟨ok_of_toOption, fun h => by rw [h]; rfl⟩

/-- Whether the page was found, be its body a text or not. -/
def FetchResult.isPage : FetchResult → Bool
  | .page _ | .crashed (.illegible _) => true
  | _ => false

/-- Whether a host has refused a request for being asked too often. -/
def FetchResult.isRefusal : FetchResult → Bool
  | .failed e => e.fault.status? == some tooManyRequests
  | _ => false

theorem delivered_isPage (r : Response) (url found : String) :
    (r.delivered url found).isPage = true := by
  unfold Response.delivered
  split <;> rfl

theorem delivered_isRefusal (r : Response) (url found : String) :
    (r.delivered url found).isRefusal = false := by
  unfold Response.delivered
  split <;> rfl

/-- How often a host has refused a request since the last page that was found on it. -/
def refusalsInARow (host : String) (log : List (String × FetchResult)) : Nat :=
  (((log.filter (isOn host ·.1)).reverse).takeWhile (!·.2.isPage)).countP (·.2.isRefusal)

theorem refusalsInARow_snoc_other {host url : String} (h : isOn host url = false)
    (log : List (String × FetchResult)) (result : FetchResult) :
    refusalsInARow host (log ++ [(url, result)]) = refusalsInARow host log := by
  simp [refusalsInARow, List.filter_append, h]

theorem refusalsInARow_snoc_page {host url : String} {result : FetchResult}
    (h : isOn host url = true) (hpage : result.isPage = true) (log : List (String × FetchResult)) :
    refusalsInARow host (log ++ [(url, result)]) = 0 := by
  simp [refusalsInARow, List.filter_append, h, hpage]

theorem refusalsInARow_snoc {host url : String} {result : FetchResult} (h : isOn host url = true)
    (hpage : result.isPage = false) (log : List (String × FetchResult)) :
    refusalsInARow host (log ++ [(url, result)]) =
      refusalsInARow host log + if result.isRefusal then 1 else 0 := by
  simp [refusalsInARow, List.filter_append, h, hpage, List.countP_cons]

/-! ### What a fetch does to the cooldowns -/

/-- How often a host has refused requests in a row, with the one that comes next. -/
def Cooldowns.nextCount {τ : Type} (c : Cooldowns τ) (host : String) : Nat :=
  (Table.get? c.refusals host).getD 0 + 1

/-- All that a refusal does: it is counted, and the ending of the cooldown is put down. -/
theorem Cooldowns.refused_some {τ : Type} [Add τ] [LT τ] [DecidableLT τ] {c after : Cooldowns τ}
    {now length : τ} {host : String} {asked : Option τ}
    (h : c.refused now host asked = (some length, after)) :
    ∃ step, c.steps[min (c.nextCount host) c.steps.length - 1]? = some step ∧
      length = asked.elim step (later step) ∧
      after = ⟨c.steps, Table.insert c.refusals host (c.nextCount host),
        Table.insert c.ending host (now + length)⟩ := by
  unfold refused at h
  simp only at h
  split at h
  · cases h
  · rename_i step hstep
    cases h
    exact ⟨step, hstep, rfl, rfl⟩

section

variable {τ ω : Type} [Add τ] [LT τ] [DecidableLT τ]

/-- What becomes of the cooldowns in a fetch, by what it has come to. -/
inductive CooldownChange (c : Crawler τ ω) (url : String) : FetchResult → Crawler τ ω → Prop
  | page {host : String} {result : FetchResult} {after : Crawler τ ω}
      (hpage : result.isPage = true) (hhost : Address.host url = .ok host)
      (h : after.cooldowns = c.cooldowns.succeeded host) : CooldownChange c url result after
  | refusal {host : String} {e : FetchError} {asked : Option τ} {length : τ} {after : Crawler τ ω}
      (hhost : Address.host url = .ok host) (hfault : e.fault = .status tooManyRequests)
      (h : c.cooldowns.refused after.clock host asked = (some length, after.cooldowns)) :
      CooldownChange c url (.failed e) after
  | kept {result : FetchResult} {after : Crawler τ ω} (hpage : result.isPage = false)
      (hrefusal : result.isRefusal = false) (h : after.cooldowns = c.cooldowns) :
      CooldownChange c url result after

variable {c after : Crawler τ ω} {url host : String} {result : FetchResult}

theorem CooldownChange.steps (h : CooldownChange c url result after) :
    after.cooldowns.steps = c.cooldowns.steps := by
  cases h with
  | page _ _ h => rw [h]; rfl
  | refusal _ _ h =>
      obtain ⟨_, -, -, hafter⟩ := Cooldowns.refused_some h
      rw [hafter]
  | kept _ _ h => rw [h]

/-- The entries of a host do not change when a page of another host is fetched. -/
theorem CooldownChange.other (h : CooldownChange c url result after) (hother : isOn host url = false) :
    Table.get? after.cooldowns.refusals host = Table.get? c.cooldowns.refusals host ∧
      Table.get? after.cooldowns.ending host = Table.get? c.cooldowns.ending host := by
  have hne : ∀ {subject : String}, Address.host url = .ok subject → host ≠ subject := by
    rintro subject hhost rfl
    rw [isOn_iff.mpr hhost] at hother
    cases hother
  cases h with
  | page _ hhost h =>
      rw [h]
      exact ⟨Table.get?_erase_of_ne (hne hhost) _, Table.get?_erase_of_ne (hne hhost) _⟩
  | refusal hhost _ h =>
      obtain ⟨_, -, -, hafter⟩ := Cooldowns.refused_some h
      rw [hafter]
      exact ⟨Table.get?_insert_of_ne (hne hhost) _ _, Table.get?_insert_of_ne (hne hhost) _ _⟩
  | kept _ _ h => rw [h]; exact ⟨rfl, rfl⟩

/-- Cooldowns with these steps that have counted the refusals of a log. -/
structure Cooldowns.Counts (cooldowns : Cooldowns τ) (steps : List τ)
    (log : List (String × FetchResult)) : Prop where
  steps : cooldowns.steps = steps
  refusals : ∀ host, (Table.get? cooldowns.refusals host).getD 0 = refusalsInARow host log

theorem CooldownChange.counts {steps : List τ} {log : List (String × FetchResult)}
    (h : CooldownChange c url result after) (hcounts : c.cooldowns.Counts steps log) :
    after.cooldowns.Counts steps (log ++ [(url, result)]) := by
  refine ⟨h.steps.trans hcounts.steps, fun host => ?_⟩
  cases hon : isOn host url with
  | false => rw [(h.other hon).1, hcounts.refusals, refusalsInARow_snoc_other hon]
  | true =>
      have hhost := isOn_iff.mp hon
      cases h with
      | page hpage hhost' h =>
          obtain rfl := Except.ok.inj (hhost.symm.trans hhost')
          rw [h, refusalsInARow_snoc_page hon hpage]
          exact congrArg (Option.getD · 0) (Table.get?_erase_self _ _)
      | refusal hhost' hfault h =>
          obtain rfl := Except.ok.inj (hhost.symm.trans hhost')
          obtain ⟨_, -, -, hafter⟩ := Cooldowns.refused_some h
          have hrefusal : FetchResult.isRefusal (.failed _) = true :=
            beq_iff_eq.mpr (congrArg FetchFault.status? hfault)
          rw [hafter, refusalsInARow_snoc hon rfl, if_pos hrefusal, ← hcounts.refusals]
          exact congrArg (Option.getD · 0) (Table.get?_insert_self _ _ _)
      | kept hpage hrefusal h =>
          rw [h, refusalsInARow_snoc hon hpage, hrefusal, hcounts.refusals]
          rfl

variable [Sub τ] [Mul τ] [Div τ] [OfNat τ 0] [OfNat τ 2] [Seconds τ]

theorem fetch_cooldowns {manner : Manner τ} {client : Client ω} {now : Int}
    (hsteps : c.cooldowns.steps ≠ [])
    (h : c.fetch manner client now url = (result, after)) : CooldownChange c url result after := by
  cases fetch_course h with
  | hostless => exact .kept rfl rfl rfl
  | perplexed _ h =>
      obtain ⟨_, rfl⟩ := Crawler.permission_crashed h
      exact .kept rfl rfl (Crawler.permission_cooldowns h)
  | denied _ h =>
      refine .kept rfl ?_ (Crawler.permission_cooldowns h)
      rcases Crawler.permission_denied h with ⟨-, rfl, -⟩ | ⟨-, rfl⟩ <;> rfl
  | @asked t made before _ _ hcomes _ h =>
      have hkept := hcomes.ready_cooldowns
      generalize hask : t.ask before = asked at h
      obtain ⟨outcome, d⟩ := asked
      cases hcomes.attempt_course hask with
      | trouble | unreadable =>
          cases h
          exact .kept rfl rfl hkept
      | @lost l _ _ _ hcrash =>
          cases h
          refine .kept ?_ rfl hkept
          rcases Loss.crash?_cases hcrash with ⟨_, rfl⟩ | ⟨_, rfl⟩ | ⟨_, rfl⟩ <;> rfl
      | page =>
          cases h
          exact .page (delivered_isPage _ _ _) hcomes.host
            (congrArg (Cooldowns.succeeded · t.host) hkept)
      | status _ _ hother =>
          cases h
          refine .kept rfl ?_ hkept
          simpa [FetchResult.isRefusal, FetchFault.status?] using hother
      | refused _ hstatus _ hrefused =>
          cases h
          rw [hkept] at hrefused
          exact .refusal hcomes.host (congrArg FetchFault.status hstatus) hrefused
      | stepless _ _ _ hrefused =>
          rw [hkept] at hrefused
          exact absurd ((Cooldowns.refused_fst_eq_none_iff _ _ _ _).mp
            (congrArg Prod.fst hrefused)) hsteps

/-- The cooldowns of a run have counted the refusals in its log. -/
theorem moved_counts {steps : List τ} (hsteps : steps ≠ []) {start : Crawler τ ω}
    (hstart : start.cooldowns = ⟨steps, [], []⟩) (client : Client ω) (moves : List (Move τ)) :
    (start.moved client moves).cooldowns.Counts steps (start.log client moves) := by
  induction moves using List.reverseRecOn with
  | nil =>
      show start.cooldowns.Counts steps []
      rw [hstart]
      exact ⟨rfl, fun _ => rfl⟩
  | append_singleton moves m ih =>
      rw [Crawler.moved_snoc, Crawler.log_snoc]
      cases m with
      | pass time =>
          show (start.moved client moves).cooldowns.Counts steps (start.log client moves ++ [])
          rw [List.append_nil]
          exact ih
      | fetch manner now url =>
          rw [Crawler.move_fetch]
          exact (fetch_cooldowns (ih.steps ▸ hsteps) rfl).counts ih

/-! ### Attempts that are refused -/

/-- An attempt to fetch a page from a host, which has a number, is answered by a response; and the
crawler when it is. -/
inductive Crawler.Meets (c : Crawler τ ω) (manner : Manner τ) (client : Client ω) (now : Int)
    (url : String) : String → Nat → Response → Crawler τ ω → Prop
  | answer {t : Errand τ ω} {made : Nat} {before : Crawler τ ω} {found : String} {r : Response}
      {w : ω} (hcomes : c.ComesTo manner client now url t made before)
      (hgot : client url before.web = (.page found r, w)) :
      Meets c manner client now url t.host (1 + made) r { t.ready before with web := w }

variable {manner : Manner τ} {client : Client ω} {now : Int}

/-- A refusal ends a fetch at once: it is noted, and no other attempt is made. -/
theorem fetch_of_meets_refusal {number : Nat} {r : Response} {met : Crawler τ ω}
    (hmeets : c.Meets manner client now url host number r met)
    (hstatus : r.status = tooManyRequests)
    (hcrash : ∀ e, (c.fetch manner client now url).1 ≠ .crashed e) :
    ∃ asked length cooldowns, r.asksFor now = .ok asked ∧
      c.cooldowns.refused met.clock host (asked.map Seconds.ofMicros) = (some length, cooldowns) ∧
      c.fetch manner client now url =
        (.failed ⟨url, .status tooManyRequests, number⟩, { met with cooldowns }) := by
  cases hmeets with
  | @answer t made before found _ w hcomes hgot =>
      rw [← Crawler.wait_web before t.host (some t.interval)] at hgot
      generalize hask : t.ask before = asked
      obtain ⟨outcome, d⟩ := asked
      -- Whatever comes of the attempt, it is the last one.
      have hfetch : outcome.isRetryable = false →
          c.fetch manner client now url = t.finish (1 + made) (outcome, d) := by
        intro hfinal
        rw [← hask]
        exact fetch_of_comesTo hcomes fun _ => by rw [hask]; exact hfinal
      cases hcomes.attempt_course hask with
      | trouble h | lost h => cases hgot.symm.trans h
      | page h hsuccess =>
          cases hgot.symm.trans h
          rw [isSuccess_of_tooManyRequests hstatus] at hsuccess
          cases hsuccess
      | status h _ hother =>
          cases hgot.symm.trans h
          exact absurd hstatus hother
      | refused h _ hasked hrefused =>
          cases hgot.symm.trans h
          rw [hcomes.ready_cooldowns] at hrefused
          refine ⟨_, _, _, hasked, hrefused, ?_⟩
          rw [hfetch (by rw [hstatus]; rfl), hstatus]
          cases hcomes
          rfl
      | unreadable | stepless => exact absurd (congrArg Prod.fst (hfetch rfl)) (hcrash _)

/-- A fetch is refused only if an attempt of it was. -/
theorem meets_of_isRefusal (h : (c.fetch manner client now url).1.isRefusal = true) :
    ∃ host number r met, c.Meets manner client now url host number r met ∧
      r.status = tooManyRequests := by
  generalize hfetch : c.fetch manner client now url = fetched at h
  obtain ⟨result, after⟩ := fetched
  cases fetch_course hfetch with
  | hostless | perplexed => cases h
  | denied _ hpermission =>
      rcases Crawler.permission_denied hpermission with ⟨-, rfl, -⟩ | ⟨-, rfl⟩ <;> cases h
  | @asked t made before _ _ hcomes _ hfinish =>
      generalize hask : t.ask before = asked at hfinish
      obtain ⟨outcome, d⟩ := asked
      cases hcomes.attempt_course hask with
      | refused hgot hstatus =>
          rw [Errand.ready, Crawler.wait_web] at hgot
          exact ⟨_, _, _, _, .answer hcomes hgot, hstatus⟩
      | status _ _ hother =>
          cases hfinish
          exact absurd (Option.some.inj (beq_iff_eq.mp h)) hother
      | page =>
          cases hfinish
          rw [delivered_isRefusal] at h
          cases h
      | trouble | lost | unreadable | stepless =>
          cases hfinish
          cases h

/-! ### Hosts that are cooling down -/

/-- A page on a host that is cooling down is not fetched, and the crawler stays as it is. -/
theorem fetch_of_cooling (hhost : Address.host url = .ok host)
    (hcooling : 0 < c.cooldowns.remaining c.clock host) (manner : Manner τ) (client : Client ω)
    (now : Int) :
    c.fetch manner client now url =
      (.failed ⟨url, .coolingDown host (Seconds.wholeText (c.cooldowns.remaining c.clock host)), 1⟩,
        c) := by
  simp only [Crawler.fetch, hhost, Crawler.permission, hcooling, if_true]

omit [Mul τ] [Div τ] [OfNat τ 2] in
/-- Without robots a page may be fetched from any other host. -/
theorem permission_of_warm (hwarm : ¬0 < c.cooldowns.remaining c.clock host)
    (hrobots : c.robots = none) (client : Client ω) (url : String) :
    c.permission client url host = (.granted none, c) := by
  simp only [Crawler.permission, hwarm, if_false, Crawler.askRobots, hrobots]

/-- Whether a page was not fetched because its host is cooling down. -/
def FetchResult.isCooling : FetchResult → Bool
  | .failed ⟨_, .coolingDown _ _, _⟩ => true
  | _ => false

omit [Mul τ] [Div τ] [OfNat τ 2] in
theorem finish_ask_isCooling (t : Errand τ ω) (number : Nat) (c : Crawler τ ω) :
    (t.finish number (t.ask c)).1.isCooling = false := by
  generalize hask : t.ask c = asked
  obtain ⟨outcome, after⟩ := asked
  cases attempt_course hask with
  | page =>
      rw [Errand.finish, Response.delivered]
      split <;> rfl
  | trouble | lost | status | refused | unreadable | stepless => rfl

/-- A page on any other host may not be fetched for many reasons, but not for this one. -/
theorem fetch_of_warm (hhost : Address.host url = .ok host)
    (hwarm : ¬0 < c.cooldowns.remaining c.clock host) (manner : Manner τ) (client : Client ω)
    (now : Int) : (c.fetch manner client now url).1.isCooling = false := by
  generalize hfetch : c.fetch manner client now url = fetched
  obtain ⟨result, after⟩ := fetched
  cases fetch_course hfetch with
  | hostless | perplexed => rfl
  | denied hhost' hpermission =>
      obtain rfl := Except.ok.inj (hhost.symm.trans hhost')
      rcases Crawler.permission_denied hpermission with ⟨hcooling, -⟩ | ⟨-, rfl⟩
      · exact absurd hcooling hwarm
      · rfl
  | asked _ _ hfinish =>
      rw [← congrArg Prod.fst hfinish]
      exact finish_ask_isCooling _ _ _

end

/-! ### In exact time -/

/-- As long as its ending is ahead a host is cooling down. -/
theorem remaining_pos_iff {τ : Type} [Field τ] [LinearOrder τ] [IsStrictOrderedRing τ]
    {cooldowns : Cooldowns τ} {host : String} {ending : τ}
    (h : Table.get? cooldowns.ending host = some ending) (now : τ) :
    0 < cooldowns.remaining now host ↔ now < ending := by
  unfold Cooldowns.remaining
  rw [h]
  simp only [later_eq_max, lt_max_iff, lt_irrefl, false_or, sub_pos]

theorem remaining_of_lt {τ : Type} [Field τ] [LinearOrder τ] [IsStrictOrderedRing τ]
    {cooldowns : Cooldowns τ} {host : String} {now ending : τ}
    (h : Table.get? cooldowns.ending host = some ending) (hbefore : now < ending) :
    cooldowns.remaining now host = ending - now := by
  unfold Cooldowns.remaining
  rw [h]
  simp only [later_eq_max]
  exact max_eq_right (sub_pos.mpr hbefore).le

variable {τ ω : Type} [Field τ] [LinearOrder τ] [IsStrictOrderedRing τ] [Seconds τ]

/-- Whether every fetch of a page on a host is begun before a time. -/
def Crawler.BegunBefore (c : Crawler τ ω) (client : Client ω) (moves : List (Move τ))
    (host : String) (time : τ) : Prop :=
  ∀ earlier manner now url, earlier ++ [.fetch manner now url] <+: moves →
    Address.host url = .ok host → (c.moved client earlier).clock < time

/-- From here on a host is left alone until a time: whatever is done meanwhile, the fetch of a page
on it that is begun before does nothing but fail, in a way that is not retried, and the first one
that is begun then or later does not fail for this reason. -/
def Crawler.LeavesAlone (c : Crawler τ ω) (client : Client ω) (host : String) (ending : τ) : Prop :=
  ∀ between : List (Move τ), (∀ m ∈ between, m.IsForward) →
    ∀ manner now url, Address.host url = .ok host →
      ((c.moved client between).clock < ending → ∃ fault, fault.isRetryable = false ∧
        fault = .coolingDown host (Seconds.wholeText (ending - (c.moved client between).clock)) ∧
        (c.moved client between).fetch manner client now url =
          (.failed ⟨url, fault, 1⟩, c.moved client between)) ∧
      (ending ≤ (c.moved client between).clock → c.BegunBefore client between host ending →
        ((c.moved client between).fetch manner client now url).1.isCooling = false)

variable {c : Crawler τ ω} {client : Client ω} {host : String} {ending : τ}

/-- The ending of a cooldown stands as long as the host is not asked after it. -/
theorem ending_kept (hsteps : c.cooldowns.steps ≠ [])
    (hending : Table.get? c.cooldowns.ending host = some ending) (between : List (Move τ))
    (hbefore : c.BegunBefore client between host ending) :
    (c.moved client between).cooldowns.steps ≠ [] ∧
      Table.get? (c.moved client between).cooldowns.ending host = some ending := by
  induction between using List.reverseRecOn with
  | nil => exact ⟨hsteps, hending⟩
  | append_singleton between m ih =>
      obtain ⟨hsteps', hending'⟩ := ih fun earlier manner now url hleading =>
        hbefore earlier manner now url (hleading.trans (List.prefix_append _ _))
      rw [Crawler.moved_snoc]
      cases m with
      | pass time => exact ⟨hsteps', hending'⟩
      | fetch manner now url =>
          rw [Crawler.move_fetch]
          generalize hfetch : (c.moved client between).fetch manner client now url = fetched
          obtain ⟨result, after⟩ := fetched
          have hchange := fetch_cooldowns hsteps' hfetch
          refine ⟨hchange.steps ▸ hsteps', ?_⟩
          cases hon : isOn host url with
          | false => rw [(hchange.other hon).2, hending']
          | true =>
              have hbegun := hbefore between manner now url (List.prefix_refl _) (isOn_iff.mp hon)
              have hcooling := (remaining_pos_iff hending' _).mpr hbegun
              rw [fetch_of_cooling (isOn_iff.mp hon) hcooling] at hfetch
              cases hfetch
              exact hending'

/-- As the clock does not go back, whatever was begun until a time was begun before it. -/
theorem begunBefore_of_clock_lt {between : List (Move τ)} (hforward : ∀ m ∈ between, m.IsForward)
    (hclock : (c.moved client between).clock < ending) :
    c.BegunBefore client between host ending := by
  rintro earlier manner now url ⟨rest, rfl⟩ -
  refine lt_of_le_of_lt ?_ hclock
  rw [List.append_assoc, Crawler.moved_append]
  rw [List.append_assoc] at hforward
  exact clock_le_moved (fun m hm => hforward m (List.mem_append_right earlier hm)) client _

/-- A host is left alone until the ending that was put down for it. -/
theorem leavesAlone_of_ending (hsteps : c.cooldowns.steps ≠ [])
    (hending : Table.get? c.cooldowns.ending host = some ending) :
    c.LeavesAlone client host ending := by
  intro between hforward manner now url hhost
  constructor
  · intro hclock
    obtain ⟨-, hending'⟩ := ending_kept hsteps hending between
      (begunBefore_of_clock_lt hforward hclock)
    refine ⟨_, rfl, rfl, ?_⟩
    rw [fetch_of_cooling hhost ((remaining_pos_iff hending' _).mpr hclock),
      remaining_of_lt hending' hclock]
  · intro hclock hbefore
    obtain ⟨-, hending'⟩ := ending_kept hsteps hending between hbefore
    exact fetch_of_warm hhost (fun h => absurd ((remaining_pos_iff hending' _).mp h)
      (not_lt.mpr hclock)) manner client now

/--
**Cooldowns gate every fetch.**  After any run that starts with no host cooling down:

* An attempt that is refused for asking too often ends its fetch, which notes the refusal and does
  nothing else.  From then on the host is left alone for as long as the step says that stands in
  the place of its refusals in a row, this one included, or in the last place if there are more; and
  for as long as the response asks, if that is longer.  No fetch fails by this status otherwise.
* After a page was found on it a host is not left alone, and has no refusals in a row.
* No fetch of a page on another host changes any of this.
-/
theorem cooldowns_gate_fetches {steps : List τ} (hsteps : steps ≠ []) {start : Crawler τ ω}
    (hstart : start.cooldowns = ⟨steps, [], []⟩) (client : Client ω) (moves : List (Move τ)) :
    let c := start.moved client moves
    let log := start.log client moves
    (∀ manner now url host number r met, c.Meets manner client now url host number r met →
      r.status = tooManyRequests → (∀ e, (c.fetch manner client now url).1 ≠ .crashed e) →
      ∃ asked step cooldowns, r.asksFor now = .ok asked ∧
        c.fetch manner client now url =
          (.failed ⟨url, .status tooManyRequests, number⟩, { met with cooldowns }) ∧
        steps[min (refusalsInARow host (log ++ [(url, (c.fetch manner client now url).1)]))
          steps.length - 1]? = some step ∧
        (c.fetch manner client now url).2.LeavesAlone client host
          (met.clock + (asked.map Seconds.ofMicros).elim step (max step))) ∧
    (∀ manner now url, (c.fetch manner client now url).1.isRefusal = true →
      ∃ host number r met, c.Meets manner client now url host number r met ∧
        r.status = tooManyRequests) ∧
    (∀ manner now url host, Address.host url = .ok host →
      (c.fetch manner client now url).1.isPage = true →
      refusalsInARow host (log ++ [(url, (c.fetch manner client now url).1)]) = 0 ∧
      ∀ time, (c.fetch manner client now url).2.cooldowns.remaining time host = 0) ∧
    ∀ manner now url host, Address.host url ≠ .ok host →
      refusalsInARow host (log ++ [(url, (c.fetch manner client now url).1)]) =
        refusalsInARow host log ∧
      ∀ time, (c.fetch manner client now url).2.cooldowns.remaining time host =
        c.cooldowns.remaining time host := by
  intro c log
  have hcounts : c.cooldowns.Counts steps log := moved_counts hsteps hstart client moves
  have hchange : ∀ manner now url, CooldownChange c url (c.fetch manner client now url).1
      (c.fetch manner client now url).2 :=
    fun manner now url => fetch_cooldowns (hcounts.steps ▸ hsteps) rfl
  refine ⟨?_, fun manner now url => meets_of_isRefusal, ?_, ?_⟩
  · intro manner now url host number r met hmeets hstatus hcrash
    obtain ⟨asked, length, cooldowns, hasked, hrefused, hfetch⟩ :=
      fetch_of_meets_refusal hmeets hstatus hcrash
    obtain ⟨step, hstep, hlength, hafter⟩ := Cooldowns.refused_some hrefused
    have hon : isOn host url = true := by
      cases hmeets with
      | answer hcomes => exact isOn_iff.mpr hcomes.host
    have hcount : refusalsInARow host (log ++ [(url, (c.fetch manner client now url).1)]) =
        c.cooldowns.nextCount host := by
      rw [hfetch, refusalsInARow_snoc hon rfl, ← hcounts.refusals]
      rfl
    refine ⟨asked, step, cooldowns, hasked, hfetch, ?_, ?_⟩
    · rw [hcount, ← hcounts.steps]
      exact hstep
    · rw [hfetch]
      refine leavesAlone_of_ending ?_ ?_
      · show cooldowns.steps ≠ []
        rw [hafter]
        exact hcounts.steps ▸ hsteps
      · show Table.get? cooldowns.ending host = _
        rw [hafter, Table.get?_insert_self, hlength]
        cases asked with
        | none => rfl
        | some n => exact congrArg (fun length => some (met.clock + length)) (later_eq_max step _)
  · intro manner now url host hhost hpage
    refine ⟨refusalsInARow_snoc_page (isOn_iff.mpr hhost) hpage log, fun time => ?_⟩
    have hchanged := hchange manner now url
    generalize (c.fetch manner client now url).1 = result at hpage hchanged
    cases hchanged with
    | page _ hhost' h =>
        obtain rfl := Except.ok.inj (hhost.symm.trans hhost')
        rw [h, Cooldowns.remaining, Cooldowns.succeeded, Table.get?_erase_self]
    | refusal => cases hpage
    | kept hnot => cases hnot.symm.trans hpage
  · intro manner now url host hother
    have hoff : isOn host url = false := Bool.eq_false_iff.mpr fun h => hother (isOn_iff.mp h)
    refine ⟨refusalsInARow_snoc_other hoff log _, fun time => ?_⟩
    rw [Cooldowns.remaining, Cooldowns.remaining, ((hchange manner now url).other hoff).2]

/-! ### A host that is refused twice -/

/-- Seconds as they are; shown in whole seconds, of two that are equally near in the even one. -/
instance : Seconds ℚ where
  ofMicros n := n / Time.second
  wholeText time :=
    let fraction := time - time.floor
    toString (if fraction < 1 / 2 ∨ fraction = 1 / 2 ∧ time.floor % 2 = 0 then time.floor
      else time.floor + 1)

/-- A client that is refused whatever it asks for. -/
def refusing : Client Unit := fun url _ => (.page url ⟨429, [], .ok ""⟩, ())

/-- Nothing is waited for. -/
def hasty : Manner ℚ := ⟨"job-corpus/0.1 (+contact)", 2, 0, 0, 0, fun _ => 0⟩

/-- A crawler that has asked for nothing yet, with two steps for cooldowns. -/
def unrefused : Crawler ℚ Unit := ⟨0, true, ⟨0, []⟩, ⟨[300, 900], [], []⟩, none, (), []⟩

/-- A page is fetched, and as much time passes as the first step says. -/
def onceRefused : List (Move ℚ) := [.fetch hasty 0 "https://acme.example/careers", .pass 300]

/-- After the second refusal in a row the host is left alone for as long as the second step says. -/
theorem cooldowns_gate_fetches_second :
    ((unrefused.moved refusing onceRefused).fetch hasty refusing 0
      "https://acme.example/careers").2.LeavesAlone refusing "acme.example" (300 + 900) := by
  have hhost : Address.host "https://acme.example/careers" = .ok "acme.example" := rfl
  have hpermission : (unrefused.moved refusing onceRefused).permission refusing
      "https://acme.example/careers" "acme.example" =
        (.granted none, unrefused.moved refusing onceRefused) :=
    permission_of_warm (by decide +kernel) (Option.isNone_iff_eq_none.mp (by decide +kernel)) _ _
  have hmeets : (unrefused.moved refusing onceRefused).Meets hasty refusing 0
      "https://acme.example/careers" "acme.example" _ ⟨429, [], .ok ""⟩ _ :=
    .answer (.permitted hhost hpermission (Nat.zero_le _)
      fun k hk => absurd hk (Nat.not_lt_zero k)) rfl
  have hrefused : ((unrefused.moved refusing onceRefused).fetch hasty refusing 0
      "https://acme.example/careers").1.isRefusal = true := by decide +kernel
  obtain ⟨asked, step, -, hasked, -, hstep, halone⟩ :=
    (cooldowns_gate_fetches (by simp) rfl refusing onceRefused).1 _ _ _ _ _ _ _ hmeets rfl
      (fun e h => by rw [h] at hrefused; cases hrefused)
  cases hasked
  have hsecond : ([300, 900] : List ℚ)[min (refusalsInARow "acme.example"
      (unrefused.log refusing onceRefused ++ [("https://acme.example/careers",
        ((unrefused.moved refusing onceRefused).fetch hasty refusing 0
          "https://acme.example/careers").1)])) 2 - 1]? = some 900 := by decide +kernel
  cases hstep.symm.trans hsecond
  have hclock : ((errand hasty refusing 0 "https://acme.example/careers" "acme.example" none).ready
      (unrefused.moved refusing onceRefused)).clock = 300 := by decide +kernel
  rw [← hclock]
  exact halone

end VacancyLedger.Crawl
