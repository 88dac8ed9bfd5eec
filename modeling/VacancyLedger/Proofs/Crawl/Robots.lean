/-
Rules for robots are kept for each origin, and for a while.

What robots keep of an origin is what came of the last time its rules were asked for, and until
when this counts.  As long as it counts they are not asked for again, so the times at which they are
asked for never go back, whatever clock is read: each is beyond the lifetime of the one before.
That makes the last one the one that counts longest, and `Hearing.Remembers` is the invariant that
says so, kept by one inquiry and so by any number of them.

A site is asked at the address of its rules, which names a host whenever there is an origin.
-/
import Mathlib.Algebra.Order.Field.Rat
import Mathlib.Data.List.Induction
import VacancyLedger.Proofs.Address.Origin
import VacancyLedger.Proofs.Crawl.Attempts
import VacancyLedger.Proofs.Crawl.Stumbling
import VacancyLedger.Proofs.Table

namespace VacancyLedger.Crawl

/-! ### Inquiries -/

/-- What robots are asked about an address: whether it may be asked for, or how long to wait. -/
inductive Question where
  | leave
  | delay

/-- A question about an address at a time. -/
structure Inquiry (τ : Type) where
  time : τ
  question : Question
  url : String

/-- The answer to a question. -/
inductive Reply where
  | leave (allowed : Bool)
  | delay (seconds : Option Nat)
  deriving DecidableEq

/-- The answer of a site that allows everything or nothing. -/
def Question.blanket (allowed : Bool) : Question → Reply
  | .leave => .leave allowed
  | .delay => .delay none

/-- The answer if this is what a site allows. -/
def Verdict.reply (agent : String) (q : Question) (url : String) (v : Verdict) :
    Except RuleError Reply :=
  match q with
  | .leave => (v.allows agent url).map .leave
  | .delay => (v.countedDelay? agent).map .delay

/-- An inquiry, what was loaded for it from which addresses, and the answer. -/
structure Inquired (τ : Type) where
  inquiry : Inquiry τ
  loads : List (String × Got)
  reply : Except RuleError Reply

/-- Inquiries that were made of robots, with the robots and the site after them. -/
structure Hearing (τ σ : Type) where
  log : List (Inquired τ)
  robots : Robots τ
  state : σ

section

variable {τ σ : Type} [Add τ] [LT τ] [DecidableLT τ]

/-- Loading with a note of what was loaded. -/
def noted (load : Robots.Load σ) : Robots.Load (σ × List (String × Got)) := fun host url s =>
  let (got, state) := load host url s.1
  (got, state, s.2 ++ [(url, got)])

/-- One more inquiry. -/
def Hearing.next (load : Robots.Load σ) (h : Hearing τ σ) (i : Inquiry τ) : Hearing τ σ :=
  match i.question with
  | .leave =>
    let (answer, robots, state, loads) := h.robots.allows (noted load) i.time i.url (h.state, [])
    ⟨h.log ++ [⟨i, loads, answer.map .leave⟩], robots, state⟩
  | .delay =>
    let (answer, robots, state, loads) := h.robots.delay? (noted load) i.time i.url (h.state, [])
    ⟨h.log ++ [⟨i, loads, answer.map .delay⟩], robots, state⟩

/-- Inquiries made one after the other. -/
def Robots.heard (r : Robots τ) (load : Robots.Load σ) (state : σ) (inquiries : List (Inquiry τ)) :
    Hearing τ σ :=
  inquiries.foldl (Hearing.next load) ⟨[], r, state⟩

/-- When the rules of an origin were asked for, and what came of it. -/
def loadsOf (origin : String) (log : List (Inquired τ)) : List (τ × Got) :=
  log.flatMap fun done =>
    (done.loads.filter (·.1 = Robots.rulesUrl origin)).map (done.inquiry.time, ·.2)

end

/-! ### What a site allows -/

/-- Whether an answer tells what a site allows: it is a response, whose body is a text with rules
that can be read if it is a success, or there is trouble of a known kind. -/
def Got.IsReadable : Got → Prop
  | .page _ r =>
    r.isSuccess = true → ∃ text rules, r.body = .ok text ∧ Rules.read text = .ok rules
  | .lost (.trouble t) => t.isExpected = true
  | .lost _ => False

/-- What robots reply if this has come of asking for the rules of a site. -/
inductive Decides (agent : String) (failOpen : Bool) (q : Question) (url : String) :
    Got → Except RuleError Reply → Prop
  | rules {found text : String} {r : Response} {rules : Rules} (hsuccess : r.isSuccess = true)
      (hbody : r.body = .ok text) (hread : Rules.read text = .ok rules) :
      Decides agent failOpen q url (.page found r) ((Verdict.rules rules).reply agent q url)
  | refused {found : String} {r : Response} (hstatus : r.status = 401 ∨ r.status = 403) :
      Decides agent failOpen q url (.page found r) (.ok (q.blanket false))
  | missing {found : String} {r : Response} (hclass : 400 ≤ r.status ∧ r.status < 500)
      (hother : r.status ≠ 401 ∧ r.status ≠ 403) :
      Decides agent failOpen q url (.page found r) (.ok (q.blanket true))
  | failed {found : String} {r : Response} (hfailed : r.isSuccess = false)
      (hclass : ¬(400 ≤ r.status ∧ r.status < 500)) :
      Decides agent failOpen q url (.page found r) (.ok (q.blanket failOpen))
  | lost {t : Trouble} :
      Decides agent failOpen q url (.lost (.trouble t)) (.ok (q.blanket failOpen))

theorem reply_blanket (agent : String) (q : Question) (url : String) (allowed : Bool) :
    Verdict.reply agent q url (if allowed then .everything else .nothing) =
      .ok (q.blanket allowed) := by
  cases q <;> cases allowed <;> rfl

/-- An answer that can be read tells what the site allows, and so what robots reply. -/
theorem decides_of_isReadable {got : Got} (h : got.IsReadable) (agent : String) (failOpen : Bool)
    (q : Question) (url : String) :
    ∃ v, Verdict.ofGot failOpen got = .ok v ∧
      Decides agent failOpen q url got (v.reply agent q url) := by
  cases got with
  | lost l =>
      cases l with
      | target | address => exact h.elim
      | trouble t =>
          refine ⟨_, if_pos h, ?_⟩
          rw [reply_blanket]
          exact .lost
  | page found r =>
      cases hsuccess : r.isSuccess with
      | true =>
          obtain ⟨text, rules, hbody, hread⟩ := h hsuccess
          refine ⟨.rules rules, ?_, .rules hsuccess hbody hread⟩
          simp only [Verdict.ofGot, hsuccess, if_true, hbody, hread]
          rfl
      | false =>
          have hgot : Verdict.ofGot failOpen (.page found r) =
              if r.status = 401 ∨ r.status = 403 then .ok .nothing
              else if (400 ≤ r.status ∧ r.status < 500) ∨ failOpen then .ok .everything
              else .ok .nothing := by
            simp only [Verdict.ofGot, hsuccess, Bool.false_eq_true, if_false]
          rw [hgot]
          by_cases hrefused : r.status = 401 ∨ r.status = 403
          · refine ⟨.nothing, if_pos hrefused, ?_⟩
            rw [show Verdict.reply agent q url .nothing = .ok (q.blanket false) from
              reply_blanket agent q url false]
            exact .refused hrefused
          rw [if_neg hrefused]
          by_cases hclass : 400 ≤ r.status ∧ r.status < 500
          · refine ⟨.everything, if_pos (.inl hclass), ?_⟩
            rw [show Verdict.reply agent q url .everything = .ok (q.blanket true) from
              reply_blanket agent q url true]
            exact .missing hclass (not_or.mp hrefused)
          · refine ⟨if failOpen then .everything else .nothing, ?_, ?_⟩
            · cases failOpen
              · exact if_neg (by simpa using hclass)
              · exact if_pos (.inr rfl)
            · rw [reply_blanket]
              exact .failed hsuccess hclass

theorem Decides.of_ofGot {got : Got} {failOpen : Bool} {v : Verdict} (h : got.IsReadable)
    (hverdict : Verdict.ofGot failOpen got = .ok v) (agent : String) (q : Question) (url : String) :
    Decides agent failOpen q url got (v.reply agent q url) := by
  obtain ⟨v', hverdict', hdecides⟩ := decides_of_isReadable h agent failOpen q url
  cases hverdict.symm.trans hverdict'
  exact hdecides

/-- What has come of asking decides on one reply. -/
theorem Decides.unique {got : Got} {agent : String} {failOpen : Bool} {q : Question} {url : String}
    {reply reply' : Except RuleError Reply} (h : Decides agent failOpen q url got reply)
    (h' : Decides agent failOpen q url got reply') : reply = reply' := by
  have hsuccess : ∀ {r : Response}, r.isSuccess = true → 200 ≤ r.status ∧ r.status ≤ 299 := by
    intro r h
    simpa [Response.isSuccess] using h
  cases h with
  | rules hok hbody hread =>
      have hrange := hsuccess hok
      cases h' with
      | rules _ hbody' hread' =>
          cases hbody.symm.trans hbody'
          rw [Except.ok.inj (hread.symm.trans hread')]
      | refused | missing => omega
      | failed hfailed => cases hok.symm.trans hfailed
  | refused hstatus =>
      cases h' with
      | rules hok =>
          have hrange := hsuccess hok
          omega
      | refused => rfl
      | missing => omega
      | failed => omega
  | missing hclass hother =>
      cases h' with
      | rules hok =>
          have hrange := hsuccess hok
          omega
      | refused => omega
      | missing => rfl
      | failed _ hclass' => exact absurd hclass hclass'
  | failed hfailed hclass =>
      cases h' with
      | rules hok => cases hok.symm.trans hfailed
      | refused => omega
      | missing hclass' => exact absurd hclass' hclass
      | failed => rfl
  | lost =>
      cases h'
      rfl

theorem Decides.reply_iff {got : Got} {agent : String} {failOpen : Bool} {q : Question}
    {url : String} {reply reply' : Except RuleError Reply}
    (h : Decides agent failOpen q url got reply) :
    Decides agent failOpen q url got reply' ↔ reply' = reply :=
  ⟨fun h' => h'.unique h, fun heq => heq ▸ h⟩

/-! ### One inquiry -/

section

variable {τ σ : Type} [Add τ] [LT τ] [DecidableLT τ] {load : Robots.Load σ} {h : Hearing τ σ}
  {i : Inquiry τ}

/-- The address of the rules of an origin is that of no other origin. -/
theorem rulesUrl_injective {origin other : String}
    (h : Robots.rulesUrl origin = Robots.rulesUrl other) : origin = other := by
  have htext := congrArg String.toList h
  simp only [Robots.rulesUrl, String.toList_append] at htext
  exact String.toList_injective (List.append_cancel_right htext)

/-- What becomes of robots when they are asked about an address. -/
inductive HearingCourse (load : Robots.Load σ) (h : Hearing τ σ) (i : Inquiry τ) :
    Hearing τ σ → Prop
  | nowhere {e : Address.Error} (horigin : Address.origin i.url = .error e) :
      HearingCourse load h i ⟨h.log ++ [⟨i, [], .error (.address e)⟩], h.robots, h.state⟩
  | kept {origin : String} {v : Verdict} {ending : τ}
      (horigin : Address.origin i.url = .ok origin)
      (hkept : Table.get? h.robots.kept origin = some (v, ending)) (hfresh : i.time < ending) :
      HearingCourse load h i
        ⟨h.log ++ [⟨i, [], v.reply h.robots.agent i.question i.url⟩], h.robots, h.state⟩
  | loaded {origin : String} {got : Got} {v : Verdict} {state : σ}
      (horigin : Address.origin i.url = .ok origin)
      (hstale : ∀ v ending, Table.get? h.robots.kept origin = some (v, ending) → ¬i.time < ending)
      (hgot : got.IsReadable) (hverdict : Verdict.ofGot h.robots.failOpen got = .ok v) :
      HearingCourse load h i
        ⟨h.log ++ [⟨i, [(Robots.rulesUrl origin, got)],
            v.reply h.robots.agent i.question i.url⟩],
          h.robots.keep i.time origin v, state⟩

/-- An inquiry answers from the rules that are looked up. -/
theorem next_eq (load : Robots.Load σ) (h : Hearing τ σ) (i : Inquiry τ) :
    h.next load i =
      let looked := h.robots.rulesFor (noted load) i.time i.url (h.state, [])
      ⟨h.log ++ [⟨i, looked.2.2.2,
          looked.1 >>= fun v => v.reply h.robots.agent i.question i.url⟩],
        looked.2.1, looked.2.2.1⟩ := by
  have hagent := h.robots.rulesFor_agent (noted load) i.time i.url (h.state, [])
  unfold Hearing.next
  cases i.question with
  | leave =>
      simp only [Robots.allows_eq, hagent]
      cases (h.robots.rulesFor (noted load) i.time i.url (h.state, [])).1 <;> rfl
  | delay =>
      simp only [Robots.delay?_eq, hagent]
      cases (h.robots.rulesFor (noted load) i.time i.url (h.state, [])).1 <;> rfl

/-- An inquiry takes one of the courses. -/
theorem next_course (hload : ∀ host address s, (load host address s).1.IsReadable)
    (h : Hearing τ σ) (i : Inquiry τ) : HearingCourse load h i (h.next load i) := by
  rw [next_eq]
  cases horigin : Address.origin i.url with
  | error e =>
      have hlooked : h.robots.rulesFor (noted load) i.time i.url (h.state, []) =
          (.error (.address e), h.robots, h.state, []) := by
        simp only [Robots.rulesFor, horigin]
      rw [hlooked]
      exact .nowhere horigin
  | ok origin =>
      cases hkept : h.robots.kept? i.time origin with
      | some v =>
          have hlooked : h.robots.rulesFor (noted load) i.time i.url (h.state, []) =
              (.ok v, h.robots, h.state, []) := by
            simp only [Robots.rulesFor, horigin, hkept]
          rw [hlooked]
          unfold Robots.kept? at hkept
          split at hkept
          · rename_i found ending hfound
            split at hkept
            · rename_i hfresh
              cases hkept
              exact .kept horigin hfound hfresh
            · cases hkept
          · cases hkept
      | none =>
          -- There is a host to ask, and whatever it answers can be read.
          obtain ⟨host, hhost⟩ := Address.host_of_origin horigin
          have hreadable := hload host (Robots.rulesUrl origin) h.state
          generalize hgot : load host (Robots.rulesUrl origin) h.state = asked at hreadable
          obtain ⟨got, state⟩ := asked
          obtain ⟨v, hverdict, -⟩ := decides_of_isReadable hreadable h.robots.agent
            h.robots.failOpen i.question i.url
          have hlooked : h.robots.rulesFor (noted load) i.time i.url (h.state, []) =
              (.ok v, h.robots.keep i.time origin v, state, [(Robots.rulesUrl origin, got)]) := by
            have hhost : Address.host (Robots.rulesUrl origin) = .ok host := hhost
            simp only [Robots.rulesFor, horigin, hkept, hhost, noted, hgot, hverdict,
              List.nil_append]
          rw [hlooked]
          refine .loaded horigin (fun v' ending hfound hfresh => ?_) hreadable hverdict
          rw [Robots.kept?, hfound] at hkept
          simp only [if_pos hfresh] at hkept
          cases hkept

end

/-! ### What was loaded for an origin -/

section

variable {τ : Type}

theorem loadsOf_snoc (origin : String) (log : List (Inquired τ)) (done : Inquired τ) :
    loadsOf origin (log ++ [done]) = loadsOf origin log ++ loadsOf origin [done] :=
  List.flatMap_append

theorem loadsOf_nothing (origin : String) (log : List (Inquired τ)) (i : Inquiry τ)
    (reply : Except RuleError Reply) :
    loadsOf origin (log ++ [⟨i, [], reply⟩]) = loadsOf origin log := by
  rw [loadsOf_snoc]
  exact List.append_nil _

theorem loadsOf_self (origin : String) (log : List (Inquired τ)) (i : Inquiry τ) (got : Got)
    (reply : Except RuleError Reply) :
    loadsOf origin (log ++ [⟨i, [(Robots.rulesUrl origin, got)], reply⟩]) =
      loadsOf origin log ++ [(i.time, got)] := by
  rw [loadsOf_snoc]
  simp [loadsOf]

theorem loadsOf_other {origin other : String} (hne : other ≠ origin) (log : List (Inquired τ))
    (i : Inquiry τ) (got : Got) (reply : Except RuleError Reply) :
    loadsOf other (log ++ [⟨i, [(Robots.rulesUrl origin, got)], reply⟩]) = loadsOf other log := by
  have haddress : Robots.rulesUrl origin ≠ Robots.rulesUrl other := fun heq =>
    hne (rulesUrl_injective heq).symm
  rw [loadsOf_snoc]
  simp [loadsOf, haddress]

end

/-! ### Fresh rules -/

variable {τ σ : Type} [Field τ] [LinearOrder τ] [IsStrictOrderedRing τ] {load : Robots.Load σ}
  {start : Robots τ} {h : Hearing τ σ} {i : Inquiry τ}

/-- What is kept of an origin, by what was loaded for it: nothing if its rules were never asked for,
and else what came of the last time, which is no earlier than any other. -/
inductive IsKept (start : Robots τ) : Option (Verdict × τ) → List (τ × Got) → Prop
  | nothing : IsKept start none []
  | last {earlier : List (τ × Got)} {time : τ} {got : Got} {v : Verdict} (hgot : got.IsReadable)
      (hverdict : Verdict.ofGot start.failOpen got = .ok v) (hlast : ∀ e ∈ earlier, e.1 ≤ time) :
      IsKept start (some (v, time + start.lifetime)) (earlier ++ [(time, got)])

/-- Robots keep of every origin what was loaded last, by the log. -/
structure Hearing.Remembers (start : Robots τ) (h : Hearing τ σ) : Prop where
  agent : h.robots.agent = start.agent
  lifetime : h.robots.lifetime = start.lifetime
  failOpen : h.robots.failOpen = start.failOpen
  kept : ∀ origin, IsKept start (Table.get? h.robots.kept origin) (loadsOf origin h.log)

/-- What is kept still counts if any of the loads does. -/
theorem IsKept.fresh_iff {kept : Option (Verdict × τ)} {loads : List (τ × Got)}
    (hkept : IsKept start kept loads) (now : τ) :
    (∃ e ∈ loads, now < e.1 + start.lifetime) ↔
      ∃ v ending, kept = some (v, ending) ∧ now < ending := by
  cases hkept with
  | nothing => simp
  | @last earlier time got v _ _ hlast =>
      constructor
      · rintro ⟨e, he, hfresh⟩
        have hle : e.1 ≤ time := by
          rcases List.mem_append.mp he with hbefore | hthis
          · exact hlast e hbefore
          · rw [List.mem_singleton.mp hthis]
        exact ⟨v, _, rfl, hfresh.trans_le (add_le_add_left hle _)⟩
      · rintro ⟨v', ending, heq, hfresh⟩
        cases heq
        exact ⟨(time, got), List.mem_append_right _ (List.mem_singleton_self _), hfresh⟩

/-- Where nothing counts any more, every load lies a lifetime back. -/
theorem IsKept.le_of_stale {kept : Option (Verdict × τ)} {loads : List (τ × Got)}
    (hkept : IsKept start kept loads) {now : τ}
    (hstale : ∀ v ending, kept = some (v, ending) → ¬now < ending) :
    ∀ e ∈ loads, e.1 + start.lifetime ≤ now := by
  intro e he
  by_contra hfresh
  obtain ⟨v, ending, heq, hlt⟩ := (hkept.fresh_iff now).mp ⟨e, he, not_le.mp hfresh⟩
  exact hstale v ending heq hlt

/-- One inquiry keeps to the log. -/
theorem Hearing.Remembers.next (hremembers : h.Remembers start) (hlifetime : 0 ≤ start.lifetime)
    (hload : ∀ host address s, (load host address s).1.IsReadable) (i : Inquiry τ) :
    (h.next load i).Remembers start := by
  have hcourse := next_course hload h i
  generalize h.next load i = after at hcourse
  cases hcourse with
  | nowhere | kept =>
      refine ⟨hremembers.agent, hremembers.lifetime, hremembers.failOpen, fun other => ?_⟩
      rw [loadsOf_nothing]
      exact hremembers.kept other
  | @loaded origin got v state horigin hstale hgot hverdict =>
      refine ⟨hremembers.agent, hremembers.lifetime, hremembers.failOpen, fun other => ?_⟩
      show IsKept start (Table.get? (Table.insert h.robots.kept origin
        (v, i.time + h.robots.lifetime)) other) _
      by_cases hother : other = origin
      · subst hother
        rw [Table.get?_insert_self, loadsOf_self, hremembers.lifetime]
        rw [hremembers.failOpen] at hverdict
        refine .last hgot hverdict fun e he => ?_
        have hpast := (hremembers.kept other).le_of_stale hstale e he
        exact (le_add_of_nonneg_right hlifetime).trans hpast
      · rw [Table.get?_insert_of_ne hother, loadsOf_other hother]
        exact hremembers.kept other

omit [IsStrictOrderedRing τ] in
theorem Robots.heard_snoc (r : Robots τ) (load : Robots.Load σ) (state : σ)
    (inquiries : List (Inquiry τ)) (i : Inquiry τ) :
    r.heard load state (inquiries ++ [i]) = (r.heard load state inquiries).next load i :=
  List.foldl_concat _ _ _ _

theorem heard_remembers (hlifetime : 0 ≤ start.lifetime) (hnew : start.kept = [])
    (hload : ∀ host address s, (load host address s).1.IsReadable) (state : σ)
    (inquiries : List (Inquiry τ)) : (start.heard load state inquiries).Remembers start := by
  induction inquiries using List.reverseRecOn with
  | nil =>
      refine ⟨rfl, rfl, rfl, fun origin => ?_⟩
      show IsKept start (Table.get? start.kept origin) []
      rw [hnew]
      exact .nothing
  | append_singleton inquiries i ih =>
      rw [Robots.heard_snoc]
      exact ih.next hlifetime hload i

/--
**The rules that are kept are fresh, and each origin has its own.**  After any inquiries of robots
that have not kept anything yet, if whatever is loaded can be read:

* An inquiry about an address loads the rules of its origin once, if the lifetime of each load for
  that origin is over, and nothing otherwise; so two loads for an origin are at least a lifetime
  apart.
* The reply is the one that the last load for that origin decides on.
* What is kept of another origin, and was loaded for it, stays; and for an address without an origin
  nothing is loaded.
* Two addresses are of one origin if their schemes and authorities are the same in lower case.
-/
theorem rules_fresh_by_origin (hlifetime : 0 ≤ start.lifetime) (hnew : start.kept = [])
    (hload : ∀ host address s, (load host address s).1.IsReadable) (state : σ)
    (inquiries : List (Inquiry τ)) :
    let h := start.heard load state inquiries
    (∀ i origin, Address.origin i.url = .ok origin →
      ∃ done, (h.next load i).log = h.log ++ [done] ∧ done.inquiry = i ∧
        ((∃ e ∈ loadsOf origin h.log, i.time < e.1 + start.lifetime) → done.loads = []) ∧
        ((¬∃ e ∈ loadsOf origin h.log, i.time < e.1 + start.lifetime) →
          (∃ got, done.loads = [(Robots.rulesUrl origin, got)]) ∧
            ∀ e ∈ loadsOf origin h.log, e.1 + start.lifetime ≤ i.time) ∧
        (∃ time got, (loadsOf origin (h.next load i).log).getLast? = some (time, got) ∧
          ∀ reply, Decides start.agent start.failOpen i.question i.url got reply ↔
            reply = done.reply) ∧
        ∀ other, other ≠ origin →
          Table.get? (h.next load i).robots.kept other = Table.get? h.robots.kept other ∧
            loadsOf other (h.next load i).log = loadsOf other h.log) ∧
    (∀ i e, Address.origin i.url = .error e →
      h.next load i = ⟨h.log ++ [⟨i, [], .error (.address e)⟩], h.robots, h.state⟩) ∧
    ∀ url url' p p', Address.split (String.toList url) = .ok p →
      Address.split (String.toList url') = .ok p' →
      (Address.origin url = Address.origin url' ↔
        Text.lowerChars p.scheme = Text.lowerChars p'.scheme ∧
          Text.lowerChars p.authority = Text.lowerChars p'.authority) := by
  intro h
  have hremembers : h.Remembers start := heard_remembers hlifetime hnew hload state inquiries
  refine ⟨fun i origin horigin => ?_, fun i e horigin => ?_, fun url url' p p' hp hp' =>
    Address.origin_eq_iff hp hp'⟩
  · have hkept := hremembers.kept origin
    have hcourse := next_course hload h i
    generalize h.next load i = after at hcourse
    cases hcourse with
    | nowhere hnone => cases horigin.symm.trans hnone
    | @kept origin' v ending horigin' hfound hfresh =>
        cases horigin.symm.trans horigin'
        refine ⟨_, rfl, rfl, fun _ => rfl, fun hstale => ?_, ?_, fun other _ =>
          ⟨rfl, loadsOf_nothing other _ _ _⟩⟩
        · exact absurd ((hkept.fresh_iff i.time).mpr ⟨v, ending, hfound, hfresh⟩) hstale
        · rw [loadsOf_nothing, hremembers.agent]
          rw [hfound] at hkept
          generalize loadsOf origin h.log = loads at hkept
          cases hkept with
          | @last earlier time got _ hgot hverdict =>
              exact ⟨time, got, List.getLast?_concat, fun reply =>
                (Decides.of_ofGot hgot hverdict _ _ _).reply_iff⟩
    | @loaded origin' got v state' horigin' hstale hgot hverdict =>
        cases horigin.symm.trans horigin'
        have hpast := hkept.le_of_stale hstale
        refine ⟨_, rfl, rfl, ?_, fun _ => ⟨⟨got, rfl⟩, hpast⟩, ⟨i.time, got, ?_, ?_⟩,
          fun other hother =>
            ⟨Table.get?_insert_of_ne hother _ _, loadsOf_other hother _ _ _ _⟩⟩
        · rintro ⟨e, he, hfresh⟩
          exact absurd (hpast e he) (not_le.mpr hfresh)
        · rw [loadsOf_self, List.getLast?_concat]
        · rw [hremembers.failOpen] at hverdict
          rw [hremembers.agent]
          exact fun reply => (Decides.of_ofGot hgot hverdict _ _ _).reply_iff
  · have hcourse := next_course hload h i
    generalize h.next load i = after at hcourse
    cases hcourse with
    | nowhere hnone => cases horigin.symm.trans hnone; rfl
    | kept hsome | loaded hsome => cases horigin.symm.trans hsome

/-! ### A site that refuses to show its rules -/

/-- Robots that have not asked for anything yet and keep rules for a minute. -/
def minuteRobots : Robots ℚ := ⟨"job-corpus/0.1 (+contact)", 60, true, []⟩

/-- A site that refuses every request. -/
def refusal : Robots.Load Unit := fun _ url state => (.page url ⟨403, [], .ok ""⟩, state)

/-- The address of a page on a site that is asked about at a time. -/
def askedAt (time : ℚ) (url : String) : Inquiry ℚ := ⟨time, .leave, url⟩

/-- Pages are asked about twice within a minute. -/
def withinMinute : List (Inquiry ℚ) :=
  [askedAt 0 "https://acme.example/careers", askedAt 59 "HTTPS://ACME.example/team"]

/-- When the minute is over the rules are asked for again, and allow nothing once more. -/
theorem rules_fresh_by_origin_minute :
    (loadsOf "https://acme.example" (minuteRobots.heard refusal () withinMinute).log).map (·.1) =
        [0] ∧
      ∃ done, ((minuteRobots.heard refusal () withinMinute).next refusal
          (askedAt 60 "https://acme.example/about")).log =
        (minuteRobots.heard refusal () withinMinute).log ++ [done] ∧
        (∃ got, done.loads = [("https://acme.example/robots.txt", got)]) ∧
        done.reply = .ok (.leave false) := by
  have honce : (loadsOf "https://acme.example"
      (minuteRobots.heard refusal () withinMinute).log).map (·.1) = [0] := by decide +kernel
  refine ⟨honce, ?_⟩
  have hload : ∀ host address s, (refusal host address s).1.IsReadable :=
    fun _ _ _ h => absurd h (by decide)
  have hlifetime : (0 : ℚ) ≤ minuteRobots.lifetime := by decide +kernel
  obtain ⟨done, hlog, -, -, hstale, -⟩ :=
    (rules_fresh_by_origin hlifetime rfl hload () withinMinute).1
      (askedAt 60 "https://acme.example/about") "https://acme.example" rfl
  have hover : ¬∃ e ∈ loadsOf "https://acme.example" (minuteRobots.heard refusal ()
      withinMinute).log, (60 : ℚ) < e.1 + minuteRobots.lifetime := by
    rintro ⟨e, he, hfresh⟩
    have hzero : e.1 ∈ [(0 : ℚ)] := honce ▸ List.mem_map_of_mem he
    rw [List.mem_singleton.mp hzero] at hfresh
    exact absurd hfresh (by decide +kernel)
  obtain ⟨⟨loaded, hloads⟩, -⟩ := hstale hover
  refine ⟨done, hlog, ⟨loaded, hloads⟩, ok_of_toOption ?_⟩
  have hanswered : (((minuteRobots.heard refusal () withinMinute).next refusal
      (askedAt 60 "https://acme.example/about")).log.getLast?.bind (·.reply.toOption)) =
        some (.leave false) := by decide +kernel
  rw [hlog, List.getLast?_concat] at hanswered
  exact hanswered

/-- A site whose rules are in a character set that has to be marked, without the mark. -/
def unmarkedRules : Robots.Load Unit := fun _ url state =>
  (.page url (.ofBytes 200 [("content-type", "text/plain; charset=utf-16")]
    "User-agent: *\nAllow: /\n".toUTF8.toList), state)

/-- Nothing is kept of rules that are no text: within their lifetime they are asked for again, and
there is no reply to any inquiry. -/
theorem unmarked_rules_asked_again :
    (loadsOf "https://acme.example" (minuteRobots.heard unmarkedRules () withinMinute).log).map
        (·.1) = [0, 59] ∧
      (minuteRobots.heard unmarkedRules () withinMinute).log.map (·.reply.toOption) =
        [none, none] := by
  decide +kernel

end VacancyLedger.Crawl
