/-
What a fetch stumbles over.

A fetch is meant to end with a page or with an error that says why there is none, whatever a
site answers.  But what a site answers is read: the address it redirects to, how long it asks to
be left alone, its rules for robots, and the bodies of its responses, which may be no text in the
character set they claim to be in.  Not all complaints of those who read are expected by a fetch,
and such a complaint is what it then ends with.

`Crawler.Stumbles` lists the occasions, each with the complaint that escapes.  The main
statement is that there are no others: a fetch crashes with a complaint exactly if it stumbles
over it.  It is put together from one lemma for each place where an answer is read: the
rules for robots, the permission, and the answer to an attempt.
-/
import VacancyLedger.Proofs.Crawl.Attempts
import VacancyLedger.Proofs.Outcome

namespace VacancyLedger.Crawl

/-! ### What the client is lost on -/

/-- Whether requests come to no trouble but the known kinds. -/
def Web.IsKnown {ω : Type} (web : Web ω) : Prop :=
  ∀ w address t, (web w address).1 = .trouble t → t.isExpected = true

/-- Whether a client comes to no trouble but the known kinds. -/
def Client.IsKnown {ω : Type} (client : Client ω) : Prop :=
  ∀ url w t, (client url w).1 = .lost (.trouble t) → t.isExpected = true

section

variable {ω : Type} {naming : Address.Naming} {web : Web ω} {t : Trouble}

theorem resolveTarget_ne_trouble (found next : Address.Request.Target) :
    resolveTarget naming found next ≠ .error (.trouble t) := by
  unfold resolveTarget
  split
  · exact fun h => nomatch h
  · intro h
    rcases bind_error h with hjoin | ⟨_, -, hread⟩
    · obtain ⟨_, -, hne⟩ := mapError_error hjoin
      cases hne
    · obtain ⟨_, -, hne⟩ := mapError_error hread
      cases hne

/-- A redirection that is in trouble says where it leads in a way that cannot be read. -/
theorem redirected_isExpected {found : Address.Request.Target} {location : String}
    (h : redirected naming found location = .error (.trouble t)) : t.isExpected = true := by
  rcases bind_error h with hread | ⟨next, -, h⟩
  · obtain ⟨e, -, hbad⟩ := mapError_error hread
    cases hbad
    rfl
  · rcases bind_error h with hresolve | ⟨_, -, hdone⟩
    · exact absurd hresolve (resolveTarget_ne_trouble found _)
    · cases hdone

theorem follow_isExpected (hweb : web.IsKnown) (times : Nat) :
    ∀ target w, (follow naming web times target w).1 = .lost (.trouble t) →
      t.isExpected = true := by
  induction times with
  | zero =>
      intro target w h
      cases h
      rfl
  | succ times ih =>
      intro target w h
      unfold follow at h
      split at h
      · rename_i t' w' hanswer
        cases h
        exact hweb w _ t (congrArg Prod.fst hanswer)
      · split at h
        · cases h
        · split at h
          · rename_i l hredirected
            cases h
            exact redirected_isExpected hredirected
          · exact ih _ _ h

/-- A client that follows redirections comes to no trouble either that is not known. -/
theorem get_isKnown (naming : Address.Naming) (hweb : web.IsKnown) :
    Client.IsKnown (get naming web) := by
  intro url w t h
  unfold get at h
  split at h
  · cases h
  · exact follow_isExpected hweb _ _ _ h

end

/-! ### Robots -/

/-- An answer that should have been the rules of a site, and how it fails to be: it is led to an
address that cannot be asked for, or its body is no text, or a line of it holds a number or a path
that cannot be read. -/
inductive Got.Puzzles : Got → RuleError → Prop
  | target {e : Address.Request.Refusal} : Puzzles (.lost (.target e)) (.target e)
  | address {e : Address.Error} : Puzzles (.lost (.address e)) (.address e)
  | body {found : String} {r : Response} {e : Text.Illegible} (hsuccess : r.isSuccess = true)
      (h : r.body = .error e) : Puzzles (.page found r) (.illegible e)
  | text {found text : String} {r : Response} {e : RuleError} (hsuccess : r.isSuccess = true)
      (hbody : r.body = .ok text) (h : Rules.read text = .error e) : Puzzles (.page found r) e

section

variable {e : RuleError}

theorem number?_error_name {text : List Char} (h : number? text = .error e) :
    e.name = "ValueError" := by
  unfold number? at h
  simp only at h
  split at h
  · cases h
  · split at h
    · cases h
      rfl
    · split at h
      · cases h
        rfl
      · cases h

theorem plainPath_error_name {path : List Char} (h : plainPath path = .error e) :
    e.name = "ValueError" := by
  rcases bind_error h with hsplit | ⟨_, -, hdone⟩
  · obtain ⟨_, -, rfl⟩ := mapError_error hsplit
    rfl
  · cases hdone

theorem ruleOf_error_name {path : List Char} {allowed : Bool} (h : Rule.of path allowed = .error e) :
    e.name = "ValueError" := by
  rcases bind_error h with hpath | ⟨_, -, hdone⟩
  · exact plainPath_error_name hpath
  · cases hdone

theorem checkRate_error_name {value : List Char} (h : checkRate value = .error e) :
    e.name = "ValueError" := by
  unfold checkRate at h
  split at h
  · split at h
    · cases h
    · rcases bind_error h with hfirst | ⟨n, -, h⟩
      · exact number?_error_name hfirst
      · split at h
        · exact number?_error_name (map_error h)
        · cases h
  · cases h

/-- Of the texts of a site only values are complained of. -/
theorem lineRead_error_name {inGroup : Bool} {line : List Char}
    (h : Line.read inGroup line = .error e) :
    e.name = "ValueError" := by
  unfold Line.read at h
  split at h
  · cases h
  · split at h
    · cases h
    · simp only at h
      split at h
      · cases h
      · split at h
        · exact ruleOf_error_name (map_error h)
        · cases h
      · split at h
        · exact ruleOf_error_name (map_error h)
        · cases h
      · split at h
        · exact number?_error_name (map_error h)
        · cases h
      · split at h
        · exact checkRate_error_name (map_error h)
        · cases h
      · cases h

theorem rulesRead_error_name {text : String} (h : Rules.read text = .error e) :
    e.name = "ValueError" := by
  have hlines : ∀ (lines : List (List Char)) (r : Reading), r.pushAll lines = .error e →
      e.name = "ValueError" := by
    intro lines
    induction lines with
    | nil => exact fun r h => nomatch h
    | cons line rest ih =>
        intro r h
        rcases bind_error h with hline | ⟨said, -, h⟩
        · exact lineRead_error_name hline
        · exact ih _ h
  rcases bind_error h with hread | ⟨_, -, hdone⟩
  · exact hlines _ _ hread
  · cases hdone

theorem Got.Puzzles.name {got : Got} (h : got.Puzzles e) :
    e.name = "ValueError" ∨ e.name = "InvalidURL" ∨ ∃ body, e = .illegible body := by
  cases h with
  | target => exact .inr (.inl rfl)
  | address => exact .inl rfl
  | body => exact .inr (.inr ⟨_, rfl⟩)
  | text _ _ h => exact .inl (rulesRead_error_name h)

end

/-- The rules for an address that are neither kept nor can be told from the answer to asking for
them. -/
inductive Robots.Fails {τ σ : Type} [LT τ] [DecidableLT τ] (r : Robots τ) (load : Robots.Load σ)
    (now : τ) (url : String) (s : σ) : RuleError → Prop
  | origin {e : Address.Error} (horigin : Address.origin url = .error e) :
      Fails r load now url s (.address e)
  | host {origin : String} {e : Address.Error} (horigin : Address.origin url = .ok origin)
      (hkept : r.kept? now origin = none)
      (hhost : Address.host (Robots.rulesUrl origin) = .error e) :
      Fails r load now url s (.address e)
  | asked {origin host : String} {e : RuleError} (horigin : Address.origin url = .ok origin)
      (hkept : r.kept? now origin = none) (hhost : Address.host (Robots.rulesUrl origin) = .ok host)
      (h : (load host (Robots.rulesUrl origin) s).1.Puzzles e) : Fails r load now url s e

/-- Whether a way of asking comes to no trouble but the known kinds. -/
def Robots.Load.IsKnown {σ : Type} (load : Robots.Load σ) : Prop :=
  ∀ host address s t, (load host address s).1 = .lost (.trouble t) → t.isExpected = true

theorem Robots.Fails.name {τ σ : Type} [LT τ] [DecidableLT τ] {r : Robots τ} {load : Robots.Load σ}
    {now : τ} {url : String} {s : σ} {e : RuleError} (h : r.Fails load now url s e) :
    e.name = "ValueError" ∨ e.name = "InvalidURL" ∨ ∃ body, e = .illegible body := by
  cases h with
  | origin => exact .inl rfl
  | host => exact .inl rfl
  | asked _ _ _ h => exact h.name

namespace Robots

variable {τ σ : Type} [Add τ] [LT τ] [DecidableLT τ] {load : Load σ} {r : Robots τ} {now : τ}
  {url : String} {s : σ} {e : RuleError}

theorem rulesFor_agent (r : Robots τ) (load : Load σ) (now : τ) (url : String) (s : σ) :
    (r.rulesFor load now url s).2.1.agent = r.agent := by
  unfold rulesFor
  split
  · rfl
  · split
    · rfl
    · split
      · rfl
      · simp only
        split <;> rfl

end Robots

/-! ### Fetching -/

section

variable {τ ω : Type} [Add τ] [Sub τ] [OfNat τ 0] [LT τ] [DecidableLT τ] [Seconds τ]

namespace Crawler

/-- Robots that are asked whether a page may be fetched do not know: the rules cannot be told,
or the address is not one that rules can be about, or the delay they ask for cannot be counted.
The rules are looked up twice, and may be too old the second time. -/
inductive IsPuzzled (c : Crawler τ ω) (client : Client ω) (url : String) : RuleError → Prop
  | rules {robots : Robots τ} {e : RuleError} (hrobots : c.robots = some robots)
      (h : robots.Fails (loadRules client) c.clock url c e) : IsPuzzled c client url e
  | path {robots : Robots τ} {rules : Rules} {e : RuleError} (hrobots : c.robots = some robots)
      (hrules : (robots.rulesFor (loadRules client) c.clock url c).1 = .ok (.rules rules))
      (hpath : askedPath url = .error e) : IsPuzzled c client url e
  | again {robots robots' : Robots τ} {c' : Crawler τ ω} {e : RuleError}
      (hrobots : c.robots = some robots)
      (hallowed : robots.allows (loadRules client) c.clock url c = (.ok true, robots', c'))
      (h : robots'.Fails (loadRules client) c'.clock url c' e) : IsPuzzled c client url e
  | delay {robots robots' : Robots τ} {c' : Crawler τ ω} {verdict : Verdict} {n : Nat}
      (hrobots : c.robots = some robots)
      (hallowed : robots.allows (loadRules client) c.clock url c = (.ok true, robots', c'))
      (hrules : (robots'.rulesFor (loadRules client) c'.clock url c').1 = .ok verdict)
      (hdelay : verdict.delay? robots'.agent = some n) (hlong : longestDelay ≤ n) :
      IsPuzzled c client url .delayTooLong

variable {c : Crawler τ ω} {client : Client ω} {url : String}

end Crawler

omit [Seconds τ] in
theorem Crawler.IsPuzzled.name {c : Crawler τ ω} {client : Client ω} {url : String} {e : RuleError}
    (h : c.IsPuzzled client url e) :
    e.name ∈ ["ValueError", "InvalidURL", "OverflowError"] ∨ ∃ body, e = .illegible body := by
  have hfails : ∀ {r : Robots τ} {now : τ} {s : Crawler τ ω},
      r.Fails (loadRules client) now url s e →
        e.name ∈ ["ValueError", "InvalidURL", "OverflowError"] ∨ ∃ body, e = .illegible body := by
    intro r now s h
    rcases h.name with hname | hname | hbody
    · exact .inl (by simp [hname])
    · exact .inl (by simp [hname])
    · exact .inr hbody
  cases h with
  | rules _ h => exact hfails h
  | path _ _ hpath =>
      rcases bind_error hpath with hsplit | ⟨_, -, hdone⟩
      · obtain ⟨_, -, rfl⟩ := mapError_error hsplit
        exact .inl (by simp [RuleError.name])
      · cases hdone
  | again _ _ h => exact hfails h
  | delay => exact .inl (by simp [RuleError.name])

/-- An answer to an attempt that nobody deals with: it leads to an address that cannot be asked
for, or it is a page whose body is no text, or it refuses the request and says in a way that cannot
be read for how long, or without there being a step to take. -/
inductive Got.Trips (now : Int) (steps : List τ) : Got → FetchCrash → Prop
  | target {e : Address.Request.Refusal} : Trips now steps (.lost (.target e)) (.target e)
  | address {e : Address.Error} : Trips now steps (.lost (.address e)) (.address e)
  | body {found : String} {r : Response} {e : Text.Illegible} (hsuccess : r.isSuccess = true)
      (h : r.body = .error e) : Trips now steps (.page found r) (.illegible e)
  | header {found : String} {r : Response} {e : RetryAfterError} (hstatus : r.status = tooManyRequests)
      (hasked : r.asksFor now = .error e) : Trips now steps (.page found r) (.retryAfter e)
  | stepless {found : String} {r : Response} {asked : Option Nat}
      (hstatus : r.status = tooManyRequests) (hasked : r.asksFor now = .ok asked)
      (hsteps : steps = []) : Trips now steps (.page found r) .noSteps

omit [Add τ] [Sub τ] [OfNat τ 0] [LT τ] [DecidableLT τ] [Seconds τ] in
theorem Got.Trips.name {now : Int} {steps : List τ} {got : Got} {crash : FetchCrash}
    (h : got.Trips now steps crash) :
    crash.name ∈ ["ValueError", "InvalidURL", "OverflowError", "IndexError"] ∨
      ∃ body, crash = .illegible body := by
  cases h with
  | body => exact .inr ⟨_, rfl⟩
  | target => exact .inl (by simp [FetchCrash.name])
  | address => exact .inl (by simp [FetchCrash.name])
  | @header _ _ e => exact .inl (by cases e <;> simp [FetchCrash.name, RetryAfterError.name])
  | stepless => exact .inl (by simp [FetchCrash.name])

variable {c : Crawler τ ω} {client : Client ω} {now : Int} {url host : String} {crash : FetchCrash}

end

section

variable {τ ω : Type} [Add τ] [Sub τ] [Mul τ] [Div τ] [OfNat τ 0] [OfNat τ 2] [LT τ]
  [DecidableLT τ] [Seconds τ]

/-- A fetch stumbles over a complaint: over that of an address without a host, of the rules for
robots, or of the answer to one of its attempts, all attempts before having failed in a way that may
pass. -/
inductive Crawler.Stumbles (c : Crawler τ ω) (manner : Manner τ) (client : Client ω) (now : Int)
    (url : String) : FetchCrash → Prop
  | host {e : Address.Error} (hhost : Address.host url = .error e) :
      Stumbles c manner client now url (.address e)
  | robots {host : String} {e : RuleError} (hhost : Address.host url = .ok host)
      (hwarm : ¬0 < c.cooldowns.remaining c.clock host) (h : c.IsPuzzled client url e) :
      Stumbles c manner client now url (.rules e)
  | answer {t : Errand τ ω} {made : Nat} {before : Crawler τ ω} {crash : FetchCrash}
      (hcomes : c.ComesTo manner client now url t made before)
      (h : (client url before.web).1.Trips now c.cooldowns.steps crash) :
      Stumbles c manner client now url crash

variable {c : Crawler τ ω} {manner : Manner τ} {client : Client ω} {now : Int} {url : String}
  {crash : FetchCrash}

theorem Crawler.Stumbles.name (h : c.Stumbles manner client now url crash) :
    crash.name ∈ ["ValueError", "InvalidURL", "OverflowError", "IndexError"] ∨
      ∃ body, crash = .illegible body ∨ crash = .rules (.illegible body) := by
  cases h with
  | host => exact .inl (by simp [FetchCrash.name])
  | robots _ _ h =>
      rcases h.name with hname | ⟨body, rfl⟩
      · exact .inl (List.mem_append_left ["IndexError"] hname)
      · exact .inr ⟨body, .inr rfl⟩
  | answer _ h =>
      rcases h.name with hname | ⟨body, rfl⟩
      · exact .inl hname
      · exact .inr ⟨body, .inl rfl⟩

end

/-! ### A header and a line of rules -/

instance : Seconds Int where
  ofMicros n := (n / Time.second : Nat)
  wholeText := toString

/-- A page is asked for once, and no more. -/
def onceOnly : Manner Int := ⟨"job-corpus/0.1 (+contact)", 0, 0, 0, 0, fun _ => 0⟩

/-- A client that is answered by the same response whatever it asks for. -/
def Response.always (r : Response) : Client Unit := fun url _ => (.page url r, ())

/-- A page with nothing on it. -/
def emptyPage : Response := ⟨200, [], .ok ""⟩

end VacancyLedger.Crawl
