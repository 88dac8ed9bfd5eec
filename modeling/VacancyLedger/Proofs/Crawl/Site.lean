/-
The rules of a page are asked for from its own host.

A site goes by two names.  Its pages are spaced and left alone by host; its rules are kept by
origin, and are asked for at an address that is written from the origin and cut into parts anew.
For addresses in ASCII the names agree: the address of the rules is of the same origin and on the
same host.  `Address.host_of_rules` says why, and that nothing but a sigma could part them.

What follows for a crawler is that a fetch has one host.  To the limiter it is a number of calls for
that host, those before its rules are asked for included, which `Crawler.CallsOnly` says and every
step of a fetch keeps.  And while the host cools down its rules are left alone with its pages.
-/
import VacancyLedger.Proofs.Address.Rebased
import VacancyLedger.Proofs.Crawl.Spacing

namespace VacancyLedger.Address

/-! ### Addresses in ASCII -/

/-- An address of the web that is written in ASCII. -/
structure IsAsciiWeb (url : String) : Prop where
  ascii : ∀ c ∈ url.toList, c.toNat < 128
  web : ∃ p, split url.toList = .ok p ∧ IsWebScheme p.scheme

variable {url : String}

/-- The rules of the origin of an address in ASCII are of that origin and on the host of the
address. -/
theorem IsAsciiWeb.rules (h : IsAsciiWeb url) :
    ∃ origin host, Address.origin url = .ok origin ∧ Address.host url = .ok host ∧
      Address.origin (origin ++ "/robots.txt") = .ok origin ∧
      Address.host (origin ++ "/robots.txt") = .ok host := by
  obtain ⟨p, hp, hweb⟩ := h.web
  have hsigma : 'Σ' ∉ p.authority := by
    intro hin
    have hascii := h.ascii 'Σ' (mem_of_mem_clean (mem_clean_of_mem_part hp (.inl hin)))
    exact absurd hascii (by decide)
  have horigin := origin_ok_iff.mpr ⟨p, hp, rfl⟩
  have hhost := host_of_split hp
  exact ⟨_, _, horigin, hhost, origin_of_rules hp hweb.known.1 horigin,
    (host_of_rules hp hweb.known.1 hsigma horigin).trans hhost⟩

/-- Addresses in ASCII of one origin are on one host: that of its rules. -/
theorem IsAsciiWeb.host_eq {url' origin : String} (h : IsAsciiWeb url) (h' : IsAsciiWeb url')
    (horigin : Address.origin url = .ok origin) (horigin' : Address.origin url' = .ok origin) :
    Address.host url' = Address.host url := by
  obtain ⟨_, host, ho, hhost, -, hrules⟩ := h.rules
  obtain ⟨_, host', ho', hhost', -, hrules'⟩ := h'.rules
  obtain rfl := Except.ok.inj (horigin.symm.trans ho)
  obtain rfl := Except.ok.inj (horigin'.symm.trans ho')
  rw [hhost', hhost, ← hrules', ← hrules]

end VacancyLedger.Address

namespace VacancyLedger.Crawl

section

variable {τ ω : Type} [Add τ] [Sub τ] [OfNat τ 0] [LT τ] [DecidableLT τ]

/-! ### Calls for one host -/

/-- To the limiter, what came between a crawler and a later one are calls for one host. -/
def Crawler.CallsOnly (c : Crawler τ ω) (host : String) (after : Crawler τ ω) : Prop :=
  ∃ calls : List (Call τ), (∀ call ∈ calls, call.host = host) ∧
    after.limiter = (c.called calls).limiter

namespace Crawler.CallsOnly

variable {c d e : Crawler τ ω} {host : String}

theorem refl (c : Crawler τ ω) (host : String) : c.CallsOnly host c :=
  ⟨[], fun _ hin => absurd hin List.not_mem_nil, rfl⟩

theorem of_limiter (h : c.CallsOnly host d) (heq : e.limiter = d.limiter) :
    c.CallsOnly host e := by
  obtain ⟨calls, hcalls, hlimiter⟩ := h
  exact ⟨calls, hcalls, heq.trans hlimiter⟩

/-- Waiting for the host is one more call. -/
theorem wait (h : c.CallsOnly host d) (interval : Option τ) :
    c.CallsOnly host (d.wait host interval) := by
  obtain ⟨calls, hcalls, hlimiter⟩ := h
  refine ⟨calls ++ [⟨d.clock, host, interval⟩], fun call hin => ?_, ?_⟩
  · rcases List.mem_append.mp hin with hbefore | hlast
    · exact hcalls call hbefore
    · rw [List.mem_singleton.mp hlast]
  · have hcalled : c.called (calls ++ [⟨d.clock, host, interval⟩]) =
        (c.called calls).call ⟨d.clock, host, interval⟩ := List.foldl_concat _ _ _ _
    rw [hcalled, call_limiter, ← hlimiter]
    exact call_limiter d ⟨d.clock, host, interval⟩

/-- What the limiter keeps for other hosts stays. -/
theorem ready_of_ne (h : c.CallsOnly host d) {other : String} (hne : other ≠ host) :
    Table.get? d.limiter.ready other = Table.get? c.limiter.ready other := by
  obtain ⟨calls, hcalls, hlimiter⟩ := h
  rw [hlimiter]
  exact called_ready_of_ne (fun call hin => (hcalls call hin).trans_ne hne.symm) c

end Crawler.CallsOnly

/-! ### A fetch has one host -/

variable {c d : Crawler τ ω} {url host : String}

/-- Rules that are not kept any more are asked for once the host of their address was waited for. -/
theorem rulesFor_crawler {origin : String} (horigin : Address.origin url = .ok origin)
    (hhost : Address.host (Robots.rulesUrl origin) = .ok host) (robots : Robots τ)
    (client : Client ω) (now : τ) (c : Crawler τ ω) :
    (robots.rulesFor (Crawler.loadRules client) now url c).2.2 =
      if (robots.kept? now origin).isSome then c
      else { c.wait host none with web := (client (Robots.rulesUrl origin) c.web).2 } := by
  unfold Robots.rulesFor
  rw [horigin]
  cases hkept : robots.kept? now origin with
  | some v => simp only [hkept, Option.isSome_some, if_true]
  | none =>
      have hloaded : (Crawler.loadRules client host (Robots.rulesUrl origin) c).2 =
          { c.wait host none with web := (client (Robots.rulesUrl origin) c.web).2 } := by
        rw [Crawler.loadRules, Crawler.wait_web]
      simp only [hkept, hhost, Option.isSome_none, Bool.false_eq_true, if_false]
      rw [← hloaded]
      split <;> rfl

variable [Seconds τ]

/-- Asking for permission calls for the host of the rules alone. -/
theorem permission_callsOnly
    (hsite : ∀ other address, Robots.HasRulesAt url other address → other = host)
    (c : Crawler τ ω) (client : Client ω) : c.CallsOnly host (c.permission client url host).2 := by
  refine Crawler.permission_keeps (P := c.CallsOnly host) ?_ ?_ (.refl c host) host
  · intro d h other address hrules
    obtain rfl := hsite other address hrules
    exact (h.wait none).of_limiter rfl
  · exact fun d robots h => h.of_limiter rfl

theorem Errand.ask_callsOnly {t : Errand τ ω} (h : c.CallsOnly t.host d) :
    c.CallsOnly t.host (t.ask d).2 :=
  (h.wait (some t.interval)).of_limiter (attempt_limiter _ _ _ _ _)

variable [Mul τ] [Div τ] [OfNat τ 2]

theorem Errand.before_callsOnly {t : Errand τ ω} (made : Nat) :
    ∀ (number : Nat) (d : Crawler τ ω), c.CallsOnly t.host d →
      c.CallsOnly t.host (t.before number d made) := by
  induction made with
  | zero => exact fun number d h => h
  | succ made ih => exact fun number d h => ih (number + 1) _ ((ask_callsOnly h).of_limiter rfl)

theorem Crawler.ComesTo.callsOnly {manner : Manner τ} {client : Client ω} {now : Int}
    {t : Errand τ ω} {made : Nat} {before : Crawler τ ω}
    (h : c.ComesTo manner client now url t made before)
    (hsite : ∀ other address, Robots.HasRulesAt url other address → other = t.host) :
    c.CallsOnly t.host before := by
  cases h with
  | @permitted host _ c' _ _ hgranted =>
      have hpermission : c.CallsOnly host (c.permission client url host).2 :=
        permission_callsOnly hsite c client
      rw [hgranted] at hpermission
      exact Errand.before_callsOnly made 1 c' hpermission

/-- If the rules of a page are on its host, a fetch of the page calls for that host alone. -/
theorem fetch_callsOnly (hhost : Address.host url = .ok host)
    (hsite : ∀ other address, Robots.HasRulesAt url other address → other = host)
    (c : Crawler τ ω) (manner : Manner τ) (client : Client ω) (now : Int) :
    c.CallsOnly host (c.fetch manner client now url).2 := by
  have hpermission := permission_callsOnly hsite c client
  generalize hfetch : c.fetch manner client now url = fetched
  obtain ⟨result, after⟩ := fetched
  cases fetch_course hfetch with
  | hostless => exact .refl c host
  | perplexed hhost' h | denied hhost' h =>
      obtain rfl := Except.ok.inj (hhost.symm.trans hhost')
      rw [h] at hpermission
      exact hpermission
  | @asked t made before _ _ hcomes _ hfinish =>
      obtain rfl := Except.ok.inj (hhost.symm.trans hcomes.host)
      have hafter : (t.finish (1 + made) (t.ask before)).2 = after := congrArg Prod.snd hfinish
      refine (Errand.ask_callsOnly (hcomes.callsOnly hsite)).of_limiter ?_
      rw [← hafter, Errand.finish_frame]

/--
**The rules of a page are on its site.**  For an address in ASCII of the web:

* The address at which its origin keeps the rules is of the same origin, and on the same host; so
  addresses of one origin are on one host.
* Before the rules are asked for, if they are not kept, the host of the page is waited for.
* In a fetch the limiter is called for the host of the page alone, whatever is asked for; what it
  keeps for other hosts stays.
* While that host cools down neither the page nor its rules are asked for: the crawler stays as it
  is, also if it is the address of the rules that is fetched.
-/
theorem rules_share_site (hurl : Address.IsAsciiWeb url) :
    ∃ origin host, Address.origin url = .ok origin ∧ Address.host url = .ok host ∧
      Address.origin (Robots.rulesUrl origin) = .ok origin ∧
      Address.host (Robots.rulesUrl origin) = .ok host ∧
      (∀ url', Address.IsAsciiWeb url' → Address.origin url' = .ok origin →
        Address.host url' = .ok host) ∧
      (∀ (robots : Robots τ) (client : Client ω) now (c : Crawler τ ω),
        (robots.rulesFor (Crawler.loadRules client) now url c).2.2 =
          if (robots.kept? now origin).isSome then c
          else { c.wait host none with web := (client (Robots.rulesUrl origin) c.web).2 }) ∧
      ∀ (c : Crawler τ ω) manner client now,
        c.CallsOnly host (c.fetch manner client now url).2 ∧
        (∀ other, other ≠ host →
          Table.get? (c.fetch manner client now url).2.limiter.ready other =
            Table.get? c.limiter.ready other) ∧
        (0 < c.cooldowns.remaining c.clock host →
          (c.fetch manner client now url).2 = c ∧
          (c.fetch manner client now (Robots.rulesUrl origin)).2 = c) := by
  obtain ⟨origin, host, horigin, hhost, horigins, hhosts⟩ := hurl.rules
  have hhosts : Address.host (Robots.rulesUrl origin) = .ok host := hhosts
  have hsite : ∀ other address, Robots.HasRulesAt url other address → other = host := by
    rintro other address ⟨⟨origin', horigin', rfl⟩, hother⟩
    obtain rfl := Except.ok.inj (horigin.symm.trans horigin')
    exact Except.ok.inj (hother.symm.trans hhosts)
  refine ⟨origin, host, horigin, hhost, horigins, hhosts, fun url' hurl' horigin' => ?_,
    rulesFor_crawler horigin hhosts, fun c manner client now => ?_⟩
  · exact (hurl.host_eq hurl' horigin horigin').trans hhost
  · have hcalls := fetch_callsOnly hhost hsite c manner client now
    refine ⟨hcalls, fun other hne => hcalls.ready_of_ne hne, fun hcooling => ⟨?_, ?_⟩⟩
    · rw [fetch_of_cooling hhost hcooling]
    · rw [fetch_of_cooling hhosts hcooling]

end

/-! ### A host in brackets -/

/-- An address with a user, a zone and a port, in letters of either case. -/
def scopedPage : String := " HTTP://Bot:Key@[FE80::1%Eth0]:8080/Jobs?page=1#Top"

/-- A crawler that leaves this host alone for a while. -/
def scopedCrawler : Crawler Int Unit :=
  ⟨0, true, ⟨5, []⟩, ⟨[300], [("fe80::1%eth0", 1)], [("fe80::1%eth0", 300)]⟩,
    some ⟨"job-corpus/0.1 (+contact)", 3600, true, []⟩, (), []⟩

/-- The rules of its origin are left alone like the page. -/
theorem rules_share_site_scoped :
    Address.IsAsciiWeb scopedPage ∧
      Address.origin scopedPage = .ok "http://bot:key@[fe80::1%eth0]:8080" ∧
      Address.host (Robots.rulesUrl "http://bot:key@[fe80::1%eth0]:8080") = .ok "fe80::1%eth0" ∧
      (scopedCrawler.fetch onceOnly emptyPage.always 0
        (Robots.rulesUrl "http://bot:key@[fe80::1%eth0]:8080")).2 = scopedCrawler := by
  have hurl : Address.IsAsciiWeb scopedPage := by
    have hall : scopedPage.toList.all (fun c => decide (c.toNat < 128)) = true := by decide
    exact ⟨fun c hc => of_decide_eq_true (List.all_eq_true.mp hall c hc), _, rfl, .inl rfl⟩
  obtain ⟨origin, host, horigin, hhost, -, hhosts, -, -, hfetch⟩ :=
    rules_share_site (τ := Int) (ω := Unit) hurl
  have horigin' : Address.origin scopedPage = .ok "http://bot:key@[fe80::1%eth0]:8080" := rfl
  have hhost' : Address.host scopedPage = .ok "fe80::1%eth0" := rfl
  obtain rfl := Except.ok.inj (horigin'.symm.trans horigin)
  obtain rfl := Except.ok.inj (hhost'.symm.trans hhost)
  obtain ⟨-, -, hcooling⟩ := hfetch scopedCrawler onceOnly emptyPage.always 0
  exact ⟨hurl, horigin, hhosts, (hcooling (by decide)).2⟩

end VacancyLedger.Crawl
