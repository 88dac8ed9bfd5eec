/-
What readers are told, and what they are not.

A search answers with postings or complains of what was asked for: of a query or a time that
cannot be read, or of a limit below one.  A posting is shown if it is there, and said to be
unknown if it is not.  The service has a reply for each of these.

There are two gaps.  A time that can be read may lie beyond the calendar once its distance from
universal time is taken off, as in the first or the last hours of the calendar; and a number may
be beyond those a table can have.  Neither is said to be wrong in a way that the service has a
reply for, so it replies that something went wrong inside.  The main statement is that these
are the only two.
-/
import VacancyLedger.Proofs.Engine.Search
import VacancyLedger.Proofs.Outcome
import VacancyLedger.Service.Basic

namespace VacancyLedger

/-! ### Times beyond the calendar -/

namespace Time

/-- Whether a text is that of a point in time before the first day of the calendar or after the
last. -/
def IsBeyondCalendar (text : String) : Prop :=
  text ≠ "" ∧ ∃ stamp, Iso.parse? text = some stamp ∧
    ¬(0 ≤ stamp.microseconds ∧ stamp.microseconds < day * dayCount)

/-- Whether a text is that of no point in time. -/
def IsUnreadable (text : String) : Prop := text ≠ "" ∧ Iso.parse? text = none

theorem IsUnreadable.not_beyond {text : String} (h : IsUnreadable text) :
    ¬IsBeyondCalendar text := by
  rintro ⟨-, stamp, hstamp, -⟩
  cases h.2.symm.trans hstamp

theorem since?_cases (text : String) :
    (∃ time, since? text = .ok time) ∧ ¬IsBeyondCalendar text ∨
    since? text = .error (.unreadable text) ∧ IsUnreadable text ∨
    since? text = .error .outOfRange ∧ IsBeyondCalendar text := by
  unfold since?
  by_cases hempty : text = ""
  · exact .inl ⟨⟨none, by simp [hempty]⟩, fun h => h.1 hempty⟩
  · have hsome : text.isEmpty = false := by simpa using hempty
    simp only [hsome]
    cases hstamp : Iso.parse? text with
    | none => exact .inr (.inl ⟨rfl, hempty, hstamp⟩)
    | some stamp =>
        by_cases hrange : 0 ≤ stamp.microseconds ∧ stamp.microseconds < day * dayCount
        · have hinstant : stamp.instant? = some ⟨stamp.microseconds.toNat⟩ := if_pos hrange
          refine .inl ⟨⟨some (Instant.text ⟨stamp.microseconds.toNat⟩),
            by simp [Stamp.since?, hinstant]⟩, ?_⟩
          rintro ⟨-, other, hother, hbeyond⟩
          exact hbeyond (Option.some.inj (hstamp.symm.trans hother) ▸ hrange)
        · have hinstant : stamp.instant? = none := if_neg hrange
          exact .inr (.inr ⟨by simp [Stamp.since?, hinstant], hempty, stamp, hstamp, hrange⟩)

end Time

/-- Whether a search is for a time beyond the calendar. -/
def SearchRequest.IsBeyondCalendar (r : SearchRequest) : Prop :=
  ∃ text, r.since = some text ∧ Time.IsBeyondCalendar text

/-! ### What the engine answers -/

namespace Engine

variable {φ : Type} {e : Engine φ} {table : Ledger.Numbered Posting}

/-- What a search can come to. -/
inductive Searched (e : Engine φ) (r : SearchRequest) : Except SearchError (List Posting) → Prop
  | unreadable {fault : Query.Error} (hquery : Query.parse (r.query.getD "") = .error fault) :
      Searched e r (.error (.query fault))
  | unreadableSince {text : String} (hsince : r.since = some text)
      (hunread : Time.IsUnreadable text) :
      Searched e r (.error (.since (.unreadable text)))
  | beyond {query : Query} (hquery : Query.parse (r.query.getD "") = .ok query)
      (hbeyond : r.IsBeyondCalendar) : Searched e r (.error (.since .outOfRange))
  | limit (hlimit : r.limit.getD e.searchLimit < 1) (hwithin : ¬r.IsBeyondCalendar) :
      Searched e r (.error .limit)
  | found {found : List Posting} (hwithin : ¬r.IsBeyondCalendar) : Searched e r (.ok found)

theorem search_searched (hpostings : e.ledger.committed.postings = some table)
    (r : SearchRequest) : Searched e r (e.search r) := by
  cases hquery : Query.parse (r.query.getD "") with
  | error fault =>
      rw [search, (search_shows e r _).1 fault hquery]
      exact .unreadable hquery
  | ok query =>
      -- Once the time is read only the limit can be wrong: the postings are there.
      have hrest : ∀ time, Time.Since.resolve? (r.since.map .text) = .ok time →
          ¬r.IsBeyondCalendar → Searched e r (e.search r) := by
        intro time htime hwithin
        have hrows : e.ledger.committedPostings = .ok table.rows := by
          rw [Ledger.committedPostings, hpostings]
          rfl
        simp only [search, searchSince, hquery, htime, Ledger.search, hrows, ok_mapError, bind,
          Except.bind]
        split
        · rename_i hlimit
          exact .limit hlimit hwithin
        · exact .found hwithin
      cases hsince : r.since with
      | none =>
          refine hrest none (by rw [hsince]; rfl) ?_
          rintro ⟨text, htext, -⟩
          cases hsince.symm.trans htext
      | some text =>
          have hresolve : Time.Since.resolve? (r.since.map .text) = Time.since? text := by
            rw [hsince]
            rfl
          have hbeyond : r.IsBeyondCalendar ↔ Time.IsBeyondCalendar text := by
            refine ⟨?_, fun h => ⟨text, hsince, h⟩⟩
            rintro ⟨other, hother, h⟩
            exact Option.some.inj (hsince.symm.trans hother) ▸ h
          rcases Time.since?_cases text with ⟨⟨time, htime⟩, hwithin⟩ | ⟨hfault, hunread⟩ | ⟨hfault, h⟩
          · exact hrest time (hresolve.trans htime) (hbeyond.not.mpr hwithin)
          · simp only [search, searchSince, hquery, hresolve, hfault, ok_mapError,
              error_mapError, bind, Except.bind]
            exact .unreadableSince hsince hunread
          · simp only [search, searchSince, hquery, hresolve, hfault, ok_mapError,
              error_mapError, bind, Except.bind]
            exact .beyond hquery (hbeyond.mpr h)

/-- A search complains of what was asked for, unless it is for a time beyond the calendar. -/
theorem search_complains_iff (hpostings : e.ledger.committed.postings = some table)
    (r : SearchRequest) :
    ((∃ found, e.search r = .ok found) ∨
      ∃ error, e.search r = .error error ∧ error.name ∈ ["ParseError", "ValueError"]) ↔
    ¬((∃ query, Query.parse (r.query.getD "") = .ok query) ∧ r.IsBeyondCalendar) := by
  have hsearched := search_searched hpostings r
  generalize e.search r = result at hsearched ⊢
  cases hsearched with
  | unreadable hquery =>
      refine iff_of_true (.inr ⟨_, rfl, List.mem_cons_self⟩) ?_
      rintro ⟨⟨query, hread⟩, -⟩
      cases hquery.symm.trans hread
  | @unreadableSince text hsince hunread =>
      refine iff_of_true (.inr ⟨_, rfl, by simp [SearchError.name, Time.SinceError.name]⟩) ?_
      rintro ⟨-, other, hother, hbeyond⟩
      obtain rfl := Option.some.inj (hsince.symm.trans hother)
      exact hunread.not_beyond hbeyond
  | beyond hquery hbeyond =>
      refine iff_of_false ?_ fun h => h ⟨⟨_, hquery⟩, hbeyond⟩
      rintro (⟨found, h⟩ | ⟨error, h, hname⟩)
      · cases h
      · cases h
        simp [SearchError.name, Time.SinceError.name] at hname
  | limit _ hwithin =>
      exact iff_of_true (.inr ⟨_, rfl, by simp [SearchError.name]⟩) fun h => hwithin h.2
  | found hwithin => exact iff_of_true (.inl ⟨_, rfl⟩) fun h => hwithin h.2

/-- The posting with a number is shown, or it is not known; but only numbers that a table can have
are looked up. -/
theorem posting_cases (hpostings : e.ledger.committed.postings = some table) (id : Int) :
    if Ledger.isStorable id then
      (∃ p ∈ table.rows, (p.id : Int) = id ∧ e.posting id = .ok p) ∨
        (∀ p ∈ table.rows, (p.id : Int) ≠ id) ∧ e.posting id = .error (.unknown id)
    else e.posting id = .error (.ledger .integerTooLarge) := by
  have hlookup : e.ledger.posting? id =
      if Ledger.isStorable id then .ok (table.rows.find? fun p => (p.id : Int) == id)
      else .error .integerTooLarge := by
    rw [Ledger.posting?, Ledger.committedPostings, hpostings]
    cases Ledger.isStorable id <;> rfl
  unfold posting
  by_cases hstorable : Ledger.isStorable id = true
  · rw [hlookup, if_pos hstorable, if_pos hstorable]
    cases hfound : table.rows.find? fun p => (p.id : Int) == id with
    | none =>
        refine .inr ⟨fun p hin heq => ?_, rfl⟩
        exact absurd (List.find?_eq_none.mp hfound p hin) (by simp [heq])
    | some p =>
        exact .inl ⟨p, List.mem_of_find?_eq_some hfound, by simpa using List.find?_some hfound, rfl⟩
  · rw [hlookup, if_neg hstorable, if_neg hstorable]
    rfl

end Engine

/-! ### Parameters of a request -/

namespace Config

theorem Checked.apply_ok {α β : Type} {f : Checked (α → β)} {x : Checked α} {b : β}
    (h : Checked.apply f x = .ok b) : ∃ g a, f = .ok g ∧ x = .ok a ∧ g a = b := by
  unfold Checked.apply at h
  split at h
  · exact ⟨_, _, rfl, rfl, Except.ok.inj h⟩
  · cases h
  · cases h
  · cases h

/-- A field has the value that it is read to have, or its own. -/
theorem withDefault_ok {α : Type} {object : Json} {name : String} {default a : α}
    {read : Json → Except Fault α} (h : withDefault object name default read = .ok a) :
    (∃ value, read value = .ok a) ∨ a = default := by
  unfold withDefault at h
  split at h
  · exact .inl ⟨_, mapError_ok h⟩
  · exact .inr (Except.ok.inj h).symm

theorem le_of_intWithin {least most n : Int} {value : Json}
    (h : intWithin least most value = .ok n) : least ≤ n := by
  obtain ⟨m, -, h⟩ := bind_ok h
  dsimp only at h
  split at h
  · cases h
  · split at h
    · cases h
    · cases h
      omega

end Config

/-! ### What the service replies -/

namespace Service

variable {φ : Type} {s : Service φ} {r : Request} {table : Ledger.Numbered Posting}

/-- A limit that a visitor sets is at least one. -/
theorem limit_of_searchRequest {wanted : SearchRequest} {n : Int}
    (h : searchRequest r = .ok wanted) (hlimit : wanted.limit = some n) : 1 ≤ n := by
  obtain ⟨complete, limit, hcomplete, hread, rfl⟩ := Config.Checked.apply_ok h
  obtain ⟨active, -, rfl⟩ := map_ok hcomplete
  have hset : limit = some n := hlimit
  rcases Config.withDefault_ok hread with ⟨value, hvalue⟩ | hnone
  · obtain ⟨m, hm, hsome⟩ := map_ok hvalue
    obtain rfl := Option.some.inj (hsome.trans hset)
    exact Config.le_of_intWithin hm
  · cases hset.symm.trans hnone

/-- A request is replied to by what comes of it, or is said to have gone wrong inside. -/
theorem answer_status (s : Service φ) (r : Request) (name : String) :
    (s.answer r name).1.status =
      ((s.outcome (Routing.of r.method r.path) r).1.getD (.crashed name)).status := by
  unfold answer Reply.forMethod
  simp only
  split <;> rfl

/-- Whether a request searches for a time beyond the calendar, by a query that can be read. -/
def SearchesBeyondCalendar (r : Request) : Prop :=
  ∃ wanted query, searchRequest r = .ok wanted ∧ Query.parse (wanted.query.getD "") = .ok query ∧
    wanted.IsBeyondCalendar

/-- A search is replied to, unless it is for a time beyond the calendar. -/
theorem search_cases (hpostings : s.engine.ledger.committed.postings = some table)
    (hlimit : 0 < s.engine.searchLimit) (r : Request) :
    (¬SearchesBeyondCalendar r ∧ ∃ reply, s.search r = some reply ∧ reply.status ∈ [200, 400, 422]) ∨
      SearchesBeyondCalendar r ∧ s.search r = none := by
  unfold search
  cases hwanted : searchRequest r with
  | error problems =>
      refine .inl ⟨?_, _, rfl, by simp [Reply.invalid, Reply.refused]⟩
      rintro ⟨wanted, query, h, -⟩
      cases hwanted.symm.trans h
  | ok wanted =>
      have honly : ∀ {reply : Reply}, ¬((∃ query, Query.parse (wanted.query.getD "") = .ok query) ∧
          wanted.IsBeyondCalendar) → reply.status ∈ [200, 400, 422] →
          ¬SearchesBeyondCalendar r ∧ ∃ reply', some reply = some reply' ∧
            reply'.status ∈ [200, 400, 422] := by
        intro reply hnot hstatus
        refine ⟨?_, _, rfl, hstatus⟩
        rintro ⟨other, query, hother, hquery, hbeyond⟩
        obtain rfl := Except.ok.inj (hwanted.symm.trans hother)
        exact hnot ⟨⟨query, hquery⟩, hbeyond⟩
      by_cases hunread : hasUnreadableSince wanted = true
      · simp only [hunread, if_true]
        refine .inl (honly ?_ (by simp [Reply.unreadableSince, Reply.refused]))
        rintro ⟨-, text, hsince, -, stamp, hstamp, -⟩
        simp [hasUnreadableSince, hsince, hstamp] at hunread
      · simp only [hunread]
        have hsearched := Engine.search_searched hpostings wanted
        generalize s.engine.search wanted = result at hsearched
        cases hsearched with
        | unreadable hquery =>
            refine .inl (honly ?_ (by simp [Reply.unreadableQuery, Reply.refused]))
            rintro ⟨⟨query, hread⟩, -⟩
            cases hquery.symm.trans hread
        | unreadableSince hsince hfault =>
            -- Such a time was found unreadable before the search.
            exact absurd (by simp [hasUnreadableSince, hsince, hfault.1, hfault.2]) hunread
        | beyond hquery hbeyond => exact .inr ⟨⟨wanted, _, hwanted, hquery, hbeyond⟩, rfl⟩
        | limit hbelow _ =>
            exfalso
            cases hset : wanted.limit with
            | none =>
                rw [hset] at hbelow
                simp only [Option.getD_none] at hbelow
                omega
            | some n =>
                have := limit_of_searchRequest hwanted hset
                rw [hset, Option.getD_some] at hbelow
                omega
        | found hwithin =>
            exact .inl (honly (fun h => hwithin h.2) (by simp [Reply.shown]))

/-- Whether the number of a posting is an integer that no table can have. -/
def NamesBeyondTable (number : String) : Prop :=
  ∃ id, Config.intOfText number = .ok id ∧ Ledger.isStorable id = false

/-- A posting is shown or the visitor is told why not, unless its number is beyond a table. -/
theorem posting_replies (hpostings : s.engine.ledger.committed.postings = some table)
    (number : String) :
    (¬NamesBeyondTable number ∧
      ∃ reply, s.posting number = some reply ∧ reply.status ∈ [200, 404, 422]) ∨
      NamesBeyondTable number ∧ s.posting number = none := by
  unfold posting NamesBeyondTable
  cases hid : Config.intOfText number with
  | error fault =>
      exact .inl ⟨by simp, _, rfl, by simp [Reply.invalid, Reply.refused]⟩
  | ok id =>
      have hlooked := Engine.posting_cases hpostings id
      simp only [Config.under, ok_mapError]
      cases hstorable : Ledger.isStorable id with
      | true =>
          rw [if_pos hstorable] at hlooked
          refine .inl ⟨by simp [hstorable], ?_⟩
          rcases hlooked with ⟨p, -, -, hfound⟩ | ⟨-, hunknown⟩
          · rw [hfound]
            exact ⟨_, rfl, by simp [Reply.shown]⟩
          · rw [hunknown]
            exact ⟨_, rfl, by simp [Reply.unknownPosting, Reply.refused]⟩
      | false =>
          rw [if_neg (by simp [hstorable])] at hlooked
          rw [hlooked]
          exact .inr ⟨⟨id, rfl, hstorable⟩, rfl⟩

/--
**Readers are answered, or told what is wrong with what they asked for, unless they search since a
time beyond the calendar or ask for a posting by a number beyond any table.**  In these cases, and
in no others, the service replies that something went wrong inside.
-/
theorem reads_answered (s : Service φ)
    (hpostings : s.engine.ledger.committed.postings = some table)
    (hlimit : 0 < s.engine.searchLimit) :
    (∀ r : SearchRequest,
      ((∃ found, s.engine.search r = .ok found) ∨
        ∃ error, s.engine.search r = .error error ∧ error.name ∈ ["ParseError", "ValueError"]) ↔
      ¬((∃ query, Query.parse (r.query.getD "") = .ok query) ∧ r.IsBeyondCalendar)) ∧
    (∀ id : Int,
      if Ledger.isStorable id then
        (∃ p ∈ table.rows, (p.id : Int) = id ∧ s.engine.posting id = .ok p) ∨
          (∀ p ∈ table.rows, (p.id : Int) ≠ id) ∧ s.engine.posting id = .error (.unknown id)
      else s.engine.posting id = .error (.ledger .integerTooLarge)) ∧
    (∀ r name part, Routing.of r.method r.path = .found .postings part →
      ((s.answer r name).1.status = 500 ↔ SearchesBeyondCalendar r)) ∧
    ∀ r name number, Routing.of r.method r.path = .found .posting number →
      ((s.answer r name).1.status = 500 ↔ NamesBeyondTable number) := by
  refine ⟨Engine.search_complains_iff hpostings, Engine.posting_cases hpostings, ?_, ?_⟩
  · intro r name part hrouting
    rw [answer_status, hrouting]
    show ((s.search r).getD (.crashed name)).status = 500 ↔ _
    rcases search_cases hpostings hlimit r with ⟨hnot, reply, hreply, hstatus⟩ | ⟨hbeyond, hnone⟩
    · rw [hreply, Option.getD_some]
      refine iff_of_false ?_ hnot
      rintro hcrashed
      simp [hcrashed] at hstatus
    · rw [hnone]
      exact iff_of_true rfl hbeyond
  · intro r name number hrouting
    rw [answer_status, hrouting]
    show ((s.posting number).getD (.crashed name)).status = 500 ↔ _
    rcases posting_replies hpostings number with ⟨hnot, reply, hreply, hstatus⟩ | ⟨hbeyond, hnone⟩
    · rw [hreply, Option.getD_some]
      refine iff_of_false ?_ hnot
      rintro hcrashed
      simp [hcrashed] at hstatus
    · rw [hnone]
      exact iff_of_true rfl hbeyond

/-- A service on an engine with three postings. -/
def searchedService : Service Unit :=
  ⟨Engine.searchedEngine, fun _ _ memory => (.crashed .noSteps, memory), 1⟩

/-- A request for the posting with a number. -/
def seeingPosting (number : String) : Request :=
  ⟨"GET", ⟨"http".toList, [], "localhost".toList, none, "/postings/".toList ++ number.toList, none,
    none⟩, []⟩

/-- The greatest number that is looked up is replied to, and one more is not; a search since an hour
before the calendar comes to neither a list nor a complaint. -/
theorem reads_answered_edges :
    (searchedService.answer (seeingPosting "9223372036854775807") "OverflowError").1.status ≠ 500 ∧
    (searchedService.answer (seeingPosting "9223372036854775808") "OverflowError").1.status = 500 ∧
    ¬∃ found, searchedService.engine.search
      ⟨none, none, none, some "0001-01-01T00:00:00+01:00", none⟩ = .ok found := by
  obtain ⟨hsearches, -, -, hlookups⟩ := reads_answered searchedService rfl (by decide)
  refine ⟨fun hcrashed => ?_, ?_, fun hfound => ?_⟩
  · have hpath : (seeingPosting "9223372036854775807").path =
        "/postings/9223372036854775807".toList := by decide +kernel
    obtain ⟨id, hid, hbeyond⟩ :=
      (hlookups _ "OverflowError" "9223372036854775807" (by rw [hpath]; rfl)).mp hcrashed
    have hread : Config.intOfText "9223372036854775807" = .ok 9223372036854775807 := rfl
    obtain rfl := Except.ok.inj (hread.symm.trans hid)
    exact absurd hbeyond (by decide)
  · have hpath : (seeingPosting "9223372036854775808").path =
        "/postings/9223372036854775808".toList := by decide +kernel
    exact (hlookups _ "OverflowError" "9223372036854775808" (by rw [hpath]; rfl)).mpr
      ⟨9223372036854775808, rfl, rfl⟩
  · exact (hsearches _).mp (.inl hfound) ⟨⟨⟨none, []⟩, rfl⟩, "0001-01-01T00:00:00+01:00", rfl,
      by decide, ⟨⟨1, 1, 1⟩, 0, 0, 0, 0, some 3600000000⟩, rfl, by decide⟩

/-- A search and a look-up that fail otherwise than by a complaint of what was asked for, or by the
posting being unknown. -/
theorem reads_fail_beyond :
    Engine.searchedEngine.search ⟨none, none, none, some "0001-01-01T00:00:00+01:00", none⟩ =
      .error (.since .outOfRange) ∧
    (SearchError.since .outOfRange).name = "OverflowError" ∧
    Engine.searchedEngine.posting 9223372036854775808 = .error (.ledger .integerTooLarge) ∧
    (LookupError.ledger .integerTooLarge).name = "OverflowError" :=
  ⟨rfl, rfl, rfl, rfl⟩

end Service
end VacancyLedger
