/-
When a cycle comes to a report.

Most of what can go wrong in a cycle is reported: a page that cannot be fetched or read, a
page of nothing but discarded adverts, a database that complains.  Two things are not.  The
markup of a description may be such that it cannot be read at all; and a text may have half of
a surrogate pair in it, so that it cannot be encoded, to be digested or to be written.  Then the
cycle crashes, for one advert among any number of good ones.  These are the only gaps: where the
tables are there and every number fits, a cycle comes to a report unless an advert is rejected
or a text on the page cannot be encoded.
-/
import VacancyLedger.Engine.Step
import VacancyLedger.Proofs.Engine.Cycle
import VacancyLedger.Proofs.Ledger.Faults
import VacancyLedger.Proofs.Ledger.FirstTrouble
import VacancyLedger.Proofs.Listing.Normalize
import VacancyLedger.Proofs.Listing.Page

namespace VacancyLedger

/-! ### Reports that can be recorded -/

namespace Ledger

theorem isStorable_of_le {a : Int} {n : Nat} (hn : isStorable n = true) (h : 0 ≤ a ∧ a ≤ n) :
    isStorable a = true := by
  simp only [isStorable, Number.fitsBits, Bool.and_eq_true, decide_eq_true_eq] at hn ⊢
  have hpos : (0 : Int) ≤ Int.ofNat (Number.twoTo 63) := Int.natCast_nonneg _
  omega

theorem isRecordable_of_le {report : CycleReport} {n : Nat} (hn : isStorable n = true)
    (hfetched : 0 ≤ report.fetched ∧ report.fetched ≤ n)
    (hdiscarded : 0 ≤ report.discarded ∧ report.discarded ≤ n) (hcounts : report.counts.Within n) :
    isRecordable report = true := by
  obtain ⟨hcreated, hrenewed, hreopened, hupdated, hclosed⟩ := hcounts
  simp only [isRecordable, reportNumbers, List.all_cons, List.all_nil, Bool.and_true,
    Bool.and_eq_true]
  exact ⟨isStorable_of_le hn hfetched, isStorable_of_le hn hdiscarded,
    isStorable_of_le hn hcreated, isStorable_of_le hn hrenewed, isStorable_of_le hn hreopened,
    isStorable_of_le hn hupdated, isStorable_of_le hn hclosed⟩

/-- There are no more rounds than stored keys and listings. -/
theorem roundCount_between_le (existing observed : List String) (page : Page) :
    roundCount (.between existing observed) page ≤ existing.length + page.length := by
  have hseen : (seenListings (.between existing observed) page).length ≤ page.length :=
    List.length_filter_le _ _
  have hgone : (Text.sorted (Difference.between existing observed).close).length
      ≤ existing.length :=
    Nat.le_trans (Text.length_sorted_le _) (Difference.length_close_between_le _ _)
  unfold roundCount
  omega

/-- The tables that recording writes to are there. -/
structure Tables.Recording (t : Tables) : Prop where
  companies : ∃ rows, t.companies = some rows
  cycles : ∃ cycles, t.cycles = some cycles

theorem Tables.Recording.of_othersKept {before after : Tables} (h : before.Recording)
    (hkept : before.OthersKept after) : after.Recording := by
  obtain ⟨⟨rows, hrows⟩, ⟨cycles, hcycles⟩⟩ := h
  exact ⟨⟨rows, hkept.companies.trans hrows⟩, ⟨cycles, hkept.cycles.trans hcycles⟩⟩

end Ledger

namespace Engine

variable {φ : Type} {e after : Engine φ} {fetcher : Fetcher φ} {source : Source}
  {now : Option Time.Stamp} {run : CycleRun}

/-! ### The only ways to crash -/

/-- Where postings can be read and the time can be written, applying a page does not crash. -/
theorem applyPage_reports {company : String} {page : Page} {outcome : CycleOutcome} {time : String}
    {table : Ledger.Numbered Posting} (hconnected : e.ledger.connected = true)
    (hpostings : e.ledger.view.postings = some table) (htime : e.cycleTime now = .ok time)
    (h : e.applyPage .none company page now = (outcome, after)) (crash : Crash) :
    outcome ≠ .crashed crash := by
  have hactive : (e.ledger.activePostingsUnder none company :
      Except (Ledger.Abort Empty) (List Posting)) = _ :=
    Ledger.activePostingsUnder_eq hconnected hpostings none company
  rcases hanswer : (e.ledger.applyUnder .none company (.between _ (Table.keys page)) page time :
      Except (Ledger.Abort Empty) Counts × Ledger) with ⟨answer, ledger⟩
  cases answer with
  | error abort =>
      obtain ⟨fault, rfl⟩ := Ledger.applyUnder_none_error hconnected hanswer
      cases h.symm.trans (applyPage_of_error hactive htime hanswer)
      exact CycleOutcome.noConfusion
  | ok counts =>
      cases h.symm.trans (applyPage_of_ok hactive htime hanswer)
      exact CycleOutcome.noConfusion

/-- Where the tables and the company are there, a page of which a listing cannot be encoded ends the
cycle with that. -/
theorem applyPage_torn {company : String} {page : Page} {outcome : CycleOutcome} {time : String}
    {table : Ledger.Numbered Posting} {rows : List Company} {n : Nat}
    {complaint : Text.Unencodable} (hconnected : e.ledger.connected = true)
    (hpostings : e.ledger.view.postings = some table)
    (hrows : e.ledger.view.companies = some rows) (hin : ∃ c ∈ rows, c.id = company)
    (htime : e.cycleTime now = .ok time) (hpage : page.Maps) (hn : n < 2 * page.length)
    (h : e.applyPage (Ledger.Trouble.none.refusing n complaint) company page now =
      (outcome, after)) : outcome = .crashed (.ledger (.unencodable complaint)) := by
  have hcount : ∀ existing : List String,
      n < Ledger.statementCount (.between existing (Table.keys page)) page := by
    intro existing
    rw [Ledger.statementCount, Ledger.seenListings_between]
    omega
  cases h.symm.trans (applyPage_of_error
    (Ledger.activePostingsUnder_eq hconnected hpostings none company) htime
    (Ledger.applyUnder_first hconnected hpostings hrows hin hpage
      (Ledger.first_refusing (hcount _) complaint)))
  rfl

/-- The crashes that the adverts of a page bring about: an advert is rejected, or a text on the page
cannot be encoded. -/
inductive Blames (adverts : List Advert) (base : String) : Crash → Prop
  | rejected {advert : Advert} {obstacle : Advert.Obstacle} (hin : advert ∈ adverts)
      (h : advert.listing base = .error (.obstacle obstacle)) :
      Blames adverts base (.advert obstacle)
  | torn {advert : Advert} {listing : Listing} {text : String} {complaint : Text.Unencodable}
      (hstands : Advert.Stands adverts base advert listing) (hin : text ∈ listing.texts)
      (h : advert.unencodable? text = some complaint) :
      Blames adverts base (.ledger (.unencodable complaint))

section

variable {time : String} {table : Ledger.Numbered Posting} {rows : List Company}

theorem Course.crash_of {crash : Crash} (hcourse : Course e .none fetcher source now run after)
    (hconnected : e.ledger.connected = true) (hpostings : e.ledger.view.postings = some table)
    (hrows : e.ledger.view.companies = some rows) (hin : ∃ c ∈ rows, c.id = source.company)
    (htime : e.cycleTime now = .ok time)
    (hfetch : ∀ crash, (fetcher e.now source e.memory).1 ≠ .crashed crash)
    (hcrash : run.outcome = .crashed crash) :
    ∃ adverts, e.adverts? fetcher source = some adverts ∧ Blames adverts source.base crash := by
  cases hcourse with
  | lost h => exact absurd h (hfetch _)
  | unfetched _ | unread _ _ | discarded _ _ _ => cases hcrash
  | rejected hread h =>
      cases hcrash
      obtain ⟨advert, hmem, hadvert⟩ := Advert.listings_error h
      exact ⟨_, hread, .rejected hmem hadvert⟩
  | torn hread h htear happly =>
      obtain ⟨⟨advert, listing, hstands, text, htext, hcomplaint⟩, hstatement⟩ :=
        Advert.pageTear?_eq_some htear
      cases hcrash.symm.trans (applyPage_torn (e := e.fetched fetcher source) hconnected hpostings
        hrows hin htime (Page.maps_ofListings _) (hstatement _ _ h) happly)
      exact ⟨_, hread, .torn hstands htext hcomplaint⟩
  | applied hread h hpage happly =>
      exact absurd hcrash
        (applyPage_reports (e := e.fetched fetcher source) hconnected hpostings htime happly crash)

/-- A cycle that reads an advert that is rejected, or a text that cannot be encoded, crashes. -/
theorem Course.crashes {adverts : List Advert}
    (hcourse : Course e .none fetcher source now run after)
    (hconnected : e.ledger.connected = true) (hpostings : e.ledger.view.postings = some table)
    (hrows : e.ledger.view.companies = some rows) (hin : ∃ c ∈ rows, c.id = source.company)
    (htime : e.cycleTime now = .ok time) (hread : e.adverts? fetcher source = some adverts)
    (hblamed : ¬((∀ advert ∈ adverts, ¬advert.IsRejected source.base) ∧
      Advert.AllEncode adverts source.base)) : ∃ crash, run.outcome = .crashed crash := by
  obtain ⟨page, hpage, hadverts⟩ := adverts?_some hread
  have hencode : ∀ {listings discarded},
      Advert.listings adverts source.base = .ok (listings, discarded) →
      ¬Advert.AllEncode adverts source.base := fun hlistings hall =>
    hblamed ⟨(Advert.listings_ok hlistings).1, hall⟩
  cases hcourse with
  | lost h => cases h.symm.trans hpage
  | unfetched h => cases h.symm.trans hpage
  | unread hpage' h =>
      obtain rfl := Crawl.FetchResult.page.inj (hpage.symm.trans hpage')
      cases h.symm.trans hadverts
  | rejected _ _ => exact ⟨_, rfl⟩
  | discarded hread' _ h =>
      obtain rfl := Option.some.inj (hread.symm.trans hread')
      refine absurd (fun advert listing hstands => ?_) (hencode h)
      -- No advert makes a listing, so there is none on the page.
      obtain ⟨before, later, rfl, hlisting, -⟩ := hstands
      have hnone := (Advert.listings_ok h).2.1
      rw [List.filterMap_append, List.filterMap_cons, hlisting] at hnone
      simp [Except.toOption] at hnone
  | torn hread' h htear happly =>
      exact ⟨_, applyPage_torn (e := e.fetched fetcher source) hconnected hpostings hrows hin htime
        (Page.maps_ofListings _) ((Advert.pageTear?_eq_some htear).2 _ _ h) happly⟩
  | applied hread' h hsees _ =>
      obtain rfl := Option.some.inj (hread.symm.trans hread')
      obtain ⟨adverts', -, -, hread', -, -, hwhole, -⟩ := page?_some hsees
      obtain rfl := Option.some.inj (hread.symm.trans hread')
      exact absurd (Advert.pageTear?_eq_none_iff.mp hwhole) (hencode h)

end

/-! ### Recording what a cycle has come to -/

/-- No number of a cycle is larger than there are postings and adverts. -/
theorem Course.within {trouble : Ledger.Trouble} {table : Ledger.Numbered Posting} {n : Nat}
    (hcourse : Course e trouble fetcher source now run after)
    (hpostings : e.ledger.view.postings = some table)
    (hn : ∀ adverts, e.adverts? fetcher source = some adverts →
      table.rows.length + adverts.length ≤ n) :
    run.fetched ≤ n ∧ run.discarded ≤ n ∧
      ∀ counts, run.outcome = .done counts → counts.Within n := by
  cases hcourse with
  | lost _ | unfetched _ | unread _ _ =>
      exact ⟨Nat.zero_le n, Nat.zero_le n, fun _ h => by cases h⟩
  | rejected hread _ =>
      have hle := hn _ hread
      exact ⟨by dsimp only; omega, Nat.zero_le n, fun _ h => by cases h⟩
  | discarded hread _ h =>
      have hle := hn _ hread
      have hlength := (Advert.listings_ok h).2.2
      exact ⟨by dsimp only; omega, by dsimp only; omega, fun _ h => by cases h⟩
  | torn hread h htear happly =>
      have hle := hn _ hread
      have hlength := (Advert.listings_ok h).2.2
      exact ⟨by dsimp only; omega, by dsimp only; omega,
        fun counts hdone => absurd hdone (not_done_of_torn h htear happly counts)⟩
  | applied hread h hpage happly =>
      have hle := hn _ hread
      have hlength := (Advert.listings_ok h).2.2
      refine ⟨by dsimp only; omega, by dsimp only; omega, fun counts hdone => ?_⟩
      cases hdone
      obtain ⟨active, time, ledger, hactive, -, hledger, -⟩ := applyPage_done happly
      obtain ⟨-, -, table', hpostings', rfl⟩ := Ledger.activePostingsUnder_ok hactive
      obtain rfl := Option.some.inj (hpostings.symm.trans hpostings')
      obtain ⟨-, t, hwrite, -⟩ := Ledger.applyUnder_ok hledger
      refine (Ledger.within_writeDifference hwrite).mono (Nat.le_trans ?_ hle)
      refine Nat.le_trans (Ledger.roundCount_between_le _ _ _) (Nat.add_le_add ?_ ?_)
      · rw [List.length_map]
        exact List.length_filter_le _ _
      · exact Nat.le_trans (Page.length_ofListings_le _) (by omega)

/-- The tables that recording writes to are there after the steps of a cycle. -/
theorem Course.recording {trouble : Ledger.Trouble}
    (hcourse : Course e trouble fetcher source now run after)
    (hview : e.ledger.view.Recording) (hcommitted : e.ledger.committed.Recording) :
    after.ledger.connected = e.ledger.connected ∧ after.ledger.view.Recording := by
  cases hcourse with
  | lost _ | unfetched _ | unread _ _ | rejected _ _ | discarded _ _ _ => exact ⟨rfl, hview⟩
  | torn hread h htear happly | applied hread h hpage happly =>
      rename_i outcome
      by_cases hdone : ∃ counts, outcome = .done counts
      · obtain ⟨counts, rfl⟩ := hdone
        obtain ⟨active, time, ledger, -, -, hledger, rfl⟩ := applyPage_done happly
        obtain ⟨-, t, hwrite, rfl⟩ := Ledger.applyUnder_ok hledger
        exact ⟨rfl, hview.of_othersKept (Ledger.othersKept_writeDifference hwrite)⟩
      · obtain ⟨ledger, hledger, rfl⟩ := applyPage_not_done happly fun counts h => hdone ⟨counts, h⟩
        rcases hledger with rfl | rfl
        · exact ⟨rfl, hview⟩
        · exact ⟨rfl, hcommitted⟩

theorem finish_ok {report : CycleReport} (hconnected : e.ledger.connected = true)
    (hview : e.ledger.view.Recording) (hrecordable : Ledger.isRecordable report = true) :
    (e.finish report).1 = .ok report := by
  obtain ⟨⟨rows, hrows⟩, ⟨cycles, hcycles⟩⟩ := hview
  unfold finish
  rw [Ledger.record_eq hconnected hrows hcycles, hrecordable]
  rfl

/-- The numbers of a report are those of the cycle. -/
theorem isRecordable_report {company : String} {report : CycleReport} {n : Nat}
    (hn : Ledger.isStorable n = true) (hfetched : run.fetched ≤ n) (hdiscarded : run.discarded ≤ n)
    (hcounts : ∀ counts, run.outcome = .done counts → counts.Within n)
    (h : e.report company run = .ok report) : Ledger.isRecordable report = true := by
  unfold Engine.report at h
  split at h
  · cases h
  · cases h
    exact Ledger.isRecordable_of_le hn ⟨Int.natCast_nonneg _, Int.ofNat_le.mpr hfetched⟩
      ⟨Int.natCast_nonneg _, Int.ofNat_le.mpr hdiscarded⟩
      (Ledger.within_zero.mono (Nat.zero_le n))
  · rename_i counts hdone
    cases h
    exact Ledger.isRecordable_of_le hn ⟨Int.natCast_nonneg _, Int.ofNat_le.mpr hfetched⟩
      ⟨Int.natCast_nonneg _, Int.ofNat_le.mpr hdiscarded⟩ (hcounts counts hdone)

/-- Where postings and adverts together are not too many, the numbers of a report can be stored,
whatever trouble the cycle has met. -/
theorem isRecordable_reported {trouble : Ledger.Trouble} {c : Company}
    {table : Ledger.Numbered Posting} {report : CycleReport}
    (hpostings : e.ledger.view.postings = some table)
    (hsize : ∀ adverts, e.adverts? fetcher c.source = some adverts →
      Ledger.isStorable (table.rows.length + adverts.length : Nat) = true)
    (h : e.reported trouble fetcher c now = (.ok report, after)) :
    Ledger.isRecordable report = true := by
  by_cases hclaimed : c.id ∈ e.inFlight
  · rw [reported_claimed trouble fetcher now hclaimed] at h
    cases h
    rfl
  · obtain ⟨run, hrun, hreport⟩ := reported_free hclaimed h
    -- Where no adverts were read there is nothing to count, and any bound will do.
    obtain ⟨n, hn, hle⟩ : ∃ n : Nat, Ledger.isStorable n = true ∧
        ∀ adverts, e.adverts? fetcher c.source = some adverts →
          table.rows.length + adverts.length ≤ n := by
      cases hadverts : e.adverts? fetcher c.source with
      | none => exact ⟨0, rfl, fun _ h => by cases h⟩
      | some adverts =>
          refine ⟨_, hsize adverts hadverts, fun adverts' h => ?_⟩
          obtain rfl := Option.some.inj h
          exact Nat.le_refl _
    obtain ⟨hfetched, hdiscarded, hcounts⟩ := (runClaimed_course hrun).within hpostings hle
    exact isRecordable_report hn hfetched hdiscarded hcounts hreport

/-- A report that a cycle comes to is recorded. -/
theorem runStored_reports {c : Company} {table : Ledger.Numbered Posting} {report : CycleReport}
    (hconnected : e.ledger.connected = true) (hpostings : e.ledger.view.postings = some table)
    (hview : e.ledger.view.Recording) (hcommitted : e.ledger.committed.Recording)
    (hsize : ∀ adverts, e.adverts? fetcher c.source = some adverts →
      Ledger.isStorable (table.rows.length + adverts.length : Nat) = true)
    (h : e.reported .none fetcher c now = (.ok report, after)) :
    (e.runStored .none fetcher c now).1 = .ok report := by
  have hrecordable := isRecordable_reported hpostings hsize h
  rw [runStored_eq, h]
  by_cases hclaimed : c.id ∈ e.inFlight
  · rw [reported_claimed .none fetcher now hclaimed] at h
    cases h
    exact finish_ok hconnected hview hrecordable
  · obtain ⟨run, hrun, -⟩ := reported_free hclaimed h
    obtain ⟨hconnected', hview'⟩ := (runClaimed_course hrun).recording hview hcommitted
    exact finish_ok (hconnected'.trans hconnected) hview' hrecordable

/-- What a cycle that is free has come to is reported, unless it has crashed. -/
theorem reported_crashed {c : Company} {result : Except Crash CycleReport}
    (hfree : c.id ∉ e.inFlight) (h : e.reported .none fetcher c now = (result, after)) :
    ∃ run, Course (e.claimed c.id) .none fetcher c.source now run after ∧
      ∀ crash, result = .error crash ↔ run.outcome = .crashed crash := by
  obtain ⟨run, hrun, hreport⟩ := reported_free hfree h
  refine ⟨run, runClaimed_course hrun, fun crash => ?_⟩
  rw [← hreport, Engine.report]
  cases run.outcome with
  | crashed other => simp
  | failed failure => simp
  | done counts => simp

section

variable {c : Company} {table : Ledger.Numbered Posting} {rows : List Company} {time : String}

/-- A cycle crashes only if it was claimed, and because of an advert. -/
theorem reported_crash {crash : Crash} (hconnected : e.ledger.connected = true)
    (hpostings : e.ledger.view.postings = some table)
    (hrows : e.ledger.view.companies = some rows) (hin : c ∈ rows)
    (htime : e.cycleTime now = .ok time)
    (hfetch : ∀ crash, (fetcher e.now c.source e.memory).1 ≠ .crashed crash)
    (h : e.reported .none fetcher c now = (.error crash, after)) :
    c.id ∉ e.inFlight ∧
      ∃ adverts, e.adverts? fetcher c.source = some adverts ∧
        Blames adverts c.source.base crash := by
  by_cases hclaimed : c.id ∈ e.inFlight
  · rw [reported_claimed .none fetcher now hclaimed] at h
    cases h
  · obtain ⟨run, hcourse, hcrashed⟩ := reported_crashed hclaimed h
    exact ⟨hclaimed, hcourse.crash_of hconnected hpostings hrows ⟨c, hin, rfl⟩ htime hfetch
      ((hcrashed crash).mp rfl)⟩

/-- A cycle that was claimed and comes to a report has read no advert that makes it crash. -/
theorem reported_read {report : CycleReport} {adverts : List Advert}
    (hconnected : e.ledger.connected = true) (hpostings : e.ledger.view.postings = some table)
    (hrows : e.ledger.view.companies = some rows) (hin : c ∈ rows)
    (htime : e.cycleTime now = .ok time) (hfree : c.id ∉ e.inFlight)
    (h : e.reported .none fetcher c now = (.ok report, after))
    (hadverts : e.adverts? fetcher c.source = some adverts) :
    (∀ advert ∈ adverts, ¬advert.IsRejected c.source.base) ∧
      Advert.AllEncode adverts c.source.base := by
  by_contra hblamed
  obtain ⟨run, hcourse, hcrashed⟩ := reported_crashed hfree h
  obtain ⟨crash, hcrash⟩ :=
    hcourse.crashes hconnected hpostings hrows ⟨c, hin, rfl⟩ htime hadverts hblamed
  cases (hcrashed crash).mpr hcrash

theorem Blames.refutes {adverts : List Advert} {base : String} {crash : Crash}
    (h : Blames adverts base crash) :
    ¬((∀ advert ∈ adverts, ¬advert.IsRejected base) ∧ Advert.AllEncode adverts base) := by
  rintro ⟨haccepted, hencode⟩
  cases h with
  | rejected hin hadvert => exact haccepted _ hin ⟨_, hadvert⟩
  | torn hstands hin hcomplaint => cases (hencode _ _ hstands _ hin).symm.trans hcomplaint

end

/-! ### The gaps -/

/-- A company whose page is a plain feed. -/
def feedSource : Source where
  company := "acme"
  name := "Acme Corp"
  ticker := none
  fetchUrl := "https://acme.example/careers"
  baseUrl := none
  extractor := "json_feed"
  enabled := true

/-- A feed of two vacancies; the description of the second is a marked section of no known kind. -/
def rejectedFeed : String :=
  "[\x7b\"title\":\"Engineer\",\"url\":\"/jobs/1\"\x7d," ++
    "\x7b\"title\":\"Writer\",\"url\":\"/jobs/2\",\"description\":\"<![foo]>\"\x7d]"

/-- An advert whose description is a marked section of no known kind. -/
def rejectedAdvert : Advert :=
  ⟨some "Writer", none, none, some "<![foo]>", some "https://acme.example/jobs/2", none⟩

/-- Whether a cycle has crashed because the markup of an advert was rejected. -/
def isRejection (result : Except Crash CycleReport) : Bool :=
  match result with
  | .error (.advert (.markup _)) => true
  | _ => false

theorem isRejection_iff {result : Except Crash CycleReport} :
    isRejection result = true ↔ ∃ rejection, result = .error (.advert (.markup rejection)) := by
  unfold isRejection
  split <;> simp_all

/-- An engine that knows a company and serves the feed for it. -/
def feedEngine : Engine Feeds :=
  (Engine.start ⟨0⟩ 20 []).run
    [.enter feedSource, .feed "acme" (Feeds.page feedSource.fetchUrl rejectedFeed)]

/--
**A cycle comes to a report unless an advert is rejected or a text cannot be encoded.**  If it
does not, that is what it crashes with: the markup of an advert that cannot be read, or half of a
surrogate pair in a text that is to be digested or stands on the page.  An advert that is merely
discarded is counted and has no other effect.
-/
theorem report_iff (e : Engine φ) (fetcher : Fetcher φ) (c : Company) (now : Option Time.Stamp)
    {table : Ledger.Numbered Posting} {time : String}
    (hstored : e.ledger.company? c.id = .ok (some c))
    (hpostings : e.ledger.view.postings = some table) (hview : e.ledger.view.Recording)
    (hcommitted : e.ledger.committed.Recording)
    (hfetch : ∀ crash, (fetcher e.now c.source e.memory).1 ≠ .crashed crash)
    (htime : e.cycleTime now = .ok time)
    (hsize : ∀ adverts, e.adverts? fetcher c.source = some adverts →
      Ledger.isStorable (table.rows.length + adverts.length : Nat) = true) :
    ((∃ report, (e.runCycle fetcher c.id now).1 = .ok report) ↔
      c.id ∈ e.inFlight ∨ ∀ adverts, e.adverts? fetcher c.source = some adverts →
        (∀ advert ∈ adverts, ¬advert.IsRejected c.source.base) ∧
          Advert.AllEncode adverts c.source.base) ∧
    (∀ crash, (e.runCycle fetcher c.id now).1 = .error crash →
      ∃ adverts, e.adverts? fetcher c.source = some adverts ∧
        Blames adverts c.source.base crash) ∧
    ∀ before advert rest, advert.IsDiscarded c.source.base →
      Advert.listings (before ++ advert :: rest) c.source.base =
          (Advert.listings (before ++ rest) c.source.base).map (fun r => (r.1, r.2 + 1)) ∧
        Advert.pageTear? (before ++ advert :: rest) c.source.base =
          Advert.pageTear? (before ++ rest) c.source.base := by
  obtain ⟨hconnected, -, rows, hrows, hin⟩ := company?_ok hstored
  have hstart : e.runCycle fetcher c.id now = e.runStored .none fetcher c now := by
    rw [runCycle, runCycleUnder, hstored]
  rw [hstart]
  refine ⟨?_, ?_, fun before advert rest h =>
    ⟨Advert.listings_discarded before rest h, Advert.pageTear?_discarded before rest h⟩⟩
  · rcases hreported : e.reported .none fetcher c now with ⟨crash | report, after⟩
    · obtain ⟨hfree, adverts, hadverts, hblames⟩ :=
        reported_crash hconnected hpostings hrows hin htime hfetch hreported
      have hcrashed : (e.runStored .none fetcher c now).1 = .error crash := by
        rw [runStored_eq, hreported]
      refine iff_of_false ?_ ?_
      · rintro ⟨report, hreport⟩
        cases hcrashed.symm.trans hreport
      · rintro (hclaimed | hread)
        · exact hfree hclaimed
        · exact hblames.refutes (hread adverts hadverts)
    · refine iff_of_true ⟨report,
        runStored_reports hconnected hpostings hview hcommitted hsize hreported⟩ ?_
      by_cases hclaimed : c.id ∈ e.inFlight
      · exact Or.inl hclaimed
      · exact Or.inr fun adverts hadverts =>
          reported_read hconnected hpostings hrows hin htime hclaimed hreported hadverts
  · intro crash hcrash
    rcases hreported : e.reported .none fetcher c now with ⟨crash' | report, after⟩
    · rw [runStored_eq, hreported] at hcrash
      cases hcrash
      exact (reported_crash hconnected hpostings hrows hin htime hfetch hreported).2
    · have hreports := runStored_reports hconnected hpostings hview hcommitted hsize hreported
      cases hcrash.symm.trans hreports

/-- One advert whose markup is rejected keeps the cycle from coming to a report. -/
theorem report_iff_rejected :
    ¬ ∃ report, ((sampleEngine [rejectedAdvert]).runCycle sampleFetcher "acme" none).1 =
      .ok report := by
  have hread : (sampleEngine [rejectedAdvert]).adverts? sampleFetcher
      (Ledger.bareCompany "acme").source = some [rejectedAdvert] := rfl
  have hsize : ∀ adverts, (sampleEngine [rejectedAdvert]).adverts? sampleFetcher
      (Ledger.bareCompany "acme").source = some adverts →
      Ledger.isStorable (Ledger.sampleTable.rows.length + adverts.length : Nat) = true := by
    intro adverts h
    obtain rfl := Option.some.inj (hread.symm.trans h)
    decide +kernel
  have hreports := report_iff (sampleEngine [rejectedAdvert]) sampleFetcher
    (Ledger.bareCompany "acme") none rfl rfl ⟨⟨_, rfl⟩, ⟨_, rfl⟩⟩ ⟨⟨_, rfl⟩, ⟨_, rfl⟩⟩
    (fun _ h => by cases h) rfl hsize
  intro hreport
  rcases hreports.1.mp hreport with hclaimed | haccepted
  · cases hclaimed
  · exact (haccepted _ hread).1 _ List.mem_cons_self ⟨_, rfl⟩

/-- A feed of one vacancy, with half of a surrogate pair in its title. -/
def tornFeed : String := "[\x7b\"title\":\"Engineer \\ud800\",\"url\":\"/jobs/1\"\x7d]"

example :
    (((Engine.start ⟨0⟩ 20 []).run
        [.enter feedSource, .feed "acme" (Feeds.page feedSource.fetchUrl tornFeed)]).runCycle
      Feeds.fetcher "acme" none).1.mapError (fun crash => (crash.name, crash.message)) =
      .error ("UnicodeEncodeError",
        "'utf-8' codec can't encode character '\\ud800' in position 9: surrogates not allowed") := by
  decide +kernel

/-- A known company, all tables there, and a body that the fetcher may return: the cycle crashes. -/
theorem cycle_crashes_on_marked_section :
    (∃ c, feedEngine.ledger.company? "acme" = .ok (some c)) ∧
      (∃ cycles, feedEngine.ledger.view.cycles = some cycles) ∧
      (∃ table, feedEngine.ledger.view.postings = some table) ∧
      ∃ rejection, (feedEngine.runCycle Feeds.fetcher "acme" none).1 =
        .error (.advert (.markup rejection)) :=
  ⟨⟨_, rfl⟩, ⟨_, rfl⟩, ⟨_, rfl⟩, isRejection_iff.mp (by decide +kernel)⟩

end Engine
end VacancyLedger
