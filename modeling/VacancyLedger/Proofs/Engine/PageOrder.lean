/-
From the order of a page to the table.

A cycle that ends well has read adverts, made listings of those it did not discard, put these
on a page and applied the page; nothing that it does afterwards touches the postings.  So the
table after the cycle is the table before it with that page applied, whatever trouble the
database could have given, and what is known of applying a page is known of the cycle.
-/
import VacancyLedger.Proofs.Engine.Sightings
import VacancyLedger.Proofs.Ledger.PageOrder
import VacancyLedger.Proofs.Listing.Identity

namespace VacancyLedger.Engine

variable {φ : Type} {e : Engine φ} {trouble : Ledger.Trouble} {fetcher : Fetcher φ}
  {company : String} {now : Option Time.Stamp} {report : CycleReport}

/-- The listings that adverts make; what is discarded makes none. -/
def listingsOf (adverts : List Advert) (base : String) : List Listing :=
  adverts.filterMap fun advert => (advert.listing base).toOption

theorem finish_reports {said : CycleReport} (h : (e.finish said).1 = .ok report) :
    said = report := by
  unfold finish at h
  split at h
  · cases h
  · exact Except.ok.inj h

/-- A cycle that ends well has settled the page that it saw, and reports what that counts. -/
theorem runCycleUnder_settles
    (hschema : ∀ table, e.ledger.view.postings = some table → Ledger.Constrained table)
    (h : (e.runCycleUnder trouble fetcher company now).1 = .ok report)
    (hok : report.status = .ok) :
    ∃ c page before time, e.ledger.company? company = .ok (some c) ∧
      e.page? fetcher c.source = some page ∧ e.cycleTime now = .ok time ∧
      e.ledger.view.postings = some before ∧
      report.counts = Ledger.settledCounts before company
        (Ledger.pageDifference before company page) page time ∧
      (e.runCycleUnder trouble fetcher company now).2.ledger.Holds
        (before.settled company (Ledger.pageDifference before company page) page time) := by
  unfold runCycleUnder at h ⊢
  split at h
  · cases h
  · cases h
  · rename_i c hstored
    simp only [hstored]
    obtain ⟨-, rfl, rows, hrows, hin⟩ := company?_ok hstored
    rw [runStored_eq] at h ⊢
    rcases hreported : e.reported trouble fetcher c now with ⟨crash | said, after⟩
    · rw [hreported] at h
      cases h
    · rw [hreported] at h
      simp only at h ⊢
      obtain rfl := finish_reports h
      obtain ⟨hfree, run, counts, hrun, hdone⟩ := reported_done hreported hok
      obtain ⟨page, active, time, ledger, hpage, hactive, htime, happly, hafter⟩ :=
        runClaimed_done hrun hdone
      obtain ⟨-, -, before, hbefore, rfl⟩ := Ledger.activePostingsUnder_ok hactive
      obtain ⟨hcounts, hledger⟩ := Ledger.applyUnder_settles hbefore (hschema before hbefore)
        hrows ⟨c, hin, rfl⟩ (isNormal_page hpage).1 happly
      have hsaid : said.counts = counts := by
        obtain ⟨run', hrun', hreport⟩ := reported_free hfree hreported
        cases hrun.symm.trans hrun'
        obtain ⟨-, -, -, ⟨counts', hdone', -, hsaid⟩ | ⟨hnot, -⟩⟩ := report_cases hreport
        · exact hsaid.trans (CycleOutcome.done.inj (hdone'.symm.trans hdone))
        · exact absurd hdone (hnot counts)
      refine ⟨c, page, before, time, rfl, hpage, htime, hbefore, hsaid.trans hcounts, ?_⟩
      rw [released_ledger, finish_ledger]
      have hholds : after.ledger.Holds
          (before.settled c.id (Ledger.pageDifference before c.id page) page time) := by
        rw [hafter, hledger]
        exact ⟨rfl, rfl⟩
      exact hholds.of_kept (Ledger.kept_record _ _ _)

/-- A cycle that ends well has applied the page of the listings it has made. -/
theorem runCycleUnder_afterPage
    (hschema : ∀ table, e.ledger.view.postings = some table → Ledger.Constrained table)
    (h : (e.runCycleUnder trouble fetcher company now).1 = .ok report)
    (hok : report.status = .ok) :
    ∃ c adverts before time, e.ledger.company? company = .ok (some c) ∧
      e.adverts? fetcher c.source = some adverts ∧
      (∃ discarded, Advert.listings adverts c.source.base =
        .ok (listingsOf adverts c.source.base, discarded)) ∧
      e.page? fetcher c.source = some (.ofListings (listingsOf adverts c.source.base)) ∧
      e.ledger.view.postings = some before ∧
      (e.runCycleUnder trouble fetcher company now).2.ledger.Holds
        (before.afterPage company (listingsOf adverts c.source.base) time) := by
  obtain ⟨c, page, before, time, hstored, hpage, -, hbefore, -, hafter⟩ :=
    runCycleUnder_settles hschema h hok
  obtain ⟨adverts, listings, discarded, hread, hlistings, -, -, rfl⟩ := page?_some hpage
  obtain rfl := (Advert.listings_ok hlistings).2.1
  exact ⟨c, adverts, before, time, hstored, hread, ⟨discarded, hlistings⟩, hpage, hbefore, hafter⟩

/--
**The order of a page and its last listings reach the table.**  When a cycle has ended well, the
keys observed are those of the listings, each in the place where it came first; putting the page
on a page again changes nothing.  New rows are numbered in that order, and each row says what the
last listing of its key says.  Listings that differ in where a visitor came from share a row.
-/
theorem page_order_reaches_table (e : Engine φ) (trouble : Ledger.Trouble) (fetcher : Fetcher φ)
    (company : String) (now : Option Time.Stamp) {report : CycleReport}
    (hschema : ∀ table, e.ledger.view.postings = some table → Ledger.Constrained table)
    (h : (e.runCycleUnder trouble fetcher company now).1 = .ok report)
    (hok : report.status = .ok) :
    ∃ c adverts discarded page before after, e.ledger.company? company = .ok (some c) ∧
      e.adverts? fetcher c.source = some adverts ∧
      Advert.listings adverts c.source.base =
        .ok (listingsOf adverts c.source.base, discarded) ∧
      e.page? fetcher c.source = some page ∧
      e.ledger.view.postings = some before ∧
      (e.runCycleUnder trouble fetcher company now).2.ledger.Holds after ∧
      Ledger.TakesUp before after company (listingsOf adverts c.source.base) page ∧
      ∀ advert ∈ adverts, ∀ listing, advert.listing c.source.base = .ok listing →
        ∀ advert' base' listing', Advert.listing advert' base' = .ok listing' →
          Address.TrackAlike (advert.url.getD "") c.source.base (advert'.url.getD "") base' →
          (listing.content.canonicalUrl ≠ "" ∨
            listing'.content.title = listing.content.title ∧
              listing'.content.location = listing.content.location) →
          listing'.key = listing.key ∧
            ∃ p, after.rows.filter (·.isAt company listing'.key) = [p] := by
  obtain ⟨c, adverts, before, time, hstored, hread, ⟨discarded, hlistings⟩, hpage, hbefore,
    hafter⟩ := runCycleUnder_afterPage hschema h hok
  have htakes := Ledger.takesUp_afterPage (hschema before hbefore) company time
    fun _ hin => (Advert.isCoherent_listings hlistings hin).normal
  refine ⟨c, adverts, discarded, _, before, _, hstored, hread, hlistings, hpage, hbefore, hafter,
    htakes, ?_⟩
  intro advert hin listing hmade advert' base' listing' hmade' halike hsame
  have hkey := Identity.key_eq_of_trackAlike hmade hmade' halike hsame
  have hlisted : listing.key ∈
      ((listingsOf adverts c.source.base).map (·.key)).eraseDups := by
    rw [List.mem_eraseDups]
    exact List.mem_map_of_mem (List.mem_filterMap.mpr ⟨advert, hin, by rw [hmade]; rfl⟩)
  obtain ⟨last, -, hlast, p, hrow, -⟩ := htakes.last _ (htakes.keys ▸ hlisted)
  exact ⟨hkey, p, by rw [hkey, ← hlast]; exact hrow⟩

/-- A vacancy is listed twice, with another one and something that is none in between. -/
def repeatedAdverts : List Advert :=
  [⟨some "Cook", none, none, none, some "https://acme.example/jobs/1?utm_source=mail", none⟩,
   ⟨some "Nurse", none, none, none, some "https://acme.example/jobs/2", none⟩,
   ⟨none, some "Berlin", none, none, none, none⟩,
   ⟨some "Chef", none, none, none, some "https://acme.example/jobs/1?ref=board", none⟩]

/-- The two vacancies get rows in the order in which they came, and the last listing has its say. -/
theorem page_order_reaches_table_chef :
    ∃ after kept fresh p,
      ((sampleEngine repeatedAdverts).runCycleUnder .none sampleFetcher "acme" none).2.ledger.Holds
        after ∧
      after.rows = kept ++ fresh ∧
      fresh.map (·.place) =
        [("acme", "https://acme.example/jobs/1"), ("acme", "https://acme.example/jobs/2")] ∧
      (fresh.map (·.id)).Pairwise (· < ·) ∧
      after.rows.filter (·.isAt "acme" "https://acme.example/jobs/1") = [p] ∧
      p.content.title = "Chef" := by
  have hends : ((sampleEngine repeatedAdverts).runCycleUnder .none sampleFetcher "acme"
      none).1.toOption.map (·.status) = some .ok := by decide +kernel
  have hkeys : ((listingsOf repeatedAdverts "").map (·.key)).eraseDups =
      ["https://acme.example/jobs/1", "https://acme.example/jobs/2"] := by decide +kernel
  have hlast : ((listingsOf repeatedAdverts "").filter
      (·.key == "https://acme.example/jobs/1")).getLast?.map (·.content.title) = some "Chef" := by
    decide +kernel
  have hschema : ∀ table, (sampleEngine repeatedAdverts).ledger.view.postings = some table →
      Ledger.Constrained table := by
    intro table htable
    obtain rfl : Ledger.sampleTable = table := Option.some.inj htable
    exact ⟨by decide, by decide, by decide⟩
  cases hcycle : ((sampleEngine repeatedAdverts).runCycleUnder .none sampleFetcher "acme"
      none).1 with
  | error crash =>
      rw [hcycle] at hends
      cases hends
  | ok report =>
      rw [hcycle] at hends
      obtain ⟨c, adverts, discarded, page, before, after, hstored, hread, -, -, hbefore, hafter,
        htakes, -⟩ := page_order_reaches_table (sampleEngine repeatedAdverts) .none sampleFetcher
          "acme" none hschema hcycle (Option.some.inj hends)
      obtain rfl : Ledger.bareCompany "acme" = c := Option.some.inj (Except.ok.inj hstored)
      obtain rfl : repeatedAdverts = adverts := Option.some.inj hread
      obtain rfl : Ledger.sampleTable = before := Option.some.inj hbefore
      obtain ⟨kept, fresh, hrows, -, hplaces, hids, -⟩ := htakes.grows
      have hpage := htakes.keys.trans hkeys
      obtain ⟨listing, hlisting, hkey, p, hrow, -, hsays⟩ :=
        htakes.last "https://acme.example/jobs/1" (by rw [hpage]; exact List.mem_cons_self)
      rw [hkey] at hrow hsays
      have htitle : listing.content.title = "Chef" := by
        replace hlisting : ((listingsOf repeatedAdverts "").filter
          (·.key == "https://acme.example/jobs/1")).getLast? = some listing := hlisting
        rw [hlisting] at hlast
        exact Option.some.inj hlast
      refine ⟨after, kept, fresh, p, hafter, hrows, ?_, hids, hrow, ?_⟩
      · rw [hplaces, hpage]
        decide
      · rcases hsays with hcontent | ⟨q, hq, hat, -⟩
        · rw [hcontent, htitle]
        · have hnew : ∀ q ∈ Ledger.sampleTable.rows,
              q.isAt "acme" "https://acme.example/jobs/1" = false := by decide
          cases (hnew q hq).symm.trans hat

/-- What was said of a vacancy, with plain text that is not that of the description. -/
def staleContent : Content where
  title := "Cook"
  location := ""
  datePosted := none
  description := "<p>Soup</p>"
  plain := "Stew"
  sourceUrl := cookAddress
  canonicalUrl := cookAddress

/-- The same vacancy on a page. -/
def soupAdvert : Advert :=
  ⟨some "Cook", none, none, some "<p>Soup</p>", some cookAddress, none⟩

/-- An engine into which plain text was put that is not that of the description. -/
def staleEngine : Engine Feeds :=
  (Engine.start ⟨20⟩ 20 []).run
    [.extractor "fixed" (.fixed [soupAdvert]),
     .enter { (default : Source) with company := "acme", extractor := "fixed", enabled := true },
     .apply "acme" none [(cookAddress, ⟨cookAddress, staleContent⟩)] (⟨10⟩ : Time.Instant).text]

/-- A cycle ends well, and plain text stays that the last listing does not say. -/
theorem plain_text_left_behind :
    (staleEngine.runCycle Feeds.fetcher "acme" none).1.toOption.map (·.status) = some .ok ∧
      ((listingsOf [soupAdvert] "").filter (·.key == cookAddress)).getLast? =
        some ⟨cookAddress, { staleContent with plain := "Soup" }⟩ ∧
      ((staleEngine.runCycle Feeds.fetcher "acme" none).2.ledger.committed.postings.map
        fun table => (table.rows.filter (·.isAt "acme" cookAddress)).map (·.content)) =
          some [staleContent] ∧
      staleContent ≠ { staleContent with plain := "Soup" } := by
  decide +kernel

end VacancyLedger.Engine
