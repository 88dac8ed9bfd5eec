/-
Postings that stay coherent.

A renewal leaves the content of a posting alone if nothing but the plain text differs, and it
never changes the key.  Neither lets a posting fall behind: of coherent listings with the same
description the plain text is the same, and a posting is only ever renewed by a listing under
its own key.  So what a posting stores is at any time one of the listings that cycles have
seen, as a whole, and these were coherent when they were put on their page.

Nothing that fails in between makes a difference, since a table is seen by somebody only if a
cycle has written it, or if it was there before.
-/
import VacancyLedger.Proofs.Engine.Events
import VacancyLedger.Proofs.Listing.Normalize

namespace VacancyLedger

/-! ### What a posting stores -/

namespace Posting

/-- What a posting stores of the listing that was seen. -/
def asListing (p : Posting) : Listing := ⟨p.key, p.content⟩

variable {p : Posting} {listing : Listing} {company now : String} {seen : Page}

theorem asListing_sighted (hkey : listing.key = p.key) :
    (p.sighted listing now).asListing = p.asListing ∨
      (p.sighted listing now).asListing = listing := by
  have hlisting : (⟨p.key, listing.content⟩ : Listing) = listing := by rw [← hkey]
  unfold sighted
  split
  · simp only [asListing]
    split
    · exact Or.inr hlisting
    · exact Or.inl rfl
  · exact Or.inr hlisting

/-- After a page was taken in, a posting stores what it stored or what the page lists. -/
theorem asListing_walked (hseen : seen.Maps) :
    (p.walked company seen now).asListing = p.asListing ∨
      ∃ entry ∈ seen, (p.walked company seen now).asListing = entry.2 := by
  unfold walked
  split
  · rename_i listing hlisted
    unfold listing? at hlisted
    split at hlisted
    · have hentry := (Table.get?_eq_some_iff hseen.keys_nodup).mp hlisted
      rcases asListing_sighted (hseen.own_key _ hentry) with hkept | hreplaced
      · exact Or.inl hkept
      · exact Or.inr ⟨_, hentry, hreplaced⟩
    · cases hlisted
  · exact Or.inl rfl

theorem asListing_swept {gone : List String} :
    (p.swept company gone now).asListing = p.asListing := by
  unfold swept
  split <;> rfl

end Posting

namespace Ledger

/-- A table of postings each of which stores a coherent listing. -/
structure Coherent (table : Numbered Posting) : Prop extends Constrained table where
  rows : ∀ p ∈ table.rows, p.asListing.IsCoherent

theorem coherent_empty : Coherent .empty := ⟨constrained_empty, nofun⟩

/-- A page of coherent listings keeps the table coherent, whatever is to be done with it. -/
theorem coherent_settled {table : Numbered Posting} {company now : String} {page : Page}
    (h : Coherent table) (hpage : page.Maps) (hlisted : ∀ entry ∈ page, entry.2.IsCoherent)
    (d : Difference) : Coherent (table.settled company d page now) := by
  have hseen : Page.Maps (seenListings d page) := hpage.filter _
  have hentries : ∀ entry ∈ seenListings d page, entry.2.IsCoherent :=
    fun entry hentry => hlisted entry (List.mem_filter.mp hentry).1
  refine ⟨constrained_settled h.toConstrained hpage d, fun p hp => ?_⟩
  obtain ⟨q, hq, rfl⟩ := List.mem_map.mp hp
  rw [Posting.asListing_swept]
  rcases List.mem_append.mp hq with hold | hfresh
  · obtain ⟨r, hr, rfl⟩ := List.mem_map.mp hold
    rcases Posting.asListing_walked hseen with hkept | ⟨entry, hentry, hreplaced⟩
    · rw [hkept]
      exact h.rows r hr
    · rw [hreplaced]
      exact hentries entry hentry
  · obtain ⟨id, listing, hnew, rfl⟩ := mem_freshRows hfresh
    exact hentries _ ((mem_newcomers hseen).mp hnew).1

end Ledger

namespace Engine

variable {φ : Type} {e after : Engine φ}

/-! ### One event -/

/-- An engine all of whose postings are coherent, whoever looks at them. -/
def IsCoherent (e : Engine φ) : Prop :=
  ∀ table, e.ledger.ShowsPostings (some table) → Ledger.Coherent table

theorem IsCoherent.of_kept (h : e.IsCoherent) (hkept : e.ledger.PostingsKept after.ledger) :
    after.IsCoherent :=
  fun table hshows => h table (hkept _ hshows)

/-- The steps of a cycle keep the postings coherent. -/
theorem reported_coherent {trouble : Ledger.Trouble} {fetcher : Fetcher φ} {c : Company}
    {now : Option Time.Stamp} {result : Except Crash CycleReport} {rows : List Company}
    (h : e.IsCoherent) (hrows : e.ledger.view.companies = some rows) (hin : c ∈ rows)
    (hreported : e.reported trouble fetcher c now = (result, after)) : after.IsCoherent := by
  have hframe : ∀ {after : Engine φ},
      after.ledger = e.ledger ∨ after.ledger = e.ledger.rollback → after.IsCoherent := by
    intro after hledger
    refine h.of_kept ?_
    rcases hledger with hsame | hback
    · rw [hsame]
      exact .refl _
    · rw [hback]
      exact Ledger.kept_rollback _
  have hschema : ∀ table, e.ledger.view.postings = some table → Ledger.Constrained table :=
    fun table htable => (h table (Or.inr htable.symm)).toConstrained
  cases reported_ending hrows hin hschema hreported with
  | crashed hledger => exact hframe hledger
  | failed _ _ _ hledger => exact hframe hledger
  | @settled _ _ before _ listings _ d time _ _ htable _ hlistings _ _ _ hledger =>
      intro table hshows
      have hafter : after.ledger.Holds
          (before.settled c.id d (Page.ofListings listings) time) := by
        rw [hledger]
        exact ⟨rfl, rfl⟩
      rw [Option.some.inj (hafter.shows hshows)]
      exact Ledger.coherent_settled (h before (Or.inr htable.symm)) (Page.maps_ofListings listings)
        (fun entry hentry => Advert.isCoherent_listings hlistings (Page.mem_ofListings hentry).1) d

theorem runCycleUnder_coherent (h : e.IsCoherent) (trouble : Ledger.Trouble) (fetcher : Fetcher φ)
    (company : String) (now : Option Time.Stamp) :
    (e.runCycleUnder trouble fetcher company now).2.IsCoherent := by
  unfold runCycleUnder
  split
  · exact h
  · exact h
  · rename_i c hstored
    obtain ⟨-, -, rows, hrows, hin⟩ := company?_ok hstored
    rw [runStored_eq]
    rcases hreported : e.reported trouble fetcher c now with ⟨crash | report, after⟩
    · refine (reported_coherent h hrows hin hreported).of_kept ?_
      rw [released_ledger]
      exact .refl _
    · refine (reported_coherent h hrows hin hreported).of_kept ?_
      rw [released_ledger, finish_ledger]
      exact Ledger.kept_record _ _ _

theorem runReportedUnder_coherent (h : e.IsCoherent) (trouble : Ledger.Trouble)
    (fetcher : Fetcher φ) (company : String) :
    (e.runReportedUnder trouble fetcher company).2.IsCoherent := by
  rw [runReportedUnder_eq]
  exact runCycleUnder_coherent h trouble fetcher company none

/-- Whether postings are written by cycles alone. -/
def Step.isIngestion : Step → Bool
  | .apply _ _ _ _ | .act _ _ => false
  | _ => true

/-- Whether postings are written by cycles alone. -/
def Event.isIngestion : Event → Bool
  | .step s => s.isIngestion
  | _ => true

/-- A step that is no cycle and writes no postings keeps them coherent. -/
theorem perform_coherent {e : Engine Feeds} (h : e.IsCoherent) {step : Step}
    (hsingle : Event.isSingle (.step step) = true) (hingestion : step.isIngestion = true) :
    (e.perform step).2.IsCoherent := by
  cases step with
  | cycle _ _ | runAll _ _ => cases hsingle
  | apply _ _ _ _ | act _ _ => cases hingestion
  | drop name =>
      show (e.drop name).2.IsCoherent
      unfold Engine.drop
      split
      · exact h
      · rename_i ledger hdrop
        exact fun table hshows => h table (Ledger.showsPostings_drop hdrop hshows)
  | connect =>
      intro table hshows
      rcases Ledger.showsPostings_connect hshows with hbefore | hempty
      · exact h table hbefore
      · rw [hempty]
        exact Ledger.coherent_empty
  | enter _ | register _ | sync | feed _ _ | extractor _ _ | record _ | claim _ | release _ | close
  | setClock _ => exact h.of_kept (kept_perform e rfl)

/-! ### Runs -/

theorem isIngestion_unrolled {e : Engine Feeds} {events : List Event}
    (h : ∀ event ∈ events, event.isIngestion = true) {single : Event}
    (hin : single ∈ e.unrolled events) : single.isIngestion = true := by
  rcases mem_unrolled hin with hcycle | ⟨hstep, -⟩
  · cases single with
    | step _ => cases hcycle
    | cycle _ _ _ | batched _ _ => rfl
  · exact h single hstep

theorem happen_coherent {e : Engine Feeds} (h : e.IsCoherent) {event : Event}
    (hsingle : event.isSingle = true) (hingestion : event.isIngestion = true) :
    (e.happen event).IsCoherent := by
  cases event with
  | step step => exact perform_coherent h hsingle hingestion
  | cycle trouble company now => exact runCycleUnder_coherent h trouble Feeds.fetcher company now
  | batched trouble company => exact runReportedUnder_coherent h trouble Feeds.fetcher company

theorem live_coherent (events : List Event) :
    ∀ {e : Engine Feeds}, e.IsCoherent →
      (∀ event ∈ events, event.isSingle = true ∧ event.isIngestion = true) →
      (e.live events).IsCoherent := by
  induction events with
  | nil => exact fun h _ => h
  | cons event rest ih =>
      intro e h hevents
      obtain ⟨⟨hsingle, hingestion⟩, hrest⟩ := List.forall_mem_cons.mp hevents
      exact ih (happen_coherent h hsingle hingestion) hrest

/-- A vacancy whose description is as given. -/
def described (description : String) : Step :=
  .extractor "fixed" (.fixed
    [⟨some " Head  cook", none, none, some description, some "https://acme.example/jobs/1", none⟩])

/-- A vacancy is listed; its description changes, which is noted only when the disk is not full any
more; then it is gone, and it comes back with yet another description. -/
def changingEvents : List Event :=
  [.step (described "Old"),
   .step (.enter { (default : Source) with company := "acme", extractor := "fixed" }),
   .cycle .none "acme" none,
   .step (described "<p>New</p><script>no</script>"),
   .cycle ⟨none, fun _ => some (.trouble "disk is full"), none⟩ "acme" none, .batched .none "acme",
   .step (.extractor "fixed" (.fixed [])), .cycle .none "acme" none,
   .step (described "<b>Newer</b>"), .cycle .none "acme" none]

/--
**Stored postings stay coherent.**  In any run in which postings are written by cycles alone,
whatever else is done and whatever fails, every posting that anybody can see has the plain text
of its description, a description that was cleaned, a title and a location with single spaces
between their words, a date that is missing or has words and single spaces between them, and
the key that follows from its own address, title and location.
-/
theorem postings_stay_coherent (e : Engine Feeds)
    (hempty : e.ledger = Ledger.unconnected.connect) (events : List Event)
    (hingestion : ∀ event ∈ events, event.isIngestion = true)
    {table : Ledger.Numbered Posting} (hshows : (e.live events).ledger.ShowsPostings (some table)) :
    ∀ p ∈ table.rows,
      Markup.plainText p.content.description = .ok p.content.plain ∧
      (∃ markup, Markup.sanitize markup = .ok p.content.description) ∧
      Text.collapse p.content.title = p.content.title ∧
      Text.collapse p.content.location = p.content.location ∧
      (∀ date, p.content.datePosted = some date → date ≠ "" ∧ Text.collapse date = date) ∧
      Identity.key? p.content.canonicalUrl p.content.title p.content.location = some p.key ∧
      p.key =
        if p.content.canonicalUrl = "" then
          Identity.digestMark ++
            Text.Sha256.hex (Identity.digested p.content.title p.content.location)
        else p.content.canonicalUrl := by
  have hstart : e.IsCoherent := by
    intro table hshows
    rw [hempty] at hshows
    rcases hshows with h | h
    · rw [Option.some.inj h]
      exact Ledger.coherent_empty
    · rw [Option.some.inj h]
      exact Ledger.coherent_empty
  have hunrolled : ∀ event ∈ e.unrolled events,
      event.isSingle = true ∧ event.isIngestion = true :=
    fun event hin => ⟨isSingle_unrolled hin, isIngestion_unrolled hingestion hin⟩
  have hend := live_coherent (e.unrolled events) hstart hunrolled
  rw [live_unrolled] at hend
  intro p hp
  obtain ⟨hnormal, hdescription, htitle, hlocation, hdate, hkey⟩ := (hend table hshows).rows p hp
  exact ⟨hnormal.plain_eq, hdescription, htitle, hlocation, hdate, hkey, Identity.eq_of_key? hkey⟩

/-- What the posting of that vacancy says in the end. -/
theorem postings_stay_coherent_changing :
    ∃ table p, ((Engine.start ⟨0⟩ 20 []).live changingEvents).ledger.ShowsPostings (some table) ∧
      p ∈ table.rows ∧ p.content.title = "Head cook" ∧ p.content.plain = "Newer" ∧
      p.key = "https://acme.example/jobs/1" ∧
      Markup.plainText p.content.description = .ok p.content.plain := by
  have hcoherent := @postings_stay_coherent (Engine.start ⟨0⟩ 20 []) rfl changingEvents (by decide)
  have hrows : ((Engine.start ⟨0⟩ 20 []).live changingEvents).ledger.committed.postings.map
      (fun table => table.rows.map fun p => (p.content.title, p.content.plain, p.key)) =
        some [("Head cook", "Newer", "https://acme.example/jobs/1")] := by
    decide +kernel
  generalize ((Engine.start ⟨0⟩ 20 []).live changingEvents).ledger = l at hcoherent hrows ⊢
  obtain ⟨table, htable, hmap⟩ := Option.map_eq_some_iff.mp hrows
  obtain ⟨p, hp, hfields⟩ := List.map_eq_singleton_iff.mp hmap
  have hin : p ∈ table.rows := by simp [hp]
  have hshows : l.ShowsPostings (some table) := Or.inl htable.symm
  simp only [Prod.mk.injEq] at hfields
  obtain ⟨htitle, hplain, hkey⟩ := hfields
  exact ⟨table, p, hshows, hin, htitle, hplain, hkey, (hcoherent hshows p hin).1⟩

end Engine
end VacancyLedger
