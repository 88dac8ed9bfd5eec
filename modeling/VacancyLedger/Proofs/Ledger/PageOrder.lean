/-
What the order of a page decides.

A page may list a key many times.  The first of these listings gives the key its place among
those observed, and so the number of its row, if it had none; the last says what the row says.
In between stand a table of listings and two sets of keys that forget all order.  That it is
not lost is because the loop that writes walks the table: rows that are there are changed in
their places, and those of newcomers are put behind them as they come.

The last listing has its say in all cases but one.  What an active row says is written only if
something other than the plain text has changed.  So plain text that was not that of the
description stays, as long as everything else does.
-/
import VacancyLedger.Proofs.Ledger.Sightings

namespace VacancyLedger.Ledger

variable {before : Numbered Posting} {company now : String} {page : Page}
  {listings : List Listing}

theorem settledPosting_id (p : Posting) : (settledPosting before company page now p).id = p.id := by
  unfold settledPosting
  rw [Posting.swept_id, Posting.walked_id]

/-! ### Rows of newcomers -/

/-- The rows of newcomers are numbered one after the other. -/
theorem ids_freshRows (company now : String) (listings : List Listing) :
    ∀ lastId : Nat, (freshRows lastId company now listings).map (·.id) =
      List.range' (lastId + 1) listings.length := by
  induction listings with
  | nil => intro lastId; rfl
  | cons listing rest ih =>
      intro lastId
      rw [freshRows, List.map_cons, ih, List.length_cons, List.range'_succ]
      rfl

theorem places_freshRows (company now : String) (listings : List Listing) :
    ∀ lastId : Nat, (freshRows lastId company now listings).map (·.place) =
      listings.map fun listing => (company, listing.key) := by
  induction listings with
  | nil => intro lastId; rfl
  | cons listing rest ih =>
      intro lastId
      rw [freshRows, List.map_cons, ih, List.map_cons]
      rfl

/-- The newcomers stand in the order of the page. -/
theorem keys_newcomers (rows : List Posting) (company : String) (hpage : page.Maps) :
    (newcomers rows company page).map (·.key) =
      (Table.keys page).filter fun key => !rows.any (·.isAt company key) := by
  rw [newcomers, Table.keys, List.filter_map, List.map_map]
  refine List.map_congr_left fun entry hentry => ?_
  exact hpage.own_key entry (List.mem_filter.mp hentry).1

/-! ### The table after a page -/

/-- The rows that were there keep their numbers and places.  Behind them come rows for those of the
keys that had none, in their order, with numbers that rise and are higher than all there were. -/
def GrowsInOrder (before after : Numbered Posting) (company : String) (keys : List String) : Prop :=
  ∃ kept fresh, after.rows = kept ++ fresh ∧
    kept.map (fun p => (p.id, p.place)) = before.rows.map (fun p => (p.id, p.place)) ∧
    fresh.map (·.place) =
      (keys.filter fun key => !before.rows.any (·.isAt company key)).map (company, ·) ∧
    (fresh.map (·.id)).Pairwise (· < ·) ∧ ∀ p ∈ fresh, ∀ q ∈ before.rows, q.id < p.id

/-- There is one row for the key of a listing.  It is active and says what the listing says, unless
it was active before, agreed with the listing but for the plain text, and had its plain text from
elsewhere than its description; then it says what it said. -/
def SaysLast (before after : Numbered Posting) (company : String) (listing : Listing) : Prop :=
  ∃ p, after.rows.filter (·.isAt company listing.key) = [p] ∧ p.isActive = true ∧
    (p.content = listing.content ∨
      ∃ q ∈ before.rows, q.isAt company listing.key = true ∧ q.isActive = true ∧
        ¬ q.content.IsNormal ∧ q.content.agrees listing.content = true ∧ p.content = q.content)

/-- A page shows listings in the order in which their keys came first, and a table of postings takes
it up in that order and with what the last listing of each key says. -/
structure TakesUp (before after : Numbered Posting) (company : String) (listings : List Listing)
    (page : Page) : Prop where
  keys : Table.keys page = (listings.map (·.key)).eraseDups
  keys_nodup : (Table.keys page).Nodup
  /-- Putting the page on a page again changes nothing. -/
  again : Page.ofListings (Table.values page) = page
  grows : GrowsInOrder before after company (Table.keys page)
  last : ∀ key ∈ Table.keys page, ∃ listing,
    (listings.filter (·.key == key)).getLast? = some listing ∧ listing.key = key ∧
      SaysLast before after company listing

/-- The table after the page of listings of a company was applied. -/
abbrev Numbered.afterPage (before : Numbered Posting) (company : String) (listings : List Listing)
    (now : String) : Numbered Posting :=
  before.settled company (pageDifference before company (.ofListings listings))
    (.ofListings listings) now

theorem growsInOrder_afterPage (h : Constrained before) (company now : String)
    (listings : List Listing) :
    GrowsInOrder before (before.afterPage company listings now) company
      (listings.map (·.key)).eraseDups := by
  have hpage := Page.maps_ofListings listings
  refine ⟨_, _, settled_rows before company now hpage, ?_, ?_, ?_, fun p hp q hq => ?_⟩
  · rw [List.map_map]
    refine List.map_congr_left fun p _ => ?_
    rw [Function.comp_apply, settledPosting_id, settledPosting_place]
  · rw [places_freshRows, ← Page.keys_ofListings, ← keys_newcomers before.rows company hpage,
      List.map_map]
    rfl
  · rw [ids_freshRows]
    exact List.pairwise_lt_range' 1
  · have hid := List.mem_map_of_mem (f := (·.id)) hp
    rw [ids_freshRows, List.mem_range'_1] at hid
    have hold := h.ids_le q hq
    omega

/-- Where the table had a row, the last listing of the key is seen by it; where it had none, that
listing is a newcomer. -/
theorem saysLast_afterPage (h : Constrained before) (company now : String)
    (hnormal : ∀ listing ∈ listings, listing.content.IsNormal) {key : String} {listing : Listing}
    (hlast : (listings.filter (·.key == key)).getLast? = some listing) :
    SaysLast before (before.afterPage company listings now) company listing := by
  have hpage := Page.maps_ofListings listings
  have hschema : Constrained (before.afterPage company listings now) :=
    constrained_settled h hpage _
  have hrows := settled_rows before company now hpage
  rw [← Page.get?_ofListings] at hlast
  have hentry := (Table.get?_eq_some_iff hpage.keys_nodup).mp hlast
  obtain ⟨hin, rfl⟩ : listing ∈ listings ∧ listing.key = key := Page.mem_ofListings hentry
  by_cases hstored : ∃ q ∈ before.rows, q.isAt company listing.key = true
  · obtain ⟨q, hq, hat⟩ := hstored
    obtain ⟨rfl, hkey⟩ := Posting.isAt_iff.mp hat
    have hsighted : settledPosting before q.company (.ofListings listings) now q
        = q.sighted listing now := settledPosting_listed (by rw [hkey]; exact hlast)
    refine ⟨q.sighted listing now, ?_, Posting.isActive_sighted, ?_⟩
    · refine filter_isAt hschema.places_nodup ?_ ?_
      · rw [hrows, ← hsighted]
        exact List.mem_append_left _ (List.mem_map_of_mem hq)
      · rw [Posting.isAt_place, Posting.sighted_place]
        exact Posting.isAt_place.mp hat
    · exact (Posting.content_sighted (hnormal listing hin)).imp_right fun hstale =>
        ⟨q, hq, hat, hstale⟩
  · have hfree : ∀ q ∈ before.rows, q.isAt company listing.key = false := fun q hq =>
      Bool.eq_false_iff.mpr fun hat => hstored ⟨q, hq, hat⟩
    obtain ⟨id, hfresh⟩ := exists_freshRow company now
      ((mem_newcomers hpage).mpr ⟨hentry, hfree⟩) before.lastId
    refine ⟨.fresh id company listing now,
      filter_isAt hschema.places_nodup ?_ (Posting.isAt_iff.mpr ⟨rfl, rfl⟩), rfl, Or.inl rfl⟩
    rw [hrows]
    exact List.mem_append_right _ hfresh

/-- Applying the page of listings takes it up. -/
theorem takesUp_afterPage (h : Constrained before) (company now : String)
    (hnormal : ∀ listing ∈ listings, listing.content.IsNormal) :
    TakesUp before (before.afterPage company listings now) company listings
      (.ofListings listings) := by
  have hpage := Page.maps_ofListings listings
  refine ⟨Page.keys_ofListings listings, hpage.keys_nodup, hpage.ofListings_values, ?_, ?_⟩
  · rw [Page.keys_ofListings]
    exact growsInOrder_afterPage h company now listings
  · intro key hkey
    obtain ⟨listing, hentry⟩ := Table.mem_keys.mp hkey
    have hlast := (Table.get?_eq_some_iff hpage.keys_nodup).mpr hentry
    rw [Page.get?_ofListings] at hlast
    exact ⟨listing, hlast, hpage.own_key _ hentry, saysLast_afterPage h company now hnormal hlast⟩

end VacancyLedger.Ledger
