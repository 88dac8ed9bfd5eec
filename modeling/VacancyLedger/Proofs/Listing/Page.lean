/-
Pages and differences.

A page that listings were put on maps keys to listings: each key stands once, and a listing
stands under its own key.  The difference between what is stored and what a page lists
observes every key of the page, and closes the keys that are stored and not on the page.
-/
import VacancyLedger.Listing.Page
import VacancyLedger.Proofs.Table

namespace VacancyLedger

namespace Text

theorem mem_insertSorted {s t : String} {texts : List String} :
    s ∈ insertSorted t texts ↔ s = t ∨ s ∈ texts := by
  induction texts with
  | nil => simp [insertSorted]
  | cons u rest ih =>
      unfold insertSorted
      split
      · simp
      · split
        · rename_i heq
          simp [heq]
        · rw [List.mem_cons, ih, List.mem_cons]
          exact or_left_comm

/-- Sorting keeps the texts. -/
theorem mem_sorted {s : String} {texts : List String} : s ∈ sorted texts ↔ s ∈ texts := by
  induction texts with
  | nil => rfl
  | cons t rest ih =>
      rw [sorted, List.foldr_cons, mem_insertSorted, List.mem_cons]
      exact or_congr Iff.rfl ih

theorem length_insertSorted_le (s : String) (texts : List String) :
    (insertSorted s texts).length ≤ texts.length + 1 := by
  induction texts with
  | nil => exact Nat.le_refl _
  | cons t rest ih =>
      unfold insertSorted
      split
      · exact Nat.le_refl _
      · split
        · exact Nat.le_succ _
        · exact Nat.succ_le_succ ih

theorem length_sorted_le (texts : List String) : (sorted texts).length ≤ texts.length := by
  induction texts with
  | nil => exact Nat.le_refl _
  | cons t rest ih => exact Nat.le_trans (length_insertSorted_le t _) (Nat.succ_le_succ ih)

end Text

/-! ### Pages -/

namespace Page

/-- A page that maps keys to listings: no key stands in it twice, and every listing stands under
the key of its own. -/
structure Maps (page : Page) : Prop where
  keys_nodup : (Table.keys page).Nodup
  own_key : ∀ entry ∈ page, entry.2.key = entry.1

theorem Maps.uncons {key : String} {listing : Listing} {page : Page}
    (h : Maps ((key, listing) :: page)) :
    listing.key = key ∧ key ∉ Table.keys page ∧ page.Maps := by
  obtain ⟨hnew, hrest⟩ := List.nodup_cons.mp h.keys_nodup
  exact ⟨h.own_key _ List.mem_cons_self, hnew, hrest,
    fun entry hentry => h.own_key entry (List.mem_cons_of_mem _ hentry)⟩

theorem Maps.filter {page : Page} (h : page.Maps) (test : String × Listing → Bool) :
    Maps (List.filter test page) :=
  ⟨(List.filter_sublist.map _).nodup h.keys_nodup,
    fun entry hentry => h.own_key entry (List.mem_filter.mp hentry).1⟩

/-- What stands on a page is a listing that was put on it, under its key. -/
theorem mem_ofListings {listings : List Listing} {entry : String × Listing}
    (h : entry ∈ ofListings listings) : entry.2 ∈ listings ∧ entry.2.key = entry.1 := by
  obtain ⟨listing, hin, rfl⟩ := List.mem_map.mp (Table.mem_ofPairs h)
  exact ⟨hin, rfl⟩

theorem length_ofListings_le (listings : List Listing) :
    (ofListings listings).length ≤ listings.length := by
  have h := Table.length_ofPairs_le (listings.map fun l => (l.key, l))
  rwa [List.length_map] at h

theorem maps_ofListings (listings : List Listing) : (ofListings listings).Maps :=
  ⟨Table.nodup_keys_ofPairs _, fun _ h => (mem_ofListings h).2⟩

/-- The keys of a page stand in the order in which they were first listed. -/
theorem keys_ofListings (listings : List Listing) :
    Table.keys (ofListings listings) = (listings.map (·.key)).eraseDups := by
  rw [ofListings, Table.keys_ofPairs, List.map_map]
  rfl

/-- Under a key stands the listing that came last. -/
theorem get?_ofListings (listings : List Listing) (key : String) :
    Table.get? (ofListings listings) key = (listings.filter (·.key == key)).getLast? := by
  rw [ofListings, Table.get?_ofPairs, List.filter_map, List.getLast?_map, Option.map_map]
  exact Option.map_id'

/-- Putting the listings of a page on a page changes nothing. -/
theorem Maps.ofListings_values {page : Page} (h : page.Maps) :
    ofListings (Table.values page) = page := by
  have hpairs : (Table.values page).map (fun l => (l.key, l)) = page := by
    rw [Table.values, List.map_map]
    conv_rhs => rw [← List.map_id page]
    refine List.map_congr_left fun entry hentry => ?_
    rw [Function.comp_apply, h.own_key entry hentry]
    rfl
  rw [ofListings, hpairs, Table.ofPairs_eq_self h.keys_nodup]

end Page

/-! ### Differences -/

namespace Difference

variable {existing observed : List String} {key : String}

/-- A page observes the keys that are on it. -/
theorem observes_between : (between existing observed).observes key = true ↔ key ∈ observed := by
  simp only [observes, between, Bool.or_eq_true, List.contains_iff_mem, Text.mem_sorted,
    List.mem_filter, Bool.not_eq_true', Bool.eq_false_iff, ne_eq]
  constructor
  · rintro (⟨hin, -⟩ | ⟨hin, -⟩) <;> exact hin
  · intro hin
    by_cases h : key ∈ existing
    · exact Or.inr ⟨hin, h⟩
    · exact Or.inl ⟨hin, h⟩

/-- A page closes the keys that are stored and not on it. -/
theorem mem_close_between :
    key ∈ (between existing observed).close ↔ key ∈ existing ∧ key ∉ observed := by
  simp [between, Text.mem_sorted]

theorem length_close_between_le (existing observed : List String) :
    (between existing observed).close.length ≤ existing.length :=
  Nat.le_trans (Text.length_sorted_le _) (List.length_filter_le _ _)

end Difference
end VacancyLedger
