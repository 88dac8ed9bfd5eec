/-
Pages that cannot be written.

Of the adverts that make listings with the same key only the last one counts, for its listing is
the one that stands on the page.  A page cannot be written if one of the listings that stand on
it is torn, that is, if one of its texts cannot be encoded; the first of them is met first.
-/
import VacancyLedger.Proofs.Listing.Normalize
import VacancyLedger.Proofs.Listing.Page

namespace VacancyLedger

/-- The texts of a listing. -/
def Listing.texts (l : Listing) : List String := l.key :: l.content.texts

namespace Advert

/-- Whether an advert among others makes a listing that stands on their page: no later one makes a
listing with the same key. -/
def Stands (adverts : List Advert) (base : String) (advert : Advert) (listing : Listing) : Prop :=
  ∃ before after, adverts = before ++ advert :: after ∧ advert.listing base = .ok listing ∧
    ∀ later ∈ after, ∀ other, later.listing base = .ok other → other.key ≠ listing.key

/-- Whether all texts of the page that adverts make can be encoded. -/
def AllEncode (adverts : List Advert) (base : String) : Prop :=
  ∀ advert listing, Stands adverts base advert listing →
    ∀ text ∈ listing.texts, advert.unencodable? text = none

variable {adverts : List Advert} {advert : Advert} {listing : Listing} {base key : String}
  {tear : Listing.Tear} {found : Option Listing.Tear}

/-! ### The tear of a listing -/

theorem tear?_eq_none_iff :
    advert.tear? listing = none ↔ ∀ text ∈ listing.texts, advert.unencodable? text = none := by
  rw [Listing.texts, List.forall_mem_cons, tear?]
  cases advert.unencodable? listing.key with
  | some e => simp
  | none => simp

theorem tear?_eq_some (h : advert.tear? listing = some tear) :
    tear.statement < 2 ∧
      ∃ text ∈ listing.texts, advert.unencodable? text = some tear.complaint := by
  rw [tear?] at h
  cases hkey : advert.unencodable? listing.key with
  | some e =>
      rw [hkey] at h
      cases h
      exact ⟨Nat.zero_lt_succ 1, _, List.mem_cons_self, hkey⟩
  | none =>
      rw [hkey] at h
      obtain ⟨e, he, rfl⟩ := Option.map_eq_some_iff.mp h
      obtain ⟨text, hin, htext⟩ := List.exists_of_findSome?_eq_some he
      exact ⟨Nat.lt_succ_self 1, text, List.mem_cons_of_mem _ hin, htext⟩

/-! ### The tears of a page -/

theorem mem_tears :
    (key, found) ∈ tears adverts base ↔ ∃ advert listing, Stands adverts base advert listing ∧
      listing.key = key ∧ advert.tear? listing = found := by
  rw [tears, Table.mem_ofPairs_filterMap]
  have hmade : ∀ (advert : Advert) (entry : String × Option Listing.Tear),
      ((advert.listing base).toOption.map fun l => (l.key, advert.tear? l)) = some entry ↔
      ∃ listing, advert.listing base = .ok listing ∧
        (listing.key, advert.tear? listing) = entry := by
    intro advert entry
    cases advert.listing base <;> simp [Except.toOption]
  simp only [hmade, Prod.mk.injEq]
  constructor
  · rintro ⟨before, advert, after, rfl, ⟨listing, hlisting, rfl, rfl⟩, hafter⟩
    refine ⟨advert, listing, ⟨before, after, rfl, hlisting, ?_⟩, rfl, rfl⟩
    exact fun later hlater other hother => hafter later hlater _ ⟨other, hother, rfl⟩
  · rintro ⟨advert, listing, ⟨before, after, rfl, hlisting, hafter⟩, rfl, rfl⟩
    refine ⟨before, advert, after, rfl, ⟨listing, hlisting, rfl, rfl⟩, ?_⟩
    rintro later hlater _ ⟨other, hother, rfl⟩
    exact hafter later hlater other hother

/-- A discarded advert tears no page. -/
theorem pageTear?_discarded (before after : List Advert) (h : advert.IsDiscarded base) :
    pageTear? (before ++ advert :: after) base = pageTear? (before ++ after) base := by
  have hnone : (advert.listing base).toOption = none := by
    rw [h]
    rfl
  rw [pageTear?, pageTear?, tears, tears]
  simp [hnone]

/-- A tear is kept for every listing on the page. -/
theorem length_tears {listings : List Listing} {discarded : Nat}
    (h : Advert.listings adverts base = .ok (listings, discarded)) :
    (tears adverts base).length = (Page.ofListings listings).length := by
  have hkeys : Table.keys (tears adverts base) = Table.keys (Page.ofListings listings) := by
    rw [tears, Table.keys_ofPairs, Page.keys_ofListings, (listings_ok h).2.1, List.map_filterMap,
      List.map_filterMap]
    congr 2
    funext advert
    cases advert.listing base <;> rfl
  have hlength := congrArg List.length hkeys
  rwa [Table.keys, Table.keys, List.length_map, List.length_map] at hlength

theorem firstTear_eq_none_iff {tears : List (Option Listing.Tear)} :
    ∀ {n : Nat}, Listing.firstTear n tears = none ↔ ∀ found ∈ tears, found = none := by
  induction tears with
  | nil => intro n; simp [Listing.firstTear]
  | cons found rest ih =>
      intro n
      cases found with
      | none => rw [Listing.firstTear, ih, List.forall_mem_cons]; simp
      | some tear => simp [Listing.firstTear]

theorem firstTear_eq_some {tears : List (Option Listing.Tear)} :
    ∀ {n : Nat}, Listing.firstTear n tears = some tear → ∃ found k, some found ∈ tears ∧
      k < tears.length ∧ tear = ⟨n + 2 * k + found.statement, found.complaint⟩ := by
  induction tears with
  | nil => intro n h; cases h
  | cons found rest ih =>
      intro n h
      cases found with
      | none =>
          obtain ⟨found, k, hin, hk, rfl⟩ := ih h
          exact ⟨found, k + 1, List.mem_cons_of_mem _ hin, Nat.succ_lt_succ hk,
            by rw [show n + 2 + 2 * k = n + 2 * (k + 1) by omega]⟩
      | some found =>
          cases h
          exact ⟨found, 0, List.mem_cons_self, Nat.zero_lt_succ _, rfl⟩

/-- A page can be written exactly if all its texts can be encoded. -/
theorem pageTear?_eq_none_iff : pageTear? adverts base = none ↔ AllEncode adverts base := by
  rw [pageTear?, firstTear_eq_none_iff]
  constructor
  · intro h advert listing hstands
    exact tear?_eq_none_iff.mp (h _ (List.mem_map.mpr
      ⟨_, mem_tears.mpr ⟨advert, listing, hstands, rfl, rfl⟩, rfl⟩))
  · intro h found hfound
    obtain ⟨⟨key, found⟩, hin, rfl⟩ := List.mem_map.mp hfound
    obtain ⟨advert, listing, hstands, -, rfl⟩ := mem_tears.mp hin
    exact tear?_eq_none_iff.mpr (h advert listing hstands)

/-- A page that cannot be written is refused for a text on it, in one of the statements that write
its listings. -/
theorem pageTear?_eq_some (h : pageTear? adverts base = some tear) :
    (∃ advert listing, Stands adverts base advert listing ∧
      ∃ text ∈ listing.texts, advert.unencodable? text = some tear.complaint) ∧
    ∀ listings discarded, Advert.listings adverts base = .ok (listings, discarded) →
      tear.statement < 2 * (Page.ofListings listings).length := by
  obtain ⟨found, k, hfound, hk, rfl⟩ := firstTear_eq_some h
  obtain ⟨⟨key, _⟩, hin, rfl⟩ := List.mem_map.mp hfound
  obtain ⟨advert, listing, hstands, -, htear⟩ := mem_tears.mp hin
  obtain ⟨hstatement, htext⟩ := tear?_eq_some htear
  refine ⟨⟨advert, listing, hstands, htext⟩, fun listings discarded hlistings => ?_⟩
  rw [Table.values, List.length_map, length_tears hlistings] at hk
  show 0 + 2 * k + found.statement < _
  omega

end Advert
end VacancyLedger
