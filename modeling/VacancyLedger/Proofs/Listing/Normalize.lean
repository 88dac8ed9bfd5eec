/-
What becomes of the adverts on a page.

Each advert makes a listing, is discarded, or meets an obstacle: markup that cannot be read, or
a text that has no digest.  A discarded advert is counted and has no other effect, wherever it
stands among the others.  An advert of the last kind ends everything: nothing is listed then,
whatever the others say.

The fields of a listing hang together.  Its plain text is read off its description, so two
listings that agree on everything else agree on it as well; its key is the one that follows
from its own address, title and location.
-/
import VacancyLedger.Listing.Normalize
import VacancyLedger.Proofs.Outcome
import VacancyLedger.Proofs.Text.Blank

namespace VacancyLedger

namespace Advert

/-- Whether there is an obstacle to listing an advert. -/
def IsRejected (advert : Advert) (base : String) : Prop :=
  ∃ obstacle, advert.listing base = .error (.obstacle obstacle)

/-- Whether an advert is discarded. -/
def IsDiscarded (advert : Advert) (base : String) : Prop :=
  advert.listing base = .error .unidentified

variable {advert : Advert} {adverts : List Advert} {base : String}

theorem IsDiscarded.not_isRejected (h : advert.IsDiscarded base) : ¬ advert.IsRejected base := by
  rintro ⟨obstacle, hrejected⟩
  cases h.symm.trans hrejected

theorem not_isRejected_of_ok {listing : Listing} (h : advert.listing base = .ok listing) :
    ¬ advert.IsRejected base := by
  rintro ⟨obstacle, hrejected⟩
  cases h.symm.trans hrejected

theorem listings_cons (first : Advert) (rest : List Advert) (base : String) :
    listings (first :: rest) base =
      match first.listing base with
      | .error (.obstacle obstacle) => .error obstacle
      | .error .unidentified => (listings rest base).map fun r => (r.1, r.2 + 1)
      | .ok listing => (listings rest base).map fun r => (listing :: r.1, r.2) := by
  simp only [listings]
  generalize first.listing base = made
  rcases made with (_ | _) | _
  · cases listings rest base <;> rfl
  · rfl
  · cases listings rest base <;> rfl

/-- A discarded advert only counts as discarded. -/
theorem listings_discarded (before after : List Advert) (h : advert.IsDiscarded base) :
    listings (before ++ advert :: after) base =
      (listings (before ++ after) base).map fun r => (r.1, r.2 + 1) := by
  induction before with
  | nil =>
      rw [List.nil_append, List.nil_append, listings_cons, h]
  | cons first before ih =>
      rw [List.cons_append, List.cons_append, listings_cons, listings_cons, ih]
      generalize first.listing base = made
      rcases made with (_ | _) | _
      · cases listings (before ++ after) base <;> rfl
      · rfl
      · cases listings (before ++ after) base <;> rfl

/-- If nothing is listed, that is for the obstacle that one advert meets. -/
theorem listings_error {obstacle : Obstacle} (h : listings adverts base = .error obstacle) :
    ∃ advert ∈ adverts, advert.listing base = .error (.obstacle obstacle) := by
  induction adverts with
  | nil => cases h
  | cons first rest ih =>
      have hrest : listings rest base = .error obstacle →
          ∃ advert ∈ first :: rest, advert.listing base = .error (.obstacle obstacle) := by
        intro herror
        obtain ⟨advert, hmem, hadvert⟩ := ih herror
        exact ⟨advert, List.mem_cons_of_mem _ hmem, hadvert⟩
      rw [listings_cons] at h
      cases hfirst : first.listing base with
      | error refusal =>
          rw [hfirst] at h
          cases refusal with
          | obstacle met =>
              rw [Except.error.inj h] at hfirst
              exact ⟨first, List.mem_cons_self, hfirst⟩
          | unidentified => exact hrest (map_error h)
      | ok listing =>
          rw [hfirst] at h
          exact hrest (map_error h)

/-- What is listed are the listings that adverts make, in their order; the other adverts were
discarded, and none was rejected. -/
theorem listings_ok {found : List Listing} {discarded : Nat}
    (h : listings adverts base = .ok (found, discarded)) :
    (∀ advert ∈ adverts, ¬ advert.IsRejected base) ∧
      found = adverts.filterMap (fun advert => (advert.listing base).toOption) ∧
      found.length + discarded = adverts.length := by
  induction adverts generalizing found discarded with
  | nil =>
      cases h
      simp
  | cons first rest ih =>
      rw [listings_cons] at h
      cases hfirst : first.listing base with
      | error refusal =>
          rw [hfirst] at h
          cases refusal with
          | obstacle met => cases h
          | unidentified =>
              obtain ⟨⟨found', discarded'⟩, hrest, hresult⟩ := map_ok h
              cases hresult
              obtain ⟨hread, hfound, hlength⟩ := ih hrest
              have hkept := IsDiscarded.not_isRejected hfirst
              have hnone : (first.listing base).toOption = none := by rw [hfirst]; rfl
              refine ⟨List.forall_mem_cons.mpr ⟨hkept, hread⟩, ?_, ?_⟩
              · simp only [List.filterMap_cons, hnone, hfound]
              · rw [List.length_cons, ← hlength, Nat.add_assoc]
      | ok listing =>
          rw [hfirst] at h
          obtain ⟨⟨found', discarded'⟩, hrest, hresult⟩ := map_ok h
          cases hresult
          obtain ⟨hread, hfound, hlength⟩ := ih hrest
          have hkept := not_isRejected_of_ok hfirst
          have hsome : (first.listing base).toOption = some listing := by rw [hfirst]; rfl
          refine ⟨List.forall_mem_cons.mpr ⟨hkept, hread⟩, ?_, ?_⟩
          · simp only [List.filterMap_cons, hsome, hfound]
          · simp only [List.length_cons, ← hlength]
            omega

end Advert

/-! ### Plain text -/

/-- A content whose plain text is that of its description. -/
structure Content.IsNormal (c : Content) : Prop where
  plain_eq : Markup.plainText c.description = .ok c.plain

/-- Of normal contents that have the same description the plain text is the same. -/
theorem Content.eq_of_isNormal {c d : Content} (hc : c.IsNormal) (hd : d.IsNormal)
    (h : { c with plain := d.plain } = d) : c = d := by
  have hdescription : c.description = d.description := by
    rw [← h]
  have hplain : c.plain = d.plain := by
    have hread := hc.plain_eq
    rw [hdescription] at hread
    exact Except.ok.inj (hread.symm.trans hd.plain_eq)
  rw [← h, ← hplain]

/-! ### How the fields of a listing hang together -/

/-- A listing whose fields are as an advert's are after it was put into normal form. -/
structure Listing.IsCoherent (l : Listing) : Prop where
  normal : l.content.IsNormal
  /-- Its description is what is left of some markup. -/
  description : ∃ markup, Markup.sanitize markup = .ok l.content.description
  title : Text.collapse l.content.title = l.content.title
  location : Text.collapse l.content.location = l.content.location
  datePosted : ∀ date, l.content.datePosted = some date → date ≠ "" ∧ Text.collapse date = date
  key : Identity.key? l.content.canonicalUrl l.content.title l.content.location = some l.key

/-- A key is the address, or without one a digest of title and location. -/
theorem Identity.eq_of_key? {canonicalUrl title location key : String}
    (h : key? canonicalUrl title location = some key) :
    key =
      if canonicalUrl = "" then digestMark ++ Text.Sha256.hex (digested title location)
      else canonicalUrl := by
  unfold key? at h
  split at h
  · rename_i haddress
    have hne : canonicalUrl ≠ "" := by simpa using haddress
    rw [if_neg hne, ← Option.some.inj h]
  · rename_i hnone
    have heq : canonicalUrl = "" := by simpa using hnone
    split at h
    · cases h
    · rw [if_pos heq, ← Option.some.inj h]

theorem Text.collapse?_some {s t : String} (h : Text.collapse? s = some t) :
    t ≠ "" ∧ Text.collapse t = t := by
  unfold Text.collapse? at h
  simp only at h
  split at h
  · cases h
  · rename_i hfull
    obtain rfl := Option.some.inj h
    exact ⟨by simpa using hfull, Text.collapse_collapse s⟩

/-- The key of a listing is that of its address, title and location. -/
theorem Advert.key_ok {advert : Advert} {canonicalUrl title location key : String}
    (h : advert.key canonicalUrl title location = .ok key) :
    Identity.key? canonicalUrl title location = some key := by
  unfold Advert.key at h
  split at h
  · cases h
  · rename_i found hfound
    split at h
    · rw [hfound, Except.ok.inj h]
    · split at h
      · cases h
      · rw [hfound, Except.ok.inj h]

/-- A listing that an advert makes is coherent. -/
theorem Advert.isCoherent_listing {advert : Advert} {base : String} {listing : Listing}
    (h : advert.listing base = .ok listing) : listing.IsCoherent := by
  unfold Advert.listing at h
  obtain ⟨key, hkey, hrest⟩ := bind_ok h
  obtain ⟨description, hdescription, hrest⟩ := bind_ok hrest
  obtain ⟨plain, hplain, hlisting⟩ := bind_ok hrest
  cases hlisting
  refine ⟨⟨mapError_ok hplain⟩, ⟨_, mapError_ok hdescription⟩, Text.collapse_collapse _,
    Text.collapse_collapse _, fun date hdate => ?_, key_ok hkey⟩
  obtain ⟨posted, -, hposted⟩ := Option.bind_eq_some_iff.mp hdate
  exact Text.collapse?_some hposted

/-- The address of a listing is the one that its advert gives. -/
theorem Advert.canonicalUrl_listing {advert : Advert} {base : String} {listing : Listing}
    (h : advert.listing base = .ok listing) :
    listing.content.canonicalUrl = Address.canonical (advert.url.getD "") base := by
  unfold Advert.listing at h
  obtain ⟨key, -, hrest⟩ := bind_ok h
  obtain ⟨description, -, hrest⟩ := bind_ok hrest
  obtain ⟨plain, -, hlisting⟩ := bind_ok hrest
  cases hlisting
  rfl

theorem Advert.isCoherent_listings {adverts : List Advert} {base : String} {found : List Listing}
    {discarded : Nat} (h : listings adverts base = .ok (found, discarded)) {listing : Listing}
    (hin : listing ∈ found) : listing.IsCoherent := by
  rw [(listings_ok h).2.1] at hin
  obtain ⟨advert, -, hadvert⟩ := List.mem_filterMap.mp hin
  cases hmade : advert.listing base with
  | error refusal =>
      rw [hmade] at hadvert
      cases hadvert
  | ok made =>
      rw [hmade] at hadvert
      obtain rfl := Option.some.inj hadvert
      exact isCoherent_listing hmade

end VacancyLedger
