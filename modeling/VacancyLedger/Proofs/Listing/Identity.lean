/-
Which vacancies have the same key.

An address of the web starts with a scheme of the web, and a key made of a digest starts with
another one; so the two kinds of keys are apart, and keys of the first kind are the addresses
themselves.  Of the second kind two keys are equal exactly if the texts that were digested
are, unless the digests of two texts agree.  Such a text is title and location with a
separator between them.  As nothing keeps a separator out of either, the end of a title may
move to the front of a location without a change to the key; that is all that may differ.
-/
import VacancyLedger.Proofs.Address.Essentials
import VacancyLedger.Proofs.Listing.Normalize
import VacancyLedger.Proofs.Text.Scan

namespace VacancyLedger.Identity

open Address (canonical)

variable {title location title' location' : String}

/-! ### Digested texts -/

/-- The second pair is the first, with the end of its title, from a separator on, moved to the
front of its location. -/
def Shifts (title location title' location' : String) : Prop :=
  ∃ moved, title = title' ++ "|" ++ moved ∧ location' = moved ++ "|" ++ location

theorem shifts_iff :
    Shifts title location title' location' ↔
      ∃ moved, title.toList = title'.toList ++ '|' :: moved ∧
        location'.toList = moved ++ '|' :: location.toList := by
  constructor
  · rintro ⟨moved, rfl, rfl⟩
    exact ⟨moved.toList, by simp, by simp⟩
  · rintro ⟨moved, htitle, hlocation⟩
    refine ⟨String.ofList moved, String.toList_inj.mp ?_, String.toList_inj.mp ?_⟩
    · simpa using htitle
    · simpa using hlocation

/-- A title whose end was moved has fewer separators. -/
theorem Shifts.count_lt (h : Shifts title location title' location') :
    title'.toList.count '|' < title.toList.count '|' := by
  obtain ⟨moved, htitle, -⟩ := shifts_iff.mp h
  rw [htitle, List.count_append, List.count_cons_self]
  omega

/-- Which vacancies without an address are taken for one: those with the same title and the same
location, up to an end of the title that stands in the location. -/
def AreAlike (title location title' location' : String) : Prop :=
  (title = title' ∧ location = location') ∨ Shifts title location title' location' ∨
    Shifts title' location' title location

theorem digested_eq_iff :
    digested title location = digested title' location' ↔
      AreAlike (normalForm title) (normalForm location) (normalForm title')
        (normalForm location') := by
  have hdigested : ∀ title location, (digested title location).toList =
      (normalForm title).toList ++ '|' :: (normalForm location).toList := by
    intro title location
    simp [digested]
  rw [← String.toList_inj, hdigested, hdigested, Text.append_cons_eq_iff, AreAlike, shifts_iff,
    shifts_iff, String.toList_inj, String.toList_inj]

/-- With equally many separators in the titles nothing can have moved. -/
theorem areAlike_iff_of_count (h : title.toList.count '|' = title'.toList.count '|') :
    AreAlike title location title' location' ↔ title = title' ∧ location = location' := by
  refine ⟨fun halike => ?_, .inl⟩
  rcases halike with hsame | hmoved | hmoved
  · exact hsame
  · exact absurd hmoved.count_lt (by omega)
  · exact absurd hmoved.count_lt (by omega)

/-! ### Keys -/

/-- The two texts have the same digest only if they are the same. -/
def NoCollision (text text' : String) : Prop :=
  Text.Sha256.hex text = Text.Sha256.hex text' → text = text'

/-- A digest with its mark is no address of the web. -/
theorem mark_ne_canonical (digest raw base : String) :
    digestMark ++ digest ≠ canonical raw base := by
  intro heq
  have hchars : Address.canonicalChars raw.toList base.toList =
      "hash".toList ++ ':' :: digest.toList := by
    have hlist := congrArg String.toList heq
    rw [canonical, String.toList_ofList] at hlist
    rw [← hlist]
    simp [digestMark]
  have hne : Address.canonicalChars raw.toList base.toList ≠ [] := by
    rw [hchars]
    exact List.cons_ne_nil _ _
  obtain ⟨-, -, -, -, hweb⟩ := Address.canonicalChars_ne_nil hne
  rw [hchars] at hweb
  rcases Address.scheme_of_isWebChars (by decide) hweb with hscheme | hscheme
  · revert hscheme
    decide
  · revert hscheme
    decide

/-- Where a visitor came from does not matter to the key of a vacancy on the web, whatever else is
said of it; nor to that of another one, if title and location are the same. -/
theorem key_eq_of_trackAlike {advert advert' : Advert} {base base' : String}
    {listing listing' : Listing} (h : advert.listing base = .ok listing)
    (h' : advert'.listing base' = .ok listing')
    (halike : Address.TrackAlike (advert.url.getD "") base (advert'.url.getD "") base')
    (hsame : listing.content.canonicalUrl ≠ "" ∨
      listing'.content.title = listing.content.title ∧
        listing'.content.location = listing.content.location) :
    listing'.key = listing.key := by
  have hurl : listing'.content.canonicalUrl = listing.content.canonicalUrl := by
    rw [Advert.canonicalUrl_listing h, Advert.canonicalUrl_listing h', halike.canonical_eq]
  have hkey := eq_of_key? (Advert.isCoherent_listing h).key
  have hkey' := eq_of_key? (Advert.isCoherent_listing h').key
  rw [hurl] at hkey'
  rcases hsame with hweb | ⟨htitle, hlocation⟩
  · rw [hkey, hkey', if_neg hweb, if_neg hweb]
  · rw [hkey, hkey', htitle, hlocation]

/-- **Vacancies have the same key exactly if they have the same address; without addresses,
exactly if their titles and locations are alike, unless two digests agree that should not.**  With
equally many separators in the titles, alike is the same. -/
theorem key_eq_iff {raw base raw' base' key key' : String}
    (h : key? (canonical raw base) title location = some key)
    (h' : key? (canonical raw' base') title' location' = some key') :
    (canonical raw base ≠ "" → canonical raw' base' ≠ "" →
        (key = key' ↔ canonical raw base = canonical raw' base')) ∧
      (canonical raw base = "" → canonical raw' base' ≠ "" → key ≠ key') ∧
      (canonical raw base ≠ "" → canonical raw' base' = "" → key ≠ key') ∧
      (canonical raw base = "" → canonical raw' base' = "" →
        NoCollision (digested title location) (digested title' location') →
          (key = key' ↔
            AreAlike (normalForm title) (normalForm location) (normalForm title')
              (normalForm location')) ∧
          ((normalForm title).toList.count '|' = (normalForm title').toList.count '|' →
            (key = key' ↔
              normalForm title = normalForm title' ∧
                normalForm location = normalForm location'))) := by
  have hkey := eq_of_key? h
  have hkey' := eq_of_key? h'
  refine ⟨fun hne hne' => ?_, fun hnone hne' => ?_, fun hne hnone' => ?_,
    fun hnone hnone' hcollision => ?_⟩
  · rw [hkey, hkey', if_neg hne, if_neg hne']
  · rw [hkey, hkey', if_pos hnone, if_neg hne']
    exact mark_ne_canonical _ raw' base'
  · rw [hkey, hkey', if_neg hne, if_pos hnone']
    exact (mark_ne_canonical _ raw base).symm
  · have halike : key = key' ↔ AreAlike (normalForm title) (normalForm location)
        (normalForm title') (normalForm location') := by
      rw [hkey, hkey', if_pos hnone, if_pos hnone', ← digested_eq_iff]
      refine ⟨fun heq => hcollision ?_, fun heq => by rw [heq]⟩
      have hlist := congrArg String.toList heq
      rw [String.toList_append, String.toList_append] at hlist
      exact String.toList_inj.mp (List.append_cancel_left hlist)
    exact ⟨halike, fun hcount => halike.trans (areAlike_iff_of_count hcount)⟩

/-- Blanks and letter case do not matter, nor does an address that is none of the web; another
location does. -/
theorem key_eq_iff_engineers :
    key? (canonical "" "") "Data  Engineer" "Berlin" =
        key? (canonical "mailto:jobs@acme.example" "") "data engineer" " berlin " ∧
      key? (canonical "" "") "Data  Engineer" "Berlin" ≠
        key? (canonical "" "") "Data  Engineer" "Hamburg" := by
  have hnone : canonical "" "" = "" := by decide +kernel
  have hmail : canonical "mailto:jobs@acme.example" "" = "" := by decide +kernel
  have hkey : ∀ raw title location, canonical raw "" = "" → normalForm title ≠ "" →
      key? (canonical raw "") title location =
        some (digestMark ++ Text.Sha256.hex (digested title location)) := by
    intro raw title location hempty htitle
    simp [key?, hempty, htitle]
  have hberlin := hkey "" "Data  Engineer" "Berlin" hnone (by decide +kernel)
  have hmailed := hkey "mailto:jobs@acme.example" "data engineer" " berlin " hmail
    (by decide +kernel)
  have hhamburg := hkey "" "Data  Engineer" "Hamburg" hnone (by decide +kernel)
  have hsame := (key_eq_iff hberlin hmailed).2.2.2 hnone hmail fun _ => by decide +kernel
  have hother := (key_eq_iff hberlin hhamburg).2.2.2 hnone hnone fun heq =>
    absurd heq (by decide +kernel)
  constructor
  · rw [hberlin, hmailed, hsame.1.mpr (.inl (by decide +kernel))]
  · rw [hberlin, hhamburg]
    intro heq
    have hlocation := ((hother.2 rfl).mp (Option.some.inj heq)).2
    revert hlocation
    decide +kernel

/-- A separator in a title or a location is taken for the one between them. -/
theorem key_eq_of_separators :
    key? "" "Engineer|Remote" "Berlin" = key? "" "Engineer" "Remote|Berlin" ∧
      (key? "" "Engineer" "Remote|Berlin").isSome = true ∧
      digested "Engineer|Remote" "Berlin" = digested "Engineer" "Remote|Berlin" ∧
      normalForm "Engineer|Remote" ≠ normalForm "Engineer" ∧
      normalForm "Berlin" ≠ normalForm "Remote|Berlin" := by
  decide +kernel

end VacancyLedger.Identity
