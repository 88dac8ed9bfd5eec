/-
The texts of adverts.

Whatever a value is, a text that is read off it is stripped, or the text of a number, or made of
such texts by joining; so it is not empty and has no blanks around it.
-/
import VacancyLedger.Advert.Format
import VacancyLedger.Proofs.Text.Tidy

namespace VacancyLedger.Advert

open Text (IsTidy)

variable {s t : String} {value node : Json}

/-! ### Fields -/

theorem trimmed?_tidy (h : trimmed? s = some t) : IsTidy t := by
  simp only [trimmed?] at h
  split at h
  · cases h
  · rename_i hempty
    cases h
    exact Text.isTidy_strip (by simpa using hempty)

theorem trimmed?_of_tidy (h : IsTidy s) : trimmed? s = some s := by
  have hempty : ¬s.isEmpty = true := mt String.isEmpty_iff.mp h.1
  simp only [trimmed?, h.2]
  rw [if_neg hempty]

mutual

theorem textOf?_tidy (value : Json) : ∀ t ∈ textOf? value, IsTidy t :=
  match value with
  | .text _ | .torn _ _ => fun _ ht => by
      rw [textOf?] at ht
      exact trimmed?_tidy ht
  | .int n => fun _ ht => by
      rw [textOf?] at ht
      exact Option.some.inj ht ▸ Number.isTidy_toString n
  | .real x => fun _ ht => by
      rw [textOf?] at ht
      exact Option.some.inj ht ▸ Number.isTidy_shortest x
  | .object members => by
      rw [textOf?]
      exact nameOf?_tidy members
  | .null | .bool _ | .list _ => nofun

theorem nameOf?_tidy (members : List (String × Json)) : ∀ t ∈ nameOf? members, IsTidy t :=
  match members with
  | [] => nofun
  | (key, value) :: members => by
      rw [nameOf?]
      split
      · exact textOf?_tidy value
      · exact nameOf?_tidy members

end

theorem field?_tidy (node : Json) (name : String) : ∀ t ∈ field? node name, IsTidy t := by
  intro t ht
  obtain ⟨value, -, htext⟩ := Option.bind_eq_some_iff.mp ht
  exact textOf?_tidy value t htext

theorem firstField?_tidy (node : Json) (names : List String) :
    ∀ t ∈ firstField? node names, IsTidy t := by
  intro t ht
  obtain ⟨name, -, hfield⟩ := List.exists_of_findSome?_eq_some ht
  exact field?_tidy node name t hfield

/-! ### Places -/

theorem placeOf_tidy (node : Json) : ∀ place ∈ placeOf node, IsTidy place := by
  have hnamed : ∀ place ∈ (field? node "name").toList, IsTidy place := fun place hplace =>
    field?_tidy node "name" place (Option.mem_toList.mp hplace)
  have hwritten : ∀ s, ∀ place ∈ (trimmed? s).elim (field? node "name").toList ([·]),
      IsTidy place := by
    intro s
    cases hplace : trimmed? s with
    | some place => exact List.forall_mem_singleton.mpr (trimmed?_tidy hplace)
    | none => exact hnamed
  rw [placeOf]
  split
  · rename_i members _
    simp only
    split
    · exact hnamed
    · rename_i hparts
      refine List.forall_mem_singleton.mpr
        (Text.isTidy_joinWith _ (mt List.isEmpty_iff.mpr hparts) fun part hpart => ?_)
      obtain ⟨name, -, hfield⟩ := List.mem_filterMap.mp hpart
      exact field?_tidy _ name part hfield
  · exact hwritten _
  · exact hwritten _
  · exact hnamed

mutual

theorem placesIn_tidy (value : Json) : ∀ place ∈ placesIn value, IsTidy place :=
  match value with
  | .list items => by
      rw [placesIn]
      exact placesInAll_tidy items
  | .text _ | .torn _ _ => fun _ hplace => by
      rw [placesIn] at hplace
      exact trimmed?_tidy (Option.mem_toList.mp hplace)
  | .object members => by
      rw [placesIn]
      exact placeOf_tidy (.object members)
  | .null | .bool _ | .int _ | .real _ => nofun

theorem placesInAll_tidy (items : List Json) : ∀ place ∈ placesInAll items, IsTidy place :=
  match items with
  | [] => nofun
  | item :: items => List.forall_mem_append.mpr ⟨placesIn_tidy item, placesInAll_tidy items⟩

end

theorem location?_tidy (value : Option Json) : ∀ t ∈ location? value, IsTidy t := by
  have hplaces : ∀ place ∈ ((value.map placesIn).getD []).eraseDups, IsTidy place := by
    intro place hplace
    cases value with
    | none => cases hplace
    | some value => exact placesIn_tidy value place (List.mem_eraseDups.mp hplace)
  intro t ht
  rw [location?] at ht
  split at ht
  · cases ht
  · rename_i hsome
    exact Option.some.inj ht ▸ Text.isTidy_joinWith _ (mt List.isEmpty_iff.mpr hsome) hplaces

/-! ### Dates -/

theorem padded_no_blank (width n : Nat) :
    ∀ c ∈ (Time.padded width n).toList, Text.isBlank c = false := by
  rw [Time.toList_padded]
  refine List.forall_mem_append.mpr ⟨fun c hc => ?_, fun c hc => ?_⟩
  · rw [(List.mem_replicate.mp hc).2]
    rfl
  · exact Time.Instant.isBlank_of_isDigit
      (Nat.isDigit_of_mem_toDigits (by decide) (by decide) hc)

theorem dateText_tidy (d : Time.Date) : IsTidy d.text := by
  have hdash : ∀ c ∈ "-".toList, Text.isBlank c = false := List.forall_mem_singleton.mpr rfl
  refine Number.isTidy_of_isSolid ⟨by simp [Time.Date.text], ?_⟩
  simp only [Time.Date.text, String.toList_append, List.forall_mem_append]
  exact ⟨⟨⟨⟨padded_no_blank _ _, hdash⟩, padded_no_blank _ _⟩, hdash⟩, padded_no_blank _ _⟩

theorem dateOfDays?_tidy (days : Int) : ∀ t ∈ dateOfDays? days, IsTidy t := by
  intro t ht
  simp only [dateOfDays?] at ht
  split at ht
  · exact Option.some.inj ht ▸ dateText_tidy _
  · cases ht

theorem dateOfSeconds?_tidy (seconds : Number.Decoded) :
    ∀ t ∈ dateOfSeconds? seconds, IsTidy t := by
  cases seconds with
  | finite negative m q => exact dateOfDays?_tidy _
  | nan | infinite negative => exact nofun

theorem date?_tidy (value : Json) : ∀ t ∈ date? value, IsTidy t := by
  cases value with
  | int n => exact dateOfSeconds?_tidy _
  | real x => exact dateOfSeconds?_tidy _
  | null | bool b | text s | torn marks s | list items | object members => exact nofun

end VacancyLedger.Advert
