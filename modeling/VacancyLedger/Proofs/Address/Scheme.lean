/-
The scheme of a URL.

A scheme is a name before the first colon.  No character that marks a part of a URL may stand
in it, so a text without a scheme has none either if only its start is looked at, or if marks
are added behind it.  Reading gives schemes in lower case, and a scheme in lower case is read
as it is written.  What is written is read as it stands if it holds no blanks and starts with
no control.
-/
import VacancyLedger.Address.Split
import VacancyLedger.Proofs.Text.Case
import VacancyLedger.Proofs.Text.Scan
import VacancyLedger.Text.Blank

namespace VacancyLedger.Address

variable {cs ds name rest scheme : List Char}

/-! ### Schemes -/

/-- A scheme as it may be written: a letter, then letters, digits and signs. -/
def IsScheme (name : List Char) : Prop :=
  (∃ c ∈ name.head?, c.isAlpha = true) ∧ ∀ c ∈ name, isSchemeChar c = true

-- Decided over the name, not over all characters.
instance : Decidable (IsScheme name) :=
  decidable_of_iff (name.head?.any Char.isAlpha = true ∧ name.all isSchemeChar = true) <| by
    simp [IsScheme, Option.any_eq_true, List.all_eq_true]

theorem IsScheme.ne_nil (h : IsScheme name) : name ≠ [] := by
  rintro rfl
  obtain ⟨⟨c, hc, -⟩, -⟩ := h
  cases hc

theorem IsScheme.colon_not_mem (h : IsScheme name) : ':' ∉ name := by
  intro hin
  have hcolon := h.2 ':' hin
  revert hcolon
  decide

/-- A text has a scheme if a name of one stands before its first colon. -/
theorem cutScheme_eq_some_iff :
    cutScheme cs = some (scheme, rest) ↔
      ∃ name, IsScheme name ∧ cs = name ++ ':' :: rest ∧ scheme = name.map Char.toLower := by
  constructor
  · intro h
    unfold cutScheme at h
    rcases Text.cutAt_cases ':' cs with ⟨-, hcut⟩ | ⟨before, after, rfl, -, hcut⟩
    · rw [hcut] at h
      cases cs <;> cases h
    · rw [hcut] at h
      cases before with
      | nil => cases h
      | cons c name =>
          simp only at h
          split at h
          · next hname =>
              cases h
              rw [Bool.and_eq_true, List.all_eq_true] at hname
              exact ⟨c :: name, ⟨⟨c, rfl, hname.1⟩, hname.2⟩, rfl, rfl⟩
          · cases h
  · rintro ⟨name, hname, rfl, rfl⟩
    unfold cutScheme
    rw [Text.cutAt_append hname.colon_not_mem]
    obtain ⟨⟨c, hc, halpha⟩, hall⟩ := hname
    cases name with
    | nil => cases hc
    | cons d name =>
        obtain rfl : d = c := Option.some.inj hc
        simp only
        rw [if_pos (by rw [Bool.and_eq_true, List.all_eq_true]; exact ⟨halpha, hall⟩)]

theorem cutScheme_eq_none_iff :
    cutScheme cs = none ↔ ∀ name rest, IsScheme name → cs ≠ name ++ ':' :: rest := by
  constructor
  · rintro hnone name rest hname rfl
    have hsome : cutScheme (name ++ ':' :: rest) = some (name.map Char.toLower, rest) :=
      cutScheme_eq_some_iff.mpr ⟨name, hname, rfl, rfl⟩
    rw [hnone] at hsome
    cases hsome
  · intro h
    cases hcut : cutScheme cs with
    | none => rfl
    | some found =>
        obtain ⟨name, hname, hcs, -⟩ := cutScheme_eq_some_iff.mp hcut
        exact absurd hcs (h name _ hname)

/-- Where a text has no scheme, none is found at the start of it either. -/
theorem cutScheme_start (hstart : cs <+: ds) (h : cutScheme ds = none) :
    cutScheme cs = none := by
  rw [cutScheme_eq_none_iff] at h ⊢
  obtain ⟨more, rfl⟩ := hstart
  rintro name rest hname rfl
  exact h name (rest ++ more) hname (by simp)

/-- A scheme does not reach across a character that no scheme has. -/
theorem cutScheme_append (h : cutScheme cs = none)
    (hds : ∀ c ∈ ds.head?, c ≠ ':' ∧ isSchemeChar c = false) : cutScheme (cs ++ ds) = none := by
  rw [cutScheme_eq_none_iff] at h ⊢
  intro name rest hname heq
  rcases List.append_eq_append_iff.mp heq with ⟨more, rfl, hmore⟩ | ⟨more, rfl, hmore⟩
  · cases more with
    | nil => exact (hds ':' (by rw [hmore]; rfl)).1 rfl
    | cons c more =>
        have hforeign := (hds c (by rw [hmore]; rfl)).2
        have hown := hname.2 c (by simp)
        rw [hown] at hforeign
        cases hforeign
  · cases more with
    | nil => exact (hds ':' (by rw [← List.nil_append ds, ← hmore]; rfl)).1 rfl
    | cons c more =>
        obtain ⟨rfl, -⟩ := List.cons.inj hmore
        exact h name more hname rfl

theorem cutScheme_of_head (h : ∀ c ∈ cs.head?, c.isAlpha = false) : cutScheme cs = none := by
  rw [cutScheme_eq_none_iff]
  rintro name rest hname rfl
  obtain ⟨⟨c, hc, halpha⟩, -⟩ := hname
  rw [h c (by cases name <;> simp_all)] at halpha
  cases halpha

/-! ### Schemes in lower case -/

/-- What lower case makes of the characters of schemes. -/
theorem schemeChar_table : ∀ c : Char, c.toNat < 128 →
    (!isSchemeChar c ||
      isSchemeChar c.toLower && c.toLower.isAlpha == c.isAlpha &&
        c.toLower.toLower == c.toLower) = true :=
  Text.forall_ascii (by decide +kernel)

theorem toNat_of_isSchemeChar {c : Char} (h : isSchemeChar c = true) :
    32 < c.toNat ∧ c.toNat < 128 := by
  rw [isSchemeChar, Bool.or_eq_true, Bool.or_eq_true, Bool.or_eq_true] at h
  rcases h with ((hname | hsign) | hsign) | hsign
  · have hcase : c.isAlpha = true ∨ c.isDigit = true := (Bool.or_eq_true _ _).mp hname
    rcases hcase with hletter | hdigit
    · exact Text.toNat_of_isAlpha hletter
    · obtain ⟨hfirst, hlast⟩ := Char.isDigit_iff_toNat.mp hdigit
      exact ⟨Nat.lt_of_lt_of_le (by decide) hfirst, Nat.lt_of_le_of_lt hlast (by decide)⟩
  · rw [eq_of_beq hsign]
    decide
  · rw [eq_of_beq hsign]
    decide
  · rw [eq_of_beq hsign]
    decide

theorem toLower_of_isSchemeChar {c : Char} (h : isSchemeChar c = true) :
    isSchemeChar c.toLower = true ∧ c.toLower.isAlpha = c.isAlpha ∧
      c.toLower.toLower = c.toLower := by
  have hchar := schemeChar_table c (toNat_of_isSchemeChar h).2
  simpa [h, and_assoc] using hchar

/-- A scheme that is in lower case. -/
def IsLowScheme (name : List Char) : Prop := IsScheme name ∧ name.map Char.toLower = name

instance : Decidable (IsLowScheme name) := inferInstanceAs (Decidable (_ ∧ _))

theorem IsScheme.isLowScheme (h : IsScheme name) : IsLowScheme (name.map Char.toLower) := by
  obtain ⟨⟨c, hc, halpha⟩, hall⟩ := h
  refine ⟨⟨⟨c.toLower, by simpa using ⟨c, hc, rfl⟩, ?_⟩, fun d hd => ?_⟩, ?_⟩
  · rw [(toLower_of_isSchemeChar (hall c (List.mem_of_mem_head? hc))).2.1]
    exact halpha
  · obtain ⟨e, he, rfl⟩ := List.mem_map.mp hd
    exact (toLower_of_isSchemeChar (hall e he)).1
  · rw [List.map_map]
    exact List.map_congr_left fun e he => (toLower_of_isSchemeChar (hall e he)).2.2

theorem cutScheme_written (h : IsLowScheme scheme) (rest : List Char) :
    cutScheme (scheme ++ ':' :: rest) = some (scheme, rest) :=
  cutScheme_eq_some_iff.mpr ⟨scheme, h.1, rfl, h.2.symm⟩

/-! ### Cleaning -/

theorem head?_clean : ∀ c ∈ (clean cs).head?, 32 < c.toNat := by
  intro c hc
  unfold clean at hc
  cases hrest : cs.dropWhile fun c => c.toNat ≤ 32 with
  | nil =>
      rw [hrest] at hc
      cases hc
  | cons d ds =>
      have hd : 32 < d.toNat := by
        have hstop := Text.head?_dropWhile (fun c : Char => decide (c.toNat ≤ 32)) cs d
          (by rw [hrest]; rfl)
        simpa using hstop
      have hkept : (!(d == '\t' || d == '\r' || d == '\n')) = true := by
        have htab : d ≠ '\t' := by rintro rfl; exact absurd hd (by decide)
        have hreturn : d ≠ '\r' := by rintro rfl; exact absurd hd (by decide)
        have hfeed : d ≠ '\n' := by rintro rfl; exact absurd hd (by decide)
        simp [htab, hreturn, hfeed]
      rw [hrest, List.filter_cons, if_pos hkept] at hc
      obtain rfl : d = c := Option.some.inj hc
      exact hd

/-- A text without blanks, and without a control at its start, is clean. -/
theorem clean_of_no_blank (hhead : ∀ c ∈ cs.head?, 32 < c.toNat)
    (h : ∀ c ∈ cs, Text.isBlank c = false) : clean cs = cs := by
  have hdrop : cs.dropWhile (fun c => c.toNat ≤ 32) = cs := by
    cases cs with
    | nil => rfl
    | cons c cs => exact List.dropWhile_cons_of_neg (by simpa using hhead c rfl)
  rw [clean, hdrop, List.filter_eq_self]
  intro c hc
  have hblank := h c hc
  have htab : c ≠ '\t' := by rintro rfl; exact absurd hblank (by decide)
  have hreturn : c ≠ '\r' := by rintro rfl; exact absurd hblank (by decide)
  have hfeed : c ≠ '\n' := by rintro rfl; exact absurd hblank (by decide)
  simp [htab, hreturn, hfeed]

end VacancyLedger.Address
