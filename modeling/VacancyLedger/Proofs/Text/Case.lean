/-
Lower case is stable: a text in lower case is lowered to itself.

A run of the mapping moves its points by a constant.  What has to be checked of the table
is checked run by run: no run starts in ASCII, and wherever a run ends up there is no blank,
no point of another run, and in ASCII nothing but a small letter.  From this every character
that lowering writes stands for itself, and lowering twice is lowering once.  It also
follows which characters a lowered text may hold besides those of the text, so that a
text without delimiters is still one when it was lowered.
-/
import VacancyLedger.Text.Blank
import VacancyLedger.Text.Case

namespace VacancyLedger.Text

variable {c d : Char} {cs : List Char} {n m : Nat} {s t : Shift}

/-! ### Where the runs end up -/

/-- Whether the run `s`, once it was moved, hits no point of the run `t`: it lies before or after
it, or both run along every second point and one along the even ones. -/
def Shift.avoids (s t : Shift) : Bool :=
  let lo := (s.lo + s.delta).toNat
  let hi := (s.hi + s.delta).toNat
  Nat.blt t.hi lo || Nat.blt hi t.lo ||
    (t.step == 2 && (s.step == 2 || s.lo == s.hi) && (lo + t.lo) % 2 == 1)

/-- Whether the run moves points outside ASCII, and where it moves them there are characters,
neither blank nor the dotted capital i; the one in ASCII is a small letter. -/
def Shift.isRegular (s : Shift) : Bool :=
  let lo := (s.lo + s.delta).toNat
  let hi := (s.hi + s.delta).toNat
  Nat.ble 128 s.lo && decide (0 ≤ s.lo + s.delta) &&
    ((Nat.ble 97 lo && Nat.ble hi 122) || (Nat.blt 0xA0 lo && Nat.blt hi 0x130) ||
      (Nat.blt 0x130 lo && Nat.blt hi 0x1680) || (Nat.blt 0x1680 lo && Nat.blt hi 0x2000) ||
      (Nat.blt 0x205F lo && Nat.blt hi 0x3000) || (Nat.blt 0x3000 lo && Nat.blt hi 0xD800) ||
      (Nat.blt 0xDFFF lo && Nat.blt hi 0x110000))

theorem lowerShifts_regular : lowerShifts.all Shift.isRegular = true := by decide +kernel

theorem lowerShifts_avoid :
    (lowerShifts.all fun s => lowerShifts.all fun t => s.avoids t) = true := by decide +kernel

theorem Shift.target?_some (h : s.target? n = some m) :
    s.lo ≤ n ∧ n ≤ s.hi ∧ (n - s.lo) % s.step = 0 ∧ m = (n + s.delta).toNat := by
  unfold Shift.target? at h
  split at h
  · next hn => exact ⟨hn.1, hn.2.1, hn.2.2, (Option.some.inj h).symm⟩
  · cases h

theorem Shift.avoids_target (hregular : s.isRegular = true) (havoids : s.avoids t = true)
    (h : s.target? n = some m) : t.target? m = none := by
  obtain ⟨hlo, hhi, hstep, rfl⟩ := Shift.target?_some h
  simp only [Shift.isRegular, Bool.and_eq_true, decide_eq_true_eq] at hregular
  obtain ⟨⟨-, hpos⟩, -⟩ := hregular
  simp only [Shift.avoids, Bool.or_eq_true, Bool.and_eq_true, Nat.blt_eq, beq_iff_eq] at havoids
  refine if_neg ?_
  rintro ⟨htlo, hthi, htstep⟩
  rcases havoids with (hlt | hlt) | ⟨⟨ht, hs⟩, hodd⟩
  · omega
  · omega
  · rw [ht] at htstep
    rcases hs with hs | hs
    · rw [hs] at hstep
      omega
    · omega

/-! ### What lowering makes of a character -/

/-- A character that stands for itself in a lowered text. -/
def IsLow (c : Char) : Prop := c ≠ 'Σ' ∧ lowerChar c = [c]

/-- A character that lowering may bring into a text: not a blank, and in ASCII a small letter. -/
def IsSmall (c : Char) : Prop := isBlank c = false ∧ (c.toNat < 128 → 97 ≤ c.toNat ∧ c.toNat ≤ 122)

instance : Decidable (IsLow c) := inferInstanceAs (Decidable (_ ∧ _))

instance : Decidable (IsSmall c) := inferInstanceAs (Decidable (_ ∧ _))

theorem toNat_ofNat (h : n.isValidChar) : (Char.ofNat n).toNat = n := by
  rw [Char.ofNat, dif_pos h]
  rfl

theorem isLow_of_no_run (hascii : 128 ≤ c.toNat) (hdotted : c ≠ 'İ')
    (h : lowerShifts.findSome? (·.target? c.toNat) = none) : IsLow c := by
  refine ⟨?_, ?_⟩
  · rintro rfl
    exact absurd h (by decide)
  · rw [lowerChar, if_neg (by omega), if_neg hdotted, shiftBy, h]

/-- Where a regular run moves a point there is a character, and not a blank one. -/
theorem Shift.isRegular_target (hregular : s.isRegular = true) (h : s.target? n = some m) :
    (Char.ofNat m).toNat = m ∧ Char.ofNat m ≠ 'İ' ∧ IsSmall (Char.ofNat m) := by
  obtain ⟨hlo, hhi, -, hm⟩ := Shift.target?_some h
  simp only [Shift.isRegular, Bool.and_eq_true, Bool.or_eq_true, decide_eq_true_eq, Nat.blt_eq,
    Nat.ble_eq] at hregular
  obtain ⟨⟨-, hpos⟩, hranges⟩ := hregular
  have hvalid : m.isValidChar := by
    unfold Nat.isValidChar
    omega
  have htoNat : (Char.ofNat m).toNat = m := toNat_ofNat hvalid
  refine ⟨htoNat, ?_, ?_, ?_⟩
  · intro hdotted
    have : m = 0x130 := by rw [← htoNat, hdotted]; rfl
    omega
  · simp only [isBlank, htoNat, Bool.or_eq_false_iff, Bool.and_eq_false_iff, beq_eq_false_iff_ne,
      decide_eq_false_iff_not]
    omega
  · rw [htoNat]
    omega

/-- What is so for each of the points of ASCII is so for its characters. -/
theorem forall_ascii {f : Char → Bool}
    (h : ((List.range 128).all fun n => f (Char.ofNat n)) = true) (c : Char)
    (hascii : c.toNat < 128) : f c = true := by
  have hchar := List.all_eq_true.mp h c.toNat (List.mem_range.mpr hascii)
  rwa [Char.ofNat_toNat] at hchar

theorem lowerChar_table : ∀ c : Char, c.toNat < 128 →
    ((lowerChar c).all fun d => decide (IsLow d) && (d == c || decide (IsSmall d))) = true :=
  forall_ascii (by decide +kernel)

theorem lowerChar_ascii (hascii : c.toNat < 128) (hd : d ∈ lowerChar c) :
    IsLow d ∧ (d = c ∨ IsSmall d) := by
  have hd := List.all_eq_true.mp (lowerChar_table c hascii) d hd
  simpa using hd

theorem small_table :
    ((List.range 26).all fun n => decide (IsLow (Char.ofNat (97 + n)))) = true := by
  decide +kernel

theorem isLow_small_ascii (h : 97 ≤ n ∧ n ≤ 122) : IsLow (Char.ofNat n) := by
  have hlow := List.all_eq_true.mp small_table (n - 97) (List.mem_range.mpr (by omega))
  rw [Nat.add_sub_cancel' h.1] at hlow
  exact of_decide_eq_true hlow

theorem dotted_table :
    ((lowerChar 'İ').all fun d => decide (IsLow d) && decide (IsSmall d)) = true := by
  decide +kernel

theorem lowerChar_dotted (hd : d ∈ lowerChar 'İ') : IsLow d ∧ IsSmall d := by
  simpa using List.all_eq_true.mp dotted_table d hd

/-- What lowering writes for a character stands for itself, and is the character or a small one. -/
theorem isLow_of_mem_lowerChar (hsigma : c ≠ 'Σ') (hd : d ∈ lowerChar c) :
    IsLow d ∧ (d = c ∨ IsSmall d) := by
  by_cases hascii : c.toNat < 128
  · exact lowerChar_ascii hascii hd
  by_cases hdotted : c = 'İ'
  · subst hdotted
    exact (lowerChar_dotted hd).imp_right .inr
  cases hfind : lowerShifts.findSome? (·.target? c.toNat) with
  | none =>
      have hlow := isLow_of_no_run (by omega) hdotted hfind
      rw [hlow.2, List.mem_singleton] at hd
      subst hd
      exact ⟨hlow, .inl rfl⟩
  | some m =>
      have hmoved : d = Char.ofNat m := by
        simpa [lowerChar, hascii, hdotted, shiftBy, hfind] using hd
      subst hmoved
      obtain ⟨s, hs, htarget⟩ := List.exists_of_findSome?_eq_some hfind
      have hregular := List.all_eq_true.mp lowerShifts_regular s hs
      obtain ⟨htoNat, hne, hsmall⟩ := Shift.isRegular_target hregular htarget
      refine ⟨?_, .inr hsmall⟩
      by_cases hm : m < 128
      · have hletter := hsmall.2
        rw [htoNat] at hletter
        exact isLow_small_ascii (hletter hm)
      · refine isLow_of_no_run (by omega) hne ?_
        rw [htoNat, List.findSome?_eq_none_iff]
        intro t ht
        have havoids := List.all_eq_true.mp (List.all_eq_true.mp lowerShifts_avoid s hs) t ht
        exact Shift.avoids_target hregular havoids htarget

theorem toNat_of_isAlpha (h : c.isAlpha = true) : 32 < c.toNat ∧ c.toNat < 128 := by
  have hcase : c.isUpper = true ∨ c.isLower = true := (Bool.or_eq_true _ _).mp h
  rcases hcase with hupper | hlower
  · obtain ⟨hfirst, hlast⟩ : c.val ≥ 'A'.val ∧ c.val ≤ 'Z'.val := of_decide_eq_true hupper
    exact ⟨Nat.lt_of_lt_of_le (by decide) (UInt32.le_iff_toNat_le.mp hfirst),
      Nat.lt_of_le_of_lt (UInt32.le_iff_toNat_le.mp hlast) (by decide)⟩
  · obtain ⟨hfirst, hlast⟩ := Bool.and_eq_true_iff.mp hlower
    have hfirst : 'a'.val ≤ c.val := of_decide_eq_true hfirst
    have hlast : c.val ≤ 'z'.val := of_decide_eq_true hlast
    exact ⟨Nat.lt_of_lt_of_le (by decide) (UInt32.le_iff_toNat_le.mp hfirst),
      Nat.lt_of_le_of_lt (UInt32.le_iff_toNat_le.mp hlast) (by decide)⟩

/-! ### Lowering a text -/

theorem lowerFrom_of_isLow (h : ∀ c ∈ cs, IsLow c) (casedBefore : Bool) :
    lowerFrom casedBefore cs = cs := by
  induction cs generalizing casedBefore with
  | nil => rfl
  | cons c cs ih =>
      have hc := h c (List.mem_cons_self ..)
      rw [lowerFrom, if_neg hc.1, hc.2, ih fun d hd => h d (List.mem_cons_of_mem _ hd)]
      rfl

theorem isLow_of_mem_lowerFrom {casedBefore : Bool} (hd : d ∈ lowerFrom casedBefore cs) :
    IsLow d ∧ (d ∈ cs ∨ IsSmall d) := by
  induction cs generalizing casedBefore with
  | nil => cases hd
  | cons c cs ih =>
      have hrest {b : Bool} (h : d ∈ lowerFrom b cs) : IsLow d ∧ (d ∈ c :: cs ∨ IsSmall d) :=
        (ih h).imp_right (Or.imp_left (List.mem_cons_of_mem c))
      rw [lowerFrom] at hd
      split at hd
      · rcases List.mem_cons.mp hd with rfl | hd
        · have hsigmas : ∀ b : Bool, IsLow (if b then 'ς' else 'σ') ∧
              IsSmall (if b then 'ς' else 'σ') := by decide +kernel
          exact (hsigmas _).imp_right .inr
        · exact hrest hd
      · next hsigma =>
          rcases List.mem_append.mp hd with hd | hd
          · obtain ⟨hlow, rfl | hsmall⟩ := isLow_of_mem_lowerChar hsigma hd
            · exact ⟨hlow, .inl (List.mem_cons_self ..)⟩
            · exact ⟨hlow, .inr hsmall⟩
          · exact hrest hd

/-- A lowered text holds, beside characters of the text, only small ones. -/
theorem mem_lowerChars (hd : d ∈ lowerChars cs) : d ∈ cs ∨ IsSmall d :=
  (isLow_of_mem_lowerFrom hd).2

/-- **A text in lower case is lowered to itself.** -/
theorem lowerChars_lowerChars (cs : List Char) : lowerChars (lowerChars cs) = lowerChars cs :=
  lowerFrom_of_isLow (fun _ hd => (isLow_of_mem_lowerFrom hd).1) false

theorem toLower_of_isLow (h : IsLow c) : c.toLower = c := by
  by_cases hascii : c.toNat < 128
  · have hlower := h.2
    rw [lowerChar, if_pos hascii] at hlower
    exact List.singleton_inj.mp hlower
  · unfold Char.toLower
    split
    · next hupper =>
        have hlast : c.toNat ≤ 'Z'.toNat := UInt32.le_iff_toNat_le.mp hupper.2
        have hz : 'Z'.toNat < 128 := by decide
        omega
    · rfl

/-- A text in lower case is in lower case letter by letter. -/
theorem map_toLower_of_low (h : lowerChars cs = cs) : cs.map Char.toLower = cs := by
  have hlow : ∀ c ∈ cs, c.toLower = id c := by
    intro c hc
    rw [← h] at hc
    exact toLower_of_isLow (isLow_of_mem_lowerFrom hc).1
  rw [List.map_congr_left hlow, List.map_id]

theorem lowerFrom_cons (hsigma : c ≠ 'Σ') (casedBefore : Bool) (cs : List Char) :
    lowerFrom casedBefore (c :: cs) =
      lowerChar c ++ lowerFrom (if isCaseIgnorable c then casedBefore else isCased c) cs := by
  rw [lowerFrom, if_neg hsigma]

/-- An ASCII character is lowered alone, wherever it stands. -/
theorem lowerChars_cons_ascii (h : c.toNat < 128) (cs : List Char) :
    ∃ casedBefore, lowerChars (c :: cs) = c.toLower :: lowerFrom casedBefore cs := by
  have hsigma : c ≠ 'Σ' := by
    rintro rfl
    exact absurd h (by decide)
  have hcons := lowerFrom_cons hsigma false cs
  rw [lowerChar, if_pos h] at hcons
  exact ⟨_, hcons⟩

theorem lowerChars_cons_ne_nil (c : Char) (cs : List Char) : lowerChars (c :: cs) ≠ [] := by
  by_cases hsigma : c = 'Σ'
  · simp [lowerChars, lowerFrom, hsigma]
  · have hchar : lowerChar c ≠ [] := by
      unfold lowerChar
      grind
    simp [lowerChars, lowerFrom_cons hsigma, hchar]

end VacancyLedger.Text
