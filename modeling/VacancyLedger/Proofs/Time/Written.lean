/-
The text of an instant, and why it sorts as the instant does.

The text is laid out in numbers of fixed width with fixed separators between them: year, month,
day, hour, minute, second and microsecond.  Digits of one width sort as the numbers they write
(`IsNumeral.lt_iff`), so laid out texts sort as their lists of numbers do (`laidOut_lt_iff`).
Those of a later instant come later, because dates do and the time of day is written from the
greatest unit to the least.
-/
import Mathlib.Algebra.Group.Nat.Defs
import Mathlib.Data.List.Forall2
import VacancyLedger.Proofs.Time.Calendar
import VacancyLedger.Time.Stamp

namespace VacancyLedger.Time

/-! ### Numbers of fixed width -/

/-- The digits write the number. -/
structure IsNumeral (width n : Nat) (cs : List Char) : Prop where
  length : cs.length = width
  digits : ∀ c ∈ cs, c.isDigit = true
  value : Nat.ofDigitChars 10 cs 0 = n

theorem ofDigitChars_eq (cs : List Char) (n : Nat) :
    Nat.ofDigitChars 10 cs n = n * 10 ^ cs.length + Nat.ofDigitChars 10 cs 0 := by
  induction cs generalizing n with
  | nil => simp [Nat.ofDigitChars]
  | cons c cs ih =>
      simp only [Nat.ofDigitChars, List.foldl_cons, List.length_cons] at ih ⊢
      rw [ih (10 * n + (c.toNat - '0'.toNat)), ih (10 * 0 + (c.toNat - '0'.toNat)), Nat.pow_succ,
        Nat.mul_zero, Nat.zero_add, Nat.add_mul, Nat.mul_comm 10 n, Nat.mul_assoc,
        Nat.mul_comm 10 (10 ^ cs.length), Nat.add_assoc]

theorem ofDigitChars_cons (c : Char) (cs : List Char) :
    Nat.ofDigitChars 10 (c :: cs) 0 =
      (c.toNat - 48) * 10 ^ cs.length + Nat.ofDigitChars 10 cs 0 := by
  have hfirst : Nat.ofDigitChars 10 (c :: cs) 0 = Nat.ofDigitChars 10 cs (c.toNat - 48) := by
    simp [Nat.ofDigitChars]
  rw [hfirst, ofDigitChars_eq]

theorem ofDigitChars_zeros (k : Nat) (cs : List Char) :
    Nat.ofDigitChars 10 (List.replicate k '0' ++ cs) 0 = Nat.ofDigitChars 10 cs 0 := by
  induction k with
  | zero => rfl
  | succ k ih => simpa [List.replicate_succ, Nat.ofDigitChars] using ih

theorem toList_padded (width n : Nat) :
    (padded width n).toList =
      List.replicate (width - (Nat.toDigits 10 n).length) '0' ++ Nat.toDigits 10 n := by
  have hdigits : (toString n).toList = Nat.toDigits 10 n := Nat.toList_repr
  rw [padded, String.toList_append, String.toList_ofList, ← String.length_toList, hdigits]

theorem isNumeral_padded {width n : Nat} (hwidth : 0 < width) (hn : n < 10 ^ width) :
    IsNumeral width n (padded width n).toList := by
  rw [toList_padded]
  have hlength : (Nat.toDigits 10 n).length ≤ width :=
    (Nat.length_toDigits_le_iff (by decide) hwidth).mpr hn
  refine ⟨by simp; omega, fun c hc => ?_, ?_⟩
  · rcases List.mem_append.mp hc with hzero | hdigit
    · rw [(List.mem_replicate.mp hzero).2]
      rfl
    · exact Nat.isDigit_of_mem_toDigits (by decide) (by decide) hdigit
  · rw [ofDigitChars_zeros, Nat.ofDigitChars_ten_toDigits]

theorem isDigit_bounds {c : Char} (h : c.isDigit = true) : 48 ≤ c.toNat ∧ c.toNat ≤ 57 := by
  simp only [Char.isDigit, Bool.and_eq_true, decide_eq_true_eq] at h
  exact ⟨h.1, h.2⟩

theorem ofDigitChars_lt {cs : List Char} (h : ∀ c ∈ cs, c.isDigit = true) :
    Nat.ofDigitChars 10 cs 0 < 10 ^ cs.length := by
  induction cs with
  | nil => simp [Nat.ofDigitChars]
  | cons c cs ih =>
      obtain ⟨hc, hcs⟩ := List.forall_mem_cons.mp h
      have hrest := ih hcs
      have hdigit : (c.toNat - 48) * 10 ^ cs.length ≤ 9 * 10 ^ cs.length :=
        Nat.mul_le_mul_right _ (by have hbounds := isDigit_bounds hc; omega)
      rw [ofDigitChars_cons, List.length_cons, Nat.pow_succ]
      omega

/-- Digits sort as the numbers they write, if there are as many. -/
theorem lt_iff_ofDigitChars_lt {cs : List Char} (h : ∀ c ∈ cs, c.isDigit = true) :
    ∀ {cs' : List Char}, (∀ c ∈ cs', c.isDigit = true) → cs.length = cs'.length →
      (cs < cs' ↔ Nat.ofDigitChars 10 cs 0 < Nat.ofDigitChars 10 cs' 0) := by
  induction cs with
  | nil =>
      intro cs' _ hlength
      rw [List.eq_nil_of_length_eq_zero hlength.symm]
      simp
  | cons c cs ih =>
      intro cs' h' hlength
      cases cs' with
      | nil => cases hlength
      | cons c' cs' =>
          obtain ⟨hc, hcs⟩ := List.forall_mem_cons.mp h
          obtain ⟨hc', hcs'⟩ := List.forall_mem_cons.mp h'
          have hsame : cs.length = cs'.length := Nat.succ.inj hlength
          have hbounds := isDigit_bounds hc
          have hbounds' := isDigit_bounds hc'
          have hrest := ofDigitChars_lt hcs
          have hrest' := ofDigitChars_lt hcs'
          rw [List.cons_lt_cons_iff, ih hcs hcs' hsame, ofDigitChars_cons, ofDigitChars_cons]
          rw [← hsame] at hrest' ⊢
          have hchar : c < c' ↔ c.toNat < c'.toNat := Iff.rfl
          rcases Nat.lt_trichotomy c.toNat c'.toNat with hlt | heq | hgt
          · -- The first digit is smaller, and what follows it is less than one of its units.
            have hunit := Nat.mul_le_mul_right (10 ^ cs.length)
              (show c.toNat - 48 + 1 ≤ c'.toNat - 48 by omega)
            rw [Nat.add_mul] at hunit
            exact ⟨fun _ => by omega, fun _ => .inl (hchar.mpr hlt)⟩
          · obtain rfl : c = c' := Char.toNat_inj.mp heq
            simp
          · have hunit := Nat.mul_le_mul_right (10 ^ cs.length)
              (show c'.toNat - 48 + 1 ≤ c.toNat - 48 by omega)
            rw [Nat.add_mul] at hunit
            have hne : c ≠ c' := by
              rintro rfl
              omega
            refine ⟨?_, fun hlt => by omega⟩
            rintro (hlt | ⟨heq, -⟩)
            · exact absurd (hchar.mp hlt) (by omega)
            · exact absurd heq hne

/-- Digits of one width sort as the numbers they write. -/
theorem IsNumeral.lt_iff {width n n' : Nat} {cs cs' : List Char} (h : IsNumeral width n cs)
    (h' : IsNumeral width n' cs') : cs < cs' ↔ n < n' := by
  rw [lt_iff_ofDigitChars_lt h.digits h'.digits (h.length.trans h'.length.symm), h.value, h'.value]

theorem IsNumeral.not_mem {width n : Nat} {cs : List Char} (h : IsNumeral width n cs) {c : Char}
    (hc : c.isDigit = false) : c ∉ cs := by
  intro hmem
  rw [h.digits c hmem] at hc
  cases hc

/-! ### Laid out texts -/

/-- Numbers in the widths of a layout, each with its separator after it. -/
def laidOut : List (Nat × List Char) → List Nat → List Char
  | (width, separator) :: layout, n :: ns =>
    (padded width n).toList ++ (separator ++ laidOut layout ns)
  | _, _ => []

/-- There is a number for each place of the layout, and it fits into its width. -/
def Fits (layout : List (Nat × List Char)) (ns : List Nat) : Prop :=
  List.Forall₂ (fun slot n => 0 < slot.1 ∧ n < 10 ^ slot.1) layout ns

theorem append_lt_append_iff {a a' b b' : List Char} (h : a.length = a'.length) :
    a ++ b < a' ++ b' ↔ a < a' ∨ a = a' ∧ b < b' := by
  induction a generalizing a' with
  | nil =>
      rw [List.eq_nil_of_length_eq_zero h.symm]
      simp
  | cons c a ih =>
      cases a' with
      | nil => cases h
      | cons c' a' =>
          simp only [List.cons_append, List.cons_lt_cons_iff, ih (Nat.succ.inj h), List.cons.injEq]
          constructor
          · rintro (hlt | ⟨rfl, hlt | ⟨rfl, hlt⟩⟩)
            · exact .inl (.inl hlt)
            · exact .inl (.inr ⟨rfl, hlt⟩)
            · exact .inr ⟨⟨rfl, rfl⟩, hlt⟩
          · rintro ((hlt | ⟨rfl, hlt⟩) | ⟨⟨rfl, rfl⟩, hlt⟩)
            · exact .inl hlt
            · exact .inr ⟨rfl, .inl hlt⟩
            · exact .inr ⟨rfl, .inr ⟨rfl, hlt⟩⟩

/-- Laid out texts sort as their numbers do, from the first one on. -/
theorem laidOut_lt_iff {layout : List (Nat × List Char)} {ns ns' : List Nat}
    (h : Fits layout ns) (h' : Fits layout ns') :
    laidOut layout ns < laidOut layout ns' ↔ ns < ns' := by
  induction h generalizing ns' with
  | nil =>
      cases h'
      simp [laidOut]
  | @cons slot n layout ns hn h ih =>
      cases h' with
      | @cons _ n' _ ns' hn' h' =>
          have hnumeral := isNumeral_padded hn.1 hn.2
          have hnumeral' := isNumeral_padded hn'.1 hn'.2
          have hsame : (padded slot.1 n).toList = (padded slot.1 n').toList ↔ n = n' := by
            refine ⟨fun heq => ?_, fun heq => by rw [heq]⟩
            rw [← hnumeral.value, heq, hnumeral'.value]
          rw [laidOut, laidOut,
            append_lt_append_iff (hnumeral.length.trans hnumeral'.length.symm),
            append_lt_append_iff rfl, hnumeral.lt_iff hnumeral', hsame, ih h',
            List.cons_lt_cons_iff]
          simp only [List.lt_irrefl slot.2, true_and, false_or]

/-- The character has the place of the form: a digit where there is a `d`, or the one of the
form. -/
def IsInPlace (form c : Char) : Prop :=
  if form = 'd' then c.isDigit = true else c = form

/-- What a layout looks like: a `d` for each digit. -/
def formOf (layout : List (Nat × List Char)) : List Char :=
  layout.flatMap fun slot => List.replicate slot.1 'd' ++ slot.2

theorem digits_inPlace {cs : List Char} (h : ∀ c ∈ cs, c.isDigit = true) :
    List.Forall₂ IsInPlace (List.replicate cs.length 'd') cs := by
  induction cs with
  | nil => exact .nil
  | cons c cs ih =>
      obtain ⟨hc, hcs⟩ := List.forall_mem_cons.mp h
      exact .cons hc (ih hcs)

theorem laidOut_form {layout : List (Nat × List Char)} {ns : List Nat} (h : Fits layout ns)
    (hseparators : ∀ slot ∈ layout, 'd' ∉ slot.2) :
    List.Forall₂ IsInPlace (formOf layout) (laidOut layout ns) := by
  induction h with
  | nil => exact .nil
  | @cons slot n layout ns hn h ih =>
      obtain ⟨hseparator, hrest⟩ := List.forall_mem_cons.mp hseparators
      have hnumeral := isNumeral_padded hn.1 hn.2
      have hdigits := digits_inPlace hnumeral.digits
      rw [hnumeral.length] at hdigits
      have hplain : List.Forall₂ IsInPlace slot.2 slot.2 := by
        refine List.forall₂_same.mpr fun c hc => ?_
        have hne : c ≠ 'd' := fun heq => hseparator (heq ▸ hc)
        simp [IsInPlace, hne]
      rw [formOf, List.flatMap_cons, laidOut, List.append_assoc]
      exact List.rel_append hdigits (List.rel_append hplain (ih hrest))

theorem mem_of_inPlace {form cs : List Char} (h : List.Forall₂ IsInPlace form cs) :
    ∀ c ∈ cs, c.isDigit = true ∨ c ∈ form := by
  induction h with
  | nil => nofun
  | cons hplace _ ih =>
      refine List.forall_mem_cons.mpr ⟨?_, fun c hc => ?_⟩
      · unfold IsInPlace at hplace
        split at hplace
        · exact .inl hplace
        · exact .inr (by simp [hplace])
      · exact (ih c hc).imp_right (List.mem_cons_of_mem _)

/-! ### Dates -/

/-- How the text of a date is laid out. -/
def dateLayout : List (Nat × List Char) := [(4, ['-']), (2, ['-']), (2, [])]

namespace Date

variable {d d' : Date}

theorem toList_text (d : Date) :
    d.text.toList = laidOut dateLayout [d.year, d.month, d.day] := by
  simp [text, laidOut, dateLayout]

theorem fits (h : d.isValid = true) : Fits dateLayout [d.year, d.month, d.day] := by
  obtain ⟨⟨-, hyear⟩, ⟨-, hmonth⟩, -, hday⟩ := isValid_iff.mp h
  have hshort := daysInMonth_le d.year d.month
  simp only [dateLayout, Fits, List.forall₂_cons, List.forall₂_nil_right_iff, Nat.reducePow,
    and_true]
  omega

/-- **Texts of dates sort as the dates do.** -/
theorem text_lt_iff (h : d.isValid = true) (h' : d'.isValid = true) :
    d.text < d'.text ↔ d.dayNumber < d'.dayNumber := by
  rw [String.lt_iff, toList_text, toList_text, laidOut_lt_iff (fits h) (fits h'),
    dayNumber_lt_iff h h', IsBefore]
  simp only [List.cons_lt_cons_iff, List.not_lt_nil, and_false, or_false]

end Date

/-! ### Instants -/

/-- How the text of an instant is laid out. -/
def instantLayout : List (Nat × List Char) :=
  [(4, ['-']), (2, ['-']), (2, ['T']), (2, [':']), (2, [':']), (2, ['.']), (6, "+00:00".toList)]

namespace Instant

/-- The instant lies in the calendar. -/
def IsCalendrical (t : Instant) : Prop := t.microseconds < day * dayCount

/-- The date an instant falls on. -/
def date (t : Instant) : Date := .ofDayNumber (t.microseconds / day)

/-- The numbers of an instant, from the year to the microsecond. -/
def numbers (t : Instant) : List Nat :=
  let time := t.microseconds % day
  let seconds := time / second
  [t.date.year, t.date.month, t.date.day, seconds / 3600, seconds / 60 % 60, seconds % 60,
    time % second]

theorem toList_text (t : Instant) : t.text.toList = laidOut instantLayout t.numbers := by
  simp [text, Date.text, laidOut, instantLayout, numbers, date]

variable {t t' : Instant}

theorem date_spec (h : t.IsCalendrical) :
    t.date.isValid = true ∧ t.date.dayNumber = t.microseconds / day :=
  ofDayNumber_spec (Nat.div_lt_of_lt_mul h)

theorem fits (h : t.IsCalendrical) : Fits instantLayout t.numbers := by
  obtain ⟨⟨-, hyear⟩, ⟨-, hmonth⟩, -, hday⟩ := Date.isValid_iff.mp (date_spec h).1
  have hshort := daysInMonth_le t.date.year t.date.month
  have htime : t.microseconds % day < 86400 * 1000000 := Nat.mod_lt _ (by decide)
  have hsecond : second = 1000000 := rfl
  simp only [numbers, instantLayout, Fits, List.forall₂_cons, List.forall₂_nil_right_iff, hsecond,
    Nat.reducePow, and_true]
  generalize t.microseconds % day = time at htime ⊢
  omega

theorem numbers_lt (h : t.IsCalendrical) (h' : t'.IsCalendrical)
    (hlt : t.microseconds < t'.microseconds) : t.numbers < t'.numbers := by
  have hday : day = 86400 * 1000000 := rfl
  have hsecond : second = 1000000 := rfl
  obtain ⟨hvalid, hnumber⟩ := date_spec h
  obtain ⟨hvalid', hnumber'⟩ := date_spec h'
  simp only [numbers, List.cons_lt_cons_iff]
  rcases Nat.lt_or_eq_of_le (Nat.div_le_div_right (c := day) (Nat.le_of_lt hlt)) with hdays | hdays
  · have hbefore := (Date.dayNumber_lt_iff hvalid hvalid').mp (by omega)
    rcases hbefore with hyears | ⟨hyears, hmonths | ⟨hmonths, hdays⟩⟩
    · exact .inl hyears
    · exact .inr ⟨hyears, .inl hmonths⟩
    · exact .inr ⟨hyears, .inr ⟨hmonths, .inl hdays⟩⟩
  · have hdate : t.date = t'.date := by rw [date, date, hdays]
    have htime : t.microseconds % day < t'.microseconds % day := by
      rw [hday] at hdays ⊢
      omega
    refine .inr ⟨by rw [hdate], .inr ⟨by rw [hdate], .inr ⟨by rw [hdate], ?_⟩⟩⟩
    generalize t.microseconds % day = time, t'.microseconds % day = time' at htime ⊢
    simp only [hsecond, List.not_lt_nil, and_false, or_false]
    omega

/-- **Texts of instants sort as the instants do.** -/
theorem text_lt_iff (h : t.IsCalendrical) (h' : t'.IsCalendrical) :
    t.text < t'.text ↔ t.microseconds < t'.microseconds := by
  rw [String.lt_iff, toList_text, toList_text, laidOut_lt_iff (fits h) (fits h')]
  refine ⟨fun hlt => ?_, numbers_lt h h'⟩
  rcases Nat.lt_trichotomy t.microseconds t'.microseconds with hbefore | hsame | hafter
  · exact hbefore
  · have heq : t = t' := by
      cases t
      cases t'
      exact congrArg Instant.mk hsame
    rw [heq] at hlt
    exact absurd hlt (List.lt_irrefl _)
  · exact absurd (numbers_lt h' h hafter) (List.lt_asymm hlt)

theorem text_form (t : Instant) (h : t.IsCalendrical) :
    List.Forall₂ IsInPlace "dddd-dd-ddTdd:dd:dd.dddddd+00:00".toList t.text.toList := by
  rw [toList_text]
  exact laidOut_form (fits h) (by decide)

end Instant
end VacancyLedger.Time
