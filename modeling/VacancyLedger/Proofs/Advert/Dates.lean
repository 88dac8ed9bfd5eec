/-
The day of a count of milliseconds.

Milliseconds are divided into seconds as floating point numbers are, and the fraction of a second
is rounded to microseconds before the day is looked up.  Both may be off, but never by a second:
within the calendar, whole seconds are kept as they are, and any other count stays more than a
thousandth apart from them while it is off by far less.  Counts so large that a second may be lost
lie beyond the calendar, however they are rounded.  So the day is that of the milliseconds
themselves (`dateOfMillis?_eq`).
-/
import VacancyLedger.Advert.Field
import VacancyLedger.Proofs.Number.Nearest
import VacancyLedger.Proofs.Time.Written

namespace VacancyLedger.Advert

open Number (IsRounded nearest nearest_spec twoTo divRoundEven)

/-! ### Magnitudes -/

/-- The terms of a magnitude, as a fraction. -/
theorem ratio_magnitude (m : Nat) (q : Int) :
    ((m * twoTo q.toNat : Nat) / (twoTo (-q).toNat : Nat) : ℚ) = m * 2 ^ q := by
  rw [← Number.twoTo_div_twoTo]
  push_cast
  ring

theorem nearest_zero (negative : Bool) (den : Nat) :
    nearest negative 0 den = .finite negative 0 (-1074) := by
  have hpacked := @Number.decodeBits_pack negative 0 0 (by decide) (Number.twoTo_pos 52)
  rw [Nat.zero_mul] at hpacked
  rw [nearest, Number.fractionBits, if_pos rfl]
  exact hpacked

theorem microsOf_zero (den : Nat) : microsOf 0 den = 0 := by
  rw [microsOf, Nat.zero_mul, nearest_zero, roundedMagnitude, Nat.zero_mul, divRoundEven]
  simp

/-- No count that is dealt with here is beyond all numbers. -/
theorem two_zpow_large : (10 ^ 15 : ℚ) < 2 ^ (1023 : Int) :=
  calc (10 ^ 15 : ℚ) < 2 ^ (50 : Int) := by norm_num
    _ ≤ 2 ^ (1023 : Int) := zpow_le_zpow_right₀ (by norm_num) (by norm_num)

/-- Microseconds are off by less than one. -/
theorem microsOf_near {num den : Nat} (hnum : 0 < num) (hden : num < den) :
    |(microsOf num den : ℚ) - num / den * 1000000| < 1 := by
  have hpos : 0 < den := Nat.lt_trans hnum hden
  have hposq : (0 : ℚ) < den := Nat.cast_pos.mpr hpos
  have hsecond : Time.second = 1000000 := rfl
  have hmicros : (((num * Time.second : Nat) : ℚ) / den) = num / den * 1000000 := by
    rw [hsecond]
    push_cast
    ring
  have hless : (num / den : ℚ) < 1 := by
    rw [div_lt_one hposq]
    exact_mod_cast hden
  have hsome : (0 : ℚ) ≤ num / den := by positivity
  have hsmall : (num / den * 1000000 : ℚ) < 10 ^ 15 := by linarith
  rcases nearest_spec false (Nat.mul_pos hnum (show 0 < Time.second by decide)) hpos with
    ⟨-, hbeyond⟩ | ⟨m, q, hnearest, hrounded⟩
  · rw [hmicros] at hbeyond
    exact absurd (two_zpow_large.trans_le hbeyond) hsmall.not_gt
  · have hnear := hrounded.near (by positivity)
    have hround := Number.divRoundEven_near (m * twoTo q.toNat) (Number.twoTo_pos (-q).toNat)
    rw [ratio_magnitude] at hround
    rw [microsOf, hnearest, roundedMagnitude]
    rw [hmicros] at hnear
    have hoff : (1 + num / den * 1000000 : ℚ) / 2 ^ 53 < 1 / 2 := by
      rw [div_lt_div_iff₀ (by norm_num) (by norm_num)]
      linarith
    rw [abs_le] at hnear hround
    rw [abs_lt]
    constructor <;> linarith

/-! ### Whole seconds -/

variable {m s : Nat} {q : Int}

/-- The whole part of a magnitude, and what is left of it. -/
theorem parts_of_magnitude (hlow : (s : ℚ) ≤ m * 2 ^ q) (hhigh : (m * 2 ^ q : ℚ) < s + 1) :
    m * twoTo q.toNat / twoTo (-q).toNat = s ∧
      ((m * twoTo q.toNat % twoTo (-q).toNat : Nat) / (twoTo (-q).toNat : Nat) : ℚ) =
        m * 2 ^ q - s := by
  obtain ⟨hparts, hsome, hless⟩ :=
    Number.ratio_eq (m * twoTo q.toNat) (Number.twoTo_pos (-q).toNat)
  rw [ratio_magnitude] at hparts
  generalize m * twoTo q.toNat / twoTo (-q).toNat = whole at hparts ⊢
  have hupper : (s : ℚ) < whole + 1 := by linarith
  have hlower : (whole : ℚ) < s + 1 := by linarith
  have hsame : whole = s := by
    have hupper' : s < whole + 1 := by exact_mod_cast hupper
    have hlower' : whole < s + 1 := by exact_mod_cast hlower
    omega
  refine ⟨hsame, ?_⟩
  rw [hsame] at hparts
  linarith

/-- A whole second is kept. -/
theorem wholeSecond_of_eq (negative : Bool) (h : (m * 2 ^ q : ℚ) = s) :
    wholeSecond negative m q = if negative then -(s : Int) else s := by
  obtain ⟨hwhole, hrest⟩ := parts_of_magnitude (s := s) h.ge (by rw [h]; linarith)
  have hden : (0 : ℚ) < twoTo (-q).toNat := Nat.cast_pos.mpr (Number.twoTo_pos _)
  have hnone : m * twoTo q.toNat % twoTo (-q).toNat = 0 := by
    rw [h, sub_self, div_eq_zero_iff, or_iff_left hden.ne'] at hrest
    exact_mod_cast hrest
  have hsecond : 0 < Time.second := by decide
  rw [wholeSecond]
  simp only [hwhole, hnone, microsOf_zero, hsecond, if_true]
  rfl

/-- What is well between two seconds falls into the one that comes first. -/
theorem wholeSecond_of_between (negative : Bool) (hlow : (s : ℚ) + 1 / 2000 ≤ m * 2 ^ q)
    (hhigh : (m * 2 ^ q : ℚ) ≤ s + 1 - 1 / 2000) :
    wholeSecond negative m q = if negative then -(s : Int) - 1 else s := by
  obtain ⟨hwhole, hrest⟩ := parts_of_magnitude (s := s) (by linarith) (by linarith)
  have hden : (0 : ℚ) < twoTo (-q).toNat := Nat.cast_pos.mpr (Number.twoTo_pos _)
  have hsome : 0 < m * twoTo q.toNat % twoTo (-q).toNat := by
    by_contra hnone
    rw [Nat.eq_zero_of_not_pos hnone, Nat.cast_zero, zero_div] at hrest
    linarith
  have hnear := microsOf_near hsome (Nat.mod_lt _ (Number.twoTo_pos _))
  rw [hrest, abs_lt] at hnear
  have hfirst : (0 : ℚ) < microsOf (m * twoTo q.toNat % twoTo (-q).toNat) (twoTo (-q).toNat) := by
    linarith
  have hlast : (microsOf (m * twoTo q.toNat % twoTo (-q).toNat) (twoTo (-q).toNat) : ℚ) <
      Time.second := by
    rw [show (Time.second : ℚ) = 1000000 from rfl]
    linarith
  have hfirst' : microsOf (m * twoTo q.toNat % twoTo (-q).toNat) (twoTo (-q).toNat) ≠ 0 := by
    exact_mod_cast hfirst.ne'
  rw [wholeSecond]
  simp only [hwhole, hfirst', Nat.cast_lt.mp hlast, if_false, if_true]
  rfl

/-! ### Days -/

theorem epochDay_eq : epochDay = 719162 := by decide

theorem dayCount_eq : Time.dayCount = 3652059 := by decide

/-- Days before the year 1 and after the year 9999 have no date. -/
theorem dateOfDays?_eq_none_iff {days : Int} :
    dateOfDays? days = none ↔ days < -719162 ∨ 2932897 ≤ days := by
  have hfirst := epochDay_eq
  have hlast := dayCount_eq
  rw [dateOfDays?]
  split
  · exact iff_of_false (Option.some_ne_none _) (by omega)
  · exact iff_of_true rfl (by omega)

/-- The date of a day is the one of the calendar that has its number. -/
theorem dateOfDays?_eq_some_iff {days : Int} {text : String} :
    dateOfDays? days = some text ↔
      ∃ d : Time.Date, d.isValid = true ∧ (d.dayNumber : Int) = days + epochDay ∧
        text = d.text := by
  rw [dateOfDays?]
  constructor
  · intro h
    split at h
    · rename_i hdays
      obtain ⟨hvalid, hnumber⟩ := Time.ofDayNumber_spec (n := (days + epochDay).toNat) (by omega)
      exact ⟨_, hvalid, by omega, (Option.some.inj h).symm⟩
    · cases h
  · rintro ⟨d, hvalid, hnumber, rfl⟩
    have hdays := Time.Date.dayNumber_lt_dayCount hvalid
    rw [if_pos (by omega), ← hnumber, Int.toNat_natCast, Time.ofDayNumber_dayNumber hvalid]

/-- The day of whole milliseconds, rounded down, is that of their seconds. -/
theorem fdiv_fdiv (v : Int) : (v.fdiv 1000).fdiv 86400 = v.fdiv 86400000 := by
  rw [Int.fdiv_eq_ediv_of_nonneg _ (by decide), Int.fdiv_eq_ediv_of_nonneg _ (by decide),
    Int.fdiv_eq_ediv_of_nonneg _ (by decide)]
  omega

/-- Milliseconds of the calendar, and some more, fall into the second they lie in. -/
theorem wholeSecond_of_millis {v : Int} (hv : v.natAbs < 2 ^ 48)
    (hrounded : IsRounded ((v.natAbs : ℚ) / (1000 : Nat)) (m * 2 ^ q)) :
    wholeSecond (v < 0) m q = v.fdiv 1000 := by
  obtain ⟨hparts, -, -⟩ := Number.ratio_eq v.natAbs (show 0 < 1000 by decide)
  generalize hs : v.natAbs / 1000 = s at hparts
  rw [Int.fdiv_eq_ediv_of_nonneg _ (by decide)]
  by_cases hwhole : v.natAbs % 1000 = 0
  · rw [hwhole, Nat.cast_zero, zero_div, add_zero] at hparts
    rw [hparts] at hrounded
    rw [wholeSecond_of_eq _ (hrounded.eq_of_natCast (by omega))]
    simp only [decide_eq_true_eq]
    split <;> omega
  · have hnear := hrounded.near (by positivity)
    have hsmall : (v.natAbs : ℚ) / (1000 : Nat) < 2 ^ 39 := by
      rw [div_lt_iff₀ (by norm_num)]
      have hless : (v.natAbs : ℚ) < 2 ^ 48 := by exact_mod_cast hv
      norm_num at hless ⊢
      linarith
    have hfirst : (1 : ℚ) ≤ (v.natAbs % 1000 : Nat) := by
      exact_mod_cast Nat.pos_of_ne_zero hwhole
    have hlast : ((v.natAbs % 1000 : Nat) : ℚ) ≤ 999 := by
      exact_mod_cast Nat.le_of_lt_succ (Nat.mod_lt v.natAbs (show 0 < 1000 by decide))
    have hoff : (1 + (v.natAbs : ℚ) / (1000 : Nat)) / 2 ^ 53 ≤ 1 / 2000 := by
      rw [div_le_div_iff₀ (by norm_num) (by norm_num)]
      norm_num at hsmall ⊢
      linarith
    rw [abs_le] at hnear
    rw [hparts] at hnear hoff
    have hcast : ((1000 : Nat) : ℚ) = 1000 := rfl
    rw [hcast] at hnear hoff
    rw [wholeSecond_of_between (s := s) _ (by linarith) (by linarith)]
    simp only [decide_eq_true_eq]
    split <;> omega

/-- Milliseconds so many that a second may be lost lie beyond the calendar. -/
theorem dateOfDays?_of_large {v : Int} (hv : 2 ^ 48 ≤ v.natAbs)
    (hrounded : IsRounded ((v.natAbs : ℚ) / (1000 : Nat)) (m * 2 ^ q)) :
    dateOfDays? ((wholeSecond (v < 0) m q).fdiv 86400) = none := by
  have hlarge : (2 : ℚ) ^ 48 ≤ v.natAbs := by exact_mod_cast hv
  have hnear := hrounded.near (by positivity)
  have hlow : (281474976710 : ℚ) ≤ m * 2 ^ q := by
    have hratio : (2 : ℚ) ^ 48 / 1000 ≤ v.natAbs / (1000 : Nat) := by
      rw [show ((1000 : Nat) : ℚ) = 1000 from rfl]
      gcongr
    have hoff : (1 + (v.natAbs : ℚ) / (1000 : Nat)) / 2 ^ 53 ≤
        1 / 2 ^ 53 + (v.natAbs : ℚ) / (1000 : Nat) / 2 ^ 53 := by
      rw [add_div]
    rw [abs_le] at hnear
    norm_num at hratio hoff hnear ⊢
    linarith
  obtain ⟨hparts, -, hless⟩ :=
    Number.ratio_eq (m * twoTo q.toNat) (Number.twoTo_pos (-q).toNat)
  rw [ratio_magnitude] at hparts
  have hwhole : 281474976710 ≤ m * twoTo q.toNat / twoTo (-q).toNat := by
    have hcast : (281474976710 : ℚ) < (m * twoTo q.toNat / twoTo (-q).toNat : Nat) + 1 := by
      linarith
    exact Nat.le_of_lt_succ (by exact_mod_cast hcast)
  rw [dateOfDays?_eq_none_iff, Int.fdiv_eq_ediv_of_nonneg _ (by decide), wholeSecond]
  simp only [Int.ofNat_eq_natCast]
  split <;> split <;> omega

/-- **The day of a count of milliseconds is the day it lies in**, as far as the calendar goes. -/
theorem dateOfMillis?_eq (v : Int) : dateOfMillis? v = dateOfDays? (v.fdiv 86400000) := by
  have hbeyond : 2 ^ 48 ≤ v.natAbs → dateOfDays? (v.fdiv 86400000) = none := by
    intro hv
    rw [dateOfDays?_eq_none_iff, Int.fdiv_eq_ediv_of_nonneg _ (by decide)]
    omega
  rw [dateOfMillis?]
  rcases Nat.eq_zero_or_pos v.natAbs with hzero | hpos
  · obtain rfl := Int.natAbs_eq_zero.mp hzero
    rw [Int.natAbs_zero, nearest_zero, dateOfSeconds?, wholeSecond_of_eq (s := 0) _ (by simp)]
    rfl
  · rcases nearest_spec (v < 0) hpos (show 0 < 1000 by decide) with
      ⟨hinfinite, hlarge⟩ | ⟨m, q, hnearest, hrounded⟩
    · rw [hinfinite]
      refine (hbeyond ?_).symm
      have hmany := two_zpow_large.trans_le hlarge
      rw [lt_div_iff₀ (by norm_num)] at hmany
      have hcast : (10 ^ 18 : ℚ) < v.natAbs := by
        norm_num at hmany ⊢
        linarith
      have hnat : 10 ^ 18 < v.natAbs := by exact_mod_cast hcast
      omega
    · rw [hnearest, dateOfSeconds?]
      by_cases hv : v.natAbs < 2 ^ 48
      · rw [wholeSecond_of_millis hv hrounded, fdiv_fdiv]
      · rw [dateOfDays?_of_large (Nat.le_of_not_lt hv) hrounded, hbeyond (Nat.le_of_not_lt hv)]

example : dateOfMillis? (-1) = some "1969-12-31" := by decide +kernel

/-- **An integer stands for the date of the day that lies so many milliseconds after the start of
1970**, and for none exactly if that day is not one of the years 1 to 9999; dates sort as the days
do, so a later instant has no earlier date. -/
theorem date?_of_millis (v w : Int) :
    (∀ text, date? (.int v) = some text ↔
      ∃ d : Time.Date, d.isValid = true ∧ (d.dayNumber : Int) = v.fdiv 86400000 + epochDay ∧
        text = d.text) ∧
    (date? (.int v) = none ↔ v < -62135596800000 ∨ 253402300800000 ≤ v) ∧
    ∀ text text', date? (.int v) = some text → date? (.int w) = some text' →
      (text < text' ↔ v.fdiv 86400000 < w.fdiv 86400000) ∧ (v ≤ w → text ≤ text') := by
  have hdate : ∀ v : Int, date? (.int v) = dateOfDays? (v.fdiv 86400000) := dateOfMillis?_eq
  have hfloor : ∀ v : Int, v.fdiv 86400000 = v / 86400000 := fun v =>
    Int.fdiv_eq_ediv_of_nonneg v (by decide)
  simp only [hdate]
  refine ⟨fun text => dateOfDays?_eq_some_iff, ?_, fun text text' h h' => ?_⟩
  · rw [dateOfDays?_eq_none_iff, hfloor]
    omega
  · obtain ⟨d, hvalid, hnumber, rfl⟩ := dateOfDays?_eq_some_iff.mp h
    obtain ⟨d', hvalid', hnumber', rfl⟩ := dateOfDays?_eq_some_iff.mp h'
    refine ⟨?_, fun hle => ?_⟩
    · rw [Time.Date.text_lt_iff hvalid hvalid']
      omega
    · rw [← String.not_lt, Time.Date.text_lt_iff hvalid' hvalid]
      rw [hfloor] at hnumber hnumber'
      omega

end VacancyLedger.Advert
