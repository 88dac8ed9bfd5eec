/-
Dates and the numbers of their days.

`Date.dayNumber` grows with the date: a month has room for its days and a year for its months,
so an earlier date comes before the first day of the later month or year (`dayNumber_lt`).
`Date.ofDayNumber` takes the cycles of 400, 100, four and one years off a number and looks for
the month in what is left, which is a day of that year; every date it finds is one of the
calendar, and has the number it was found for.
-/
import VacancyLedger.Time.Calendar

namespace VacancyLedger.Time

/-! ### Years and months -/

theorem isLeap_iff {year : Nat} :
    isLeap year = true ↔ year % 4 = 0 ∧ (year % 100 ≠ 0 ∨ year % 400 = 0) := by
  simp [isLeap]

/-- The length of a year. -/
def daysInYear (year : Nat) : Nat := if isLeap year then 366 else 365

theorem daysBeforeYear_succ {year : Nat} (h : 1 ≤ year) :
    daysBeforeYear (year + 1) = daysBeforeYear year + daysInYear year := by
  obtain ⟨before, rfl⟩ := Nat.exists_eq_add_one.mpr h
  have hfewer : before / 100 ≤ before / 4 := Nat.div_le_div_left (by decide) (by decide)
  have h4 : (before + 1) % 100 = 0 → (before + 1) % 4 = 0 := by omega
  have h100 : (before + 1) % 400 = 0 → (before + 1) % 100 = 0 := by omega
  simp only [daysBeforeYear, daysInYear, isLeap_iff, Nat.add_sub_cancel, Nat.succ_div,
    Nat.dvd_iff_mod_eq_zero]
  generalize before / 4 = fours, before / 100 = centuries, before / 400 = cycles at *
  generalize (before + 1) % 4 = r4, (before + 1) % 100 = r100, (before + 1) % 400 = r400 at *
  by_cases hr4 : r4 = 0 <;> by_cases hr100 : r100 = 0 <;> by_cases hr400 : r400 = 0 <;>
    simp [hr4, hr100, hr400] at h4 h100 ⊢ <;> omega

/-- A year ends before a later one starts. -/
theorem daysBeforeYear_add_le {year later : Nat} (h : 1 ≤ year) (hlater : year < later) :
    daysBeforeYear year + daysInYear year ≤ daysBeforeYear later := by
  induction later with
  | zero => omega
  | succ before ih =>
      rcases Nat.lt_succ_iff_lt_or_eq.mp hlater with hbefore | rfl
      · have hle := ih hbefore
        have hnext := daysBeforeYear_succ (show 1 ≤ before by omega)
        omega
      · exact Nat.le_of_eq (daysBeforeYear_succ h).symm

theorem daysInMonth_le (year month : Nat) : daysInMonth year month ≤ 31 := by
  unfold daysInMonth
  split <;> split <;> omega

theorem daysBeforeMonth_succ (year : Nat) {month : Nat} (h : 1 ≤ month) :
    daysBeforeMonth year (month + 1) = daysBeforeMonth year month + daysInMonth year month := by
  obtain ⟨before, rfl⟩ := Nat.exists_eq_add_one.mpr h
  simp [daysBeforeMonth, List.range_succ]

/-- A month ends before a later one starts. -/
theorem daysBeforeMonth_add_le (year : Nat) {month later : Nat} (h : 1 ≤ month)
    (hlater : month < later) :
    daysBeforeMonth year month + daysInMonth year month ≤ daysBeforeMonth year later := by
  induction later with
  | zero => omega
  | succ before ih =>
      rcases Nat.lt_succ_iff_lt_or_eq.mp hlater with hbefore | rfl
      · have hle := ih hbefore
        have hnext := daysBeforeMonth_succ year (show 1 ≤ before by omega)
        omega
      · exact Nat.le_of_eq (daysBeforeMonth_succ year h).symm

theorem daysBeforeMonth_thirteen (year : Nat) : daysBeforeMonth year 13 = daysInYear year := by
  simp only [daysBeforeMonth, daysInYear, List.range_succ, List.range_zero]
  cases hleap : isLeap year <;> simp [daysInMonth, hleap]

/-! ### The number of a day -/

namespace Date

variable {d d' : Date}

theorem isValid_iff : d.isValid = true ↔
    (1 ≤ d.year ∧ d.year ≤ 9999) ∧ (1 ≤ d.month ∧ d.month ≤ 12) ∧
      1 ≤ d.day ∧ d.day ≤ daysInMonth d.year d.month := by
  simp [isValid, and_assoc]

/-- A date comes before another. -/
def IsBefore (d d' : Date) : Prop :=
  d.year < d'.year ∨ d.year = d'.year ∧
    (d.month < d'.month ∨ d.month = d'.month ∧ d.day < d'.day)

theorem isBefore_or (d d' : Date) : d.IsBefore d' ∨ d = d' ∨ d'.IsBefore d := by
  obtain ⟨year, month, day⟩ := d
  obtain ⟨year', month', day'⟩ := d'
  simp only [IsBefore, Date.mk.injEq]
  omega

/-- A day of a month is a day of its year. -/
theorem dayOfYear_lt (h : d.isValid = true) :
    daysBeforeMonth d.year d.month + (d.day - 1) < daysInYear d.year := by
  obtain ⟨-, ⟨hmonth, hlast⟩, hday, hdays⟩ := isValid_iff.mp h
  have hle := daysBeforeMonth_add_le d.year hmonth (Nat.lt_succ_of_le hlast)
  rw [daysBeforeMonth_thirteen] at hle
  omega

theorem dayNumber_lt (h : d.isValid = true) (hbefore : d.IsBefore d') :
    d.dayNumber < d'.dayNumber := by
  obtain ⟨⟨hyear, -⟩, ⟨hmonth, -⟩, hday, hdays⟩ := isValid_iff.mp h
  have hlast := dayOfYear_lt h
  unfold dayNumber
  rcases hbefore with hyears | ⟨hyears, hmonths | ⟨hmonths, hdays'⟩⟩
  · have hle := daysBeforeYear_add_le hyear hyears
    omega
  · have hle := daysBeforeMonth_add_le d.year hmonth hmonths
    rw [← hyears]
    omega
  · rw [← hyears, ← hmonths]
    omega

theorem dayNumber_lt_iff (h : d.isValid = true) (h' : d'.isValid = true) :
    d.dayNumber < d'.dayNumber ↔ d.IsBefore d' := by
  refine ⟨fun hlt => ?_, dayNumber_lt h⟩
  rcases isBefore_or d d' with hbefore | rfl | hafter
  · exact hbefore
  · exact absurd hlt (Nat.lt_irrefl _)
  · exact absurd (dayNumber_lt h' hafter) (Nat.lt_asymm hlt)

theorem eq_of_dayNumber_eq (h : d.isValid = true) (h' : d'.isValid = true)
    (heq : d.dayNumber = d'.dayNumber) : d = d' := by
  rcases isBefore_or d d' with hbefore | rfl | hafter
  · exact absurd heq (Nat.ne_of_lt (dayNumber_lt h hbefore))
  · rfl
  · exact absurd heq (Nat.ne_of_gt (dayNumber_lt h' hafter))

/-- A date of the calendar has one of its numbers. -/
theorem dayNumber_lt_dayCount (h : d.isValid = true) : d.dayNumber < dayCount := by
  obtain ⟨⟨hyear, hlast⟩, -⟩ := isValid_iff.mp h
  have hday := dayOfYear_lt h
  have hyears : daysBeforeYear d.year + daysInYear d.year ≤ dayCount :=
    daysBeforeYear_add_le hyear (Nat.lt_succ_of_le hlast)
  unfold dayNumber
  omega

end Date

/-! ### The day of a number -/

/-- The month is found that a day of the rest of the year lies in. -/
theorem monthAndDay_spec {year fuel : Nat} :
    ∀ (month day : Nat), 1 ≤ month → month + fuel = 12 →
      daysBeforeMonth year month + day < daysInYear year →
      ∃ found dayOfMonth, monthAndDay year fuel month day = (found, dayOfMonth) ∧
        (1 ≤ found ∧ found ≤ 12) ∧ (1 ≤ dayOfMonth ∧ dayOfMonth ≤ daysInMonth year found) ∧
        daysBeforeMonth year found + (dayOfMonth - 1) = daysBeforeMonth year month + day := by
  induction fuel with
  | zero =>
      intro month day hmonth hfuel hday
      obtain rfl : month = 12 := hfuel
      have hlast := daysBeforeMonth_succ year (show 1 ≤ 12 by omega)
      rw [daysBeforeMonth_thirteen] at hlast
      exact ⟨12, day + 1, rfl, by omega, by omega, rfl⟩
  | succ fuel ih =>
      intro month day hmonth hfuel hday
      rw [monthAndDay]
      split
      · exact ⟨month, day + 1, rfl, by omega, by omega, rfl⟩
      · have hnext := daysBeforeMonth_succ year hmonth
        obtain ⟨found, dayOfMonth, hfound, hmonths, hdays, hsame⟩ :=
          ih (month + 1) (day - daysInMonth year month) (by omega) (by omega) (by omega)
        exact ⟨found, dayOfMonth, hfound, hmonths, hdays, by omega⟩

/-- The years of the cycles of 400, 100 and four years have the days of those cycles. -/
theorem daysBeforeYear_cycles {cycles century four year : Nat} (hcentury : century ≤ 3)
    (hfour : four ≤ 24) (hyear : year ≤ 3) :
    daysBeforeYear (400 * cycles + 100 * century + 4 * four + year + 1) =
      146097 * cycles + 36524 * century + 1461 * four + 365 * year := by
  have h4 : (400 * cycles + 100 * century + 4 * four + year) / 4 =
      100 * cycles + 25 * century + four := by omega
  have h100 : (400 * cycles + 100 * century + 4 * four + year) / 100 =
      4 * cycles + century := by omega
  have h400 : (400 * cycles + 100 * century + 4 * four + year) / 400 = cycles := by omega
  rw [daysBeforeYear, Nat.add_sub_cancel]
  simp only [h4, h100, h400]
  omega

/-- The last year of four has a day more, but for that of a century that is not the last of its
cycle. -/
theorem daysInYear_cycles {cycles century four : Nat} (hfour : four ≤ 24)
    (hlast : century = 3 ∨ four < 24) :
    daysInYear (400 * cycles + 100 * century + 4 * four + 3 + 1) = 366 := by
  have hleap : isLeap (400 * cycles + 100 * century + 4 * four + 3 + 1) = true := by
    rw [isLeap_iff]
    omega
  rw [daysInYear, if_pos hleap]

theorem le_daysInYear (year : Nat) : 365 ≤ daysInYear year := by
  unfold daysInYear
  split <;> omega

/-- The cycles that fit into a number of days are years, and leave a day of the next one. -/
theorem ofDayNumber_eq (n : Nat) : ∃ year dayOfYear,
    Date.ofDayNumber n =
      ⟨year, (monthAndDay year 11 1 dayOfYear).1, (monthAndDay year 11 1 dayOfYear).2⟩ ∧
    daysBeforeYear year + dayOfYear = n ∧ dayOfYear < daysInYear year ∧ 1 ≤ year := by
  let inCycle := n % 146097
  let century := min 3 (inCycle / 36524)
  let inCentury := inCycle - 36524 * century
  let four := inCentury / 1461
  let inFour := inCentury % 1461
  let year := min 3 (inFour / 365)
  have hcentury : century ≤ 3 := Nat.min_le_left _ _
  have hinCentury : 36524 * century + inCentury = inCycle ∧ inCentury ≤ 36524 ∧
      (century = 3 ∨ inCentury < 36524) := by omega
  have hfour : four ≤ 24 := by omega
  have hyear : year ≤ 3 := Nat.min_le_left _ _
  have hinFour : 1461 * four + inFour = inCentury := Nat.div_add_mod _ _
  have hcycles : 146097 * (n / 146097) + inCycle = n := Nat.div_add_mod _ _
  refine ⟨400 * (n / 146097) + 100 * century + 4 * four + year + 1, inFour - 365 * year, rfl,
    ?_, ?_, by omega⟩
  · rw [daysBeforeYear_cycles hcentury hfour hyear]
    omega
  · rcases Nat.lt_or_eq_of_le hyear with hfirst | hlast
    · have hle := le_daysInYear (400 * (n / 146097) + 100 * century + 4 * four + year + 1)
      omega
    · rcases Nat.lt_or_ge (inFour - 365 * year) 365 with hshort | hlong
      · exact Nat.lt_of_lt_of_le hshort (le_daysInYear _)
      · rw [hlast, daysInYear_cycles hfour (by omega)]
        omega

/-- **A number of the calendar is the number of exactly the date found for it.** -/
theorem ofDayNumber_spec {n : Nat} (h : n < dayCount) :
    (Date.ofDayNumber n).isValid = true ∧ (Date.ofDayNumber n).dayNumber = n := by
  obtain ⟨year, dayOfYear, hdate, hn, hday, hyear⟩ := ofDayNumber_eq n
  have hstart : daysBeforeMonth year 1 + dayOfYear < daysInYear year := by
    simpa [daysBeforeMonth] using hday
  have hmonths : 1 + 11 = 12 := rfl
  obtain ⟨month, day, hfound, hmonth, hdays, hsame⟩ :=
    monthAndDay_spec 1 dayOfYear (Nat.le_refl 1) hmonths hstart
  have hlast : year ≤ 9999 := by
    refine Nat.le_of_not_lt fun hbeyond => ?_
    have hle : dayCount ≤ daysBeforeYear year := by
      rcases Nat.lt_or_eq_of_le (Nat.succ_le_of_lt hbeyond) with hlater | hnext
      · have hle := daysBeforeYear_add_le (by decide) hlater
        exact Nat.le_trans (Nat.le_add_right _ _) hle
      · exact Nat.le_of_eq (by rw [← hnext]; rfl)
    omega
  rw [hdate, hfound]
  refine ⟨Date.isValid_iff.mpr ⟨⟨hyear, hlast⟩, hmonth, hdays⟩, ?_⟩
  have hfirst : daysBeforeMonth year 1 = 0 := rfl
  simp only [Date.dayNumber]
  omega

/-- The date found for the number of a date is that date. -/
theorem ofDayNumber_dayNumber {d : Date} (h : d.isValid = true) :
    Date.ofDayNumber d.dayNumber = d :=
  have hspec := ofDayNumber_spec (Date.dayNumber_lt_dayCount h)
  Date.eq_of_dayNumber_eq hspec.1 h hspec.2

end VacancyLedger.Time
