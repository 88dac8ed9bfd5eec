/-
The floating point number nearest to a fraction.

A fraction is scaled by a power of two until 53 binary digits of it stand before the point, and
what stands behind is rounded away; the mantissa and the exponent are packed into bits, from which
they are read back (`nearest_spec`).  So a number differs from the fraction by at most half a unit
of its last digit, and is the fraction itself where that is an integer of at most 53 digits.
-/
import Mathlib.Algebra.Order.Field.Power
import Mathlib.Algebra.Order.Ring.Rat
import Mathlib.Tactic.FieldSimp
import Mathlib.Tactic.Linarith
import Mathlib.Tactic.NormNum
import Mathlib.Tactic.Positivity
import Mathlib.Tactic.Ring
import VacancyLedger.Number.Binary64

namespace VacancyLedger.Number

variable {num den : Nat} {q : Int}

/-! ### Quotients -/

/-- A fraction is its whole part and what is left of it. -/
theorem ratio_eq (num : Nat) (hden : 0 < den) :
    (num / den : ℚ) = (num / den : Nat) + ((num % den : Nat) / den : ℚ) ∧
      0 ≤ ((num % den : Nat) / den : ℚ) ∧ ((num % den : Nat) / den : ℚ) < 1 := by
  have hpos : (0 : ℚ) < den := Nat.cast_pos.mpr hden
  have hparts : (num : ℚ) = den * (num / den : Nat) + (num % den : Nat) := by
    exact_mod_cast (Nat.div_add_mod num den).symm
  refine ⟨?_, by positivity, ?_⟩
  · rw [hparts]
    field_simp
  · rw [div_lt_one hpos]
    exact_mod_cast Nat.mod_lt num hden

/-- Rounding to an integer is off by at most one half. -/
theorem divRoundEven_near (num : Nat) (hden : 0 < den) :
    |(divRoundEven num den : ℚ) - num / den| ≤ 1 / 2 := by
  have hpos : (0 : ℚ) < den := Nat.cast_pos.mpr hden
  obtain ⟨hratio, hsome, hless⟩ := ratio_eq num hden
  rw [hratio, abs_le]
  unfold divRoundEven
  simp only
  split
  · rename_i hup
    have htwice : (den : ℚ) ≤ 2 * (num % den : Nat) := by
      exact_mod_cast hup.elim Nat.le_of_lt fun h => Nat.le_of_eq h.1.symm
    have hhalf : (1 / 2 : ℚ) ≤ (num % den : Nat) / den := by
      rw [le_div_iff₀ hpos]
      linarith
    push_cast
    constructor <;> linarith
  · rename_i hdown
    have htwice : (2 * (num % den : Nat) : ℚ) ≤ den := by
      exact_mod_cast Nat.le_of_not_lt fun h => hdown (.inl h)
    have hhalf : ((num % den : Nat) / den : ℚ) ≤ 1 / 2 := by
      rw [div_le_iff₀ hpos]
      linarith
    constructor <;> linarith

/-- Rounding leaves no less than the whole part, and at most one more. -/
theorem divRoundEven_bounds (num den : Nat) :
    num / den ≤ divRoundEven num den ∧ divRoundEven num den ≤ num / den + 1 := by
  unfold divRoundEven
  simp only
  split <;> omega

/-! ### Scaling -/

theorem twoTo_pos (n : Nat) : 0 < twoTo n := Nat.pow_pos (by decide)

theorem cast_twoTo (n : Nat) : (twoTo n : ℚ) = 2 ^ n := Nat.cast_pow 2 n

/-- A power of two is one with an exponent of either sign. -/
theorem twoTo_div_twoTo (q : Int) : (twoTo q.toNat / twoTo (-q).toNat : ℚ) = 2 ^ q := by
  rw [cast_twoTo, cast_twoTo]
  rcases Int.le_total 0 q with hq | hq
  · obtain ⟨n, rfl⟩ := Int.eq_ofNat_of_zero_le hq
    simp
  · obtain ⟨n, hn⟩ := Int.eq_ofNat_of_zero_le (Int.neg_nonneg_of_nonpos hq)
    obtain rfl : q = -n := by omega
    simp

theorem scaleDown_ratio (num : Nat) (hden : 0 < den) (q : Int) :
    ((scaleDown num den q).1 / (scaleDown num den q).2 : ℚ) = num / den / 2 ^ q ∧
      0 < (scaleDown num den q).2 := by
  have hpos : (0 : ℚ) < den := Nat.cast_pos.mpr hden
  have hup : (0 : ℚ) < twoTo q.toNat := Nat.cast_pos.mpr (twoTo_pos _)
  have hdown : (0 : ℚ) < twoTo (-q).toNat := Nat.cast_pos.mpr (twoTo_pos _)
  refine ⟨?_, Nat.mul_pos hden (twoTo_pos _)⟩
  rw [← twoTo_div_twoTo, scaleDown]
  push_cast
  field_simp

/-- A fraction lies between two powers of two that its terms tell. -/
theorem ratio_log2 (hnum : 0 < num) (hden : 0 < den) :
    (2 : ℚ) ^ ((Nat.log2 num : Int) - Nat.log2 den - 1) < num / den ∧
      (num / den : ℚ) < 2 ^ ((Nat.log2 num : Int) - Nat.log2 den + 1) := by
  have hpos : (0 : ℚ) < den := Nat.cast_pos.mpr hden
  have hnumLow : (2 : ℚ) ^ Nat.log2 num ≤ num := by
    exact_mod_cast Nat.log2_self_le hnum.ne'
  have hnumHigh : (num : ℚ) < 2 ^ (Nat.log2 num + 1) := by
    exact_mod_cast Nat.lt_log2_self
  have hdenLow : (2 : ℚ) ^ Nat.log2 den ≤ den := by
    exact_mod_cast Nat.log2_self_le hden.ne'
  have hdenHigh : (den : ℚ) < 2 ^ (Nat.log2 den + 1) := by
    exact_mod_cast Nat.lt_log2_self
  constructor
  · rw [lt_div_iff₀ hpos]
    calc (2 : ℚ) ^ ((Nat.log2 num : Int) - Nat.log2 den - 1) * den
        < 2 ^ ((Nat.log2 num : Int) - Nat.log2 den - 1) * 2 ^ (Nat.log2 den + 1) := by gcongr
      _ = 2 ^ Nat.log2 num := by
          rw [← zpow_natCast, ← zpow_natCast, ← zpow_add₀ (by norm_num)]
          congr 1
          push_cast
          ring
      _ ≤ num := hnumLow
  · rw [div_lt_iff₀ hpos]
    calc (num : ℚ) < 2 ^ (Nat.log2 num + 1) := hnumHigh
      _ = 2 ^ ((Nat.log2 num : Int) - Nat.log2 den + 1) * 2 ^ Nat.log2 den := by
          rw [← zpow_natCast, ← zpow_natCast, ← zpow_add₀ (by norm_num)]
          congr 1
          push_cast
          ring
      _ ≤ 2 ^ ((Nat.log2 num : Int) - Nat.log2 den + 1) * den := by gcongr

theorem twoTo_le_div_iff (num : Nat) (hden : 0 < den) (k : Nat) :
    twoTo k ≤ num / den ↔ (2 : ℚ) ^ k ≤ num / den := by
  have hpos : (0 : ℚ) < den := Nat.cast_pos.mpr hden
  rw [Nat.le_div_iff_mul_le hden, le_div_iff₀ hpos, ← cast_twoTo, ← Nat.cast_mul, Nat.cast_le]

/-- The exponent is one at which 53 digits stand before the point, or the least. -/
theorem exponentFor_spec (hnum : 0 < num) (hden : 0 < den) :
    -1074 ≤ exponentFor num den ∧ (num / den : ℚ) < 2 ^ (exponentFor num den + 53) ∧
      (exponentFor num den = -1074 ∨ (2 : ℚ) ^ (exponentFor num den + 52) ≤ num / den) := by
  obtain ⟨hlow, hhigh⟩ := ratio_log2 hnum hden
  generalize hguess : (Nat.log2 num : Int) - Nat.log2 den - 53 = guess
  have hmore : ∀ k : Nat, (2 : ℚ) ^ (guess + k) = 2 ^ k * 2 ^ guess := fun k => by
    rw [zpow_add₀ (by norm_num), mul_comm, zpow_natCast]
  have hposition : (2 : ℚ) ^ (guess + 52) ≤ num / den ∧ (num / den : ℚ) < 2 ^ (guess + 54) := by
    rw [show guess + 52 = (Nat.log2 num : Int) - Nat.log2 den - 1 by omega,
      show guess + 54 = (Nat.log2 num : Int) - Nat.log2 den + 1 by omega]
    exact ⟨hlow.le, hhigh⟩
  obtain ⟨hscaled, hpos⟩ := scaleDown_ratio num hden guess
  have hlong : twoTo 53 ≤ (scaleDown num den guess).1 / (scaleDown num den guess).2 ↔
      (2 : ℚ) ^ (guess + 53) ≤ num / den := by
    rw [twoTo_le_div_iff _ hpos, hscaled, le_div_iff₀ (by positivity)]
    exact iff_of_eq (congrArg (· ≤ _) (hmore 53).symm)
  have hexponent : exponentFor num den = max
      (if twoTo 53 ≤ (scaleDown num den guess).1 / (scaleDown num den guess).2 then guess + 1
        else guess) (-1074) := by
    rw [← hguess]
    rfl
  obtain ⟨base, hbase, hfirst, hlast⟩ : ∃ base, exponentFor num den = max base (-1074) ∧
      (2 : ℚ) ^ (base + 52) ≤ num / den ∧ (num / den : ℚ) < 2 ^ (base + 53) := by
    refine ⟨_, hexponent, ?_⟩
    split
    · rename_i h
      rw [show guess + 1 + 52 = guess + 53 by ring, show guess + 1 + 53 = guess + 54 by ring]
      exact ⟨hlong.mp h, hposition.2⟩
    · rename_i h
      exact ⟨hposition.1, not_le.mp fun hle => h (hlong.mpr hle)⟩
  rw [hbase]
  rcases le_total (-1074) base with hnormal | hsmall
  · rw [max_eq_left hnormal]
    exact ⟨hnormal, hlast, .inr hfirst⟩
  · rw [max_eq_right hsmall]
    refine ⟨le_refl _, hlast.trans_le ?_, .inl rfl⟩
    exact zpow_le_zpow_right₀ (by norm_num) (by omega)

/-! ### Bits -/

/-- A sign, an exponent and a fraction are read back from the bits they are packed into. -/
theorem decodeBits_pack (negative : Bool) {exponent fraction : Nat} (hexponent : exponent < 2048)
    (hfraction : fraction < twoTo 52) :
    decodeBits ((if negative then twoTo 63 else 0) + (exponent * twoTo 52 + fraction)) =
      if exponent = 2047 then (if fraction = 0 then .infinite negative else .nan)
      else if exponent = 0 then .finite negative fraction (-1074)
      else .finite negative (twoTo 52 + fraction) ((exponent : Int) - 1075) := by
  have h11 : twoTo 11 = 2048 := rfl
  have h52 : twoTo 52 = 4503599627370496 := rfl
  have h63 : twoTo 63 = 9223372036854775808 := rfl
  generalize hbits : (if negative then twoTo 63 else 0) + (exponent * twoTo 52 + fraction) = bits
  have hparts : decide (twoTo 63 ≤ bits) = negative ∧ bits / twoTo 52 % twoTo 11 = exponent ∧
      bits % twoTo 52 = fraction := by
    rw [h52] at hfraction hbits
    rw [h11, h52, h63]
    cases negative with
    | false =>
        simp only [Bool.false_eq_true, if_false, Nat.zero_add] at hbits
        exact ⟨decide_eq_false (by omega), by omega, by omega⟩
    | true =>
        simp only [if_true, h63] at hbits
        exact ⟨decide_eq_true (by omega), by omega, by omega⟩
  rw [decodeBits]
  simp only [hparts.1, hparts.2.1, hparts.2.2]

/-! ### The nearest number -/

/-- `y` is what `x` is rounded to if 53 binary digits of it are kept, or as many as the least
exponent allows. -/
def IsRounded (x y : ℚ) : Prop :=
  ∃ (k : Nat) (q : Int), y = k * 2 ^ q ∧ |(k : ℚ) - x / 2 ^ q| ≤ 1 / 2 ∧ -1074 ≤ q ∧
    x < 2 ^ (q + 53) ∧ (q = -1074 ∨ 2 ^ (q + 52) ≤ x)

/-- **The number nearest to a fraction is the fraction rounded**, or it is infinite, which only a
fraction beyond all numbers leads to. -/
theorem nearest_spec (negative : Bool) (hnum : 0 < num) (hden : 0 < den) :
    nearest negative num den = .infinite negative ∧ (2 : ℚ) ^ (1023 : Int) ≤ num / den ∨
      ∃ m q, nearest negative num den = .finite negative m q ∧
        IsRounded (num / den) (m * 2 ^ q) := by
  obtain ⟨hleast, hlast, hfirst⟩ := exponentFor_spec hnum hden
  generalize hexponent : exponentFor num den = q at *
  obtain ⟨hscaled, hpos⟩ := scaleDown_ratio num hden q
  have hnear := divRoundEven_near (scaleDown num den q).1 hpos
  obtain ⟨hfloor, hceil⟩ :=
    divRoundEven_bounds (scaleDown num den q).1 (scaleDown num den q).2
  generalize hmantissa : divRoundEven (scaleDown num den q).1 (scaleDown num den q).2 = m at *
  rw [hscaled] at hnear
  have hrounded : IsRounded (num / den) (m * 2 ^ q) := ⟨m, q, rfl, hnear, hleast, hlast, hfirst⟩
  have hlong : m ≤ twoTo 53 := by
    have hshort : ¬twoTo 53 ≤ (scaleDown num den q).1 / (scaleDown num den q).2 := by
      rw [twoTo_le_div_iff _ hpos, hscaled, le_div_iff₀ (by positivity), not_le]
      calc (num / den : ℚ) < 2 ^ (q + 53) := hlast
        _ = 2 ^ 53 * 2 ^ q := by
            rw [zpow_add₀ (by norm_num), mul_comm]
            rfl
    omega
  have hfull : q = -1074 ∨ twoTo 52 ≤ m := by
    refine hfirst.imp id fun hlarge => le_trans ?_ hfloor
    rw [twoTo_le_div_iff _ hpos, hscaled, le_div_iff₀ (by positivity)]
    calc (2 : ℚ) ^ 52 * 2 ^ q = 2 ^ (q + 52) := by
          rw [zpow_add₀ (by norm_num), mul_comm]
          rfl
      _ ≤ num / den := hlarge
  have hbits : nearest negative num den = decodeBits ((if negative then twoTo 63 else 0) +
      if m < twoTo 52 then m
      else min ((q + 1075).toNat * twoTo 52 + (m - twoTo 52)) (2047 * twoTo 52)) := by
    rw [nearest, fractionBits, if_neg hnum.ne', nearestBits, hexponent]
    simp only [hmantissa]
  have h52 : twoTo 52 = 4503599627370496 := rfl
  have h53 : twoTo 53 = 9007199254740992 := rfl
  have hoverflow : 971 ≤ q → (2 : ℚ) ^ (1023 : Int) ≤ num / den := fun hq =>
    (zpow_le_zpow_right₀ (by norm_num) (by omega)).trans (hfirst.resolve_left (by omega))
  have hinfinite := @decodeBits_pack negative 2047 0 (by decide) (twoTo_pos 52)
  rw [if_pos rfl, if_pos rfl, Nat.add_zero] at hinfinite
  rw [hbits]
  by_cases hsubnormal : m < twoTo 52
  · obtain rfl : q = -1074 := hfull.resolve_right (Nat.not_le_of_lt hsubnormal)
    refine .inr ⟨m, -1074, ?_, hrounded⟩
    have hpacked := @decodeBits_pack negative 0 m (by decide) hsubnormal
    rw [Nat.zero_mul, Nat.zero_add] at hpacked
    rw [if_pos hsubnormal, hpacked]
    rfl
  · rw [if_neg hsubnormal]
    obtain ⟨exponent, hq⟩ := Int.eq_ofNat_of_zero_le (show 0 ≤ q + 1075 by omega)
    obtain rfl : q = (exponent : Int) - 1075 := by omega
    rw [show ((exponent : Int) - 1075 + 1075).toNat = exponent by omega]
    rcases Nat.lt_or_eq_of_le hlong with hnormal | hcarry
    · by_cases hlarge : 2047 ≤ exponent
      · rw [min_eq_right (by rw [h52]; omega)]
        exact .inl ⟨hinfinite, hoverflow (by omega)⟩
      · rw [min_eq_left (by rw [h52]; omega)]
        refine .inr ⟨m, _, ?_, hrounded⟩
        rw [@decodeBits_pack negative exponent (m - twoTo 52) (by omega) (by omega),
          if_neg (by omega), if_neg (by omega), show twoTo 52 + (m - twoTo 52) = m by omega]
    · -- Rounding up has led to one digit more, which the exponent takes.
      have hsum : exponent * twoTo 52 + (m - twoTo 52) = (exponent + 1) * twoTo 52 + 0 := by
        rw [h52]
        omega
      rw [hsum]
      by_cases hlarge : 2046 ≤ exponent
      · rw [min_eq_right (by rw [h52]; omega)]
        exact .inl ⟨hinfinite, hoverflow (by omega)⟩
      · rw [min_eq_left (by rw [h52]; omega)]
        refine .inr ⟨twoTo 52, exponent + 1 - 1075, ?_, ?_⟩
        · rw [@decodeBits_pack negative (exponent + 1) 0 (by omega) (twoTo_pos 52),
            if_neg (by omega), if_neg (by omega)]
          rfl
        · have hsame : (twoTo 52 * 2 ^ ((exponent : Int) + 1 - 1075) : ℚ) =
              m * 2 ^ ((exponent : Int) - 1075) := by
            rw [hcarry, cast_twoTo, cast_twoTo,
              show (exponent : Int) + 1 - 1075 = (exponent : Int) - 1075 + 1 by ring,
              zpow_add_one₀ (by norm_num)]
            ring
          rwa [hsame]

/-- What is rounded is off by at most one in 2^53 of it, or by half the least number. -/
theorem IsRounded.near {x y : ℚ} (h : IsRounded x y) (hx : 0 ≤ x) : |y - x| ≤ (1 + x) / 2 ^ 53 := by
  obtain ⟨k, q, rfl, hnear, -, -, hq⟩ := h
  have hunit : (0 : ℚ) < 2 ^ q := by positivity
  have hfactor : (k * 2 ^ q - x : ℚ) = (k - x / 2 ^ q) * 2 ^ q := by
    field_simp
  have hhalf : |(k * 2 ^ q - x : ℚ)| ≤ 2 ^ q / 2 := by
    rw [hfactor, abs_mul, abs_of_pos hunit]
    calc |(k : ℚ) - x / 2 ^ q| * 2 ^ q ≤ 1 / 2 * 2 ^ q := by gcongr
      _ = 2 ^ q / 2 := by ring
  refine hhalf.trans ?_
  rw [div_le_div_iff₀ (by norm_num) (by positivity)]
  have hfifty : (2 : ℚ) ^ q * 2 ^ 53 = 2 ^ (q + 52) * 2 := by
    rw [zpow_add₀ (by norm_num), show (2 : ℚ) ^ (52 : Int) = 2 ^ 52 from rfl]
    ring
  rw [hfifty]
  gcongr
  rcases hq with rfl | hlarge
  · have hless : (2 : ℚ) ^ (-1074 + 52 : Int) ≤ 2 ^ (0 : Int) :=
      zpow_le_zpow_right₀ (by norm_num) (by norm_num)
    rw [zpow_zero] at hless
    linarith
  · linarith

/-- An integer of at most 53 digits stays as it is. -/
theorem IsRounded.eq_of_natCast {s : Nat} {y : ℚ} (h : IsRounded s y) (hs : s < 2 ^ 53) :
    y = s := by
  obtain ⟨k, q, rfl, hnear, -, -, hq⟩ := h
  have hle : q ≤ 0 := by
    rcases hq with rfl | hlarge
    · decide
    · by_contra hpos
      have hpower : (2 : ℚ) ^ (53 : Int) ≤ 2 ^ (q + 52) :=
        zpow_le_zpow_right₀ (by norm_num) (by omega)
      have hsmall : (s : ℚ) < 2 ^ 53 := by exact_mod_cast hs
      exact absurd (hpower.trans hlarge) (not_le.mpr (by exact_mod_cast hsmall))
  obtain ⟨j, hj⟩ := Int.eq_ofNat_of_zero_le (Int.neg_nonneg_of_nonpos hle)
  obtain rfl : q = -j := by omega
  have hunit : (0 : ℚ) < 2 ^ j := by positivity
  rw [zpow_neg, zpow_natCast] at hnear ⊢
  rw [div_inv_eq_mul] at hnear
  have hk : k = s * 2 ^ j := by
    have hless : |((k : Int) - (s * 2 ^ j : Nat) : ℚ)| < 1 := by
      push_cast
      exact hnear.trans_lt (by norm_num)
    have hzero : |(k : Int) - (s * 2 ^ j : Nat)| < 1 := by exact_mod_cast hless
    have hsame := Int.abs_lt_one_iff.mp hzero
    omega
  rw [hk]
  push_cast
  field_simp

end VacancyLedger.Number
