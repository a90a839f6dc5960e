import Mathlib.Algebra.Order.Field.Power
import Mathlib.Tactic.FieldSimp
import Mathlib.Tactic.NormNum
import Mathlib.Tactic.Positivity
import Mathlib.Tactic.Ring
import WasmHost.Decimal.Shortest
import WasmHost.Proofs.NearestCodes
/-!
Numerals and the codes nearest to them.

The code that is nearest to a numeral depends on nothing but its value: a coefficient may get zeros
at its end if the exponent makes up for them. The numeral that is written for a finite code is one
that this code is nearest to.
-/
namespace WasmHost

namespace Decimal

variable {f : FloatFormat} {d e : Decimal} {code : Nat}

/-- The number that a numeral denotes. -/
def value (d : Decimal) : ℚ := d.coefficient * 10 ^ d.exponent

theorem numerator_div_denominator (d : Decimal) : (d.numerator : ℚ) / d.denominator = d.value := by
  have hexponent : d.exponent = d.exponent.toNat - (-d.exponent).toNat := by omega
  have hpower : (10 : ℚ) ^ d.exponent = 10 ^ d.exponent.toNat / 10 ^ (-d.exponent).toNat := by
    rw [hexponent, zpow_sub₀ (by norm_num), zpow_natCast, zpow_natCast]
    congr 2 <;> omega
  rw [numerator, denominator, value, hpower]
  push_cast
  rw [mul_div_assoc]

theorem denominator_pos (d : Decimal) : 0 < d.denominator := Nat.pow_pos (by decide)

theorem value_eq_zero_iff : d.value = 0 ↔ d.coefficient = 0 := by
  rw [value, mul_eq_zero_iff_right (zpow_ne_zero _ (by norm_num)), Nat.cast_eq_zero]

theorem digitCount_le_iff {n k : Nat} (hk : 0 < k) : digitCount n ≤ k ↔ n < 10 ^ k :=
  Nat.length_toDigits_le_iff (by decide) hk

theorem digitCount_pos (n : Nat) : 0 < digitCount n := Nat.length_toDigits_pos

theorem position_le_iff (hpos : 0 < d.coefficient) (p : Int) :
    d.position ≤ p ↔ d.value < 10 ^ p := by
  have hten (n : Int) : (0 : ℚ) < 10 ^ n := zpow_pos (by norm_num) n
  -- dividing by the power of the exponent leaves a comparison with the coefficient
  have hsplit : (10 : ℚ) ^ p = 10 ^ (p - d.exponent) * 10 ^ d.exponent := by
    rw [← zpow_add₀ (by norm_num), sub_add_cancel]
  have hcount := digitCount_pos d.coefficient
  rw [value, hsplit, mul_lt_mul_iff_left₀ (hten _), position]
  by_cases hk : 0 < p - d.exponent
  · obtain ⟨k, hk⟩ : ∃ k : Nat, p - d.exponent = k := ⟨(p - d.exponent).toNat, by omega⟩
    rw [hk, zpow_natCast, ← Nat.cast_ofNat, ← Nat.cast_pow, Nat.cast_lt,
      ← digitCount_le_iff (by omega)]
    omega
  -- a coefficient is not below one
  · refine iff_of_false (by omega) (not_lt.mpr ?_)
    have hone : (1 : ℚ) ≤ d.coefficient := Nat.one_le_cast.mpr hpos
    exact (zpow_le_one_of_nonpos₀ (by norm_num) (by omega)).trans hone

theorem position_congr (hpos : 0 < d.coefficient) (hpos' : 0 < e.coefficient)
    (h : d.value = e.value) : d.position = e.position := by
  apply le_antisymm
  · rw [position_le_iff hpos, h, ← position_le_iff hpos']
  · rw [position_le_iff hpos', ← h, ← position_le_iff hpos]

theorem nearestCode_congr (h : d.value = e.value) : d.nearestCode f = e.nearestCode f := by
  by_cases hzero : d.coefficient = 0
  · have hzero' : e.coefficient = 0 := by rwa [← value_eq_zero_iff, ← h, value_eq_zero_iff]
    rw [nearestCode, nearestCode, if_pos (Or.inl hzero), if_pos (Or.inl hzero')]
  · have hzero' : e.coefficient ≠ 0 := by rwa [ne_eq, ← value_eq_zero_iff, ← h, value_eq_zero_iff]
    have hposition : d.position = e.position :=
      position_congr (Nat.pos_of_ne_zero hzero) (Nat.pos_of_ne_zero hzero') h
    -- equal values are equal quotients, when they are multiplied out
    have hquotient : d.numerator * e.denominator = e.numerator * d.denominator := by
      rw [← numerator_div_denominator, ← numerator_div_denominator, div_eq_div_iff
        (Nat.cast_ne_zero.mpr d.denominator_pos.ne')
        (Nat.cast_ne_zero.mpr e.denominator_pos.ne')] at h
      exact_mod_cast h
    have hnearest : f.nearestCode (d.numerator * 2 ^ f.unitExponent) d.denominator =
        f.nearestCode (e.numerator * 2 ^ f.unitExponent) e.denominator := by
      apply FloatFormat.nearestCode_congr d.denominator_pos e.denominator_pos
      rw [Nat.mul_right_comm, hquotient, Nat.mul_right_comm]
    simp only [nearestCode, hzero, hzero', hposition, hnearest, false_or]

theorem coefficient_pos_of_nearestCode (h : d.nearestCode f = code) (hcode : 0 < code) :
    0 < d.coefficient := by
  apply Nat.pos_of_ne_zero
  intro hzero
  rw [nearestCode, if_pos (Or.inl hzero)] at h
  omega

theorem exact_value (f : FloatFormat) (code : Nat) :
    (exact f code).value = f.units code / 2 ^ f.unitExponent := by
  have hten : (10 : ℚ) ^ f.unitExponent = 2 ^ f.unitExponent * 5 ^ f.unitExponent := by
    rw [← mul_pow]
    norm_num
  rw [value, exact, zpow_neg, zpow_natCast, hten]
  push_cast
  field_simp

theorem units_lt (hcode : code < f.infinityCode) :
    f.units code < 10 ^ 2 ^ (f.exponentWidth - 1) * 2 ^ f.unitExponent := by
  obtain ⟨significand, scale, hunits, hs, hscale⟩ := FloatFormat.units_eq_significand hcode
  have hwidth : 2 ^ f.exponentWidth ≤ 2 * 2 ^ (f.exponentWidth - 1) := by
    rw [← Nat.pow_succ']
    exact Nat.pow_le_pow_right (by decide) (by omega)
  have hunit : f.fractionWidth ≤ f.unitExponent := Nat.le_add_left _ _
  calc f.units code
      = significand * 2 ^ scale := hunits
    -- the scale is below the width of the exponents, and 2 ^ 3 is below 10
    _ < 2 ^ (f.fractionWidth + 1) * 2 ^ scale := Nat.mul_lt_mul_of_pos_right hs (Nat.two_pow_pos _)
    _ = 2 ^ (f.fractionWidth + 1 + scale) := (Nat.pow_add ..).symm
    _ ≤ 2 ^ (3 * 2 ^ (f.exponentWidth - 1) + f.unitExponent) :=
      Nat.pow_le_pow_right (by decide) (by omega)
    _ = 8 ^ 2 ^ (f.exponentWidth - 1) * 2 ^ f.unitExponent := by rw [Nat.pow_add, Nat.pow_mul]
    _ ≤ 10 ^ 2 ^ (f.exponentWidth - 1) * 2 ^ f.unitExponent :=
      Nat.mul_le_mul_right _ (Nat.pow_le_pow_left (by decide) _)

theorem exact_nearestCode (hpos : 0 < code) (hcode : code < f.infinityCode) :
    (exact f code).nearestCode f = code := by
  have hunits : 0 < f.units code := FloatFormat.units_pos hpos
  have htwo : (0 : ℚ) < 2 ^ f.unitExponent := by positivity
  have hcoefficient : 0 < (exact f code).coefficient := Nat.mul_pos hunits (Nat.pow_pos (by decide))
  -- the position is neither too low nor too high to be rounded
  have hlow : ¬ (exact f code).position < -(f.unitExponent : Int) := by
    have hone : (1 : ℚ) ≤ f.units code := Nat.one_le_cast.mpr hunits
    have hpowers : (10 : ℚ) ^ (-(f.unitExponent : Int) - 1) ≤ 1 / 2 ^ f.unitExponent := by
      calc (10 : ℚ) ^ (-(f.unitExponent : Int) - 1)
          ≤ 10 ^ (-(f.unitExponent : Int)) := zpow_le_zpow_right₀ (by norm_num) (by omega)
        _ = 1 / 10 ^ f.unitExponent := by rw [zpow_neg, zpow_natCast, one_div]
        _ ≤ 1 / 2 ^ f.unitExponent :=
          one_div_le_one_div_of_le htwo (pow_le_pow_left₀ (by norm_num) (by norm_num) _)
    rw [← Int.le_sub_one_iff, position_le_iff hcoefficient, exact_value, not_lt]
    exact hpowers.trans (div_le_div_of_nonneg_right hone htwo.le)
  have hhigh : ¬ (2 ^ (f.exponentWidth - 1) : Int) < (exact f code).position := by
    have hbound := units_lt hcode
    have hpower :
        ((2 : Int) ^ (f.exponentWidth - 1)) = ((2 ^ (f.exponentWidth - 1) : Nat) : Int) := by
      push_cast
      rfl
    rw [not_lt, position_le_iff hcoefficient, exact_value, hpower, zpow_natCast,
      div_lt_iff₀ htwo]
    exact_mod_cast hbound
  -- the numeral, taken as a quotient, is the magnitude in units
  have hquotient : (exact f code).numerator * 2 ^ f.unitExponent * 1 =
      f.units code * (exact f code).denominator := by
    have hten : 10 ^ f.unitExponent = 5 ^ f.unitExponent * 2 ^ f.unitExponent :=
      Nat.mul_pow 5 2 f.unitExponent
    simp only [numerator, denominator, exact, neg_neg, Int.toNat_natCast, hten]
    simp [Nat.mul_assoc]
  rw [nearestCode, if_neg (not_or.mpr ⟨hcoefficient.ne', hlow⟩), if_neg hhigh,
    FloatFormat.nearestCode_congr (denominator_pos _) Nat.one_pos hquotient,
    FloatFormat.nearestCode_self hcode.le]

/-- What is taken from a grid is nearest to the code that it is written for. -/
theorem nearestCode_of_neighbour? {n m : Nat} {exponent : Int}
    (h : neighbour? f code n m exponent = some d) : d.nearestCode f = code := by
  simp only [neighbour?] at h
  split at h
  · next hnearer => exact (Option.some.inj h) ▸ hnearer
  split at h
  · next hfarther => exact (Option.some.inj h) ▸ hfarther
  · cases h

/-- The shortest numeral of a finite code reads back as this code. -/
theorem shortest_nearestCode (hpos : 0 < code) (hcode : code < f.infinityCode) :
    (shortest f code).nearestCode f = code := by
  simp only [shortest]
  generalize hfound : List.findSome? _ _ = found
  cases found with
  | none => exact exact_nearestCode hpos hcode
  | some d =>
    obtain ⟨exponent, -, hneighbour⟩ := List.exists_of_findSome?_eq_some hfound
    exact nearestCode_of_neighbour? hneighbour

end Decimal
end WasmHost
