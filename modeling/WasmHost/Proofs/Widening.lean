import Mathlib.Data.Rat.Defs
import Mathlib.Tactic.FieldSimp
import Mathlib.Tactic.Ring
import WasmHost.Floating.Number
import WasmHost.Proofs.NearestCodes
/-!
Conversion to a wider format is exact.

A finite magnitude is a significand that fits the fraction, one bit more included, times a power of
two. A format that has room for such a significand, and for its exponent at both ends, has a code of
the same magnitude, and that code is the nearest one.
-/
namespace WasmHost

namespace FloatFormat

/-- Every number of one format is a number of the other. -/
structure Within (f g : FloatFormat) : Prop where
  fraction : f.fractionWidth ≤ g.fractionWidth
  unit : f.unitExponent ≤ g.unitExponent
  range : f.fractionWidth + 2 ^ f.exponentWidth + (g.unitExponent - f.unitExponent) <
    g.fractionWidth + 2 ^ g.exponentWidth
  /-- The format has finite numbers besides the subnormal ones. -/
  normal : 1 < g.exponentWidth
  /-- The format has NaNs. -/
  quiet : 0 < g.fractionWidth

variable {f g : FloatFormat}

-- A finite magnitude of a format within another one has a code in that one, which is found.
theorem Within.nearestCode_units (h : f.Within g) {code : Nat} (hcode : code < f.infinityCode)
    (hpos : 0 < f.units code) :
    g.nearestCode (f.units code * 2 ^ g.unitExponent) (2 ^ f.unitExponent) < g.infinityCode ∧
      g.units (g.nearestCode (f.units code * 2 ^ g.unitExponent) (2 ^ f.unitExponent)) =
        f.units code * 2 ^ (g.unitExponent - f.unitExponent) := by
  obtain ⟨significand, scale, hunits, hs, hscale⟩ := units_eq_significand hcode
  have hsplit : 2 ^ g.unitExponent =
      2 ^ (g.unitExponent - f.unitExponent) * 2 ^ f.unitExponent := by
    rw [← Nat.pow_add, Nat.sub_add_cancel h.unit]
  -- the magnitude in units of the other format, which are finer, is a multiple
  have hm : f.units code * 2 ^ (g.unitExponent - f.unitExponent) =
      significand * 2 ^ (scale + (g.unitExponent - f.unitExponent)) := by
    rw [hunits, Nat.pow_add, Nat.mul_assoc]
  have hmpos : 0 < f.units code * 2 ^ (g.unitExponent - f.unitExponent) :=
    Nat.mul_pos hpos (Nat.two_pow_pos _)
  have hlog : (f.units code * 2 ^ (g.unitExponent - f.unitExponent)).log2 <
      f.fractionWidth + 1 + (scale + (g.unitExponent - f.unitExponent)) := by
    refine (Nat.log2_lt hmpos.ne').mpr ?_
    rw [hm, Nat.pow_add _ (f.fractionWidth + 1)]
    exact Nat.mul_lt_mul_of_pos_right hs (Nat.two_pow_pos _)
  -- the significand has room, and the exponent is in range
  have hfits : significand < 2 ^ (g.fractionWidth + 1) :=
    hs.trans_le (Nat.pow_le_pow_right (by decide) (Nat.succ_le_succ h.fraction))
  have hrange := h.range
  rw [hsplit, ← Nat.mul_assoc]
  exact nearestCode_exact (Nat.two_pow_pos _) hm hmpos hfits h.normal (by omega)

theorem infinityCode_lt_quietCode (f : FloatFormat) : f.infinityCode < f.quietCode :=
  Nat.lt_add_of_pos_right (Nat.two_pow_pos _)

theorem quietCode_lt_codeCount (h : 0 < f.fractionWidth) : f.quietCode < f.codeCount := by
  have hhalf : 2 ^ (f.fractionWidth - 1) < 2 ^ f.fractionWidth :=
    Nat.pow_lt_pow_right (by decide) (by omega)
  have hcount : f.infinityCode + 2 ^ f.fractionWidth = f.codeCount := by
    rw [infinityCode, codeCount, Nat.pow_add, Nat.sub_mul, Nat.one_mul]
    exact Nat.sub_add_cancel (Nat.le_mul_of_pos_left _ (Nat.two_pow_pos _))
  rw [quietCode]
  omega

theorem half_within_double : half.Within double := by
  constructor <;> decide

theorem single_within_double : single.Within double := by
  constructor <;> decide

end FloatFormat

namespace Floating

variable {f g : FloatFormat}

/-- The value of a finite number. -/
def value (x : Floating f) : ℚ := x.signedUnits / 2 ^ f.unitExponent

/-- Two numbers are the same, whatever their formats: both are NaN, both are the infinity of one
sign, or both are finite, of one sign and equal. -/
inductive SameValue (x : Floating f) (y : Floating g) : Prop where
  | nan (hx : x.isNaN = true) (hy : y.isNaN = true)
  | infinite (hx : x.isInfinite = true) (hy : y.isInfinite = true)
      (sign : x.negative = y.negative)
  | finite (hx : x.isFinite = true) (hy : y.isFinite = true) (sign : x.negative = y.negative)
      (value : x.value = y.value)

theorem SameValue.refl (x : Floating f) : x.SameValue x := by
  rcases Nat.lt_trichotomy x.code f.infinityCode with hcode | hcode | hcode
  · exact .finite (decide_eq_true hcode) (decide_eq_true hcode) rfl rfl
  · exact .infinite (decide_eq_true hcode) (decide_eq_true hcode) rfl
  · exact .nan (decide_eq_true hcode) (decide_eq_true hcode)

-- Numbers of one sign whose magnitudes agree in units of the finer format have one value.
theorem value_eq_of_units {x : Floating f} {y : Floating g} (sign : x.negative = y.negative)
    (hunit : f.unitExponent ≤ g.unitExponent)
    (h : g.units y.code = f.units x.code * 2 ^ (g.unitExponent - f.unitExponent)) :
    x.value = y.value := by
  -- a unit of the one format is a power of two of units of the other
  have hsplit : (2 : ℚ) ^ g.unitExponent =
      2 ^ (g.unitExponent - f.unitExponent) * 2 ^ f.unitExponent := by
    rw [← pow_add, Nat.sub_add_cancel hunit]
  have hsigned : y.signedUnits = x.signedUnits * 2 ^ (g.unitExponent - f.unitExponent) := by
    rw [signedUnits, signedUnits, ← sign, h]
    push_cast
    split <;> ring
  rw [value, value, hsigned, hsplit]
  push_cast
  field_simp

theorem natAbs_signedUnits (x : Floating f) : x.signedUnits.natAbs = f.units x.code := by
  unfold signedUnits
  split
  · rw [Int.natAbs_neg, Int.natAbs_natCast]
  · rw [Int.natAbs_natCast]

theorem signedUnits_neg_iff {x : Floating f} (hpos : 0 < f.units x.code) :
    x.signedUnits < 0 ↔ x.negative = true := by
  unfold signedUnits
  split
  · rename_i hnegative
    exact iff_of_true (by omega) hnegative
  · rename_i hpositive
    exact iff_of_false (by omega) hpositive

-- The conversion of a finite number keeps the sign and takes the nearest code.
theorem convert_of_finite {x : Floating f} (hcode : x.code < f.infinityCode) :
    (x.convert g).negative = x.negative ∧
      (x.convert g).code =
        g.nearestCode (f.units x.code * 2 ^ g.unitExponent) (2 ^ f.unitExponent) := by
  have hnan : x.isNaN = false := decide_eq_false (by omega)
  have hinfinite : x.isInfinite = false := decide_eq_false (by omega)
  have hconvert : x.convert g = ofUnits g (x.signedUnits * 2 ^ g.unitExponent)
      (2 ^ f.unitExponent) x.negative := by
    rw [convert, hnan, hinfinite]
    rfl
  have hpower : (0 : Int) < 2 ^ g.unitExponent := pow_pos (by decide) _
  have habs : (x.signedUnits * 2 ^ g.unitExponent).natAbs =
      f.units x.code * 2 ^ g.unitExponent := by
    rw [Int.natAbs_mul, Int.natAbs_pow, natAbs_signedUnits]
    rfl
  rw [hconvert, ofUnits]
  -- zero has its own code, and keeps the sign that its units do not tell
  by_cases hzero : f.units x.code = 0
  · have hproduct : x.signedUnits * 2 ^ g.unitExponent = 0 := by
      rw [← Int.natAbs_eq_zero, habs, hzero, Nat.zero_mul]
    rw [if_pos hproduct, hzero, Nat.zero_mul, g.nearestCode_zero]
    exact ⟨rfl, rfl⟩
  · have hpos : 0 < f.units x.code := Nat.pos_of_ne_zero hzero
    have hproduct : x.signedUnits * 2 ^ g.unitExponent ≠ 0 := by
      rw [← Int.natAbs_ne_zero, habs]
      exact (Nat.mul_pos hpos (Nat.two_pow_pos _)).ne'
    have hsign : decide (x.signedUnits * 2 ^ g.unitExponent < 0) = x.negative := by
      rw [Bool.eq_iff_iff, decide_eq_true_iff, ← signedUnits_neg_iff hpos]
      exact ⟨fun hlt => Int.neg_of_mul_neg_left hlt hpower,
        fun hlt => Int.mul_neg_of_neg_of_pos hlt hpower⟩
    rw [if_neg hproduct, hsign, habs]
    exact ⟨rfl, rfl⟩

theorem convert_of_infinite {x : Floating f} (hcode : x.code = f.infinityCode) :
    x.convert g = infinity g x.negative := by
  have hnan : x.isNaN = false := decide_eq_false (by omega)
  have hinfinite : x.isInfinite = true := decide_eq_true hcode
  rw [convert, hnan, hinfinite]
  rfl

theorem isNaN_convert (hquiet : 0 < g.fractionWidth) {x : Floating f}
    (hcode : f.infinityCode < x.code) : (x.convert g).isNaN = true := by
  have hnan : x.isNaN = true := decide_eq_true hcode
  rw [convert, hnan]
  refine decide_eq_true ?_
  change g.infinityCode < g.quietCode % g.codeCount
  rw [Nat.mod_eq_of_lt (FloatFormat.quietCode_lt_codeCount hquiet)]
  exact g.infinityCode_lt_quietCode

theorem convert_finite (h : f.Within g) {x : Floating f} (hcode : x.code < f.infinityCode) :
    (x.convert g).code < g.infinityCode ∧ (x.convert g).negative = x.negative ∧
      g.units (x.convert g).code =
        f.units x.code * 2 ^ (g.unitExponent - f.unitExponent) := by
  obtain ⟨hsign, hnearest⟩ := convert_of_finite (g := g) hcode
  rw [hnearest]
  by_cases hzero : f.units x.code = 0
  · have hfinite : 0 < g.infinityCode := by
      have hfour : 2 ^ 2 ≤ 2 ^ g.exponentWidth := Nat.pow_le_pow_right (by decide) h.normal
      exact Nat.mul_pos (by omega) (Nat.two_pow_pos _)
    rw [hzero, Nat.zero_mul, Nat.zero_mul, g.nearestCode_zero]
    exact ⟨hfinite, hsign, g.units_zero⟩
  · obtain ⟨hfinite, hunits⟩ := h.nearestCode_units hcode (Nat.pos_of_ne_zero hzero)
    exact ⟨hfinite, hsign, hunits⟩

/-- Conversion into a format that has all numbers of the former one changes no number. -/
theorem convert_sameValue (h : f.Within g) (x : Floating f) : x.SameValue (x.convert g) := by
  rcases Nat.lt_trichotomy x.code f.infinityCode with hcode | hcode | hcode
  · obtain ⟨hfinite, hsign, hunits⟩ := convert_finite h hcode
    exact .finite (decide_eq_true hcode) (decide_eq_true hfinite) hsign.symm
      (value_eq_of_units hsign.symm h.unit hunits)
  · rw [convert_of_infinite hcode]
    exact .infinite (decide_eq_true hcode) (decide_eq_true rfl) rfl
  · exact .nan (decide_eq_true hcode) (isNaN_convert h.quiet hcode)

end Floating
end WasmHost
