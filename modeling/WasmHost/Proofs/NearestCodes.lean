import Mathlib.Tactic.Ring
import WasmHost.Floating.Format
/-!
Codes and the magnitudes nearest to them.

A code is a significand and a scale put together, and its magnitude is the significand times a power
of two. What is nearest to a quotient depends on its value alone, and a finite code is the one
nearest to its own magnitude: so a magnitude that has a code is given this code by rounding, however
it is written as a quotient.
-/
namespace WasmHost
namespace FloatFormat

variable {f : FloatFormat} {code magnitude significand scale n d : Nat}

-- The exponent and fraction fields of a significand and a power of two, put together, denote their
-- product.
theorem units_of_significand (hs : significand < 2 ^ (f.fractionWidth + 1))
    (hnormal : scale = 0 ∨ 2 ^ f.fractionWidth ≤ significand) :
    f.units (scale * 2 ^ f.fractionWidth + significand) = significand * 2 ^ scale := by
  have hp : 0 < 2 ^ f.fractionWidth := Nat.two_pow_pos _
  rw [Nat.pow_succ] at hs
  by_cases hsmall : significand < 2 ^ f.fractionWidth
  -- a subnormal number: the exponent field is empty
  · obtain rfl : scale = 0 := hnormal.resolve_right (by omega)
    have hexponent : significand / 2 ^ f.fractionWidth = 0 := Nat.div_eq_of_lt hsmall
    simp only [units, Nat.zero_mul, Nat.zero_add, hexponent, if_true, Nat.pow_zero, Nat.mul_one]
    exact Nat.mod_eq_of_lt hsmall
  -- a normal number: the leading bit of the significand adds one to the exponent field
  · obtain ⟨rest, rfl⟩ := Nat.exists_eq_add_of_le (Nat.le_of_not_lt hsmall)
    have hrest : rest < 2 ^ f.fractionWidth := by omega
    have hcode : scale * 2 ^ f.fractionWidth + (2 ^ f.fractionWidth + rest) =
        rest + 2 ^ f.fractionWidth * (scale + 1) := by ring
    have hexponent : (rest + 2 ^ f.fractionWidth * (scale + 1)) / 2 ^ f.fractionWidth =
        scale + 1 := by
      rw [Nat.add_mul_div_left _ _ hp, Nat.div_eq_of_lt hrest, Nat.zero_add]
    have hfraction : (rest + 2 ^ f.fractionWidth * (scale + 1)) % 2 ^ f.fractionWidth = rest := by
      rw [Nat.add_mul_mod_self_left, Nat.mod_eq_of_lt hrest]
    rw [hcode, units, hexponent, hfraction]
    exact if_neg (Nat.succ_ne_zero scale)

/-- A code is a significand and a scale put together; only at scale zero may the leading bit of the
significand be missing. -/
theorem exists_significand (f : FloatFormat) (code : Nat) :
    ∃ significand scale, code = scale * 2 ^ f.fractionWidth + significand ∧
      significand < 2 ^ (f.fractionWidth + 1) ∧
      (scale = 0 ∨ 2 ^ f.fractionWidth ≤ significand) := by
  -- a code without an exponent field is a significand at scale zero
  have hp : 0 < 2 ^ f.fractionWidth := Nat.two_pow_pos _
  have hfraction : code % 2 ^ f.fractionWidth < 2 ^ f.fractionWidth := Nat.mod_lt _ hp
  have hsplit :
      code / 2 ^ f.fractionWidth * 2 ^ f.fractionWidth + code % 2 ^ f.fractionWidth = code :=
    Nat.div_add_mod' _ _
  rw [Nat.pow_succ]
  cases hexponent : code / 2 ^ f.fractionWidth with
  | zero =>
    rw [hexponent] at hsplit
    exact ⟨code, 0, by omega, by omega, Or.inl rfl⟩
  | succ scale =>
    rw [hexponent, Nat.succ_mul] at hsplit
    exact ⟨2 ^ f.fractionWidth + code % 2 ^ f.fractionWidth, scale, by omega, by omega,
      Or.inr (by omega)⟩

theorem units_eq_significand (hcode : code < f.infinityCode) :
    ∃ significand scale, f.units code = significand * 2 ^ scale ∧
      significand < 2 ^ (f.fractionWidth + 1) ∧ scale + 1 < 2 ^ f.exponentWidth := by
  obtain ⟨significand, scale, rfl, hs, hnormal⟩ := exists_significand f code
  refine ⟨significand, scale, units_of_significand hs hnormal, hs, ?_⟩
  have hscale : scale < 2 ^ f.exponentWidth - 1 := by
    refine Nat.lt_of_mul_lt_mul_right (a := 2 ^ f.fractionWidth) ?_
    exact (Nat.le_add_right _ significand).trans_lt hcode
  omega

theorem units_pos (hpos : 0 < code) : 0 < f.units code := by
  obtain ⟨significand, scale, rfl, hs, hnormal⟩ := exists_significand f code
  rw [units_of_significand hs hnormal]
  refine Nat.mul_pos ?_ (Nat.two_pow_pos _)
  rcases hnormal with rfl | hnormal
  · omega
  · exact (Nat.two_pow_pos _).trans_le hnormal

theorem units_zero (f : FloatFormat) : f.units 0 = 0 := by
  simp only [units, Nat.zero_div, Nat.zero_mod, if_true]

theorem nearestCode_zero (f : FloatFormat) (d : Nat) : f.nearestCode 0 d = 0 := by
  have hround (k : Nat) : roundQuotient 0 k = 0 := by
    simp only [roundQuotient, Nat.zero_div, Nat.zero_mod, Nat.mul_zero, Nat.not_lt_zero, if_false,
      Nat.zero_add, ite_self]
  simp only [nearestCode, Nat.zero_div, Nat.log2_zero, Nat.zero_sub, Nat.zero_mul, Nat.zero_add,
    hround, Nat.zero_min]

theorem roundQuotient_mul_right (n d : Nat) {k : Nat} (hk : 0 < k) :
    roundQuotient (n * k) (d * k) = roundQuotient n d := by
  have hlt (a b : Nat) : 2 * (a * k) < b * k ↔ 2 * a < b := by
    rw [← Nat.mul_assoc]
    exact Nat.mul_lt_mul_right hk
  have hgt (a b : Nat) : b * k < 2 * (a * k) ↔ b < 2 * a := by
    rw [← Nat.mul_assoc]
    exact Nat.mul_lt_mul_right hk
  simp only [roundQuotient, Nat.mul_div_mul_right _ _ hk, Nat.mul_mod_mul_right, hlt, hgt]

theorem nearestCode_mul_right (f : FloatFormat) (n d : Nat) {k : Nat} (hk : 0 < k) :
    f.nearestCode (n * k) (d * k) = f.nearestCode n d := by
  have hscaled (scale : Nat) : d * k * 2 ^ scale = d * 2 ^ scale * k := by ring
  simp only [nearestCode, Nat.mul_div_mul_right _ _ hk, hscaled, roundQuotient_mul_right _ _ hk]

theorem nearestCode_congr {n' d' : Nat} (hd : 0 < d) (hd' : 0 < d') (h : n * d' = n' * d) :
    f.nearestCode n d = f.nearestCode n' d' := by
  calc f.nearestCode n d
      = f.nearestCode (n * d') (d * d') := (f.nearestCode_mul_right n d hd').symm
    _ = f.nearestCode (n' * d) (d' * d) := by rw [h, Nat.mul_comm d d']
    _ = f.nearestCode n' d' := f.nearestCode_mul_right n' d' hd

theorem nearestCode_self (hcode : code ≤ f.infinityCode) :
    f.nearestCode (f.units code) 1 = code := by
  obtain ⟨significand, scale, rfl, hs, hnormal⟩ := exists_significand f code
  rw [units_of_significand hs hnormal]
  -- rounding finds the scale again, since the leading bit of the significand stands where it should
  have hscale : (significand * 2 ^ scale).log2 - f.fractionWidth = scale := by
    rcases hnormal with rfl | hnormal
    · rw [Nat.pow_zero, Nat.mul_one]
      by_cases hzero : significand = 0
      · rw [hzero, Nat.log2_zero, Nat.zero_sub]
      · have := (Nat.log2_lt hzero).mpr hs
        omega
    · have hp : 0 < 2 ^ scale := Nat.two_pow_pos scale
      have hpos : 0 < significand := (Nat.two_pow_pos _).trans_le hnormal
      have hlog : (significand * 2 ^ scale).log2 = f.fractionWidth + scale := by
        refine (Nat.log2_eq_iff (Nat.mul_pos hpos hp).ne').mpr ⟨?_, ?_⟩
        · rw [Nat.pow_add]
          exact Nat.mul_le_mul_right _ hnormal
        · rw [Nat.add_right_comm, Nat.pow_add]
          exact Nat.mul_lt_mul_of_pos_right hs hp
      omega
  have hround : roundQuotient (significand * 2 ^ scale) (2 ^ scale) = significand :=
    roundQuotient_mul significand (Nat.two_pow_pos _)
  rw [nearestCode, Nat.div_one, hscale, Nat.one_mul, hround]
  exact Nat.min_eq_left hcode

-- A magnitude with a significand that fits and an exponent in range has a code.
theorem exists_units_eq (hm : magnitude = significand * 2 ^ scale) (hpos : 0 < magnitude)
    (hs : significand < 2 ^ (f.fractionWidth + 1)) (normal : 1 < f.exponentWidth)
    (hrange : magnitude.log2 + 2 < f.fractionWidth + 2 ^ f.exponentWidth) :
    ∃ code < f.infinityCode, f.units code = magnitude := by
  have hlow : 2 ^ magnitude.log2 ≤ magnitude := Nat.log2_self_le (by omega)
  have hhigh : magnitude < 2 ^ (magnitude.log2 + 1) := Nat.lt_log2_self
  -- the scale that puts the leading bit in its place is at most the given one, so it divides too
  have hscale : magnitude.log2 - f.fractionWidth ≤ scale := by
    have hlt : magnitude < 2 ^ (f.fractionWidth + 1 + scale) := by
      rw [hm, Nat.pow_add]
      exact Nat.mul_lt_mul_of_pos_right hs (Nat.two_pow_pos _)
    have hlog := (Nat.pow_lt_pow_iff_right (by decide : 1 < 2)).mp (hlow.trans_lt hlt)
    omega
  generalize hk : magnitude.log2 - f.fractionWidth = k at hscale
  obtain ⟨quotient, hquotient⟩ : ∃ quotient, magnitude = quotient * 2 ^ k := by
    refine ⟨significand * 2 ^ (scale - k), ?_⟩
    rw [Nat.mul_assoc, ← Nat.pow_add, Nat.sub_add_cancel hscale]
    exact hm
  -- the leading bit of the quotient is in its place, or the scale is zero
  have hfits : quotient < 2 ^ (f.fractionWidth + 1) := by
    refine Nat.lt_of_mul_lt_mul_right (a := 2 ^ k) ?_
    rw [← hquotient, ← Nat.pow_add]
    exact hhigh.trans_le (Nat.pow_le_pow_right (by decide) (by omega))
  have hnormal : k = 0 ∨ 2 ^ f.fractionWidth ≤ quotient := by
    by_cases hzero : k = 0
    · exact Or.inl hzero
    · refine Or.inr (Nat.le_of_mul_le_mul_right ?_ (Nat.two_pow_pos k))
      rw [← hquotient, ← Nat.pow_add]
      exact (Nat.pow_le_pow_right (by decide) (by omega)).trans hlow
  have hexponents : k + 2 ≤ 2 ^ f.exponentWidth - 1 := by
    have hfour : 2 ^ 2 ≤ 2 ^ f.exponentWidth := Nat.pow_le_pow_right (by decide) normal
    omega
  refine ⟨k * 2 ^ f.fractionWidth + quotient, ?_, ?_⟩
  · calc k * 2 ^ f.fractionWidth + quotient
        < k * 2 ^ f.fractionWidth + 2 ^ (f.fractionWidth + 1) := Nat.add_lt_add_left hfits _
      _ = (k + 2) * 2 ^ f.fractionWidth := by ring
      _ ≤ f.infinityCode := Nat.mul_le_mul_right _ hexponents
  · exact (units_of_significand hfits hnormal).trans hquotient.symm

-- A magnitude that has a finite code is rounded to a code of this magnitude.
theorem nearestCode_exact (hd : 0 < d) (hm : magnitude = significand * 2 ^ scale)
    (hpos : 0 < magnitude) (hs : significand < 2 ^ (f.fractionWidth + 1))
    (normal : 1 < f.exponentWidth)
    (hrange : magnitude.log2 + 2 < f.fractionWidth + 2 ^ f.exponentWidth) :
    f.nearestCode (magnitude * d) d < f.infinityCode ∧
      f.units (f.nearestCode (magnitude * d) d) = magnitude := by
  obtain ⟨code, hfinite, hunits⟩ := exists_units_eq hm hpos hs normal hrange
  have hcode : f.nearestCode (magnitude * d) d = code := by
    calc f.nearestCode (magnitude * d) d
        = f.nearestCode magnitude 1 := nearestCode_congr hd Nat.one_pos (Nat.mul_one _)
      _ = code := by rw [← hunits, nearestCode_self hfinite.le]
  rw [hcode]
  exact ⟨hfinite, hunits⟩

end FloatFormat
end WasmHost
