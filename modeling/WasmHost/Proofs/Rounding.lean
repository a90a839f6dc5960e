import Mathlib.Algebra.Order.Ring.Rat
import Mathlib.Tactic.Positivity
import WasmHost.Proofs.Widening
/-!
Conversion rounds to nearest.

Magnitudes grow with their codes, and where a code is found for a quotient, all larger codes and all
codes of the same scale denote multiples of one power of two. The quotient is rounded to a multiple
of it, and whatever is smaller lies further away. A conversion is such a rounding, with infinity
standing for the magnitude that would come next.
-/
namespace WasmHost

namespace FloatFormat

variable {f : FloatFormat} {code significand scale n d : Nat}

-- A significand may be rounded up to the next power of two: then it takes the next scale.
theorem units_of_rounded (hs : significand ≤ 2 ^ (f.fractionWidth + 1))
    (hnormal : scale = 0 ∨ 2 ^ f.fractionWidth ≤ significand) :
    f.units (scale * 2 ^ f.fractionWidth + significand) = significand * 2 ^ scale := by
  rcases hs.lt_or_eq with hlt | rfl
  · exact units_of_significand hlt hnormal
  · have hcode : scale * 2 ^ f.fractionWidth + 2 ^ (f.fractionWidth + 1) =
        (scale + 1) * 2 ^ f.fractionWidth + 2 ^ f.fractionWidth := by ring
    have hfits : 2 ^ f.fractionWidth < 2 ^ (f.fractionWidth + 1) :=
      Nat.pow_lt_pow_right (by decide) (Nat.lt_succ_self _)
    rw [hcode, units_of_significand hfits (.inr le_rfl)]
    ring

theorem units_strictMono (f : FloatFormat) : StrictMono f.units := by
  refine strictMono_nat_of_lt_succ fun code => ?_
  obtain ⟨significand, scale, rfl, hs, hnormal⟩ := exists_significand f code
  rw [units_of_significand hs hnormal, Nat.add_assoc,
    units_of_rounded hs (hnormal.imp_right Nat.le_succ_of_le)]
  exact Nat.mul_lt_mul_of_pos_right (Nat.lt_succ_self _) (Nat.two_pow_pos _)

/-- No multiple of the denominator is nearer to the numerator than the rounded quotient. -/
theorem roundQuotient_nearest (n d k : Nat) :
    ((n : Int) - roundQuotient n d * d).natAbs ≤ ((n : Int) - k * d).natAbs := by
  have hn : n = n / d * d + n % d := (Nat.div_add_mod' n d).symm
  rcases Nat.eq_zero_or_pos d with rfl | hd
  · simp only [Nat.cast_zero, mul_zero, le_refl]
  have hr : n % d < d := Nat.mod_lt _ hd
  have hup : (n / d + 1) * d = n / d * d + d := Nat.succ_mul _ _
  -- the quotient and its successor enclose the numerator, and all others lie outside
  have houtside : k * d ≤ n / d * d ∨ n / d * d + d ≤ k * d := by
    rcases Nat.lt_or_ge (n / d) k with hk | hk
    · exact .inr (hup ▸ Nat.mul_le_mul_right d hk)
    · exact .inl (Nat.mul_le_mul_right d hk)
  have hrounded : roundQuotient n d * d = n / d * d ∧ 2 * (n % d) ≤ d ∨
      roundQuotient n d * d = n / d * d + d ∧ d ≤ 2 * (n % d) := by
    unfold roundQuotient
    dsimp only
    split
    · exact .inl ⟨rfl, by omega⟩
    · split
      · exact .inr ⟨hup, by omega⟩
      · rcases Nat.mod_two_eq_zero_or_one (n / d) with he | he
        · rw [he]
          exact .inl ⟨rfl, by omega⟩
        · rw [he]
          exact .inr ⟨hup, by omega⟩
  rw [← Nat.cast_mul, ← Nat.cast_mul]
  omega

-- The bounded code found for a quotient comes from a code that denotes the multiple of a power of
-- two nearest to the quotient, where no smaller power of two would leave room for the significand.
theorem exists_rounded (f : FloatFormat) (n : Nat) (hd : 0 < d) :
    ∃ scale significand, significand = roundQuotient n (d * 2 ^ scale) ∧
      f.nearestCode n d = min (scale * 2 ^ f.fractionWidth + significand) f.infinityCode ∧
      f.units (scale * 2 ^ f.fractionWidth + significand) = significand * 2 ^ scale ∧
      (scale = 0 ∨ 2 ^ f.fractionWidth * (d * 2 ^ scale) ≤ n) := by
  -- the scale is the one at which the quotient has just as many bits as fit
  refine ⟨(n / d).log2 - f.fractionWidth, _, rfl, rfl, ?_⟩
  generalize hscale : (n / d).log2 - f.fractionWidth = scale
  have hd' : 0 < d * 2 ^ scale := Nat.mul_pos hd (Nat.two_pow_pos _)
  have hround : n / (d * 2 ^ scale) ≤ roundQuotient n (d * 2 ^ scale) ∧
      roundQuotient n (d * 2 ^ scale) ≤ n / (d * 2 ^ scale) + 1 := by
    unfold roundQuotient
    dsimp only
    split
    · omega
    · split <;> omega
  have hlow : scale = 0 ∨ 2 ^ f.fractionWidth ≤ n / (d * 2 ^ scale) := by
    rcases Nat.eq_zero_or_pos scale with hzero | hpos
    · exact .inl hzero
    · have hlog : (n / d).log2 = f.fractionWidth + scale := by omega
      have hne : n / d ≠ 0 := by
        intro h
        rw [h, Nat.log2_zero] at hlog
        omega
      refine .inr ?_
      rw [← Nat.div_div_eq_div_mul, Nat.le_div_iff_mul_le (Nat.two_pow_pos _), ← Nat.pow_add,
        ← hlog]
      exact Nat.log2_self_le hne
  have hhigh : n / (d * 2 ^ scale) < 2 ^ (f.fractionWidth + 1) := by
    rw [← Nat.div_div_eq_div_mul, Nat.div_lt_iff_lt_mul (Nat.two_pow_pos _), ← Nat.pow_add]
    exact Nat.lt_log2_self.trans_le (Nat.pow_le_pow_right (by decide) (by omega))
  refine ⟨units_of_rounded (by omega) (hlow.imp_right fun h => h.trans hround.1), ?_⟩
  exact hlow.imp_right (Nat.le_div_iff_mul_le hd').mp

-- A magnitude is a multiple of a power of two, or smaller than all whose significand needs this
-- power.
theorem units_multiple (f : FloatFormat) (code scale : Nat) :
    (∃ k, f.units code = k * 2 ^ scale) ∨ f.units code < 2 ^ f.fractionWidth * 2 ^ scale := by
  obtain ⟨significand, scale', rfl, hs, hnormal⟩ := exists_significand f code
  rw [units_of_significand hs hnormal]
  rcases Nat.lt_or_ge scale' scale with hlt | hle
  · refine .inr ?_
    calc significand * 2 ^ scale'
        < 2 ^ (f.fractionWidth + 1) * 2 ^ scale' :=
          Nat.mul_lt_mul_of_pos_right hs (Nat.two_pow_pos _)
      _ = 2 ^ f.fractionWidth * 2 ^ (scale' + 1) := by ring
      _ ≤ 2 ^ f.fractionWidth * 2 ^ scale :=
          Nat.mul_le_mul_left _ (Nat.pow_le_pow_right (by decide) hlt)
  · refine .inl ⟨significand * 2 ^ (scale' - scale), ?_⟩
    rw [Nat.mul_assoc, ← Nat.pow_add, Nat.sub_add_cancel hle]

theorem nearestCode_nearest (n : Nat) (hd : 0 < d) (hcode : code ≤ f.infinityCode) :
    ((n : Int) - f.units (f.nearestCode n d) * d).natAbs ≤
      ((n : Int) - f.units code * d).natAbs := by
  obtain ⟨scale, significand, hsignificand, hnearest, hunits, hlow⟩ := f.exists_rounded n hd
  -- before it is bounded, the code is nearest among all
  have hfree (k : Nat) : ((n : Int) - (significand * 2 ^ scale * d : Nat)).natAbs ≤
      ((n : Int) - (k * 2 ^ scale * d : Nat)).natAbs := by
    have hmultiple (m : Nat) : m * 2 ^ scale * d = m * (d * 2 ^ scale) := by ring
    rw [hmultiple, hmultiple, hsignificand]
    exact_mod_cast roundQuotient_nearest n (d * 2 ^ scale) k
  have hunbounded : ((n : Int) - (significand * 2 ^ scale * d : Nat)).natAbs ≤
      ((n : Int) - (f.units code * d : Nat)).natAbs := by
    rcases f.units_multiple code scale with ⟨k, hk⟩ | hsmall
    · exact hk ▸ hfree k
    · rcases hlow with rfl | hlow
      · rw [← Nat.mul_one (f.units code)]
        exact hfree (f.units code)
      · have hbelow : f.units code * d ≤ 2 ^ f.fractionWidth * 2 ^ scale * d :=
          Nat.mul_le_mul_right d hsmall.le
        have hreach : 2 ^ f.fractionWidth * 2 ^ scale * d ≤ n := by
          refine le_of_eq_of_le ?_ hlow
          ring
        have hfirst := hfree (2 ^ f.fractionWidth)
        omega
  rw [← Nat.cast_mul, ← Nat.cast_mul, hnearest]
  rcases Nat.le_total (scale * 2 ^ f.fractionWidth + significand) f.infinityCode with hle | hge
  · rw [Nat.min_eq_left hle, hunits]
    exact hunbounded
  -- past infinity the bound lies between the quotient and the code, or the quotient past the bound
  · have hbound : f.units f.infinityCode * d ≤ significand * 2 ^ scale * d :=
      Nat.mul_le_mul_right d (hunits ▸ f.units_strictMono.monotone hge)
    have hfinite : f.units code * d ≤ f.units f.infinityCode * d :=
      Nat.mul_le_mul_right d (f.units_strictMono.monotone hcode)
    rw [Nat.min_eq_right hge]
    omega

end FloatFormat

namespace Floating

variable {f g : FloatFormat}

/-- A number is rounded to one of another format: NaN to NaN, an infinity to itself, and a finite
number to one of its sign to which no other is nearer. There infinity has the value that would
follow the largest finite one. -/
inductive RoundsTo (x : Floating f) (y : Floating g) : Prop where
  | nan (hx : x.isNaN = true) (hy : y.isNaN = true)
  | infinite (hx : x.isInfinite = true) (hy : y.isInfinite = true)
      (sign : x.negative = y.negative)
  | finite (hx : x.isFinite = true) (hy : y.isNaN = false) (sign : x.negative = y.negative)
      (nearest : ∀ z : Floating g, z.isNaN = false → |x.value - y.value| ≤ |x.value - z.value|)

theorem abs_value (x : Floating f) : |x.value| = f.units x.code / 2 ^ f.unitExponent := by
  have hunits : |(x.signedUnits : ℚ)| = f.units x.code := by
    rw [← natAbs_signedUnits, ← Int.cast_abs, Int.abs_eq_natAbs]
    rfl
  rw [value, abs_div, hunits, abs_of_pos (by positivity : (0 : ℚ) < 2 ^ f.unitExponent)]

-- How far numbers of one sign are apart, as a number of units of both formats.
theorem abs_value_sub {x : Floating f} {y : Floating g} (sign : x.negative = y.negative) :
    |x.value - y.value| =
      (((f.units x.code * 2 ^ g.unitExponent : Nat) : Int) -
        g.units y.code * (2 ^ f.unitExponent : Nat)).natAbs /
          (2 ^ f.unitExponent * 2 ^ g.unitExponent : ℚ) := by
  have hf : (0 : ℚ) < 2 ^ f.unitExponent := by positivity
  have hg : (0 : ℚ) < 2 ^ g.unitExponent := by positivity
  -- numbers of one sign are apart as their magnitudes are
  have hmagnitudes : |x.value - y.value| =
      |(f.units x.code / 2 ^ f.unitExponent - g.units y.code / 2 ^ g.unitExponent : ℚ)| := by
    simp only [value, signedUnits, sign]
    split
    · rw [← abs_neg]
      congr 1
      push_cast
      ring
    · rfl
  rw [hmagnitudes, div_sub_div _ _ hf.ne' hg.ne', abs_div, abs_of_pos (mul_pos hf hg)]
  congr 1
  rw [Nat.cast_natAbs, Int.cast_abs]
  push_cast
  rw [mul_comm (2 ^ f.unitExponent : ℚ)]

-- A finite number keeps its distance at least to all numbers of the other sign.
theorem abs_value_le_abs_sub {x : Floating f} {y : Floating g} (sign : x.negative ≠ y.negative) :
    |x.value| ≤ |x.value - y.value| := by
  have hx : (0 : ℚ) ≤ f.units x.code / 2 ^ f.unitExponent := by positivity
  have hy : (0 : ℚ) ≤ g.units y.code / 2 ^ g.unitExponent := by positivity
  simp only [value, signedUnits]
  -- of four combinations of signs two are left, and in them the distance is the sum
  cases hxs : x.negative <;> cases hys : y.negative
  · exact absurd (hxs.trans hys.symm) sign
  · simp only [Bool.false_eq_true, if_false, if_true, Int.cast_neg, Int.cast_natCast, neg_div,
      sub_neg_eq_add]
    rw [abs_of_nonneg hx, abs_of_nonneg (add_nonneg hx hy)]
    exact le_add_of_nonneg_right hy
  · simp only [Bool.false_eq_true, if_false, if_true, Int.cast_neg, Int.cast_natCast, neg_div]
    rw [abs_neg, abs_of_nonneg hx, ← neg_add', abs_neg, abs_of_nonneg (add_nonneg hx hy)]
    exact le_add_of_nonneg_right hy
  · exact absurd (hxs.trans hys.symm) sign

theorem value_zero (g : FloatFormat) (negative : Bool) : (zero g negative).value = 0 := by
  have h := abs_value (zero g negative)
  rw [show (zero g negative).code = 0 from rfl, g.units_zero, Nat.cast_zero, zero_div] at h
  exact abs_eq_zero.mp h

/-- Conversion rounds to nearest. -/
theorem convert_roundsTo (hquiet : 0 < g.fractionWidth) (x : Floating f) :
    x.RoundsTo (x.convert g) := by
  -- a number is finite, infinite or NaN, and each is converted in its own way
  rcases Nat.lt_trichotomy x.code f.infinityCode with hcode | hcode | hcode
  · obtain ⟨hsign, hnearest⟩ := convert_of_finite (g := g) hcode
    have hbounded : (x.convert g).code ≤ g.infinityCode :=
      hnearest ▸ g.nearestCode_le_infinityCode _ _
    -- among the numbers of one sign the code decides, and zero is one of them
    have hnear {z : Floating g} (hz : z.code ≤ g.infinityCode) (hzs : x.negative = z.negative) :
        |x.value - (x.convert g).value| ≤ |x.value - z.value| := by
      rw [abs_value_sub hsign.symm, abs_value_sub hzs, hnearest]
      refine div_le_div_of_nonneg_right ?_ (by positivity)
      exact_mod_cast FloatFormat.nearestCode_nearest _ (Nat.two_pow_pos _) hz
    refine .finite (decide_eq_true hcode) (decide_eq_false (by omega)) hsign.symm fun z hz => ?_
    have hz' : z.code ≤ g.infinityCode := Nat.le_of_not_lt (of_decide_eq_false hz)
    by_cases hzs : x.negative = z.negative
    · exact hnear hz' hzs
    · have hzero := hnear (z := zero g x.negative) (Nat.zero_le _) rfl
      rw [value_zero, sub_zero] at hzero
      exact hzero.trans (abs_value_le_abs_sub hzs)
  · rw [convert_of_infinite hcode]
    exact .infinite (decide_eq_true hcode) (decide_eq_true rfl) rfl
  · exact .nan (decide_eq_true hcode) (isNaN_convert hquiet hcode)

/-- A number that the other format has is rounded to itself. -/
theorem RoundsTo.sameValue {x : Floating f} {y z : Floating g} (h : x.RoundsTo y)
    (hz : x.SameValue z) : x.SameValue y := by
  cases h with
  | nan hx hy => exact .nan hx hy
  | infinite hx hy sign => exact .infinite hx hy sign
  | finite hx hy sign nearest =>
    have hfinite := of_decide_eq_true hx
    cases hz with
    | nan hx' _ => exact absurd (of_decide_eq_true hx') (by omega)
    | infinite hx' _ _ => exact absurd (of_decide_eq_true hx') (by omega)
    | finite _ hz' _ hvalue =>
      have hz'' := of_decide_eq_true hz'
      have hdistance := nearest z (decide_eq_false (by omega))
      rw [hvalue, sub_self, abs_zero, ← hvalue] at hdistance
      have hsame : x.value = y.value := sub_eq_zero.mp (abs_nonpos_iff.mp hdistance)
      -- equal values have equal codes, so the result is finite as the other number is
      have hcode : g.units y.code = g.units z.code := by
        have hequal := congrArg abs (hsame.symm.trans hvalue)
        rw [abs_value, abs_value] at hequal
        exact_mod_cast (div_left_inj' (by positivity)).mp hequal
      have hy' : y.code = z.code := g.units_strictMono.injective hcode
      exact .finite hx (decide_eq_true (by omega)) sign hsame

end Floating
end WasmHost
