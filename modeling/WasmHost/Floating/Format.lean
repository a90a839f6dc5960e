import WasmHost.Word
/-!
Binary interchange formats and exact rounding into them.

A magnitude is stored as its *code*, the exponent and fraction fields read as one number. Codes run
through the finite magnitudes in increasing order, end in infinity, and go on with the NaNs. Every
finite magnitude is a whole number of *units*, the unit being the least positive one, so that
decoding and rounding are arithmetic on natural numbers.
-/
namespace WasmHost

/-- The field widths of a binary interchange format. -/
structure FloatFormat where
  exponentWidth : Nat
  fractionWidth : Nat
  deriving DecidableEq, Repr

namespace FloatFormat

def half : FloatFormat := ⟨5, 10⟩

def single : FloatFormat := ⟨8, 23⟩

def double : FloatFormat := ⟨11, 52⟩

/-- The format of ten bytes. What it stores besides these fields is the leading bit of the
significand, which the exponent field tells already. -/
def extended : FloatFormat := ⟨15, 63⟩

/-- Bits of a whole number in this format, the sign included. -/
def width (f : FloatFormat) : Nat := 1 + f.exponentWidth + f.fractionWidth

/-- One more than the largest magnitude code. -/
def codeCount (f : FloatFormat) : Nat := 2 ^ (f.exponentWidth + f.fractionWidth)

/-- The code of infinity: the largest exponent field with an empty fraction. -/
def infinityCode (f : FloatFormat) : Nat := (2 ^ f.exponentWidth - 1) * 2 ^ f.fractionWidth

/-- The code of the quiet NaN that arithmetic produces. -/
def quietCode (f : FloatFormat) : Nat := f.infinityCode + 2 ^ (f.fractionWidth - 1)

/-- The unit of the format is two to the power of minus this number. -/
def unitExponent (f : FloatFormat) : Nat := 2 ^ (f.exponentWidth - 1) - 2 + f.fractionWidth

/-- The magnitude of a code, in units. -/
def units (f : FloatFormat) (code : Nat) : Nat :=
  let exponent := code / 2 ^ f.fractionWidth
  let fraction := code % 2 ^ f.fractionWidth
  if exponent = 0 then fraction else (2 ^ f.fractionWidth + fraction) * 2 ^ (exponent - 1)

/-- The whole number nearest to a quotient; a half goes to the even neighbour. -/
def roundQuotient (numerator denominator : Nat) : Nat :=
  let quotient := numerator / denominator
  let remainder := numerator % denominator
  if 2 * remainder < denominator then quotient
  else if denominator < 2 * remainder then quotient + 1
  else quotient + quotient % 2

/-- The code of the magnitude nearest to a quotient of units, a tie going to the even code; what
lies past the finite magnitudes becomes infinity. -/
def nearestCode (f : FloatFormat) (numerator denominator : Nat) : Nat :=
  let scale := (numerator / denominator).log2 - f.fractionWidth
  let significand := roundQuotient numerator (denominator * 2 ^ scale)
  min (scale * 2 ^ f.fractionWidth + significand) f.infinityCode

theorem roundQuotient_mul (n : Nat) {d : Nat} (hd : 0 < d) : roundQuotient (n * d) d = n := by
  simp [roundQuotient, Nat.mul_div_cancel n hd, hd]

theorem nearestCode_le_infinityCode (f : FloatFormat) (n d : Nat) :
    f.nearestCode n d ≤ f.infinityCode := Nat.min_le_right _ _

/-- Infinity and the finite magnitudes leave room for NaN codes above them. -/
theorem infinityCode_lt_codeCount (f : FloatFormat) : f.infinityCode < f.codeCount := by
  have he : 0 < 2 ^ f.exponentWidth := Nat.two_pow_pos _
  have hf : 0 < 2 ^ f.fractionWidth := Nat.two_pow_pos _
  simp only [infinityCode, codeCount, Nat.pow_add]
  exact Nat.mul_lt_mul_of_pos_right (by omega) hf

end FloatFormat
end WasmHost
