import WasmHost.Floating.Number
/-!
Decimal numerals and the floating-point number nearest to one.

A numeral is a coefficient and a power of ten. Its value is compared with the units of a format as
an exact quotient; only numerals far outside the range of the format are decided by the position of
their leading digit, so that no power of ten grows past what the format needs.
-/
namespace WasmHost

/-- The number `coefficient * 10 ^ exponent`. -/
structure Decimal where
  coefficient : Nat
  exponent : Int
  deriving DecidableEq, Repr

namespace Decimal

/-- The decimal digits of a natural number; zero has one. -/
def digits (n : Nat) : List Char := Nat.toDigits 10 n

def digitCount (n : Nat) : Nat := (digits n).length

def numerator (d : Decimal) : Nat := d.coefficient * 10 ^ d.exponent.toNat

def denominator (d : Decimal) : Nat := 10 ^ (-d.exponent).toNat

/-- The number of digits before the point in positional writing; not above zero for a numeral
below one tenth. -/
def position (d : Decimal) : Int := digitCount d.coefficient + d.exponent

/-- The code of the magnitude nearest to a numeral. Below `10 ^ -k`, where `2 ^ -k` is the unit,
the nearest magnitude is zero; from ten to the bias of the format on it is infinity. -/
def nearestCode (f : FloatFormat) (d : Decimal) : Nat :=
  if d.coefficient = 0 ∨ d.position < -(f.unitExponent : Int) then 0
  else if (2 ^ (f.exponentWidth - 1) : Int) < d.position then f.infinityCode
  else f.nearestCode (d.numerator * 2 ^ f.unitExponent) d.denominator

theorem nearestCode_lt (f : FloatFormat) (d : Decimal) : d.nearestCode f < f.codeCount := by
  have h := f.infinityCode_lt_codeCount
  unfold nearestCode
  split
  · exact Nat.two_pow_pos _
  · split
    · exact h
    · exact Nat.lt_of_le_of_lt (f.nearestCode_le_infinityCode _ _) h

/-- The number nearest to a numeral with a sign. -/
def toFloating (f : FloatFormat) (negative : Bool) (d : Decimal) : Floating f :=
  ⟨negative, d.nearestCode f, d.nearestCode_lt f⟩

end Decimal
end WasmHost
