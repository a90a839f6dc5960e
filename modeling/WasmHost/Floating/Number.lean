import WasmHost.Floating.Format
/-!
Floating-point numbers of a given format, with exact conversions and correctly rounded arithmetic.

Every operation decodes its operands into whole numbers of units, computes exactly and rounds once,
to nearest with ties to even. A result that is not a number is the quiet NaN of the format.
-/
namespace WasmHost

/-- A number of a binary interchange format: a sign and a magnitude code. -/
structure Floating (f : FloatFormat) where
  negative : Bool
  code : Nat
  code_lt : code < f.codeCount
  deriving DecidableEq

/-- The numbers of the host: binary64. -/
abbrev Double := Floating .double

namespace Floating

variable {f : FloatFormat}

/-- The number with these bits, the sign highest; bits beyond the width are dropped. -/
def ofBits (f : FloatFormat) (bits : Nat) : Floating f :=
  ⟨bits / f.codeCount % 2 = 1, bits % f.codeCount, Nat.mod_lt _ (Nat.two_pow_pos _)⟩

def toBits (x : Floating f) : Nat := (if x.negative then f.codeCount else 0) + x.code

/-- The number with a given sign and a magnitude nearest to a quotient of units. -/
def nearest (f : FloatFormat) (negative : Bool) (numerator denominator : Nat) : Floating f :=
  ⟨negative, f.nearestCode numerator denominator,
    Nat.lt_of_le_of_lt (f.nearestCode_le_infinityCode _ _) f.infinityCode_lt_codeCount⟩

def infinity (f : FloatFormat) (negative : Bool) : Floating f :=
  ⟨negative, f.infinityCode, f.infinityCode_lt_codeCount⟩

def nan (f : FloatFormat) : Floating f := ofBits f f.quietCode

def zero (f : FloatFormat) (negative : Bool) : Floating f := ⟨negative, 0, Nat.two_pow_pos _⟩

def isNaN (x : Floating f) : Bool := f.infinityCode < x.code

def isInfinite (x : Floating f) : Bool := x.code = f.infinityCode

def isFinite (x : Floating f) : Bool := x.code < f.infinityCode

def isZero (x : Floating f) : Bool := x.code = 0

/-- The value of a finite number in units of its format. -/
def signedUnits (x : Floating f) : Int :=
  if x.negative then -(f.units x.code : Int) else f.units x.code

/-- The number nearest to a quotient of units; an exact zero takes the given sign. -/
def ofUnits (f : FloatFormat) (n : Int) (denominator : Nat) (zeroSign : Bool) : Floating f :=
  if n = 0 then zero f zeroSign else nearest f (n < 0) n.natAbs denominator

/-- The number nearest to an integer, infinity when it lies past the finite numbers. -/
def ofInt (f : FloatFormat) (n : Int) : Floating f := ofUnits f (n * 2 ^ f.unitExponent) 1 false

/-- The number nearest to an integer, if that is finite. -/
def ofInt? (f : FloatFormat) (n : Int) : Option (Floating f) :=
  let x := ofInt f n
  if x.isFinite then some x else none

/-- The integer part of a finite number. -/
def truncate (x : Floating f) : Int := x.signedUnits.tdiv (2 ^ f.unitExponent)

/-- The number of another format nearest to this one; NaN stays NaN and infinity infinity. -/
def convert (g : FloatFormat) (x : Floating f) : Floating g :=
  if x.isNaN then { nan g with negative := x.negative }
  else if x.isInfinite then infinity g x.negative
  else ofUnits g (x.signedUnits * 2 ^ g.unitExponent) (2 ^ f.unitExponent) x.negative

def toDouble (x : Floating f) : Double := x.convert .double

/-- Equality of values: NaN differs from everything, the two zeros agree. -/
def equalValue (x y : Floating f) : Bool :=
  !x.isNaN && !y.isNaN && (x.code = 0 && y.code = 0 || x = y)

/-- Whether a number is finite and has exactly the value of an integer. -/
def equalInt (x : Floating f) (n : Int) : Bool :=
  x.isFinite && x.signedUnits = n * 2 ^ f.unitExponent

/-- Whether a finite number has no fractional part. -/
def isWhole (x : Floating f) : Bool := x.isFinite && x.signedUnits % 2 ^ f.unitExponent = 0

def neg (x : Floating f) : Floating f := { x with negative := !x.negative }

def add (x y : Floating f) : Floating f :=
  if x.isNaN || y.isNaN then nan f
  else if x.isInfinite then
    if y.isInfinite && x.negative != y.negative then nan f else x
  else if y.isInfinite then y
  else ofUnits f (x.signedUnits + y.signedUnits) 1 (x.negative && y.negative)

def sub (x y : Floating f) : Floating f := x.add y.neg

def mul (x y : Floating f) : Floating f :=
  let negative := x.negative != y.negative
  if x.isNaN || y.isNaN then nan f
  else if x.isInfinite || y.isInfinite then
    if x.isZero || y.isZero then nan f else infinity f negative
  else nearest f negative (f.units x.code * f.units y.code) (2 ^ f.unitExponent)

def div (x y : Floating f) : Floating f :=
  let negative := x.negative != y.negative
  if x.isNaN || y.isNaN then nan f
  else if x.isInfinite then if y.isInfinite then nan f else infinity f negative
  else if y.isInfinite then zero f negative
  else if y.isZero then if x.isZero then nan f else infinity f negative
  else nearest f negative (f.units x.code * 2 ^ f.unitExponent) (f.units y.code)

theorem ofBits_toBits (x : Floating f) : ofBits f x.toBits = x := by
  obtain ⟨s, c, h⟩ := x
  have hp : 0 < f.codeCount := Nat.two_pow_pos _
  cases s
  · simp [ofBits, toBits, Nat.div_eq_of_lt h, Nat.mod_eq_of_lt h]
  · simp [ofBits, toBits, Nat.add_div_left, hp, Nat.div_eq_of_lt h, Nat.mod_eq_of_lt h]

end Floating
end WasmHost
