import WasmHost.Decimal.Basic
/-!
The shortest decimal text that reads back as a given floating-point number.

For one, two, and more digits the two neighbours of the exact value on that decimal grid are read
back. The first grid with a neighbour that gives the same number wins; of two such neighbours the
nearer is taken, and the even one of two equally near. Numerals on a given grid are found the same
way.
-/
namespace WasmHost
namespace Decimal

/-- The `p` with `10 ^ (p - 1) ≤ n / d < 10 ^ p`, for a positive quotient. -/
def leadingPosition (n d : Nat) : Int :=
  if d ≤ n then digitCount (n / d)
  else
    let k := digitCount (d / n)
    if d = n * 10 ^ (k - 1) then 2 - k else 1 - k

/-- The two neighbours of `n / d` among the multiples of `10 ^ exponent`, the nearer one first and
the even one of two equally near. -/
def neighbours (n d : Nat) (exponent : Int) : Decimal × Decimal :=
  let scaled := n * 10 ^ (-exponent).toNat
  let step := d * 10 ^ exponent.toNat
  let below : Decimal := ⟨scaled / step, exponent⟩
  let above : Decimal := ⟨scaled / step + 1, exponent⟩
  let rest := scaled % step
  -- half a step is the tie, and then the even multiple is nearer
  if 2 * rest < step || 2 * rest = step && scaled / step % 2 = 0 then (below, above)
  else (above, below)

/-- The better of the two neighbours of `n / d` among the multiples of `10 ^ exponent`, among those
that read back as a given code. -/
def neighbour? (f : FloatFormat) (code n d : Nat) (exponent : Int) : Option Decimal :=
  let (nearer, farther) := neighbours n d exponent
  if nearer.nearestCode f = code then some nearer
  else if farther.nearestCode f = code then some farther
  else none

/-- Digits that tell any two numbers of a format apart. -/
def sufficientDigits (f : FloatFormat) : Nat := (f.fractionWidth + 1) * 30103 / 100000 + 2

/-- The value of a code written out in full. -/
def exact (f : FloatFormat) (code : Nat) : Decimal :=
  ⟨f.units code * 5 ^ f.unitExponent, -(f.unitExponent : Int)⟩

/-- The value of a code as a quotient. -/
def quotient (f : FloatFormat) (code : Nat) : Nat × Nat := (f.units code, 2 ^ f.unitExponent)

/-- The position of the point behind the leading digit of the value of a positive finite code. -/
def positionOf (f : FloatFormat) (code : Nat) : Int :=
  leadingPosition (quotient f code).1 (quotient f code).2

/-- The numeral of a positive finite code on one decimal grid: one that reads back if there is one,
else the nearest. -/
def onGrid (f : FloatFormat) (code : Nat) (exponent : Int) : Decimal :=
  let (n, d) := quotient f code
  (neighbour? f code n d exponent).getD (neighbours n d exponent).1

/-- The shortest numeral that reads back as a positive finite code. -/
def shortest (f : FloatFormat) (code : Nat) : Decimal :=
  let (n, d) := quotient f code
  let grids := (List.range (sufficientDigits f)).map fun i => positionOf f code - (i + 1 : Nat)
  (grids.findSome? (neighbour? f code n d)).getD (exact f code)

/-- The numeral of a positive finite code, as short as it can be and without digits below
`10 ^ exponent`. -/
def shortestAbove (f : FloatFormat) (code : Nat) (exponent : Int) : Decimal :=
  let d := shortest f code
  if exponent ≤ d.exponent then d else onGrid f code exponent

/-- A text of digits with its trailing zeros removed. -/
def trimZeros (ds : List Char) : List Char := (ds.reverse.dropWhile (· = '0')).reverse

/-- The digits of a numeral that count. -/
def significantDigits (d : Decimal) : List Char := trimZeros (digits d.coefficient)

/-- The digits before the point, at least one. -/
def wholeDigits (ds : List Char) (position : Int) : List Char :=
  if position ≤ 0 then ['0']
  else ds.take position.toNat ++ List.replicate (position.toNat - ds.length) '0'

/-- The digits behind the point. -/
def fractionDigits (ds : List Char) (position : Int) : List Char :=
  if position ≤ 0 then List.replicate (-position).toNat '0' ++ ds else ds.drop position.toNat

/-- An exponent with a sign and a least number of digits. -/
def exponentText (least : Nat) (exponent : Int) : List Char :=
  let size := digits exponent.natAbs
  ['e', if exponent < 0 then '-' else '+'] ++ List.replicate (least - size.length) '0' ++ size

/-- A positional numeral has a digit on both sides of the point. -/
def positionalText (d : Decimal) : List Char :=
  let ds := d.significantDigits
  let fraction := fractionDigits ds d.position
  wholeDigits ds d.position ++ '.' :: if fraction.isEmpty then ['0'] else fraction

/-- A numeral with an exponent has one digit before the point, and no point without a fraction. -/
def scientificText (d : Decimal) : List Char :=
  let ds := d.significantDigits
  ds.take 1 ++ (if ds.length ≤ 1 then [] else '.' :: ds.drop 1) ++ exponentText 2 (d.position - 1)

end Decimal

namespace Floating

variable {f : FloatFormat}

/-- Positional writing ends where the integers of a format get wider than the digits that the
format can be trusted with; doubles have one digit more. -/
def positionalLimit (f : FloatFormat) : Nat :=
  if f = .half then 3 else if f = .single then 6 else 16

/-- Whether the numeral of a positive finite code is written positionally: from one ten-thousandth
on up to the limit of the format. -/
def isPositional (f : FloatFormat) (code : Nat) (d : Decimal) : Bool :=
  2 ^ f.unitExponent ≤ f.units code * 10000 && d.position ≤ positionalLimit f

/-- The magnitude of a number as text. -/
def magnitudeText (x : Floating f) : List Char :=
  if x.isInfinite then ['i', 'n', 'f']
  else if x.isZero then ['0', '.', '0']
  else
    let d := Decimal.shortest f x.code
    if isPositional f x.code d then d.positionalText else d.scientificText

/-- The shortest text that reads back as this number; NaN is written without a sign. -/
def text (x : Floating f) : String :=
  if x.isNaN then "nan"
  else String.ofList (if x.negative then '-' :: x.magnitudeText else x.magnitudeText)

end Floating
end WasmHost
