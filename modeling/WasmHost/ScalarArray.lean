import WasmHost.Scalar
/-!
Arrays of scalars and their written form.

The items are written in columns of one width, on lines of a limited length. Floating-point items
share one style: positional, or with exponents when the numbers are large, small or far apart. A
long array shows only its ends.
-/
namespace WasmHost

/-- An array of scalars: a single item without an axis, or a row of items. -/
structure ScalarArray where
  type : ElementType
  hasAxis : Bool
  items : List Scalar
  deriving DecidableEq

namespace ScalarArray

/-- The most digits behind the point. -/
def fractionLimit : Nat := 8

/-- The digits before the point from which on numbers of a format are written with exponents. -/
def wholeLimit (f : FloatFormat) : Nat := min 8 (Floating.positionalLimit f)

section

variable {f : FloatFormat}

/-- Whether numbers are written with exponents: when the largest has too many digits before the
point, the smallest but zero is below one ten-thousandth, or it is less than a thousandth of the
largest. -/
def needsExponents (xs : List (Floating f)) : Bool :=
  -- zero and the numbers that are not finite do not count
  let codes := (xs.filter fun x => x.isFinite && !x.isZero).map (·.code)
  match codes.max?, codes.min? with
  | some greatest, some least =>
    let ratio := (Floating.ofBits f greatest).div (Floating.ofBits f least)
    10 ^ wholeLimit f * 2 ^ f.unitExponent ≤ f.units greatest ||
      least < Decimal.nearestCode f ⟨1, -4⟩ || (Floating.ofInt f 1000).code < ratio.code
  | _, _ => false

def signText (x : Floating f) : List Char := if x.negative then ['-'] else []

/-- The text of a number that is not finite. -/
def specialText (x : Floating f) : List Char :=
  if x.isNaN then ['n', 'a', 'n'] else signText x ++ ['i', 'n', 'f']

/-- The digits of a finite number up to its point, with the sign, and behind it. -/
def positionalParts (x : Floating f) : List Char × List Char :=
  let (ds, position) :=
    if x.isZero then ([], 0)
    else
      let d := Decimal.shortestAbove f x.code (-(fractionLimit : Int))
      (d.significantDigits, d.position)
  (signText x ++ Decimal.wholeDigits ds position, Decimal.fractionDigits ds position)

/-- Numbers in positional writing, the points one below the other. -/
def positionalTexts (xs : List (Floating f)) : List (List Char) :=
  let fractions := (xs.filter (·.isFinite)).map fun x => (positionalParts x).2.length
  let width := fractions.max?.getD 0
  xs.map fun x =>
    -- a number that is not finite is not lined up with the points
    if x.isFinite then
      let (whole, fraction) := positionalParts x
      whole ++ '.' :: fraction ++ List.replicate (width - fraction.length) ' '
    else specialText x

/-- A positive finite number on the grid with some digits behind its leading one. -/
def withFraction (x : Floating f) (count : Nat) : Decimal :=
  Decimal.onGrid f x.code (Decimal.positionOf f x.code - 1 - count)

/-- The digits behind the leading one that a finite number needs. -/
def fractionNeeded (x : Floating f) : Nat :=
  if x.isZero then 0
  else
    let lowest := Decimal.positionOf f x.code - 1 - fractionLimit
    (Decimal.shortestAbove f x.code lowest).significantDigits.length - 1

/-- The exponent of a finite number that shows some digits behind its leading one. -/
def exponentOf (x : Floating f) (count : Nat) : Int :=
  if x.isZero then 0 else (withFraction x count).position - 1

/-- Numbers in writing with exponents, with equally many digits in all fractions and exponents. -/
def scientificTexts (xs : List (Floating f)) : List (List Char) :=
  let finite := xs.filter (·.isFinite)
  let count := (finite.map fractionNeeded).max?.getD 0
  let sizes := finite.map fun x => (Decimal.digits (exponentOf x count).natAbs).length
  let least := max 2 (sizes.max?.getD 0)
  xs.map fun x =>
    if x.isFinite then
      let ds := if x.isZero then ['0'] else (withFraction x count).significantDigits
      -- a shorter fraction is filled up with zeros, so that all are of one length
      let fraction := ds.drop 1 ++ List.replicate (count + 1 - ds.length) '0'
      signText x ++ ds.take 1 ++ '.' :: fraction ++ Decimal.exponentText least (exponentOf x count)
    else specialText x

def floatTexts (xs : List (Floating f)) : List (List Char) :=
  if needsExponents xs then scientificTexts xs else positionalTexts xs

end

/-- Texts of one width, filled up with blanks in front. -/
def columns (texts : List (List Char)) : List String :=
  let width := (texts.map List.length).max?.getD 0
  texts.map fun cs => String.ofList (List.replicate (width - cs.length) ' ' ++ cs)

/-- The texts of items of one type; in a row a true value is as wide as a false one. -/
def itemTexts (type : ElementType) (hasAxis : Bool) (items : List Scalar) : List String :=
  columns (match type with
    | .truth => items.map fun s =>
      if s = .truth false then "False".toList else (if hasAxis then " True" else "True").toList
    | .integer _ => items.map fun
      | .integer _ n => (toString n).toList
      | _ => []
    | .float .half => floatTexts (items.filterMap fun | .half x => some x | _ => none)
    | .float .single => floatTexts (items.filterMap fun | .single x => some x | _ => none)
    | .float .double => floatTexts (items.filterMap fun | .double x => some x | _ => none)
    | .float .extended => floatTexts (items.filterMap fun | .extended x => some x | _ => none))

/-- The most characters of a line. -/
def lineLimit : Nat := 75

/-- The blanks before the items of a line. -/
def margin : Nat := "array([".length

/-- Texts after an item that ends at a column, separated by commas; a line is ended before an item
that would leave no room for the bracket and the parenthesis behind it. -/
def fill (column : Nat) : List String → String
  | [] => ""
  | s :: rest =>
    if lineLimit - 2 < column + 2 + s.length then
      ",\n" ++ String.ofList (List.replicate margin ' ') ++ s ++ fill (margin + s.length) rest
    else ", " ++ s ++ fill (column + 2 + s.length) rest

/-- Texts on lines. -/
def lines : List String → String
  | [] => ""
  | s :: rest => s ++ fill (margin + s.length) rest

/-- The most items that are all shown. -/
def sizeLimit : Nat := 1000

/-- The items that a longer array shows at each end. -/
def edge : Nat := 3

/-- The texts that a row shows. -/
def shownTexts (a : ScalarArray) : List String :=
  if a.items.length ≤ sizeLimit then itemTexts a.type true a.items
  else
    let ends := a.items.take edge ++ a.items.drop (a.items.length - edge)
    let texts := itemTexts a.type true ends
    texts.take edge ++ "..." :: texts.drop edge

/-- The characters after the last line ending. -/
def lastLine (s : String) : Nat := (s.toList.reverse.takeWhile (· != '\n')).length

/-- What the items do not tell: the size of a long array, and the type unless a literal of the items
would have it. -/
def remarks (a : ScalarArray) : List String :=
  let plain := ["bool", "int64", "float64"].contains a.type.name && !a.items.isEmpty
  (if a.items.length ≤ sizeLimit then []
    else ["shape=(" ++ toString a.items.length ++ ",)"]) ++
    if plain then [] else ["dtype=" ++ a.type.name]

def text (a : ScalarArray) : String :=
  let body := if a.hasAxis then "[" ++ lines a.shownTexts ++ "]"
    else "".intercalate (itemTexts a.type false a.items)
  let start := "array(" ++ body
  match a.remarks with
  | [] => start ++ ")"
  | remarks =>
    let rest := ", ".intercalate remarks ++ ")"
    -- what does not fit behind the items goes on a line of its own
    let gap := if lineLimit < lastLine start + 2 + rest.length then ",\n      " else ", "
    start ++ gap ++ rest

end ScalarArray
end WasmHost
