import WasmHost.Decimal.Basic
import WasmHost.Text.Blank
import WasmHost.Text.Digit
/-!
Reading numbers from text.

A numeral may stand between blanks, may have digits of any script and single low lines between two
digits. An integer is a sign and digits; a floating-point numeral also takes a point and an
exponent, or is one of the words for infinity and NaN. Integers of more than 4300 digits are
refused.
-/
namespace WasmHost

/-- The most digits of an integer that is read from text or written as text. -/
def digitLimit : Nat := 4300

/-- Why a text is not an integer. -/
inductive NumeralError where
  | malformed
  | tooLong (digits : Nat)
  deriving DecidableEq, Repr

namespace Numeral

/-- The character that stands for this one in a numeral: a digit of any script becomes the decimal
digit, a blank becomes a space, and another character beyond ASCII one that no numeral has. -/
def foldChar (c : Char) : Char :=
  if c.toNat < 127 then c
  else if Text.isBlank c then ' '
  else match Text.digitValue? c with
    | some n => Char.ofNat (48 + n)
    | none => '?'

def isAsciiBlank (c : Char) : Bool := c = ' ' || (9 ≤ c.toNat && c.toNat ≤ 13)

/-- The characters of a numeral, the blanks around it removed. -/
def fold (s : String) : List Char := Text.trim isAsciiBlank (s.toList.map foldChar)

/-- The characters of a numeral given as bytes. -/
def foldBytes (bytes : List UInt8) : List Char :=
  Text.trim isAsciiBlank (bytes.map fun b => if b < 128 then Char.ofNat b.toNat else '?')

/-- Removes low lines, each of which has to stand between two digits; `afterDigit` tells whether a
digit stands right before the text. -/
def joinDigits (afterDigit : Bool) : List Char → Option (List Char)
  | [] => some []
  | '_' :: rest =>
    match rest with
    | c :: _ => if afterDigit && c.isDigit then joinDigits false rest else none
    | [] => none
  | c :: rest => (joinDigits c.isDigit rest).map (c :: ·)

def digitsValue (ds : List Char) : Nat := ds.foldl (fun n c => 10 * n + (c.toNat - 48)) 0

/-- Splits off a sign: whether it is a minus, and the rest. -/
def splitSign : List Char → Bool × List Char
  | '-' :: rest => (true, rest)
  | '+' :: rest => (false, rest)
  | cs => (false, cs)

def signed (negative : Bool) (n : Nat) : Int := if negative then -(n : Int) else n

/-- The integer that folded characters denote. How many digits there are is looked at before what
follows them. -/
def readInt (cs : List Char) : Except NumeralError Int :=
  let (negative, body) := splitSign cs
  let run := body.takeWhile fun c => c.isDigit || c = '_'
  match joinDigits false run with
  | none => .error .malformed
  | some ds =>
    -- a numeral that is too long is refused as such even when something else follows it
    if digitLimit < ds.length then .error (.tooLong ds.length)
    else if ds.isEmpty || run.length < body.length then .error .malformed
    else .ok (signed negative (digitsValue ds))

/-- An exponent part: nothing, or the letter, a sign and digits. -/
def readExponent? : List Char → Option Int
  | [] => some 0
  | c :: rest =>
    let (negative, ds) := splitSign rest
    if (c = 'e' || c = 'E') && !ds.isEmpty && ds.all Char.isDigit then
      some (signed negative (digitsValue ds))
    else none

/-- An unsigned numeral with digits before or after an optional point. -/
def readDecimal? (cs : List Char) : Option Decimal :=
  let whole := cs.takeWhile Char.isDigit
  let rest := cs.dropWhile Char.isDigit
  let (fraction, rest) := match rest with
    | '.' :: rest => (rest.takeWhile Char.isDigit, rest.dropWhile Char.isDigit)
    | rest => ([], rest)
  if whole.isEmpty && fraction.isEmpty then none
  else (readExponent? rest).map fun e => ⟨digitsValue (whole ++ fraction), e - fraction.length⟩

/-- The floating-point number that folded characters denote. -/
def readFloating? (f : FloatFormat) (cs : List Char) : Option (Floating f) := do
  let (negative, body) := splitSign (← joinDigits false cs)
  let word := String.ofList (body.map Char.toLower)
  if word = "inf" || word = "infinity" then some (.infinity f negative)
  else if word = "nan" then some { Floating.nan f with negative }
  else (readDecimal? body).map (Decimal.toFloating f negative)

end Numeral

/-- Whether an integer is short enough to be written. -/
def isWritable (n : Int) : Bool := n.natAbs < 10 ^ digitLimit

/-- An integer in decimal, if it is short enough to be written. -/
def integerText? (n : Int) : Option String := if isWritable n then some (toString n) else none

end WasmHost
