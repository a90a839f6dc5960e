import WasmHost.HostValue.Equality
/-!
Tagged values: a kind and its payload in the host's own form.

A payload for a kind can be made from any host value that denotes a number, a text or bytes with a
numeral included; range is not looked at here.
-/
namespace WasmHost

/-- A value of the boundary between host and guest. -/
structure Value where
  kind : ValueKind
  payload : HostValue

namespace Value

/-- The written form: the kind, a colon, and the payload. -/
def text? (v : Value) : Option String := v.payload.text?.map fun s => v.kind.name ++ ":" ++ s

/-- Equality of values: equal kinds and equal payloads. Payloads of different kinds are not
compared. -/
def equal (v w : Value) : Except ComparisonFault Bool :=
  if v.kind = w.kind then v.payload.equal w.payload else .ok false

/-- Values between parentheses; a comma follows a single one. -/
def tupleText? (values : List Value) : Option String := do
  let texts ← values.mapM text?
  return "(" ++ ", ".intercalate texts ++ (if texts.length = 1 then ",)" else ")")

end Value

namespace Floating

/-- The integer part of a number as a payload; infinity and NaN have none. -/
def wholePart {f : FloatFormat} (x : Floating f) : Except CoercionFault Int :=
  if x.isNaN then .error .integerFromNaN
  else if x.isInfinite then .error .integerFromInfinity
  else .ok x.truncate

end Floating

/-- Reads an integer; `form` is the written form of what is read. -/
def Numeral.coerceInt (cs : List Char) (form : String) : Except CoercionFault Int :=
  match readInt cs with
  | .ok n => .ok n
  | .error .malformed => .error (.notAnInteger form)
  | .error (.tooLong digits) => .error (.integerTextTooLong digits)

/-- Reads a floating-point number; `form` is the written form of what is read. -/
def Numeral.coerceFloat (cs : List Char) (form : String) : Except CoercionFault Double :=
  match readFloating? .double cs with
  | some x => .ok x
  | none => .error (.notAFloat form)

namespace Double

/-- The number nearest to an integer; an integer past the finite numbers has none. -/
def ofInteger (n : Int) : Except CoercionFault Double :=
  match Floating.ofInt? .double n with
  | some x => .ok x
  | none => .error .floatFromLargeInteger

def ofTruth (b : Bool) : Double := Floating.ofInt .double (if b then 1 else 0)

end Double

namespace Scalar

def asInteger : Scalar → Except CoercionFault Int
  | truth b => .ok (if b then 1 else 0)
  | integer _ n => .ok n
  | half x => x.wholePart
  | single x => x.wholePart
  | double x => x.wholePart
  | extended x => x.wholePart

def asFloat : Scalar → Except CoercionFault Double
  | truth b => .ok (Double.ofTruth b)
  | integer _ n => Double.ofInteger n
  | half x => .ok x.toDouble
  | single x => .ok x.toDouble
  | double x => .ok x
  | extended x => .ok x.toDouble

end Scalar

namespace HostValue

/-- The most bytes that a message about unreadable bytes looks at. -/
def shownBytes : Nat := 200

/-- The integer that a host value is taken for: floats lose their fraction, texts and bytes are
read. -/
def asInteger : HostValue → Except CoercionFault Int
  | truth b => .ok (if b then 1 else 0)
  | integer n => .ok n
  | float x => x.wholePart
  | text s => Numeral.coerceInt (Numeral.fold s) (Text.quoted s)
  | bytes b => Numeral.coerceInt (Numeral.foldBytes b) (Text.quotedBytes (b.take shownBytes))
  | scalar s => s.asInteger
  | array ⟨_, false, [s]⟩ => s.asInteger
  | array _ => .error .severalElements
  | v => .error (.integerFromType v.typeName)

/-- The floating-point number that a host value is taken for. -/
def asFloat : HostValue → Except CoercionFault Double
  | truth b => .ok (Double.ofTruth b)
  | integer n => Double.ofInteger n
  | float x => .ok x
  | text s => Numeral.coerceFloat (Numeral.fold s) (Text.quoted s)
  | bytes b => Numeral.coerceFloat (Numeral.foldBytes b) (Text.quotedBytes b)
  | scalar s => s.asFloat
  | array ⟨_, false, [s]⟩ => s.asFloat
  | array _ => .error .severalElements
  | v => .error (.floatFromType v.typeName)

end HostValue

namespace Value

/-- The value of a kind made from a host value; only numeric kinds have values. -/
def ofHost (kind : ValueKind) (v : HostValue) : Except CoercionFault (Option Value) :=
  match kind.numeric? with
  | none => .ok none
  | some k =>
    if k.isInteger then v.asInteger.map fun n => some ⟨kind, .integer n⟩
    else v.asFloat.map fun x => some ⟨kind, .float x⟩

end Value
end WasmHost
