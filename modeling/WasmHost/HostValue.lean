import WasmHost.Decimal.Reading
import WasmHost.ScalarArray
import WasmHost.Text.Quoted
/-!
Host values: what the host passes to calls and gets back from them.

Besides plain values there are scalars of fixed width and arrays of them. Two classes matter to
calls: integers of either width, which exclude truth values, and floating-point numbers of either
width. Times and durations are left out, of which the host can make integers in some units only.
-/
namespace WasmHost

/-- An object of the host that is neither a number nor makes one: what is known of it is which one
it is, the name of its type, and its written form. -/
structure HostObject where
  serial : Nat
  type : String
  form : String
  deriving DecidableEq

/-- A value of the host. -/
inductive HostValue where
  | null
  | truth (value : Bool)
  | integer (value : Int)
  | float (value : Double)
  | text (value : String)
  | bytes (value : List UInt8)
  | complex (real imaginary : Double)
  | list (items : List HostValue)
  | scalar (value : Scalar)
  | array (value : ScalarArray)
  | object (value : HostObject)

namespace HostValue

/-- The integer that a host value is; truth values are not integers here. -/
def toInteger? : HostValue → Option Int
  | integer n => some n
  | scalar (.integer _ n) => some n
  | _ => none

/-- The floating-point number that a host value is, in the host's own width. -/
def toFloat? : HostValue → Option Double
  | float x => some x
  | scalar s => s.toDouble?
  | _ => none

def isIntegral (v : HostValue) : Bool := v.toInteger?.isSome

def isFloating (v : HostValue) : Bool := v.toFloat?.isSome

/-- A component of a complex number: as a number, but without an empty fraction. -/
def componentText (x : Double) : String :=
  let cs := x.text.toList
  String.ofList (if ['0', '.'].isPrefixOf cs.reverse then cs.take (cs.length - 2) else cs)

/-- A complex number: its real part is left out when it is positive zero. -/
def complexText (real imaginary : Double) : String :=
  let second := componentText imaginary
  if real.isZero && !real.negative then second ++ "j"
  else
    let sign := if imaginary.negative && !imaginary.isNaN then "" else "+"
    "(" ++ componentText real ++ sign ++ second ++ "j)"

mutual

/-- The written form of a host value; there is none when it holds an integer too long to write. -/
def text? : HostValue → Option String
  | null => some "None"
  | truth b => some (if b then "True" else "False")
  | integer n => integerText? n
  | float x => some x.text
  | text s => some (Text.quoted s)
  | bytes b => some (Text.quotedBytes b)
  | complex re im => some (complexText re im)
  | list items => (listTexts? items).map Text.bracketed
  | scalar s => some s.text
  | array a => some a.text
  | object o => some o.form

def listTexts? : List HostValue → Option (List String)
  | [] => some []
  | v :: rest => do
    let first ← text? v
    let others ← listTexts? rest
    return first :: others

end

/-- The name of the type of a value that is no number. -/
def typeName : HostValue → String
  | null => "NoneType"
  | list _ => "list"
  | complex _ _ => "complex"
  | text _ => "str"
  | bytes _ => "bytes"
  | object o => o.type
  | _ => "number"

end HostValue
end WasmHost
