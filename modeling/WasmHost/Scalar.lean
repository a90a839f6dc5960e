import WasmHost.Decimal.Shortest
/-!
Scalars of fixed width and their types.

As bytes they stand with the least significant byte first.
-/
namespace WasmHost

/-- An integer type of fixed width. -/
structure IntegerType where
  signed : Bool
  bytes : Nat
  deriving DecidableEq, Repr

/-- The floating-point formats that scalars and array elements have. -/
inductive FloatWidth where
  | half
  | single
  | double
  | extended
  deriving DecidableEq, Repr

namespace FloatWidth

def format : FloatWidth → FloatFormat
  | half => .half
  | single => .single
  | double => .double
  | extended => .extended

/-- The size in bytes; an extended number is filled up to a power of two. -/
def bytes : FloatWidth → Nat
  | half => 2
  | single => 4
  | double => 8
  | extended => 16

end FloatWidth

/-- The types of scalars. -/
inductive ElementType where
  | truth
  | integer (type : IntegerType)
  | float (width : FloatWidth)
  deriving DecidableEq, Repr

namespace ElementType

/-- The size of a scalar in bytes. -/
def size : ElementType → Nat
  | truth => 1
  | integer t => t.bytes
  | float w => w.bytes

/-- The name of a type. -/
def name : ElementType → String
  | truth => "bool"
  | integer t => (if t.signed then "int" else "uint") ++ toString (8 * t.bytes)
  | float w => "float" ++ toString (8 * w.bytes)

/-- The short name of a type: its byte order, where it has one, a letter, and its size. -/
def code : ElementType → String
  | truth => "|b1"
  | integer t =>
    (if t.bytes = 1 then "|" else "<") ++ (if t.signed then "i" else "u") ++ toString t.bytes
  | float w => "<f" ++ toString w.bytes

def all : List ElementType :=
  truth :: ([1, 2, 4, 8].flatMap fun n => [integer ⟨true, n⟩, integer ⟨false, n⟩]) ++
    [float .half, float .single, float .double, float .extended]

/-- The type of a name; the widest one has two. -/
def named? (name : String) : Option ElementType :=
  if name = "longdouble" then some (float .extended) else all.find? (·.name = name)

end ElementType

/-- A scalar of fixed width. -/
inductive Scalar where
  | truth (value : Bool)
  | integer (type : IntegerType) (value : Int)
  | half (value : Floating .half)
  | single (value : Floating .single)
  | double (value : Double)
  | extended (value : Floating .extended)
  deriving DecidableEq

/-- The number that bytes denote, the least significant first. -/
def littleEndian (bytes : List UInt8) : Nat := bytes.foldr (fun b n => b.toNat + 256 * n) 0

/-- The bytes of a number, the least significant first. -/
def littleEndianBytes : Nat → Nat → List UInt8
  | 0, _ => []
  | width + 1, n => UInt8.ofNat n :: littleEndianBytes width (n / 256)

namespace IntegerType

/-- The integer with these bits; the highest bit of a signed type counts negatively. -/
def ofBits (t : IntegerType) (n : Nat) : Int :=
  if t.signed && 2 ^ (8 * t.bytes) ≤ 2 * n then (n : Int) - 2 ^ (8 * t.bytes) else n

end IntegerType

/-- The extended number of ten bytes: a significand with its leading bit, then an exponent and a
sign. A number whose leading bit does not suit its exponent is none. -/
def Floating.ofExtendedBytes (bytes : List UInt8) : Floating .extended :=
  let significand := littleEndian (bytes.take 8)
  let field := littleEndian ((bytes.drop 8).take 2)
  let negative := decide (halfWordCount 16 ≤ field)
  let exponent := field % halfWordCount 16
  let code :=
    if exponent = 0 then significand
    else if significand < halfWordCount 64 then FloatFormat.extended.quietCode
    else exponent * halfWordCount 64 + (significand - halfWordCount 64)
  .ofBits .extended ((if negative then FloatFormat.extended.codeCount else 0) + code)

namespace Scalar

/-- The scalar of a type that bytes denote. -/
def ofBytes : ElementType → List UInt8 → Scalar
  | .truth, bs => truth (bs.any (· != 0))
  | .integer t, bs => integer t (t.ofBits (littleEndian bs))
  | .float .half, bs => half (.ofBits .half (littleEndian bs))
  | .float .single, bs => single (.ofBits .single (littleEndian bs))
  | .float .double, bs => double (.ofBits .double (littleEndian bs))
  | .float .extended, bs => extended (.ofExtendedBytes bs)

/-- The double nearest to a floating-point scalar: a narrow one is widened, and only an extended one
is rounded. -/
def toDouble? : Scalar → Option Double
  | half x => some x.toDouble
  | single x => some x.toDouble
  | double x => some x
  | extended x => some x.toDouble
  | _ => none

/-- The written form of a scalar with its type. -/
def text : Scalar → String
  | truth b => if b then "np.True_" else "np.False_"
  | integer t n => "np." ++ (ElementType.integer t).name ++ "(" ++ toString n ++ ")"
  | half x => "np.float16(" ++ x.text ++ ")"
  | single x => "np.float32(" ++ x.text ++ ")"
  | double x => "np.float64(" ++ x.text ++ ")"
  | extended x => "np.longdouble('" ++ x.text ++ "')"

end Scalar
end WasmHost
