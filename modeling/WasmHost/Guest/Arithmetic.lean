import WasmHost.Guest.Program
import WasmHost.Guest.Trap
/-!
Values of the guest and its arithmetic: words wrap, division by zero and overflow trap, and floats
are rounded once.
-/
namespace WasmHost.Guest

/-- A value of the guest. -/
inductive GuestValue where
  | i32 (word : BitVec 32)
  | i64 (word : BitVec 64)
  | f32 (x : Floating .single)
  | f64 (x : Double)
  | null
  deriving DecidableEq

namespace GuestValue

/-- The value of a type that a constant denotes. -/
def ofConstant : ValueType → Constant → GuestValue
  | .i32, .integer n => i32 (BitVec.ofInt 32 n)
  | .i64, .integer n => i64 (BitVec.ofInt 64 n)
  | .f32, .integer n => f32 (Floating.ofInt .single n)
  | .f64, .integer n => f64 (Floating.ofInt .double n)
  | .f32, .float x => f32 (x.convert .single)
  | .f64, .float x => f64 x
  | .i32, .float x => i32 (BitVec.ofInt 32 x.truncate)
  | .i64, .float x => i64 (BitVec.ofInt 64 x.truncate)
  | .functionReference, _ => null
  | .externalReference, _ => null

/-- The double nearest to a number. -/
def toDouble : GuestValue → Double
  | i32 w => Floating.ofInt .double w.toInt
  | i64 w => Floating.ofInt .double w.toInt
  | f32 x => x.toDouble
  | f64 x => x
  | null => Floating.zero .double false

end GuestValue

namespace Operator

/-- An operator on words. -/
def onWords {w : Nat} (op : Operator) (x y : BitVec w) : Except Stop (BitVec w) :=
  let divided (quotient : BitVec w) : Except Stop (BitVec w) :=
    if y = 0 then .error .divisionByZero else .ok quotient
  match op with
  | add => .ok (x + y)
  | sub => .ok (x - y)
  | mul => .ok (x * y)
  | divSigned | div =>
    if x = BitVec.intMin w ∧ y = -1 then .error .integerOverflow else divided (x.sdiv y)
  | divUnsigned => divided (x.udiv y)
  | remSigned => divided (x.srem y)
  | remUnsigned => divided (x.umod y)
  | and => .ok (x &&& y)
  | or => .ok (x ||| y)
  | xor => .ok (x ^^^ y)
  | shiftLeft => .ok (x <<< (y.toNat % w))
  | shiftRightSigned => .ok (x.sshiftRight (y.toNat % w))
  | shiftRightUnsigned => .ok (x >>> (y.toNat % w))

/-- An operator on floats; those that floats do not have leave the first operand. -/
def onFloats {f : FloatFormat} (op : Operator) (x y : Floating f) : Floating f :=
  match op with
  | add => x.add y
  | sub => x.sub y
  | mul => x.mul y
  | div | divSigned | divUnsigned => x.div y
  | _ => x

/-- An operator on two values of one type. -/
def apply (op : Operator) : GuestValue → GuestValue → Except Stop GuestValue
  | .i32 x, .i32 y => (op.onWords x y).map .i32
  | .i64 x, .i64 y => (op.onWords x y).map .i64
  | .f32 x, .f32 y => .ok (.f32 (op.onFloats x y))
  | .f64 x, .f64 y => .ok (.f64 (op.onFloats x y))
  | x, _ => .ok x

end Operator

/-- The word of the integer part of a double. -/
def truncateToWord (x : Double) : Except Stop (BitVec 32) :=
  if x.isNaN then .error .invalidConversion
  else if !x.isFinite then .error .integerOverflow
  else
    let n := x.truncate
    if isSignedWord 32 n then .ok (BitVec.ofInt 32 n) else .error .integerOverflow

/-- The sum of doubles from left to right; without any it is zero. -/
def sumDoubles : List Double → Double
  | [] => Floating.zero .double false
  | x :: rest => rest.foldl Floating.add x

end WasmHost.Guest
