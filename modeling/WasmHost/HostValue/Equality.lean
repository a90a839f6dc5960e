import WasmHost.Fault
import WasmHost.HostValue
/-!
Equality of host values.

Plain numbers are compared by exact value. A scalar or an array of fixed width draws the other side
into its own width first, so that a plain number is rounded to it; integers of fixed width meet
floating-point numbers as doubles. An array is compared item by item, and the outcome is one answer
only when it has one item.
-/
namespace WasmHost

/-- A number for comparison. A fixed number has a width of its own, which the others take over. -/
inductive Quantity where
  | whole (n : Int)
  | real (x : Double)
  | complex (re im : Double)
  | fixedTruth (b : Bool)
  | fixedWhole (n : Int)
  | fixedReal (width : FloatWidth) (x : Double)
  | fixedExtended (x : Floating .extended)

namespace Quantity

/-- A double rounded to a width. -/
def narrowed (width : FloatWidth) (x : Double) : Double := (x.convert width.format).toDouble

/-- The double nearest to an integer. -/
def nearest (n : Int) : Except ComparisonFault Double :=
  match Floating.ofInt? .double n with
  | some x => .ok x
  | none => .error .integerTooLarge

/-- The integer of a truth value. -/
def ofTruth (b : Bool) : Int := if b then 1 else 0

/-- Equality with an extended number, beside which every other one is taken as it is; only an
integer without a width is rounded. -/
def equalExtended (x : Floating .extended) : Quantity → Except ComparisonFault Bool
  | whole n => .ok (x.equalValue (.ofInt .extended n))
  | fixedWhole n => .ok (x.equalInt n)
  | fixedTruth b => .ok (x.equalInt (ofTruth b))
  | real y | fixedReal _ y => .ok (x.equalValue (y.convert .extended))
  | complex re im => .ok (x.equalValue (re.convert .extended) && im.isZero)
  | fixedExtended y => .ok (x.equalValue y)

/-- Equality with a complex number, whose parts are rounded to single width at the least. -/
def equalComplex (re im : Double) : Quantity → Except ComparisonFault Bool
  | whole n => .ok (re.equalInt n && im.isZero)
  | fixedTruth b => .ok (re.equalInt (ofTruth b) && im.isZero)
  | real x => .ok (re.equalValue x && im.isZero)
  | complex re' im' => .ok (re.equalValue re' && im.equalValue im')
  | fixedWhole n => return re.equalValue (← nearest n) && im.isZero
  | fixedReal width x =>
    let parts := if width = .double then .double else .single
    .ok ((narrowed parts re).equalValue x && (narrowed parts im).isZero)
  | fixedExtended x => (complex re im).equalExtended x

/-- Equality with a truth value of fixed width, beside which an integer has to fit a signed word. -/
def equalTruth (b : Bool) : Quantity → Except ComparisonFault Bool
  | whole n => if isSignedWord 64 n then .ok (ofTruth b = n) else .error .integerTooWide
  | real x | fixedReal _ x => .ok (x.equalInt (ofTruth b))
  | complex re im => (fixedTruth b).equalComplex re im
  | fixedTruth c => .ok (b = c)
  | fixedWhole n => .ok (ofTruth b = n)
  | fixedExtended x => (fixedTruth b).equalExtended x

/-- Equality of quantities. -/
def equal : Quantity → Quantity → Except ComparisonFault Bool
  | fixedExtended x, q | q, fixedExtended x => q.equalExtended x
  | fixedTruth b, q | q, fixedTruth b => q.equalTruth b
  | complex re im, q | q, complex re im => q.equalComplex re im
  | fixedReal _ x, fixedReal _ y | real x, real y => .ok (x.equalValue y)
  | fixedReal width x, real y | real y, fixedReal width x => .ok (x.equalValue (narrowed width y))
  | fixedReal width x, whole n | whole n, fixedReal width x =>
    return x.equalValue (narrowed width (← nearest n))
  | fixedReal _ x, fixedWhole n | fixedWhole n, fixedReal _ x | real x, fixedWhole n
  | fixedWhole n, real x => return x.equalValue (← nearest n)
  | real x, whole n | whole n, real x => .ok (x.equalInt n)
  | whole m, whole n | fixedWhole m, fixedWhole n | whole m, fixedWhole n | fixedWhole m, whole n =>
    .ok (m = n)

/-- A quantity without a width of its own. -/
def loosened : Quantity → Quantity
  | fixedTruth b => whole (ofTruth b)
  | fixedWhole n => whole n
  | fixedReal _ x => real x
  | q => q

/-- Equality with an item of a list that is compared with an array: there a number has the width
that it would have in an array of its own, unless it is too large for any. -/
def equalItem (q : Quantity) : Quantity → Except ComparisonFault Bool
  | whole n =>
    if -(halfWordCount 64) ≤ n && n < wordCount 64 then q.equal (fixedWhole n)
    else q.loosened.equal (whole n)
  | real x => q.equal (fixedReal .double x)
  | complex re im => match q with
    | fixedReal _ x => (fixedReal .double x).equalComplex re im
    | q => q.equalComplex re im
  | item => q.equal item

end Quantity

/-- The quantity of a scalar. -/
def Scalar.quantity : Scalar → Quantity
  | truth b => .fixedTruth b
  | integer _ n => .fixedWhole n
  | half x => .fixedReal .half x.toDouble
  | single x => .fixedReal .single x.toDouble
  | double x => .fixedReal .double x
  | extended x => .fixedExtended x

namespace HostValue

/-- The quantity that a value denotes; truth values count as zero and one. -/
def quantity? : HostValue → Option Quantity
  | truth b => some (.whole (Quantity.ofTruth b))
  | integer n => some (.whole n)
  | float x => some (.real x)
  | complex re im => some (.complex re im)
  | scalar s => some s.quantity
  | array ⟨_, _, [s]⟩ => some s.quantity
  | _ => none

/-- The lengths along the axes that all parts of a value share, and whether none has others. -/
structure Shape where
  axes : List Nat
  isEven : Bool

/-- What two lists begin with in common. -/
def sharedStart : List Nat → List Nat → List Nat
  | m :: rest, n :: rest' => if m = n then m :: sharedStart rest rest' else []
  | _, _ => []

/-- What two shapes share. -/
def Shape.meet (s t : Shape) : Shape :=
  ⟨sharedStart s.axes t.axes, s.isEven && t.isEven && s.axes = t.axes⟩

mutual

/-- The shape of a value; all but lists and arrays are single items. -/
def shape : HostValue → Shape
  | array a => ⟨if a.hasAxis then [a.items.length] else [], true⟩
  | list items =>
    let inner := itemShape items
    ⟨items.length :: inner.axes, inner.isEven⟩
  | _ => ⟨[], true⟩

def itemShape : List HostValue → Shape
  | [] => ⟨[], true⟩
  | [v] => shape v
  | v :: rest => (shape v).meet (itemShape rest)

end

/-- The axes of a value that has the same ones everywhere. -/
def evenAxes (v : HostValue) : Except ComparisonFault (List Nat) :=
  if v.shape.isEven then .ok v.shape.axes else .error (.ragged v.shape.axes)

/-- The axes of an array that two arrays are spread over; both lists begin with the last axis. -/
def spread? : List Nat → List Nat → Option (List Nat)
  | [], axes | axes, [] => some axes
  | m :: rest, n :: rest' => do
    let others ← spread? rest rest'
    if m = n || n = 1 then some (m :: others)
    else if m = 1 then some (n :: others)
    else none

/-- The item that lists of one item hold. -/
def soleItem : HostValue → HostValue
  | list [v] => soleItem v
  | v => v

/-- Equality of values of which one at least is an array or a scalar. -/
def equalSpread (v w : HostValue) : Except ComparisonFault Bool := do
  let axes ← v.evenAxes
  let axes' ← w.evenAxes
  let some shared := spread? axes.reverse axes'.reverse | .error (.unlikeAxes axes axes')
  let count := shared.foldl (· * ·) 1
  if count = 0 then .error .noAnswer
  else if count ≠ 1 then .error .severalAnswers
  else match v.soleItem.quantity?, w.soleItem.quantity? with
    | some q, some r =>
      match v, w with
      | list _, _ => r.equalItem q
      | _, list _ => q.equalItem r
      | _, _ => q.equal r
    | _, _ => .ok false

def isSpread : HostValue → Bool
  | scalar _ | array _ => true
  | _ => false

mutual

/-- Equality of host values: numbers by value whatever their form, other values by form. -/
def equal : HostValue → HostValue → Except ComparisonFault Bool
  | null, null => .ok true
  | text s, text t => .ok (s = t)
  | bytes a, bytes b => .ok (a = b)
  | object a, object b => .ok (a = b)
  | list xs, list ys => if xs.length = ys.length then listEqual xs ys else .ok false
  | v, w =>
    if v.isSpread || w.isSpread then equalSpread v w
    else match v.quantity?, w.quantity? with
      | some q, some r => q.equal r
      | _, _ => .ok false

/-- Equality of lists of one length; the first difference ends it. -/
def listEqual : List HostValue → List HostValue → Except ComparisonFault Bool
  | x :: xs, y :: ys => do if ← equal x y then listEqual xs ys else return false
  | _, _ => .ok true

end

end HostValue
end WasmHost
