import WasmHost.ValueKind
import WasmHost.Fault
/-!
Function signatures: the kinds of the parameters and the single kind of the result.

A signature is also a sequence, the result coming last, and can be read by index and by slice.
-/
namespace WasmHost

/-- A slice of a sequence; an absent part takes its default for the direction of the step. -/
structure Slice where
  start : Option Int
  stop : Option Int
  step : Option Int
  deriving DecidableEq, Repr

namespace Slice

/-- A bound counted from the end when negative, and moved into the given limits. -/
def clampBound (length low high n : Int) : Int :=
  max low (min high (if n < 0 then n + length else n))

/-- The positions that a slice selects in a sequence of a given length; a step of zero selects
nothing that could be named. -/
def positions? (s : Slice) (length : Nat) : Option (List Nat) :=
  let step := s.step.getD 1
  let size : Int := length
  if step = 0 then none
  else
    let (low, high) : Int × Int := if 0 < step then (0, size) else (-1, size - 1)
    let start := (s.start.map (clampBound size low high)).getD (if 0 < step then low else high)
    let stop := (s.stop.map (clampBound size low high)).getD (if 0 < step then high else low)
    let distance := if 0 < step then stop - start else start - stop
    let count := (distance + step.natAbs - 1).tdiv step.natAbs
    some ((List.range count.toNat).map fun (i : Nat) => (start + step * i).toNat)

end Slice

/-- The parameter kinds of a function and the kind of its result. -/
structure Signature where
  params : List ValueKind
  result : ValueKind
  deriving DecidableEq, Repr

namespace Signature

/-- All kinds in order, the result last. -/
def kinds (s : Signature) : List ValueKind := s.params ++ [s.result]

/-- The signature with these kinds; the last one is the result, so there has to be one. -/
def ofKinds (kinds : List ValueKind) : Except PlainFault Signature :=
  match kinds.getLast? with
  | none => .error .emptySignature
  | some result => .ok ⟨kinds.dropLast, result⟩

/-- The number of parameters. -/
def arity (s : Signature) : Nat := s.params.length

/-- The number of kinds. -/
def size (s : Signature) : Nat := s.kinds.length

/-- The kind at an index; a negative index counts from the end. An index is a word of 64 bits. -/
def get (s : Signature) (index : Int) : Except PlainFault ValueKind :=
  let i := if index < 0 then index + s.size else index
  if !isSignedWord 64 index then .error .indexTooLarge
  else if i < 0 then .error .indexOutOfRange
  else match s.kinds[i.toNat]? with
    | some k => .ok k
    | none => .error .indexOutOfRange

/-- The kinds that a slice selects. -/
def slice (s : Signature) (part : Slice) : Except PlainFault (List ValueKind) :=
  match part.positions? s.size with
  | none => .error .zeroStep
  | some positions => .ok (positions.filterMap (s.kinds[·]?))

/-- The written form: the parameters between parentheses, an arrow and the result. -/
def text (s : Signature) : String :=
  "(" ++ ", ".intercalate (s.params.map (·.name)) ++ ") -> " ++ s.result.name

theorem ofKinds_kinds (s : Signature) : ofKinds s.kinds = .ok s := by
  simp [ofKinds, kinds]

theorem kinds_of_ofKinds {ks : List ValueKind} {s : Signature} (h : ofKinds ks = .ok s) :
    s.kinds = ks := by
  unfold ofKinds at h
  split at h
  · cases h
  · rename_i r hr
    cases h
    obtain ⟨ys, rfl⟩ := List.getLast?_eq_some_iff.1 hr
    simp [kinds]

end Signature
end WasmHost
