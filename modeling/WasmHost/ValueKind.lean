import WasmHost.Text.Uppercase
import WasmHost.Word
/-!
Value kinds: the type names that signatures and tagged values carry.

Four of them are numeric and can be passed by the host. A function without a result has the kind
`void`, and every other type keeps the name that the engine gives it.
-/
namespace WasmHost

/-- The kinds of values that the host can pass to the guest. -/
inductive NumericKind where
  | i32
  | i64
  | f32
  | f64
  deriving DecidableEq, Repr

namespace NumericKind

def name : NumericKind → String
  | i32 => "i32"
  | i64 => "i64"
  | f32 => "f32"
  | f64 => "f64"

def isInteger : NumericKind → Bool
  | i32 | i64 => true
  | f32 | f64 => false

/-- The width in bits of an integer kind. -/
def width : NumericKind → Nat
  | i32 | f32 => 32
  | i64 | f64 => 64

/-- What a host value of this kind is called in messages. -/
def description (k : NumericKind) : String := if k.isInteger then "integer" else "float"

/-- The least integer accepted for an integer kind: the signed minimum. -/
def least (k : NumericKind) : Int := -(halfWordCount k.width)

/-- The greatest integer accepted for an integer kind: the unsigned maximum. -/
def greatest (k : NumericKind) : Int := wordCount k.width - 1

def inRange (k : NumericKind) (n : Int) : Bool := k.least ≤ n && n ≤ k.greatest

end NumericKind

/-- The name of a value type. -/
structure ValueKind where
  name : String
  deriving DecidableEq, Repr

namespace ValueKind

def ofNumeric (k : NumericKind) : ValueKind := ⟨k.name⟩

def void : ValueKind := ⟨"void"⟩

/-- The numeric kind of this name, if there is one. -/
def numeric? (k : ValueKind) : Option NumericKind :=
  if k.name = "i32" then some .i32
  else if k.name = "i64" then some .i64
  else if k.name = "f32" then some .f32
  else if k.name = "f64" then some .f64
  else none

@[simp] theorem numeric?_ofNumeric (k : NumericKind) : (ofNumeric k).numeric? = some k := by
  cases k <;> decide

theorem numeric?_eq_some_iff {k : ValueKind} {n : NumericKind} :
    k.numeric? = some n ↔ k = ofNumeric n := by
  constructor
  · intro h
    obtain ⟨name⟩ := k
    simp only [numeric?] at h
    split at h
    · simp_all [ofNumeric, NumericKind.name, ← Option.some.inj h]
    split at h
    · simp_all [ofNumeric, NumericKind.name, ← Option.some.inj h]
    split at h
    · simp_all [ofNumeric, NumericKind.name, ← Option.some.inj h]
    split at h
    · simp_all [ofNumeric, NumericKind.name, ← Option.some.inj h]
    · cases h
  · rintro rfl
    exact numeric?_ofNumeric n

/-- Kinds in upper case between brackets, as call errors list them. -/
def listText (kinds : List ValueKind) : String :=
  "[" ++ ", ".intercalate (kinds.map (Text.upper ·.name)) ++ "]"

end ValueKind
end WasmHost
