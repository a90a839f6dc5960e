import WasmHost.Text.Quoted
/-!
Traps: how the guest stops before it is done.

To the host a trap is its diagnostic. The ones that are told apart here have a reason each.
-/
namespace WasmHost.Guest

/-- A trap, by how it is told. -/
structure Trap where
  diagnostic : String
  deriving DecidableEq, Repr

/-- Why the guest stopped. -/
inductive Stop where
  | unreachable
  | divisionByZero
  | integerOverflow
  | invalidConversion
  | stackExhausted
  | fuelExhausted
  | memoryFault (address size : Nat)
  deriving DecidableEq, Repr

namespace Stop

def reason : Stop → String
  | unreachable => "wasm `unreachable` instruction executed"
  | divisionByZero => "integer divide by zero"
  | integerOverflow => "integer overflow"
  | invalidConversion => "invalid conversion to integer"
  | stackExhausted => "call stack exhausted"
  | fuelExhausted => "all fuel consumed by WebAssembly"
  | memoryFault _ _ => "out of bounds memory access"

/-- The beginning of the diagnostic of a trap inside a function. -/
def headline : String := "error while executing at wasm backtrace:\n\nCaused by:\n"

/-- The trap inside a function. -/
def trap (s : Stop) : Trap :=
  match s with
  | memoryFault address size =>
    ⟨headline ++ "    0: memory fault at wasm address " ++ Text.hexNumber address ++
      " in linear memory of size " ++ Text.hexNumber size ++ "\n" ++
      "    1: wasm trap: " ++ s.reason ++ "\n"⟩
  | s => ⟨headline ++ "    wasm trap: " ++ s.reason ++ "\n"⟩

/-- The diagnostic of a trap outside any function. -/
def bareDiagnostic (s : Stop) : String := "wasm trap: " ++ s.reason

end Stop
end WasmHost.Guest
