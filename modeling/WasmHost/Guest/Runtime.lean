import WasmHost.Guest.Image
import WasmHost.Guest.Instance
/-!
What runs the guest.

Nothing is known of a runtime but what it is asked for. It validates and compiles bytes, gives the
native form of what it has compiled and loads it again, makes instances in a given supply of fuel,
and calls their functions. The machine is one such runtime.
-/
namespace WasmHost.Guest

/-- A runtime for guest programs. -/
class Runtime where
  /-- The diagnostic of validating a byte string, if it is not valid. -/
  validate : Image → Option String
  /-- The program that a byte string spells, or the diagnostic of compiling it. -/
  compile : Image → Except String Program
  /-- The native form of a compiled program. -/
  native : Compiled → Image
  /-- The program of a native form, loaded for an engine that consumes fuel or does not, and has
  debugging information or not; or the diagnostic of loading it. -/
  load (consumeFuel debugInfo : Bool) : Image → Except String Program
  /-- The state that an instance begins in, made with some units of fuel or without a meter; or the
  diagnostic of making it. -/
  instantiate : Program → Option Nat → Except String State
  /-- Calls a function with values of its parameter types. -/
  call : Program → Function → List GuestValue → State → Run

export Runtime (validate compile native load instantiate call)

/-- The machine as a runtime. -/
@[reducible]
def machine : Runtime where
  validate := Machine.validate
  compile := Machine.compile
  native := Machine.native
  load := Machine.load
  instantiate := Machine.instantiate
  call p f args s :=
    let (result, s') := Machine.call p f args s
    (result.mapError Stop.trap, s')

section Machine

variable {p : Program} {f : Function} {args results : List GuestValue} {s s' : State}

theorem machine_call_eq_ok_iff : machine.call p f args s = (.ok results, s') ↔
    Machine.call p f args s = (.ok results, s') := by
  change ((Machine.call p f args s).1.mapError Stop.trap, (Machine.call p f args s).2) = _ ↔ _
  rcases Machine.call p f args s with ⟨stop | found, after⟩
  · constructor
    · intro h
      cases congrArg Prod.fst h
    · intro h
      cases h
  -- the two results are of different types, but hold the same values and state
  · constructor
    · intro h
      cases h
      rfl
    · intro h
      cases h
      rfl

end Machine

end WasmHost.Guest
