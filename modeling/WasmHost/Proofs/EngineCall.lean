import WasmHost.Host.Engine
import WasmHost.Proofs.Action
/-!
The operations of an engine as data, and what each does to the diagnostics.

A call either leaves all diagnostics as they are, or clears the one of its engine and thread, or
records a new one there. Which of these it is can be told from the call and from what it gives.
-/
namespace WasmHost

/-- An operation of an engine. -/
inductive EngineCall where
  | lastError
  | fetchBytes (path : String)
  | validate (data : Guest.Image)
  | compile (data : Guest.Image)
  | serialize (artifact : Artifact)
  | deserialize (data : Guest.Image)
  | newInstance (artifact : Artifact)
  | newInstanceFromBytes (data : Guest.Image)
  | exportNames (handle : Handle)
  | functionNames (handle : Handle)
  | functionSignature (handle : Handle) (name : String)
  | makeValue (kind : ValueKind) (argument : HostValue)
  | invokeFunction (handle : Handle) (name : String) (values : List Value)
  | memoryBuffer (handle : Handle)
  | memorySize (handle : Handle) (memory : Nat)
  | memoryRead (handle : Handle) (memory : Nat) (start stop : Int)

/-- What an operation of an engine gives. -/
inductive EngineReply where
  | diagnostic (diagnostic : Option String)
  | bytes (data : Guest.Image)
  | valid (answer : Bool)
  | artifact (artifact : Option Artifact)
  | serialized (data : Option Guest.Image)
  | handle (handle : Option Handle)
  | names (names : List String)
  | signature (signature : Option Signature)
  | value (value : Option Value)
  | outcome (outcome : Outcome)
  | view (view : Option MemoryView)
  | size (size : Nat)
  | content (bytes : List UInt8)

/-- The bytes between two bounds, which count from the end when negative and are moved into the
memory. -/
def LinearMemory.between (m : LinearMemory) (start stop : Int) : List UInt8 :=
  m.bytes (Slice.clampBound m.size 0 m.size start).toNat
    (Slice.clampBound m.size 0 m.size stop).toNat

variable [Guest.Runtime]

namespace EngineCall

/-- Performs an operation of an engine. -/
def run (e : Engine) : EngineCall → HostAction EngineReply
  | lastError => do return .diagnostic (← e.lastError)
  | fetchBytes path => do return .bytes (← e.fetchBytes path)
  | validate data => do return .valid (← e.validate data)
  | compile data => do return .artifact (← e.compile data)
  | serialize artifact => do return .serialized (← e.serialize artifact)
  | deserialize data => do return .artifact (← e.deserialize data)
  | newInstance artifact => do return .handle (← e.newInstance artifact)
  | newInstanceFromBytes data => do return .handle (← e.newInstanceFromBytes data)
  | exportNames handle => return .names handle.program.exportNames
  | functionNames handle => return .names handle.program.functionNames
  | functionSignature handle name => do return .signature (← e.functionSignature handle name)
  | makeValue kind argument => do return .value (← e.invoker.makeValue kind argument)
  | invokeFunction handle name values => do
    return .outcome (← e.invokeFunction handle name values)
  | memoryBuffer handle => do return .view (← e.memoryBuffer handle)
  | memorySize handle memory => do return .size (((← get).guest handle).memory memory).size
  | memoryRead handle memory start stop => do
    return .content ((((← get).guest handle).memory memory).between start stop)

end EngineCall

/-- What a call does to the diagnostic of its engine and thread. -/
inductive Mark where
  | kept
  | cleared
  | recorded
  deriving DecidableEq, Repr

/-- The mark of a call that succeeds or fails. -/
def Mark.ofSuccess : Bool → Mark
  | true => cleared
  | false => recorded

/-- What a call does to the diagnostic, by what it gives: success clears it, and so do a missing
export and any request for the memory; failure records one. -/
def EngineCall.mark : EngineCall → Except Failure EngineReply → Mark
  | validate _, .ok (.valid valid) => .ofSuccess valid
  | compile _, .ok (.artifact artifact) => .ofSuccess artifact.isSome
  | serialize _, .ok (.serialized data) => .ofSuccess data.isSome
  | deserialize _, .ok (.artifact artifact) => .ofSuccess artifact.isSome
  | newInstance _, .ok (.handle handle) => .ofSuccess handle.isSome
  | newInstanceFromBytes _, .ok (.handle handle) => .ofSuccess handle.isSome
  | functionSignature handle name, .ok (.signature signature) =>
    .ofSuccess (signature.isSome || !handle.program.exportNames.contains name)
  | invokeFunction _ _ _, .ok (.outcome (.returned _)) => .cleared
  | invokeFunction _ _ _, .ok (.outcome .failed) => .recorded
  | memoryBuffer _, _ => .cleared
  | _, _ => .kept

/-- The diagnostic that a notice reports, if it reports one. -/
def Notice.diagnostic? : Notice → Option String
  | engineError diagnostic => some diagnostic
  | _ => none

/-- The diagnostics that were recorded between two states, in order. -/
def Host.diagnosticsBetween (before after : Host) : List String :=
  ((after.notices.take (after.notices.length - before.notices.length)).filterMap
    Notice.diagnostic?).reverse

/-- The diagnostic of an engine on a thread. -/
def Engine.diagnosticOn (e : Engine) (h : Host) (thread : Thread) : Option String :=
  h.diagnostics.get (e.serial, thread)

end WasmHost
