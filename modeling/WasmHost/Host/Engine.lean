import WasmHost.Guest.Runtime
import WasmHost.Host.State
/-!
The operations of an engine.

An operation that fails answers with nothing, or with `failed` for a call, and leaves a diagnostic
for its thread; one that succeeds removes the diagnostic. Reading files and passing payloads of the
wrong type raise instead, and leave the diagnostic alone.
-/
namespace WasmHost

/-- The octets in front of every serialized module: a tag and the version of the format. -/
def serializedMagic : List UInt8 := [0x57, 0x41, 0x53, 0x4d, 0x45, 0x4d, 0x42, 0x01]

/-- The diagnostic of bytes that are no serialized module. -/
def deserializeFailed : String := "Failed to deserialize the module"

/-- A fuel meter counts in words of 64 bits. -/
def fuelMeter (fuel : Nat) : Nat := fuel % wordCount 64

namespace Engine

/-- The bytes of a file. -/
def fetchBytes (e : Engine) (path : String) : HostAction Guest.Image := do
  Host.record e .fetchBytes
  let p := Files.Path.ofString path
  match (← get).files.find p with
  | .error .missing => Action.fail (.missingFile p.toString)
  | .error .nameTooLong => Action.fail (.plain (.fileNameTooLong p.toString))
  | .ok .directory => Action.fail (.unreadableFile p.toString none)
  | .ok (.file _ false _) => Action.fail (.unreadableFile p.toString none)
  | .ok (.file content true none) => return content
  -- a file that can be opened, but whose reading fails
  | .ok (.file _ true (some reason)) =>
    throw ⟨.unreadableFile p.toString (some reason), some (.plain (.input reason))⟩

variable [Guest.Runtime]

/-- Whether bytes are a valid module. -/
def validate (e : Engine) (data : Guest.Image) : HostM Bool := do
  match Guest.validate data with
  | some problem =>
    e.setError ("Validation error \"" ++ problem ++ "\"")
    return false
  | none =>
    e.clearError
    return true

def compile (e : Engine) (data : Guest.Image) : HostM (Option Artifact) := do
  Host.record e .compile
  Host.note .compiling
  match Guest.compile data with
  | .error diagnostic =>
    e.setError diagnostic
    return none
  | .ok program =>
    e.clearError
    let settings := e.settings.values
    return some ⟨← Host.newSerial, ⟨program, settings.consumeFuel, settings.debugInfo⟩⟩

/-- The serialized form of a compiled module: the magic octets and then its native form. -/
def serialize (e : Engine) (artifact : Artifact) : HostM (Option Guest.Image) := do
  match (← get).serializeFault with
  | some diagnostic =>
    e.setError diagnostic
    return none
  | none =>
    e.clearError
    return some (Guest.Image.ofBytes serializedMagic ++ Guest.native artifact.compiled)

/-- Loads a serialized module; what follows the magic octets is trusted. -/
def deserialize (e : Engine) (data : Guest.Image) : HostM (Option Artifact) := do
  let magic := Guest.Image.ofBytes serializedMagic
  -- the loader never sees the magic octets, nor bytes that do not begin with them
  if magic.isPrefixOf data then
    let settings := e.settings.values
    match Guest.load settings.consumeFuel settings.debugInfo (data.drop magic.length) with
    | .error detail =>
      e.setError (deserializeFailed ++ "\n" ++ detail)
      return none
    | .ok program =>
      e.clearError
      return some ⟨← Host.newSerial, ⟨program, settings.consumeFuel, settings.debugInfo⟩⟩
  else
    e.setError deserializeFailed
    return none

/-- The fuel that each new instance of an engine is given, if it is metered. -/
def budget (e : Engine) : Option Nat :=
  if e.settings.values.consumeFuel then some (fuelMeter e.settings.values.fuel) else none

/-- Makes an instance of a compiled module. -/
def newInstance (e : Engine) (artifact : Artifact) : HostM (Option Handle) := do
  Host.record e .newInstance
  match Guest.instantiate artifact.compiled.program e.budget with
  | .error diagnostic =>
    e.setError diagnostic
    return none
  | .ok guest =>
    e.clearError
    let serial ← Host.newSerial
    modify fun h => { h with guests := h.guests.set serial guest }
    Host.note (.instantiated artifact.compiled.program.exports.length)
    return some ⟨serial, artifact⟩

def newInstanceFromBytes (e : Engine) (data : Guest.Image) : HostM (Option Handle) := do
  match ← e.compile data with
  | none => return none
  | some artifact => e.newInstance artifact

/-- The signature of a function of the guest; there is none for several results. -/
def signatureOf? (f : Guest.Function) : Option Signature :=
  let params := f.params.map (·.kind)
  match f.results with
  | [] => some ⟨params, .void⟩
  | [result] => some ⟨params, result.kind⟩
  | _ => none

/-- The signature of an exported function. A name that is not exported leaves no diagnostic. -/
def functionSignature (e : Engine) (handle : Handle) (name : String) :
    HostM (Option Signature) := do
  Host.record e .functionSignature
  match handle.program.export? name with
  | none =>
    -- a name that is not exported is told from a failure by the diagnostic that is missing
    e.clearError
    return none
  | some (.function f) =>
    match signatureOf? f with
    | some signature =>
      e.clearError
      return some signature
    | none =>
      e.setError ("export `" ++ name ++ "` returns " ++ toString f.results.length ++
        " values, only a single return value is supported")
      return none
  | some _ =>
    e.setError ("export `" ++ name ++ "` is not a function")
    return none

/-- The word that an integer payload becomes. -/
def wordOf (payload : HostValue) : Except PlainFault Int :=
  match payload with
  | .integer n => .ok n
  | .truth b => .ok (if b then 1 else 0)
  | _ => .error .expectedInteger

/-- The double that a float payload is. -/
def doubleOf (payload : HostValue) : Except PlainFault Double :=
  match payload with
  | .float x => .ok x
  | .scalar (.double x) => .ok x
  | _ => .error .expectedFloat

/-- The guest value of a tagged value. Integers are taken modulo the width and floats rounded to it.
A value of any other kind can only be passed as a double, for which no type stands. -/
def guestValue (v : Value) : Except PlainFault (Option Guest.GuestValue) :=
  match v.kind.numeric? with
  | some .i32 => (wordOf v.payload).map fun n => some (.i32 (BitVec.ofInt 32 n))
  | some .i64 => (wordOf v.payload).map fun n => some (.i64 (BitVec.ofInt 64 n))
  | some .f32 => (doubleOf v.payload).map fun x => some (.f32 (x.convert .single))
  | some .f64 => (doubleOf v.payload).map fun x => some (.f64 x)
  | none => (doubleOf v.payload).map fun _ => none

/-- The host value of a guest value: words come back signed and floats widened. -/
def hostValue : Guest.GuestValue → HostValue
  | .i32 w => .integer w.toInt
  | .i64 w => .integer w.toInt
  | .f32 x => .float x.toDouble
  | .f64 x => .float x
  | .null => .null

/-- The host value of the results of a call. -/
def hostResult : List Guest.GuestValue → HostValue
  | [] => .null
  | [v] => hostValue v
  | vs => .list (vs.map hostValue)

/-- Calls an exported function with values of its parameter kinds. -/
def invokeFunction (e : Engine) (handle : Handle) (name : String) (values : List Value) :
    HostAction Outcome := do
  Host.record e .invokeFunction
  match handle.program.export? name with
  | some (.function f) =>
    let params := f.params.map (·.kind)
    let given := values.map (·.kind)
    if given = params then
      Host.note (.invoking name values)
      match values.mapM guestValue with
      | .error fault => Action.fail (.plain fault)
      | .ok args =>
        match args.mapM id with
        | none => Action.fail (.plain .wrongValue)
        | some args =>
          let (result, guest) := Guest.call handle.program f args ((← get).guest handle)
          -- the guest keeps what it has done before a trap
          modify fun h => { h with guests := h.guests.set handle.serial guest }
          match result with
          | .ok results =>
            e.clearError
            return .returned (hostResult results)
          | .error trap =>
            e.setError trap.diagnostic
            return .failed
    else
      e.setError ("Call error: Parameters of type " ++ ValueKind.listText given ++
        " did not match signature " ++ ValueKind.listText params ++ " -> " ++
        ValueKind.listText (f.results.map (·.kind)))
      return .failed
  | _ =>
    e.setError ("Call error: no exported function named `" ++ name ++ "`")
    return .failed

/-- A new view over the memory that an instance exposes, if it exposes one. -/
def memoryBuffer (e : Engine) (handle : Handle) : HostM (Option MemoryView) := do
  Host.record e .memoryBuffer
  e.clearError
  match handle.program.exposedMemory? with
  | none => return none
  | some memory => return some ⟨← Host.newSerial, handle, memory⟩

/-- The operations of an engine that calls need. -/
def invoker (e : Engine) : Invoker Host Handle where
  signature? := e.functionSignature
  lastError := e.lastError
  makeValue kind argument :=
    match Value.ofHost kind argument with
    | .ok value => return value
    | .error fault => Action.fail (.plain (.coercion fault))
  invoke := e.invokeFunction
  noteFailure name diagnostic := Host.note (.invocationFailed name diagnostic)

end Engine
end WasmHost
