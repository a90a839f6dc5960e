import WasmHost.Signature
import WasmHost.Value
/-!
The call path: resolve a name, check the arguments against the signature, and invoke.

The path is written over an arbitrary engine. Arguments are checked in order, and nothing reaches
the engine's `invoke` before every argument has become a value.
-/
namespace WasmHost

/-- What an invocation comes to: a failure, or the result as it is. -/
inductive Outcome where
  | failed
  | returned (result : HostValue)

/-- The operations of an engine that calls need, over a state `σ` and instance handles `η`. -/
structure Invoker (σ η : Type) where
  /-- The signature of an exported function, if it has one. -/
  signature? : η → String → StateM σ (Option Signature)
  /-- The diagnostic of the last failed operation. -/
  lastError : StateM σ (Option String)
  /-- A value of a kind, if the kind can have one made from this host value. -/
  makeValue : ValueKind → HostValue → Action σ (Option Value)
  /-- Runs a function on values. -/
  invoke : η → String → List Value → Action σ Outcome
  /-- Takes notice of a failed invocation and its diagnostic. -/
  noteFailure : String → Option String → StateM σ Unit

/-- Why an argument does not suit the kind at its position, counted from one. -/
def argumentFault? (function : String) (position : Int) (kind : ValueKind) (argument : HostValue) :
    Option Fault :=
  let refused (reason : String) := Fault.argumentType function position kind.name (some reason)
  match kind.numeric? with
  | none => some (.unsupportedKind function position kind.name)
  -- an integer kind takes no float, and a floating-point kind no integer
  | some k =>
    if k.isInteger then
      match argument.toInteger? with
      | none => some (refused k.description)
      | some n =>
        if k.inRange n then none
        -- the reason shows the integer, and writing it may fail
        else match integerText? n with
          | some digits => some (refused (digits ++ " is out of range"))
          | none => some (.plain .integerTooLong)
    else if argument.isFloating then none
    else some (refused k.description)

/-- Why a number of arguments does not fit a signature. -/
def arityFault? (function : String) (signature : Signature) (given : Nat) : Option Fault :=
  if given < signature.arity then some (.missingArguments function signature.arity given)
  else if signature.arity < given then some (.extraArguments function signature.arity given)
  else none

/-- Raises a fault, if there is one. -/
def Action.check {σ : Type} : Option Fault → Action σ Unit
  | none => pure ()
  | some fault => Action.fail fault.raised

namespace Invoker

variable {σ η : Type} (engine : Invoker σ η)

/-- The signature of an exported function. Without a diagnostic there is no such export; with one
the export cannot be called. -/
def resolve (handle : η) (name : String) : Action σ Signature := do
  match ← engine.signature? handle name with
  | some signature => return signature
  | none => match ← engine.lastError with
    | none => Action.fail (.unknownFunction name)
    | some diagnostic => Action.fail (.unresolvedSignature name (some diagnostic))

def marshalOne (function : String) (position : Int) (kind : ValueKind) (argument : HostValue) :
    Action σ Value := do
  Action.check (argumentFault? function position kind argument)
  -- the engine may refuse a value without raising anything
  match ← engine.makeValue kind argument with
  | some value => return value
  | none => Action.fail (Fault.unsupportedKind function position kind.name).raised

/-- Checks arguments from a position on, each against its kind. -/
def marshalFrom (function : String) (position : Nat) :
    List ValueKind → List HostValue → Action σ (List Value)
  | kind :: kinds, argument :: arguments => do
    let value ← engine.marshalOne function position kind argument
    let values ← marshalFrom function (position + 1) kinds arguments
    return value :: values
  | _, _ => return []

/-- Checks the number of arguments and then each of them. -/
def marshal (function : String) (signature : Signature) (arguments : List HostValue) :
    Action σ (List Value) := do
  Action.check (arityFault? function signature arguments.length)
  engine.marshalFrom function 1 signature.params arguments

/-- Calls a function whose signature is already resolved. -/
def call (handle : η) (name : String) (signature : Signature) (arguments : List HostValue) :
    Action σ HostValue := do
  let values ← engine.marshal name signature arguments
  match ← engine.invoke handle name values with
  | .returned result => return result
  -- the diagnostic is asked for before anything else can be reported
  | .failed =>
    let diagnostic ← engine.lastError
    engine.noteFailure name diagnostic
    Action.fail (.trapped name diagnostic)

/-- Resolves a name and calls it. -/
def dispatch (handle : η) (name : String) (arguments : List HostValue) : Action σ HostValue := do
  let signature ← engine.resolve handle name
  engine.call handle name signature arguments

end Invoker

/-- A function bound to an export of an instance: its signature is the one found when it was
bound, while arguments are checked at every call. -/
structure BoundFunction (η : Type) where
  handle : η
  name : String
  signature : Signature
  deriving DecidableEq

namespace BoundFunction

variable {σ η : Type}

/-- Binds an export. -/
def bind (engine : Invoker σ η) (handle : η) (name : String) : Action σ (BoundFunction η) := do
  return ⟨handle, name, ← engine.resolve handle name⟩

def apply (engine : Invoker σ η) (f : BoundFunction η) (arguments : List HostValue) :
    Action σ HostValue :=
  engine.call f.handle f.name f.signature arguments

/-- The written form of a bound function. -/
def text (f : BoundFunction η) : String :=
  "<ExportedFunction " ++ f.name ++ " " ++ f.signature.text ++ ">"

end BoundFunction
end WasmHost
