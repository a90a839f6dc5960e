import WasmHost.Host.MemoryBuffer
import WasmHost.Host.Module
/-!
Instances: the ways to make one, and calling its exports.

A call by name resolves the signature anew. A wrapper resolves it once, and an instance hands out
one wrapper a name.
-/
namespace WasmHost

variable [Guest.Runtime]

namespace Instance

/-- Compiles bytes and makes an instance of them, apart from any cache. -/
def build (engine : Engine) (data : Guest.Image) (headline : String) : HostAction Instance := do
  match ← engine.compile data with
  | none =>
    let diagnostic ← engine.lastError
    Action.fail (.engine .compile headline diagnostic)
  | some artifact =>
    match ← engine.newInstance artifact with
    | none =>
      let diagnostic ← engine.lastError
      Action.fail (.engine .instantiate headline diagnostic)
    | some handle =>
      let source : CompiledModule := ⟨← Host.newSerial, engine, artifact, none⟩
      return ⟨← Host.newSerial, engine, handle, source⟩

/-- An instance of the module in a file. -/
def ofFile (path : String) (engine : Option Engine) : HostAction Instance := do
  let engine ← Host.engineOr engine
  let data ← engine.fetchBytes path
  build engine data
    ("An error happened while compiling or instantiating the module `" ++ path ++ "`:")

/-- An instance of the module in bytes. -/
def ofBytes (data : Guest.Image) (engine : Option Engine) : HostAction Instance := do
  let engine ← Host.engineOr engine
  build engine data "An error happened while compiling or instantiating the module:"

/-- An instance of a compiled module. -/
def ofModule (m : CompiledModule) : HostAction Instance := m.newInstance

/-- Calls an export by name. -/
def call (i : Instance) (name : String) (arguments : List HostValue) : HostAction HostValue :=
  i.engine.invoker.dispatch i.handle name arguments

/-- The wrappers that an instance has handed out. -/
def wrappers (i : Instance) (h : Host) : List (String × ExportedFunction) :=
  h.wrappers.get i.serial

/-- The wrapper of an export: the one handed out before, or a new one. A name that cannot be
resolved is not remembered. -/
def function (i : Instance) (name : String) : HostAction ExportedFunction := do
  match (i.wrappers (← get)).lookup name with
  | some f => return f
  | none =>
    let bound ← BoundFunction.bind i.engine.invoker i.handle name
    let f : ExportedFunction := ⟨← Host.newSerial, i.engine, bound⟩
    modify fun h => { h with wrappers := h.wrappers.set i.serial (i.wrappers h ++ [(name, f)]) }
    return f

end Instance

namespace ExportedFunction

/-- Calls a wrapped export. -/
def apply (f : ExportedFunction) (arguments : List HostValue) : HostAction HostValue :=
  f.bound.apply f.engine.invoker arguments

end ExportedFunction
end WasmHost
