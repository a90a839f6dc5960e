import WasmHost.Host.Cache
import WasmHost.Host.Process
/-!
Compiled modules: where they come from and what is made of them.
-/
namespace WasmHost
namespace CompiledModule

variable [Guest.Runtime]

/-- Compiles bytes through a cache. -/
def compile (data : Guest.Image) (identifier : Option String) (cache : Option ModuleCache) :
    HostAction CompiledModule := do
  let cache ← Host.cacheOr cache
  cache.compile data identifier

/-- The first step of loading a file: the module that the cache already holds. -/
def cachedFor (cache : ModuleCache) (identifier : Option String) :
    HostM (Option CompiledModule) :=
  match identifier with
  | none => pure none
  | some key => cache.get? key

/-- Compiles a file through a cache: looks the identifier up, reads the file if that finds nothing,
and compiles what was read. -/
def ofFile (path : String) (identifier : Option String) (cache : Option ModuleCache) :
    HostAction CompiledModule := do
  let cache ← Host.cacheOr cache
  match ← cachedFor cache identifier with
  | some m => return m
  | none =>
    let data ← cache.engine.fetchBytes path
    cache.compile data identifier

/-- Whether bytes are a valid module; a strict check raises a fault when they are not. -/
def validate (data : Guest.Image) (strict : Bool) (engine : Option Engine) : HostAction Bool := do
  let engine ← Host.engineOr engine
  let valid ← engine.validate data
  if !valid && strict then
    let diagnostic ← engine.lastError
    Action.fail (.engine .validate "The module is not valid:" diagnostic)
  else return valid

/-- The serialized form of a module. -/
def serialize (m : CompiledModule) : HostAction Guest.Image := do
  match ← m.engine.serialize m.artifact with
  | some data => return data
  | none =>
    let diagnostic ← m.engine.lastError
    Action.fail (.engine .serialize "Failed to serialize the module:" diagnostic)

/-- The module of a serialized form; it has no identifier. -/
def deserialize (data : Guest.Image) (engine : Option Engine) : HostAction CompiledModule := do
  let engine ← Host.engineOr engine
  match ← engine.deserialize data with
  | some artifact => return ⟨← Host.newSerial, engine, artifact, none⟩
  | none =>
    let diagnostic ← engine.lastError
    Action.fail (.engine .deserialize "Cannot load the serialized module:" diagnostic)

/-- A new instance of a module. -/
def newInstance (m : CompiledModule) : HostAction Instance := do
  match ← m.engine.newInstance m.artifact with
  | some handle => return ⟨← Host.newSerial, m.engine, handle, m⟩
  | none =>
    let diagnostic ← m.engine.lastError
    Action.fail
      (.engine .instantiate "An error happened while instantiating the module:" diagnostic)

end CompiledModule
end WasmHost
