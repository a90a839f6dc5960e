import WasmHost.Host.Engine
/-!
Caches of compiled modules.

A cache maps identifiers to modules. Each operation is one step: an identifier that is missing is
looked up, compiled and stored without anything in between.
-/
namespace WasmHost
namespace ModuleCache

variable [Guest.Runtime]

/-- The entries of a cache. -/
def entries (c : ModuleCache) (h : Host) : List (String × CompiledModule) := h.cached.get c.serial

/-- The module under an identifier. -/
def get? (c : ModuleCache) (identifier : String) : HostM (Option CompiledModule) :=
  return (c.entries (← get)).lookup identifier

def contains (c : ModuleCache) (identifier : String) : HostM Bool :=
  return ((c.entries (← get)).lookup identifier).isSome

def size (c : ModuleCache) : HostM Nat := return (c.entries (← get)).length

/-- Stores a module under an identifier. -/
def insert (c : ModuleCache) (identifier : String) (m : CompiledModule) : HostM Unit :=
  modify fun h =>
    -- a module under the same identifier is replaced
    let others := (c.entries h).filter (·.1 ≠ identifier)
    { h with cached := h.cached.set c.serial (others ++ [(identifier, m)]) }

/-- Compiles bytes into a module, whatever the cache holds. -/
def build (c : ModuleCache) (data : Guest.Image) (identifier : Option String) :
    HostAction CompiledModule := do
  match ← c.engine.compile data with
  | none =>
    let diagnostic ← c.engine.lastError
    Action.fail (.engine .compile "An error happened while compiling the module:" diagnostic)
  | some artifact => return ⟨← Host.newSerial, c.engine, artifact, identifier⟩

/-- The module under an identifier, compiled from bytes if the cache does not hold it. Without an
identifier the cache is not used. -/
def compile (c : ModuleCache) (data : Guest.Image) (identifier : Option String) :
    HostAction CompiledModule := do
  match identifier with
  | none => c.build data none
  | some key =>
    -- to other threads the look-up and the insertion are one step
    match ← c.get? key with
    | some m =>
      Host.note (.cacheHit key)
      return m
    | none =>
      let m ← c.build data (some key)
      c.insert key m
      return m

/-- Drops every entry; modules that were handed out stay usable. -/
def clear (c : ModuleCache) : HostM Unit := do
  let count ← c.size
  modify fun h => { h with cached := h.cached.set c.serial [] }
  Host.note (.cacheCleared count)

end ModuleCache
end WasmHost
