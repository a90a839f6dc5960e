import WasmHost.Host.Engine
/-!
The settings, the engine and the cache of the process.

Each is made when it is first asked for and stays the same from then on, except that the settings
can be forgotten. Making one that fails stores nothing, so that the next request tries again.
-/
namespace WasmHost
namespace Host

/-- Makes settings from keywords and the surroundings of the moment. -/
def newSettings (keywords : Keywords) : HostAction SettingsObject := do
  match Settings.make (← get).context keywords with
  | .error faults => Action.fail (.plain (.settings faults))
  | .ok values => return ⟨← newSerial, values⟩

/-- The settings of the process. -/
def processSettings : HostAction SettingsObject := do
  match (← get).settings with
  | some settings => return settings
  | none =>
    let settings ← newSettings .empty
    modify fun h => { h with settings := some settings }
    return settings

/-- Forgets the settings of the process. -/
def resetSettings : HostM Unit := modify fun h => { h with settings := none }

/-- Makes an engine, with the settings of the process unless others are given. -/
def newEngine (settings : Option SettingsObject) : HostAction Engine := do
  let settings ← match settings with
    | some s => pure s
    | none => processSettings
  return ⟨← newSerial, settings⟩

/-- The engine of the process. -/
def processEngine : HostAction Engine := do
  match (← get).engine with
  | some engine => return engine
  | none =>
    let engine ← newEngine none
    modify fun h => { h with engine := some engine }
    return engine

/-- An engine that may be named, or else the engine of the process. -/
def engineOr (engine : Option Engine) : HostAction Engine :=
  match engine with
  | some e => pure e
  | none => processEngine

/-- Makes an empty cache, over the engine of the process unless another is given. -/
def newCache (engine : Option Engine) : HostAction ModuleCache := do
  let engine ← engineOr engine
  return ⟨← newSerial, engine⟩

/-- The cache of the process. -/
def processCache : HostAction ModuleCache := do
  match (← get).cache with
  | some cache => return cache
  | none =>
    let cache ← newCache none
    modify fun h => { h with cache := some cache }
    return cache

/-- A cache that may be named, or else the cache of the process. -/
def cacheOr (cache : Option ModuleCache) : HostAction ModuleCache :=
  match cache with
  | some c => pure c
  | none => processCache

end Host
end WasmHost
