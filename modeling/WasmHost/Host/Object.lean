import WasmHost.Invocation
import WasmHost.Guest.Image
import WasmHost.Settings.Source
/-!
The objects that the host hands out.

Every object has a serial number, by which two objects of equal content are told apart. What can
change during the life of an object is not in it but in the state of the host.
-/
namespace WasmHost

/-- Settings as an object. -/
structure SettingsObject where
  serial : Nat
  values : Settings
  deriving DecidableEq

/-- An engine. -/
structure Engine where
  serial : Nat
  settings : SettingsObject
  deriving DecidableEq

/-- A compiled module as the engine knows it. -/
structure Artifact where
  serial : Nat
  compiled : Guest.Compiled
  deriving DecidableEq

/-- An instance as the engine knows it. -/
structure Handle where
  serial : Nat
  artifact : Artifact
  deriving DecidableEq

/-- A compiled module together with its engine and the identifier that it was compiled under. -/
structure CompiledModule where
  serial : Nat
  engine : Engine
  artifact : Artifact
  identifier : Option String
  deriving DecidableEq

/-- A cache of compiled modules. -/
structure ModuleCache where
  serial : Nat
  engine : Engine
  deriving DecidableEq

/-- A view over one memory of an instance. -/
structure MemoryView where
  serial : Nat
  handle : Handle
  memory : Nat
  deriving DecidableEq

/-- A callable for one export of an instance. -/
structure ExportedFunction where
  serial : Nat
  engine : Engine
  bound : BoundFunction Handle
  deriving DecidableEq

/-- An instance of a module with its call surface. -/
structure Instance where
  serial : Nat
  engine : Engine
  handle : Handle
  source : CompiledModule
  deriving DecidableEq

namespace Handle

/-- The program that an instance runs. -/
def program (h : Handle) : Guest.Program := h.artifact.compiled.program

end Handle

namespace CompiledModule

def exportNames (m : CompiledModule) : List String := m.artifact.compiled.program.exportNames

/-- The written form of a module; an address stands in for a missing identifier. -/
def text (m : CompiledModule) : String :=
  match m.identifier with
  | some identifier => "<Module " ++ Text.quoted identifier ++ ">"
  | none => "<Module at 0x#>"

end CompiledModule

namespace Instance

def exportNames (i : Instance) : List String := i.handle.program.exportNames

def functionNames (i : Instance) : List String := i.handle.program.functionNames

/-- The written form of an instance. -/
def text (i : Instance) : String :=
  "<Instance exports=" ++ Text.bracketed (i.exportNames.map Text.quoted) ++ ">"

end Instance
end WasmHost
