import WasmHost.Files.Tree
import WasmHost.Guest.Instance
import WasmHost.Host.Cells
import WasmHost.Host.Notice
import WasmHost.Host.Object
import WasmHost.Settings.Dotenv.Statements
/-!
The state of a host process: everything that can change, and the elementary actions on it.

Of each engine it keeps one diagnostic a thread, of each cache its modules, of each instance the
state of the guest, the wrappers handed out and the slot of its memory view; and of the process the
settings, engine and cache that are used where none are named.
-/
namespace WasmHost

abbrev Thread := Nat

/-- The operations of an engine whose use is recorded. -/
inductive EngineOperation where
  | compile
  | fetchBytes
  | functionSignature
  | memoryBuffer
  | invokeFunction
  | newInstance
  deriving DecidableEq, Repr

/-- The slot of an instance's memory view: empty until the engine has been asked, then what it
answered. -/
inductive ViewSlot where
  | unset
  | holds (view : Option MemoryView)
  deriving DecidableEq

/-- The state of a host. -/
structure Host where
  /-- The serial number of the next object. -/
  nextSerial : Nat
  /-- The thread that is running. -/
  thread : Thread
  /-- Where settings come from. -/
  context : SettingsContext
  files : Files.Tree
  /-- The diagnostic with which serializing fails, if it does. -/
  serializeFault : Option String
  /-- The last diagnostic of an engine on a thread. -/
  diagnostics : Cells (Nat × Thread) (Option String)
  /-- The recorded operations of engines, the latest first. -/
  operations : List (Nat × EngineOperation)
  /-- The notices, the latest first. -/
  notices : List Notice
  /-- The entries of a cache. -/
  cached : Cells Nat (List (String × CompiledModule))
  /-- The state of the guest behind a handle. -/
  guests : Cells Nat Guest.State
  /-- The wrappers that an instance has handed out, by name. -/
  wrappers : Cells Nat (List (String × ExportedFunction))
  /-- The memory view of an instance. -/
  views : Cells Nat ViewSlot
  /-- The thread that holds the lock of an instance's memory view. -/
  viewLocks : Cells Nat (Option Thread)
  settings : Option SettingsObject
  engine : Option Engine
  cache : Option ModuleCache

/-- An operation of the host that cannot fail. -/
abbrev HostM := StateM Host

/-- An operation of the host that may fail. -/
abbrev HostAction := Action Host

namespace Host

/-- A host that has done nothing yet. -/
def fresh (context : SettingsContext) (files : Files.Tree) : Host where
  nextSerial := 1
  thread := 0
  context := context
  files := files
  serializeFault := none
  diagnostics := .all none
  operations := []
  notices := []
  cached := .all []
  guests := .all .empty
  wrappers := .all []
  views := .all .unset
  viewLocks := .all none
  settings := none
  engine := none
  cache := none

/-- A host that starts in a working directory: the file of bindings is the one named `.env`. -/
def start (environment : Environment) (files : Files.Tree) : Host :=
  -- without the file, or with one that is no text, there are no bindings
  let file := match files.find (.ofString ".env") with
    | .ok (.file content _ _) =>
      (content.bytes?.bind fun bytes => String.fromUTF8? ⟨bytes.toArray⟩).map Dotenv.statements
    | _ => none
  fresh ⟨environment, file⟩ files

/-- A serial number that no object has yet. -/
def newSerial : HostM Nat :=
  modifyGet fun h => (h.nextSerial, { h with nextSerial := h.nextSerial + 1 })

def note (notice : Notice) : HostM Unit :=
  modify fun h => { h with notices := notice :: h.notices }

/-- Records that an operation of an engine was used. -/
def record (engine : Engine) (operation : EngineOperation) : HostM Unit :=
  modify fun h => { h with operations := (engine.serial, operation) :: h.operations }

/-- How often an operation of an engine was used. -/
def count (h : Host) (engine : Engine) (operation : EngineOperation) : Nat :=
  h.operations.count (engine.serial, operation)

/-- The same host with another thread running. -/
def onThread (h : Host) (thread : Thread) : Host := { h with thread }

/-- Runs an operation on another thread and comes back. -/
def runOn {α : Type} (thread : Thread) (action : HostAction α) : HostAction α := ExceptT.mk do
  -- the thread that was running runs again, also after a failure
  let former := (← get).thread
  modify (onThread · thread)
  let result ← action.run
  modify (onThread · former)
  return result

/-- Runs an operation once on each of several other threads, one after the other, and gives all
results if none has failed. -/
def onThreads {α : Type} (threads : Nat) (action : HostAction α) : HostAction (List α) :=
  ExceptT.mk do
    let results ← (List.range threads).mapM fun t => (runOn (t + 1) action).run
    return results.mapM id

/-- The guest state behind a handle. -/
def guest (h : Host) (handle : Handle) : Guest.State := h.guests.get handle.serial

/-- The memory that a view is over, as it is now. -/
def memory (h : Host) (view : MemoryView) : LinearMemory :=
  (h.guest view.handle).memory view.memory

end Host

namespace Engine

/-- The diagnostic of the last operation that failed on the running thread, unless one that
succeeded came after it. -/
def lastError (e : Engine) : HostM (Option String) :=
  return (← get).diagnostics.get (e.serial, (← get).thread)

def setDiagnostic (e : Engine) (diagnostic : Option String) : HostM Unit :=
  modify fun h =>
    { h with diagnostics := h.diagnostics.set (e.serial, h.thread) diagnostic }

def setError (e : Engine) (diagnostic : String) : HostM Unit := do
  Host.note (.engineError diagnostic)
  e.setDiagnostic (some diagnostic)

def clearError (e : Engine) : HostM Unit := e.setDiagnostic none

end Engine
end WasmHost
