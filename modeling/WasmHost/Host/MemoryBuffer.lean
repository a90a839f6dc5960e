import WasmHost.Host.Engine
/-!
The memory view of an instance, which is made once.

A request goes through phases. It looks at the slot without the lock; if the slot is empty it takes
the lock, looks again, and only then asks the engine and fills the slot. Requests of several threads
may be interleaved phase by phase, and a request waits where another thread holds the lock.
-/
namespace WasmHost

/-- How far a request for the memory view has come. -/
inductive BufferPhase where
  /-- About to look at the slot without the lock. -/
  | looking
  /-- About to take the lock. -/
  | locking
  /-- Has the lock and is about to look again. -/
  | checking
  /-- Has the lock and is about to ask the engine. -/
  | asking
  /-- Has the lock and is about to fill the slot. -/
  | filling (view : Option MemoryView)
  /-- About to give the lock back. -/
  | unlocking
  /-- About to read the slot. -/
  | reading
  /-- Has the answer. -/
  | done (slot : ViewSlot)
  deriving DecidableEq

namespace Instance

def viewSlot (i : Instance) (h : Host) : ViewSlot := h.views.get i.serial

def setViewLock (i : Instance) (holder : Option Thread) : HostM Unit :=
  modify fun h => { h with viewLocks := h.viewLocks.set i.serial holder }

/-- One phase of a request on the running thread. -/
def bufferStep (i : Instance) : BufferPhase → HostM BufferPhase
  | .looking => do
    match i.viewSlot (← get) with
    | .unset => return .locking
    | .holds _ => return .reading
  | .locking => do
    match (← get).viewLocks.get i.serial with
    | some _ => return .locking
    | none =>
      i.setViewLock (some (← get).thread)
      return .checking
  | .checking => do
    match i.viewSlot (← get) with
    | .unset => return .asking
    | .holds _ => return .unlocking
  | .asking => do
    return .filling (← i.engine.memoryBuffer i.handle)
  | .filling view => do
    modify fun h => { h with views := h.views.set i.serial (.holds view) }
    return .unlocking
  | .unlocking => do
    i.setViewLock none
    return .reading
  | .reading => do
    return .done (i.viewSlot (← get))
  | .done slot => return .done slot

/-- Runs a request for a number of phases. -/
def bufferRun (i : Instance) : Nat → BufferPhase → HostM BufferPhase
  | 0, phase => return phase
  | n + 1, phase => do i.bufferRun n (← i.bufferStep phase)

/-- The phases of a request that never waits. -/
def bufferPhases : Nat := 7

/-- The view over the memory that an instance exposes. The engine is asked once; after that the
answer stays the same. -/
def memoryBuffer (i : Instance) : HostM (Option MemoryView) := do
  match ← i.bufferRun bufferPhases .looking with
  | .done (.holds view) => return view
  | _ => return none

end Instance
end WasmHost
