import WasmHost.Host.MemoryBuffer
import WasmHost.Proofs.Action
/-!
The phases of a request for the memory view of an instance, when nothing comes in between.

Then a request ends within the phases that it is given: with what the slot holds, or with what the
engine answers, which the slot holds from then on.
-/
namespace WasmHost.Instance

variable {i : Instance} {h h' : Host}

theorem bufferRun_step {phase next : BufferPhase} (hs : (i.bufferStep phase).run h = (next, h'))
    (n : Nat) : (i.bufferRun (n + 1) phase).run h = (i.bufferRun n next).run h' := by
  rw [bufferRun, stateM_run_bind, hs]

theorem bufferRun_done (slot : ViewSlot) (n : Nat) :
    (i.bufferRun n (.done slot)).run h = (.done slot, h) := by
  induction n with
  | zero => rfl
  | succ n ih =>
    have hstep : (i.bufferStep (.done slot)).run h = (.done slot, h) := rfl
    rw [bufferRun_step hstep, ih]

theorem looking_run : (i.bufferStep .looking).run h =
    (match i.viewSlot h with | .unset => .locking | .holds _ => .reading, h) := by
  unfold bufferStep
  rw [stateM_run_get]
  cases i.viewSlot h <;> rfl

theorem checking_run : (i.bufferStep .checking).run h =
    (match i.viewSlot h with | .unset => .asking | .holds _ => .unlocking, h) := by
  unfold bufferStep
  rw [stateM_run_get]
  cases i.viewSlot h <;> rfl

theorem locking_run (hlock : h.viewLocks.get i.serial = none) : (i.bufferStep .locking).run h =
    (.checking, { h with viewLocks := h.viewLocks.set i.serial (some h.thread) }) := by
  unfold bufferStep
  rw [stateM_run_get, hlock]
  rfl

theorem bufferPhases_run_of_holds {view : Option MemoryView} (hslot : i.viewSlot h = .holds view) :
    (i.bufferRun bufferPhases .looking).run h = (.done (.holds view), h) := by
  have hlooking : (i.bufferStep .looking).run h = (.reading, h) := by rw [looking_run, hslot]
  have hreading : (i.bufferStep .reading).run h = (.done (.holds view), h) :=
    congrArg (fun slot => (BufferPhase.done slot, h)) hslot
  rw [bufferPhases, bufferRun_step hlooking, bufferRun_step hreading, bufferRun_done]

theorem memoryBuffer_run_of_holds {view : Option MemoryView} (hslot : i.viewSlot h = .holds view) :
    i.memoryBuffer.run h = (view, h) := by
  rw [memoryBuffer, stateM_run_bind, bufferPhases_run_of_holds hslot]
  rfl

/-- The state in which the engine is asked for the view of an instance. -/
def lockedFor (i : Instance) (h : Host) : Host :=
  { h with viewLocks := h.viewLocks.set i.serial (some h.thread) }

/-- The state after the slot of an instance has been filled. -/
def filledWith (i : Instance) (view : Option MemoryView) (h : Host) : Host :=
  { h with
    views := h.views.set i.serial (.holds view)
    viewLocks := h.viewLocks.set i.serial none }

theorem bufferPhases_run_of_unset (hslot : i.viewSlot h = .unset)
    (hlock : h.viewLocks.get i.serial = none) : (i.bufferRun bufferPhases .looking).run h =
      (.done (.holds ((i.engine.memoryBuffer i.handle).run (i.lockedFor h)).1),
        i.filledWith ((i.engine.memoryBuffer i.handle).run (i.lockedFor h)).1
          ((i.engine.memoryBuffer i.handle).run (i.lockedFor h)).2) := by
  have hlooking : (i.bufferStep .looking).run h = (.locking, h) := by rw [looking_run, hslot]
  have hlocking : (i.bufferStep .locking).run h = (.checking, i.lockedFor h) := locking_run hlock
  -- nothing came in between, so the slot is still empty under the lock
  have hslot' : i.viewSlot (i.lockedFor h) = .unset := hslot
  have hchecking : (i.bufferStep .checking).run (i.lockedFor h) = (.asking, i.lockedFor h) := by
    rw [checking_run, hslot']
  generalize hasked : (i.engine.memoryBuffer i.handle).run (i.lockedFor h) = asked
  have hasking : (i.bufferStep .asking).run (i.lockedFor h) = (.filling asked.1, asked.2) := by
    rw [bufferStep, stateM_run_bind, hasked]
    rfl
  have hfilling : (i.bufferStep (.filling asked.1)).run asked.2 =
      (.unlocking, { asked.2 with views := asked.2.views.set i.serial (.holds asked.1) }) := rfl
  have hunlocking : (i.bufferStep .unlocking).run
      { asked.2 with views := asked.2.views.set i.serial (.holds asked.1) } =
        (.reading, i.filledWith asked.1 asked.2) := rfl
  have hslot'' : i.viewSlot (i.filledWith asked.1 asked.2) = .holds asked.1 :=
    Cells.get_set_self ..
  have hreading : (i.bufferStep .reading).run (i.filledWith asked.1 asked.2) =
      (.done (.holds asked.1), i.filledWith asked.1 asked.2) :=
    congrArg (fun slot => (BufferPhase.done slot, i.filledWith asked.1 asked.2)) hslot''
  rw [bufferPhases, bufferRun_step hlooking, bufferRun_step hlocking, bufferRun_step hchecking,
    bufferRun_step hasking, bufferRun_step hfilling, bufferRun_step hunlocking,
    bufferRun_step hreading]
  rfl

theorem memoryBuffer_run_of_unset (hslot : i.viewSlot h = .unset)
    (hlock : h.viewLocks.get i.serial = none) : i.memoryBuffer.run h =
      (((i.engine.memoryBuffer i.handle).run (i.lockedFor h)).1,
        i.filledWith ((i.engine.memoryBuffer i.handle).run (i.lockedFor h)).1
          ((i.engine.memoryBuffer i.handle).run (i.lockedFor h)).2) := by
  rw [memoryBuffer, stateM_run_bind, bufferPhases_run_of_unset hslot hlock]
  rfl

end WasmHost.Instance
