import WasmHost.Proofs.Creation
/-!
Threads that ask an instance for its memory view at the same time.

A request looks at the slot of the view without the lock, and fills it under the lock if it is
empty. In between the phases of one request those of the others run, in any order, and so does
anything else that leaves the slot and its lock alone. All requests are given the same all the same,
because a request looks at the slot once more when it has the lock.
-/
namespace WasmHost

/-- A phase of a request that a thread has gone through, and the phase that it has come to. -/
structure BufferStep where
  thread : Thread
  phase : BufferPhase
  next : BufferPhase
  before : Host
  after : Host

namespace BufferStep

/-- What a request has read from the slot when it ends at a step. -/
def returned? (step : BufferStep) : Option ViewSlot :=
  match step.next with
  | .done slot => some slot
  | _ => none

/-- Whether an engine is asked for a memory view at a step. -/
def asks (step : BufferStep) (e : Engine) : Bool :=
  step.before.count e .memoryBuffer < step.after.count e .memoryBuffer

end BufferStep

namespace BufferPhase

/-- The phase that a request is left in; a request that has its answer has ended. -/
def left? : BufferPhase → Option BufferPhase
  | done _ => none
  | phase => some phase

theorem eq_done_of_left? {phase : BufferPhase} (hleft : phase.left? = none) :
    ∃ slot, phase = done slot := by
  cases phase with
  | done slot => exact ⟨slot, rfl⟩
  | _ => cases hleft

theorem eq_of_left? {phase next : BufferPhase} (hleft : phase.left? = some next) :
    next = phase := by
  cases phase with
  | done slot => cases hleft
  | _ => exact (Option.some.inj hleft).symm

def locked : BufferPhase → Bool
  | checking | asking | filling _ | unlocking => true
  | _ => false

end BufferPhase

namespace Instance

/-- The next phase of a request on a thread. -/
def bufferStepOn (i : Instance) (thread : Thread) (phase : BufferPhase) (h : Host) : BufferStep :=
  ⟨thread, phase, ((i.bufferStep phase).run (h.onThread thread)).1, h,
    ((i.bufferStep phase).run (h.onThread thread)).2⟩

/-- The right thing to put into the slot of an instance: a view over the memory that it exposes, or
that it exposes none. -/
def Exposes (i : Instance) : Option MemoryView → Prop
  | none => i.handle.program.exposedMemory? = none
  | some v => v.handle = i.handle ∧ i.handle.program.exposedMemory? = some v.memory

theorem exists_exposes (i : Instance) : ∃ view, i.Exposes view := by
  cases hmemory : i.handle.program.exposedMemory? with
  | none => exact ⟨none, hmemory⟩
  | some memory => exact ⟨some ⟨0, i.handle, memory⟩, rfl, hmemory⟩

end Instance

/-- A run of requests for the memory view of an instance, from the phases that they are in: at every
moment any thread goes through the next phase of its request, or begins one if it has none, or
something happens that leaves the slot of the view and its lock alone. -/
inductive BufferRun (i : Instance) :
    (Thread → Option BufferPhase) → Host → List BufferStep → (Thread → Option BufferPhase) →
      Host → Prop where
  | stop (pending : Thread → Option BufferPhase) (h : Host) : BufferRun i pending h [] pending h
  | step {pending pending' : Thread → Option BufferPhase} {h h' : Host} {steps : List BufferStep}
      (thread : Thread) {phase : BufferPhase} (due : phase = (pending thread).getD .looking)
      (rest : BufferRun i
        (Function.update pending thread (i.bufferStepOn thread phase h).next.left?)
        (i.bufferStepOn thread phase h).after steps pending' h') :
      BufferRun i pending h (i.bufferStepOn thread phase h :: steps) pending' h'
  | elsewhere {pending pending' : Thread → Option BufferPhase} {h g h' : Host}
      {steps : List BufferStep} (slot : i.viewSlot g = i.viewSlot h)
      (lock : g.viewLocks.get i.serial = h.viewLocks.get i.serial)
      (rest : BufferRun i pending g steps pending' h') : BufferRun i pending h steps pending' h'

namespace Instance

/-- All that a phase can come to. -/
inductive Moves (i : Instance) (h : Host) : BufferPhase → BufferPhase → Host → Prop where
  | finds {view : Option MemoryView} (hslot : i.viewSlot h = .holds view) :
      Moves i h .looking .reading h
  | misses (hslot : i.viewSlot h = .unset) : Moves i h .looking .locking h
  | waits {other : Thread} (hlock : h.viewLocks.get i.serial = some other) :
      Moves i h .locking .locking h
  | locks (hlock : h.viewLocks.get i.serial = none) : Moves i h .locking .checking (i.lockedFor h)
  | confirms (hslot : i.viewSlot h = .unset) : Moves i h .checking .asking h
  | yields {view : Option MemoryView} (hslot : i.viewSlot h = .holds view) :
      Moves i h .checking .unlocking h
  | asks {view : Option MemoryView} {h' : Host}
      (hasked : (i.engine.memoryBuffer i.handle).run h = (view, h')) :
      Moves i h .asking (.filling view) h'
  | fills (view : Option MemoryView) : Moves i h (.filling view) .unlocking
      { h with views := h.views.set i.serial (.holds view) }
  | unlocks : Moves i h .unlocking .reading { h with viewLocks := h.viewLocks.set i.serial none }
  | reads : Moves i h .reading (.done (i.viewSlot h)) h
  | rests (slot : ViewSlot) : Moves i h (.done slot) (.done slot) h

theorem bufferStep_moves (i : Instance) (phase : BufferPhase) (h : Host) :
    i.Moves h phase ((i.bufferStep phase).run h).1 ((i.bufferStep phase).run h).2 := by
  -- one case for each phase; only looking, locking and checking read the state
  cases phase with
  | looking =>
    rw [looking_run]
    cases hslot : i.viewSlot h with
    | unset => exact .misses hslot
    | holds view => exact .finds hslot
  | locking =>
    cases hlock : h.viewLocks.get i.serial with
    | none =>
      rw [locking_run hlock]
      exact .locks hlock
    | some other =>
      have hwaits : (i.bufferStep .locking).run h = (.locking, h) := by
        rw [bufferStep, stateM_run_get, hlock]
        -- the lock is taken, so that nothing changes
        rfl
      rw [hwaits]
      exact .waits hlock
  | checking =>
    rw [checking_run]
    cases hslot : i.viewSlot h with
    | unset => exact .confirms hslot
    | holds view => exact .yields hslot
  | asking => exact .asks rfl
  | filling view => exact .fills view
  | unlocking => exact .unlocks
  | reading => exact .reads
  | done slot => exact .rests slot

theorem memoryBuffer_exposes (i : Instance) {view : Option MemoryView} {h h' : Host}
    (hasked : (i.engine.memoryBuffer i.handle).run h = (view, h')) :
    i.Exposes view ∧ i.viewSlot h' = i.viewSlot h ∧
      h'.viewLocks.get i.serial = h.viewLocks.get i.serial := by
  unfold Engine.memoryBuffer at hasked
  -- the engine answers by the program, and counting the question touches neither
  cases hmemory : i.handle.program.exposedMemory? with
  | none =>
    rw [hmemory] at hasked
    cases hasked
    exact ⟨hmemory, rfl, rfl⟩
  | some memory =>
    rw [hmemory] at hasked
    cases hasked
    exact ⟨⟨rfl, hmemory⟩, rfl, rfl⟩

/-- What is known in a phase of the slot: it is empty as long as it is about to be filled, with what
is right, and it is full from then on. -/
def Fits (i : Instance) (slot : ViewSlot) : BufferPhase → Prop
  | .looking | .locking | .checking => True
  | .asking => slot = .unset
  | .filling view => slot = .unset ∧ i.Exposes view
  | .unlocking | .reading => slot ≠ .unset
  | .done _ => False

theorem Fits.holds {i : Instance} {slot : ViewSlot} {phase : BufferPhase} (fits : i.Fits slot phase)
    (hfree : phase.locked = false) (view : Option MemoryView) : i.Fits (.holds view) phase := by
  -- only a request that holds the lock knows the slot to be empty
  cases phase with
  | looking | locking => trivial
  | reading => exact ViewSlot.noConfusion
  | done slot => exact fits
  | checking | asking | filling view | unlocking => cases hfree

/-- What is known of a thread that is in a phase: whether it has the lock, and what the slot is. -/
structure Stands (i : Instance) (h : Host) (thread : Thread) (phase : BufferPhase) : Prop where
  holder (locked : phase.locked = true) : h.viewLocks.get i.serial = some thread
  fits : i.Fits (i.viewSlot h) phase

/-- What holds between the steps of requests: each request is in a phase that fits, and what the
slot holds is right. -/
structure Orderly (i : Instance) (pending : Thread → Option BufferPhase) (h : Host) : Prop where
  stands {thread : Thread} {phase : BufferPhase} (hp : pending thread = some phase) :
    i.Stands h thread phase
  held {view : Option MemoryView} (hv : i.viewSlot h = .holds view) : i.Exposes view

/-- The engine has been asked: the slot is full, or about to be filled. -/
def Asked (i : Instance) (pending : Thread → Option BufferPhase) (h : Host) : Prop :=
  i.viewSlot h ≠ .unset ∨ ∃ thread view, pending thread = some (.filling view)

variable {i : Instance} {pending : Thread → Option BufferPhase} {h h' : Host}
  {thread : Thread} {phase next : BufferPhase}

theorem Stands.elsewhere (stands : i.Stands h thread phase) (hslot : i.viewSlot h' = i.viewSlot h)
    (hlock : h'.viewLocks.get i.serial = h.viewLocks.get i.serial) : i.Stands h' thread phase where
  holder locked := hlock.trans (stands.holder locked)
  fits := hslot ▸ stands.fits

theorem Orderly.elsewhere (orderly : i.Orderly pending h) (hslot : i.viewSlot h' = i.viewSlot h)
    (hlock : h'.viewLocks.get i.serial = h.viewLocks.get i.serial) : i.Orderly pending h' where
  stands hp := (orderly.stands hp).elsewhere hslot hlock
  held hv := orderly.held (hslot ▸ hv)

theorem Orderly.due (orderly : i.Orderly pending h)
    (due : phase = (pending thread).getD .looking) : i.Stands h thread phase := by
  cases hp : pending thread with
  | none =>
    -- a request that begins stands in the first phase, of which nothing is assumed
    rw [hp] at due
    exact due ▸ ⟨fun locked => Bool.noConfusion locked, trivial⟩
  | some former =>
    rw [hp] at due
    exact due ▸ orderly.stands hp

theorem Orderly.exclusive (orderly : i.Orderly pending h) (stands : i.Stands h thread phase)
    (locked : phase.locked = true) {other : Thread} (hother : other ≠ thread)
    {phase' : BufferPhase} (hp : pending other = some phase') : phase'.locked = false := by
  cases hphase : phase'.locked with
  | false => rfl
  -- two holders of one lock are one thread
  | true =>
    have hsame : some other = some thread :=
      ((orderly.stands hp).holder hphase).symm.trans (stands.holder locked)
    exact absurd (Option.some.inj hsame) hother

theorem Orderly.update (held : ∀ view, i.viewSlot h' = .holds view → i.Exposes view)
    (own : ∀ phase', next.left? = some phase' → i.Stands h' thread phase')
    (others : ∀ other ≠ thread, ∀ phase', pending other = some phase' →
      i.Stands h' other phase') :
    i.Orderly (Function.update pending thread next.left?) h' where
  stands {other phase'} hp := by
    by_cases hother : other = thread
    · subst hother
      rw [Function.update_self] at hp
      exact own phase' hp
    · rw [Function.update_of_ne hother] at hp
      exact others other hother phase' hp
  held hv := held _ hv

theorem Orderly.moves (orderly : i.Orderly pending h) (stands : i.Stands h thread phase)
    (moves : i.Moves (h.onThread thread) phase next h') :
    i.Orderly (Function.update pending thread next.left?) h' := by
  -- the phases that leave slot and lock alone move only the own request
  have apart {g : Host} {next' : BufferPhase} (hslot : i.viewSlot g = i.viewSlot h)
      (hlock : g.viewLocks.get i.serial = h.viewLocks.get i.serial)
      (own : ∀ phase', next'.left? = some phase' → i.Stands g thread phase') :
      i.Orderly (Function.update pending thread next'.left?) g :=
    have still := orderly.elsewhere hslot hlock
    .update (fun _ hv => still.held hv) own fun _ _ _ hp => still.stands hp
  cases moves with
  -- a full slot is what the next phase reads
  | finds hslot =>
    refine apart rfl rfl fun phase' hp => ?_
    obtain rfl : BufferPhase.reading = phase' := Option.some.inj hp
    exact ⟨fun locked => Bool.noConfusion locked, fun hunset => by cases hslot.symm.trans hunset⟩
  | misses hslot | waits hlock =>
    refine apart rfl rfl fun phase' hp => ?_
    obtain rfl : BufferPhase.locking = phase' := Option.some.inj hp
    exact ⟨fun locked => Bool.noConfusion locked, trivial⟩
  | locks hlock =>
    -- nobody had the lock, so no other request was in a phase with it
    refine .update (fun _ hv => orderly.held hv) (fun phase' hp => ?_) fun other _ phase' hp => ?_
    · obtain rfl : BufferPhase.checking = phase' := Option.some.inj hp
      exact ⟨fun _ => Cells.get_set_self .., trivial⟩
    · refine ⟨fun locked => ?_, (orderly.stands hp).fits⟩
      have hheld := (orderly.stands hp).holder locked
      cases hheld.symm.trans hlock
  | confirms hslot =>
    refine apart rfl rfl fun phase' hp => ?_
    obtain rfl : BufferPhase.asking = phase' := Option.some.inj hp
    exact ⟨fun _ => stands.holder rfl, hslot⟩
  -- another request has filled the slot before this one had the lock
  | yields hslot =>
    refine apart rfl rfl fun phase' hp => ?_
    obtain rfl : BufferPhase.unlocking = phase' := Option.some.inj hp
    exact ⟨fun _ => stands.holder rfl, fun hunset => by cases hslot.symm.trans hunset⟩
  -- the engine answers what is right for the slot, which is still empty
  | @asks view _ hasked =>
    obtain ⟨exposes, hslot, hlock⟩ := i.memoryBuffer_exposes hasked
    refine apart hslot hlock fun phase' hp => ?_
    obtain rfl : BufferPhase.filling view = phase' := Option.some.inj hp
    exact ⟨fun _ => hlock.trans (stands.holder rfl), hslot.trans stands.fits, exposes⟩
  -- the others have not got the lock, so none of them relies on the slot being empty
  | fills view =>
    obtain ⟨hunset, exposes⟩ := stands.fits
    have hfilled : i.viewSlot { h.onThread thread with
        views := h.views.set i.serial (.holds view) } = .holds view := Cells.get_set_self ..
    refine .update (fun view' hv => ?_) (fun phase' hp => ?_) fun other hother phase' hp => ?_
    · obtain rfl : view = view' := ViewSlot.holds.inj (hfilled.symm.trans hv)
      exact exposes
    · obtain rfl : BufferPhase.unlocking = phase' := Option.some.inj hp
      exact ⟨fun _ => stands.holder rfl, fun hunset => by cases hfilled.symm.trans hunset⟩
    · have hfree := orderly.exclusive stands rfl hother hp
      refine ⟨(orderly.stands hp).holder, ?_⟩
      exact hfilled.symm ▸ (orderly.stands hp).fits.holds hfree view
  -- the lock is given back, and no other request was in a phase with it
  | unlocks =>
    refine .update (fun _ hv => orderly.held hv) (fun phase' hp => ?_) fun other hother phase' hp =>
      ?_
    · obtain rfl : BufferPhase.reading = phase' := Option.some.inj hp
      exact ⟨fun locked => Bool.noConfusion locked, stands.fits⟩
    · have hfree := orderly.exclusive stands rfl hother hp
      exact ⟨fun locked => Bool.noConfusion (hfree.symm.trans locked), (orderly.stands hp).fits⟩
  | reads | rests slot => exact apart rfl rfl fun phase' hp => by cases hp

theorem Stands.kept (stands : i.Stands h thread phase)
    (moves : i.Moves (h.onThread thread) phase next h') {view : Option MemoryView}
    (hview : i.viewSlot h = .holds view) : i.viewSlot h' = .holds view := by
  cases moves with
  -- only filling changes the slot, and it fills an empty one
  | asks hasked => exact (i.memoryBuffer_exposes hasked).2.1.trans hview
  | fills view' =>
    have hunset : i.viewSlot h = .unset := stands.fits.1
    cases hunset.symm.trans hview
  | _ => exact hview

theorem Orderly.not_asking (orderly : i.Orderly pending h) (asked : i.Asked pending h)
    (stands : i.Stands h thread phase) (due : phase = (pending thread).getD .looking) :
    phase ≠ .asking := by
  rintro rfl
  rcases asked with hfull | ⟨other, view, hp⟩
  · exact hfull stands.fits
  -- the one that is about to fill the slot holds the lock, so it is this very request
  · have hlock := (orderly.stands hp).holder rfl
    obtain rfl : other = thread := Option.some.inj (hlock.symm.trans (stands.holder rfl))
    rw [hp] at due
    cases due

theorem Asked.moves (asked : i.Asked pending h) (stands : i.Stands h thread phase)
    (due : phase = (pending thread).getD .looking)
    (moves : i.Moves (h.onThread thread) phase next h') :
    i.Asked (Function.update pending thread next.left?) h' := by
  rcases asked with hfull | ⟨other, view, hp⟩
  · cases hslot : i.viewSlot h with
    | unset => exact absurd hslot hfull
    | holds view =>
      have hkept := stands.kept moves hslot
      exact Or.inl fun hunset => by cases hkept.symm.trans hunset
  -- the request that is about to fill the slot either does so now or is not the one that moves
  · by_cases hother : other = thread
    · subst hother
      rw [hp] at due
      subst due
      cases moves with
      | fills =>
        have hfilled : i.viewSlot { h.onThread other with
            views := h.views.set i.serial (.holds view) } = .holds view := Cells.get_set_self ..
        exact Or.inl fun hunset => by cases hfilled.symm.trans hunset
    · exact Or.inr ⟨other, view, by rw [Function.update_of_ne hother, hp]⟩

theorem Moves.asking (moves : i.Moves h phase next h')
    (hmore : h.count i.engine .memoryBuffer < h'.count i.engine .memoryBuffer) :
    phase = .asking := by
  cases moves with
  | asks => rfl
  | _ => exact absurd hmore (Nat.lt_irrefl _)

theorem asked_of_asking :
    i.Asked (Function.update pending thread (i.bufferStepOn thread .asking h).next.left?)
      (i.bufferStepOn thread .asking h).after :=
  Or.inr ⟨thread, _, Function.update_self ..⟩

theorem Stands.returned (stands : i.Stands h thread phase) {slot : ViewSlot}
    (moves : i.Moves (h.onThread thread) phase (.done slot) h') :
    ∃ view, slot = .holds view ∧ i.viewSlot h = .holds view := by
  cases moves with
  | reads =>
    cases hslot : i.viewSlot h with
    | unset => exact absurd hslot stands.fits
    | holds view => exact ⟨view, hslot, rfl⟩
  | rests => exact stands.fits.elim

end Instance

theorem BufferStep.done_of_returned {step : BufferStep} {slot : ViewSlot}
    (hreturned : step.returned? = some slot) : step.next = .done slot := by
  unfold returned? at hreturned
  split at hreturned
  · next hnext => rw [hnext, Option.some.inj hreturned]
  · cases hreturned

namespace BufferRun

variable {i : Instance} {pending pending' : Thread → Option BufferPhase} {h h' : Host}
  {steps : List BufferStep}

theorem orderly (run : BufferRun i pending h steps pending' h') (start : i.Orderly pending h) :
    i.Orderly pending' h' := by
  -- by induction on the run, with the invariant carried from step to step
  induction run with
  | stop pending h => exact start
  | @step _ _ h _ _ thread phase due rest ih =>
    exact ih (start.moves (start.due due) (i.bufferStep_moves phase (h.onThread thread)))
  | elsewhere slot lock rest ih => exact ih (start.elsewhere slot lock)

theorem kept (run : BufferRun i pending h steps pending' h') (start : i.Orderly pending h)
    {view : Option MemoryView} (hview : i.viewSlot h = .holds view) :
    i.viewSlot h' = .holds view := by
  induction run with
  | stop pending h => exact hview
  | @step _ _ h _ _ thread phase due rest ih =>
    have hmoves := i.bufferStep_moves phase (h.onThread thread)
    have stands := start.due due
    exact ih (start.moves stands hmoves) (stands.kept hmoves hview)
  | elsewhere slot lock rest ih => exact ih (start.elsewhere slot lock) (slot.trans hview)

theorem returned (run : BufferRun i pending h steps pending' h') (start : i.Orderly pending h) :
    ∀ step ∈ steps, ∀ slot, step.returned? = some slot →
      ∃ view, slot = .holds view ∧ i.viewSlot h' = .holds view := by
  induction run with
  | stop pending h => exact fun step hstep => absurd hstep List.not_mem_nil
  | @step _ _ h _ steps thread phase due rest ih =>
    have hmoves := i.bufferStep_moves phase (h.onThread thread)
    have stands := start.due due
    have hnext := start.moves stands hmoves
    -- the slot was full when the request ended, and a full slot stays
    refine List.forall_mem_cons.mpr ⟨fun slot hreturned => ?_, ih hnext⟩
    have hdone := BufferStep.done_of_returned hreturned
    change ((i.bufferStep phase).run (h.onThread thread)).1 = .done slot at hdone
    obtain ⟨view, hslot, hview⟩ := stands.returned (hdone ▸ hmoves)
    exact ⟨view, hslot, rest.kept hnext (stands.kept hmoves hview)⟩
  | elsewhere slot lock rest ih => exact ih (start.elsewhere slot lock)

theorem not_asks (run : BufferRun i pending h steps pending' h') (start : i.Orderly pending h)
    (asked : i.Asked pending h) : ∀ step ∈ steps, step.asks i.engine = false := by
  induction run with
  | stop pending h => exact fun step hstep => absurd hstep List.not_mem_nil
  | @step _ _ h _ steps thread phase due rest ih =>
    have hmoves := i.bufferStep_moves phase (h.onThread thread)
    have stands := start.due due
    refine List.forall_mem_cons.mpr
      ⟨?_, ih (start.moves stands hmoves) (asked.moves stands due hmoves)⟩
    -- the count grows in the phase of asking only, and no request comes to it again
    apply decide_eq_false
    intro hmore
    exact start.not_asking asked stands due (hmoves.asking hmore)
  | elsewhere slot lock rest ih =>
    exact ih (start.elsewhere slot lock) (asked.imp_left fun hfull => slot ▸ hfull)

theorem asks_once (run : BufferRun i pending h steps pending' h') (start : i.Orderly pending h) :
    steps.countP (·.asks i.engine) ≤ 1 := by
  induction run with
  | stop pending h => exact Nat.zero_le 1
  | @step _ _ h _ steps thread phase due rest ih =>
    have hmoves := i.bufferStep_moves phase (h.onThread thread)
    have hnext := start.moves (start.due due) hmoves
    cases hasks : (i.bufferStepOn thread phase h).asks i.engine with
    | false =>
      rw [List.countP_cons_of_neg (by simp [hasks])]
      exact ih hnext
    | true =>
      -- this step asks, and behind it the engine has been asked
      obtain rfl : phase = .asking := hmoves.asking (of_decide_eq_true hasks)
      have hnone : steps.countP (·.asks i.engine) = 0 := by
        apply List.countP_eq_zero.mpr
        intro step hstep
        simp [rest.not_asks hnext Instance.asked_of_asking step hstep]
      calc (i.bufferStepOn thread .asking h :: steps).countP (·.asks i.engine)
          = steps.countP (·.asks i.engine) + 1 := List.countP_cons_of_pos hasks
        _ ≤ 1 := by rw [hnone]
  | elsewhere slot lock rest ih => exact ih (start.elsewhere slot lock)

theorem append {middle : Thread → Option BufferPhase} {g : Host} {later : List BufferStep}
    (run : BufferRun i pending h steps middle g) (rest : BufferRun i middle g later pending' h') :
    BufferRun i pending h (steps ++ later) pending' h' := by
  induction run with
  | stop pending h => exact rest
  | step thread due run ih => exact .step thread due (ih rest)
  | elsewhere slot lock run ih => exact .elsewhere slot lock (ih rest)

theorem of_bufferRun {thread : Thread} {phase : BufferPhase} (hphase : phase.left? = some phase)
    (due : phase = (pending thread).getD .looking) {n : Nat} {slot : ViewSlot}
    (hrun : (i.bufferRun n phase).run (h.onThread thread) = (.done slot, h')) :
    ∃ steps, BufferRun i pending h steps (Function.update pending thread none) h' ∧
      steps.getLast?.bind BufferStep.returned? = some slot := by
  -- by induction on the number of phases that the request may still take
  induction n generalizing pending h phase with
  | zero =>
    obtain ⟨rfl, -⟩ := Prod.ext_iff.mp hrun
    cases hphase
  | succ n ih =>
    -- the thread that has gone through a phase is still the one that runs
    have hthread : (i.bufferStepOn thread phase h).after.onThread thread =
        (i.bufferStepOn thread phase h).after := by
      have hsame := ((i.bufferStep_touches phase).run (h.onThread thread)).same .thread (by decide)
      exact congrArg (Host.onThread _) hsame.symm
    have hstep : (i.bufferStep phase).run (h.onThread thread) =
        ((i.bufferStepOn thread phase h).next, (i.bufferStepOn thread phase h).after) := rfl
    rw [Instance.bufferRun_step hstep] at hrun
    cases hleft : (i.bufferStepOn thread phase h).next.left? with
    -- the request ends with this phase
    | none =>
      obtain ⟨slot', hdone⟩ := BufferPhase.eq_done_of_left? hleft
      rw [hdone, Instance.bufferRun_done] at hrun
      obtain ⟨hslot, rfl⟩ := Prod.ext_iff.mp hrun
      have hstop : BufferRun i (Function.update pending thread
            (i.bufferStepOn thread phase h).next.left?) (i.bufferStepOn thread phase h).after []
          (Function.update pending thread none) (i.bufferStepOn thread phase h).after :=
        hleft ▸ .stop _ _
      refine ⟨_, .step thread due hstop, ?_⟩
      rw [List.getLast?_singleton, Option.bind_some, BufferStep.returned?, hdone,
        BufferPhase.done.inj hslot]
    -- the request goes on, and is what the thread is in the middle of
    | some next =>
      obtain rfl := BufferPhase.eq_of_left? hleft
      have hdue : (i.bufferStepOn thread phase h).next =
          (Function.update pending thread (i.bufferStepOn thread phase h).next.left? thread).getD
            .looking := by
        rw [Function.update_self, hleft, Option.getD_some]
      obtain ⟨steps, rest, hlast⟩ := ih hleft hdue (hthread.symm ▸ hrun)
      rw [Function.update_idem] at rest
      refine ⟨_, .step thread due rest, ?_⟩
      cases steps with
      | nil => cases hlast
      | cons first later => exact hlast

variable [Platform]

/-- A request of a thread that is in the middle of none, with nothing in between while the lock is
free, is the operation that gives the view of an instance. -/
theorem of_memoryBuffer {thread : Thread} (hidle : pending thread = none)
    (hfree : h.viewLocks.get i.serial = none) :
    ∃ steps view,
      BufferRun i pending h steps pending ((Operation.memoryBuffer i).after thread h) ∧
      steps.getLast?.bind BufferStep.returned? = some (.holds view) ∧
      (Operation.memoryBuffer i).outcome thread h = .ok (.view view) := by
  obtain ⟨view, h', hrun⟩ : ∃ view h',
      (i.bufferRun Instance.bufferPhases .looking).run (h.onThread thread) =
        (.done (.holds view), h') := by
    -- with the lock free a request comes to its end, whether the slot is full or empty
    cases hslot : i.viewSlot (h.onThread thread) with
    | unset => exact ⟨_, _, Instance.bufferPhases_run_of_unset hslot hfree⟩
    | holds view => exact ⟨view, _, Instance.bufferPhases_run_of_holds hslot⟩
  have hbuffer : i.memoryBuffer.run (h.onThread thread) = (view, h') := by
    rw [Instance.memoryBuffer, stateM_run_bind, hrun]
    rfl
  -- an idle thread begins by looking
  have hdue : BufferPhase.looking = (pending thread).getD .looking := by rw [hidle]; rfl
  obtain ⟨steps, run, hlast⟩ := of_bufferRun rfl hdue hrun
  rw [← hidle, Function.update_eq_self] at run
  have hperform : (Operation.memoryBuffer i).perform.run.run (h.onThread thread) =
      (.ok (.view view), h') := by
    rw [Operation.perform, Action.run_lift_bind, hbuffer]
    rfl
  refine ⟨steps, view, ?_, hlast, congrArg Prod.fst hperform⟩
  have hafter : (Operation.memoryBuffer i).after thread h = h' := congrArg Prod.snd hperform
  exact hafter ▸ run

end BufferRun

namespace Instance

theorem Moves.apart {i j : Instance} {h h' : Host} {phase next : BufferPhase}
    (moves : j.Moves h phase next h') (hne : i.serial ≠ j.serial) :
    i.viewSlot h' = i.viewSlot h ∧
      h'.viewLocks.get i.serial = h.viewLocks.get i.serial := by
  -- the slot and the lock of another instance are other cells
  cases moves with
  | locks hlock => exact ⟨rfl, Cells.get_set_of_ne _ hne _⟩
  | asks hasked =>
    have same := (j.engine.memoryBuffer_touches j.handle).run h
    rw [hasked] at same
    have hviews : _ = h.views := same.same .views (by decide)
    have hlocks : _ = h.viewLocks := same.same .viewLocks (by decide)
    exact ⟨congrArg (Cells.get · i.serial) hviews, congrArg (Cells.get · i.serial) hlocks⟩
  | fills view => exact ⟨Cells.get_set_of_ne _ hne _, rfl⟩
  | unlocks => exact ⟨rfl, Cells.get_set_of_ne _ hne _⟩
  | _ => exact ⟨rfl, rfl⟩

theorem bufferRun_apart {i j : Instance} (hne : i.serial ≠ j.serial) (n : Nat)
    (phase : BufferPhase) (h : Host) :
    i.viewSlot ((j.bufferRun n phase).run h).2 = i.viewSlot h ∧
      ((j.bufferRun n phase).run h).2.viewLocks.get i.serial = h.viewLocks.get i.serial := by
  induction n generalizing phase h with
  -- by induction on the number of phases
  | zero => exact ⟨rfl, rfl⟩
  | succ n ih =>
    obtain ⟨hslot, hlock⟩ := (j.bufferStep_moves phase h).apart hne
    rw [bufferRun, stateM_run_bind]
    obtain ⟨hslot', hlock'⟩ := ih ((j.bufferStep phase).run h).1 ((j.bufferStep phase).run h).2
    exact ⟨hslot'.trans hslot, hlock'.trans hlock⟩

end Instance

section

variable [Platform]

namespace Operation

/-- No operation but asking an instance for its memory view touches the slot of the view or its
lock: no call, no growth of the memory and no reading of it. -/
theorem after_apart {op : Operation} {i : Instance}
    (hop : ∀ j, op = memoryBuffer j → i.serial ≠ j.serial) (thread : Thread) (h : Host) :
    i.viewSlot (op.after thread h) = i.viewSlot h ∧
      (op.after thread h).viewLocks.get i.serial = h.viewLocks.get i.serial := by
  -- most operations do not touch views or locks of any instance
  have same := op.after_sameBut thread h
  have apart (hviews : .views ∉ HostPart.thread :: op.parts)
      (hlocks : .viewLocks ∉ HostPart.thread :: op.parts) :
      i.viewSlot (op.after thread h) = i.viewSlot h ∧
        (op.after thread h).viewLocks.get i.serial = h.viewLocks.get i.serial :=
    ⟨congrArg (Cells.get · i.serial) (same.same .views hviews),
      congrArg (Cells.get · i.serial) (same.same .viewLocks hlocks)⟩
  cases op with
  | memoryBuffer j =>
    have hafter : (memoryBuffer j).after thread h =
        ((j.bufferRun Instance.bufferPhases .looking).run (h.onThread thread)).2 := by
      unfold after perform
      rw [Action.run_lift_bind, Instance.memoryBuffer, stateM_run_bind]
      split <;> rfl
    rw [hafter]
    exact Instance.bufferRun_apart (hop j rfl) Instance.bufferPhases .looking (h.onThread thread)
  | _ =>
    apply apart
    all_goals
      dsimp only [parts]
      decide

end Operation

omit [Platform] in
theorem Instance.Untouched.orderly {i : Instance} {h : Host} (untouched : i.Untouched h) :
    i.Orderly (fun _ => none) h where
  stands hp := by cases hp
  held hv := by cases untouched.slot.symm.trans hv

/-- However the phases of requests for the memory view of an instance interleave, from when it is
made on, all requests are given the same: one and the same view over the memory that the instance
exposes, or nothing if it exposes none. The engine is asked at most once. In between anything else
may be done, like calling functions that let the memory grow and reading it; and a request with
nothing in between is part of such a run as well. -/
theorem History.views_agree {events : List Event} {h₀ : Host} (history : History events h₀)
    {op : Operation} (known : op.objects ⊆ Known events) {creator : Thread} {i : Instance}
    (made : op.outcome creator h₀ = .ok (.running i)) :
    (∀ steps pending h, BufferRun i (fun _ => none) (op.after creator h₀) steps pending h →
      (∃ view, i.Exposes view ∧
        ∀ step ∈ steps, ∀ slot, step.returned? = some slot → slot = .holds view) ∧
      steps.countP (·.asks i.engine) ≤ 1) ∧
    (∀ (other : Operation) (thread : Thread) (pending : Thread → Option BufferPhase) (h : Host),
      (∀ j, other = .memoryBuffer j → i.serial ≠ j.serial) →
        BufferRun i pending h [] pending (other.after thread h)) ∧
    ∀ (thread : Thread) (pending : Thread → Option BufferPhase) (h : Host),
      pending thread = none → h.viewLocks.get i.serial = none →
        ∃ steps view,
          BufferRun i pending h steps pending ((Operation.memoryBuffer i).after thread h) ∧
          steps.getLast?.bind BufferStep.returned? = some (.holds view) ∧
          (Operation.memoryBuffer i).outcome thread h = .ok (.view view) := by
  obtain ⟨K, ledger, hknown⟩ := history.ledger
  have untouched := Operation.made_untouched ledger (fun _ ho => hknown (known ho)) creator made
  refine ⟨fun steps pending h run => ⟨?_, run.asks_once untouched.orderly⟩, ?_, ?_⟩
  · have hreturned := run.returned untouched.orderly
    have hheld := run.orderly untouched.orderly
    cases hslot : i.viewSlot h with
    | holds view =>
      refine ⟨view, hheld.held hslot, fun step hstep slot hslot' => ?_⟩
      obtain ⟨view', rfl, hview'⟩ := hreturned step hstep slot hslot'
      exact hview'.symm.trans hslot
    | unset =>
      -- nothing has been returned yet, and what would be right is in any case there
      obtain ⟨view, hview⟩ := i.exists_exposes
      refine ⟨view, hview, fun step hstep slot hslot' => ?_⟩
      obtain ⟨view', -, hview'⟩ := hreturned step hstep slot hslot'
      cases hview'.symm.trans hslot
  · intro other thread pending h hother
    obtain ⟨hslot, hlock⟩ := Operation.after_apart hother thread h
    exact .elsewhere hslot hlock (.stop pending _)
  · intro thread pending h hidle hfree
    exact BufferRun.of_memoryBuffer hidle hfree

end

section

attribute [local instance] Platform.machine

/-- Two threads ask for the memory view of a new instance, and both find the slot empty. One of them
has to wait for the lock, while a third thread lets the memory grow. Both are given one view. -/
theorem History.views_agree_racing :
    let p : Guest.Program := ⟨[], [⟨1, none⟩], [], none,
      [⟨"memory", .memory 0⟩, ⟨"grow", .function ⟨[.i32], [.i32], .grow⟩⟩]⟩
    let e : Engine := ⟨2, ⟨1, .default⟩⟩
    let i : Instance := ⟨6, e, ⟨4, ⟨3, ⟨p, false, false⟩⟩⟩, ⟨5, e, ⟨3, ⟨p, false, false⟩⟩, none⟩⟩
    let v : MemoryView := ⟨7, i.handle, 0⟩
    let makes := Operation.instanceOfBytes (.ofProgram p) none
    let grows := Operation.call i "grow" [.integer 1]
    let h := makes.after 0 (Host.fresh ⟨.empty, none⟩ ⟨[]⟩)
    let look₀ := i.bufferStepOn 0 .looking h
    let look₁ := i.bufferStepOn 1 .looking look₀.after
    let lock₀ := i.bufferStepOn 0 .locking look₁.after
    let wait₁ := i.bufferStepOn 1 .locking lock₀.after
    let check₀ := i.bufferStepOn 0 .checking (grows.after 2 wait₁.after)
    let ask₀ := i.bufferStepOn 0 .asking check₀.after
    let fill₀ := i.bufferStepOn 0 (.filling (some v)) ask₀.after
    let unlock₀ := i.bufferStepOn 0 .unlocking fill₀.after
    let lock₁ := i.bufferStepOn 1 .locking unlock₀.after
    let check₁ := i.bufferStepOn 1 .checking lock₁.after
    let read₀ := i.bufferStepOn 0 .reading check₁.after
    let unlock₁ := i.bufferStepOn 1 .unlocking read₀.after
    let read₁ := i.bufferStepOn 1 .reading unlock₁.after
    let steps := [look₀, look₁, lock₀, wait₁, check₀, ask₀, fill₀, unlock₀, lock₁, check₁, read₀,
      unlock₁, read₁]
    (∃ pending h', BufferRun i (fun _ => none) h steps pending h') ∧
      steps.filterMap BufferStep.returned? = [.holds (some v), .holds (some v)] ∧
      (∃ view, i.Exposes view ∧
        ∀ step ∈ steps, ∀ slot, step.returned? = some slot → slot = .holds view) ∧
      steps.countP (·.asks i.engine) ≤ 1 ∧
      (read₁.after.guest i.handle).memories.map LinearMemory.pages = [2] := by
  intro p e i v makes grows h look₀ look₁ lock₀ wait₁ check₀ ask₀ fill₀ unlock₀ lock₁ check₁ read₀
    unlock₁ read₁ steps
  have hmade : makes.outcome 0 (Host.fresh ⟨.empty, none⟩ ⟨[]⟩) = .ok (.running i) := rfl
  have hknown : makes.objects ⊆ Known [] := Set.empty_subset _
  obtain ⟨hagree, -, -⟩ := (History.start ⟨.empty, none⟩ ⟨[]⟩).views_agree hknown hmade
  have hgrows : ∀ j, grows = .memoryBuffer j → i.serial ≠ j.serial := fun j hj => nomatch hj
  obtain ⟨hslot, hlock⟩ := Operation.after_apart hgrows 2 wait₁.after
  have hruns : ∃ pending h', BufferRun i (fun _ => none) h steps pending h' := by
    refine ⟨_, _, .step 0 ?_ (.step 1 ?_ (.step 0 ?_ (.step 1 ?_ (.elsewhere hslot hlock
      (.step 0 ?_ (.step 0 ?_ (.step 0 ?_ (.step 0 ?_ (.step 1 ?_ (.step 1 ?_
        (.step 0 ?_ (.step 1 ?_ (.step 1 ?_ (.stop _ _))))))))))))))⟩
    all_goals decide +kernel
  obtain ⟨pending, h', run⟩ := hruns
  obtain ⟨hview, hasks⟩ := hagree steps pending h' run
  exact ⟨⟨pending, h', run⟩, by decide +kernel, hview, hasks, by decide +kernel⟩

end

end WasmHost
