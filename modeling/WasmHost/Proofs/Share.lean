import WasmHost.Proofs.Callables
/-!
What a host keeps of an instance, and what operations on the instance do to it.

The share of an instance is the state of its guest, the callables that it has handed out, the slot
of its memory view, and the number that the next object gets. What an operation on the instance
gives and what it makes of the share depend on the share alone. Of the share of another instance it
changes nothing but the number of the next object.
-/
namespace WasmHost

/-- What a host keeps of an instance. -/
structure Share where
  guest : Guest.State
  wrappers : List (String × ExportedFunction)
  slot : ViewSlot
  lock : Option Thread
  next : Nat

namespace Share

variable {α : Type}

/-- What depends on the guest alone and changes it alone. -/
def ofGuest (run : Guest.State → Except Failure α × Guest.State) (s : Share) :
    Except Failure α × Share := ((run s.guest).1, { s with guest := (run s.guest).2 })

/-- Looking a callable up: one that was handed out before, or else a new one. -/
def function (i : Instance) (name : String) (s : Share) : Except Failure ExportedFunction × Share :=
  match s.wrappers.lookup name, i.handle.program.resolution name with
  | some f, _ => (.ok f, s)
  | none, .error failure => (.error failure, s)
  | none, .ok signature =>
    let f : ExportedFunction := ⟨s.next, i.engine, ⟨i.handle, name, signature⟩⟩
    (.ok f, { s with wrappers := s.wrappers ++ [(name, f)], next := s.next + 1 })

/-- Asking for the memory view: the one that the slot holds, or else a new one. -/
def memoryBuffer (i : Instance) (s : Share) : Option MemoryView × Share :=
  match s.slot, i.handle.program.exposedMemory? with
  | .holds view, _ => (view, s)
  | .unset, none => (none, { s with slot := .holds none })
  | .unset, some memory =>
    let v : MemoryView := ⟨s.next, i.handle, memory⟩
    (some v, { s with slot := .holds (some v), next := s.next + 1 })

section

variable [Platform]

/-- A way to act on shares leaves the guest as it is, or calls it. -/
def Calls (i : Instance) (act : Share → Except Failure α × Share) : Prop :=
  ∀ s, (act s).2.guest = s.guest ∨
    ∃ f words, (act s).2.guest = (Guest.call i.handle.program f words s.guest).2

omit [Platform] in
theorem function_guest (i : Instance) (name : String) (s : Share) :
    (Share.function i name s).2.guest = s.guest := by
  unfold Share.function
  split <;> rfl

theorem function_calls (i : Instance) (name : String) : Calls i (Share.function i name) :=
  fun s => Or.inl (function_guest i name s)

end

theorem memoryBuffer_guest (i : Instance) (s : Share) :
    (Share.memoryBuffer i s).2.guest = s.guest := by
  unfold Share.memoryBuffer
  split <;> rfl

end Share

namespace Instance

variable {α β : Type} {i j : Instance}

/-- The share of an instance in a host. -/
def share (i : Instance) (h : Host) : Share :=
  ⟨h.guest i.handle, i.wrappers h, i.viewSlot h, h.viewLocks.get i.serial, h.nextSerial⟩

/-- Two instances have nothing in common that is kept by number. -/
structure Apart (i j : Instance) : Prop where
  owner : i.serial ≠ j.serial
  handle : i.handle.serial ≠ j.handle.serial

/-- From one state to another only what is kept of an instance has changed, and what has been
reported. -/
structure Within (i : Instance) (h h' : Host) : Prop where
  guests {n : Nat} (hn : n ≠ i.handle.serial) : h'.guests.get n = h.guests.get n
  wrappers {n : Nat} (hn : n ≠ i.serial) : h'.wrappers.get n = h.wrappers.get n
  views {n : Nat} (hn : n ≠ i.serial) : h'.views.get n = h.views.get n
  viewLocks {n : Nat} (hn : n ≠ i.serial) : h'.viewLocks.get n = h.viewLocks.get n
  later : h.nextSerial ≤ h'.nextSerial

namespace Within

variable {h h' h'' : Host}

theorem refl (i : Instance) (h : Host) : Within i h h :=
  ⟨fun _ => rfl, fun _ => rfl, fun _ => rfl, fun _ => rfl, Nat.le_refl _⟩

theorem trans (first : Within i h h') (second : Within i h' h'') : Within i h h'' where
  guests hn := (second.guests hn).trans (first.guests hn)
  wrappers hn := (second.wrappers hn).trans (first.wrappers hn)
  views hn := (second.views hn).trans (first.views hn)
  viewLocks hn := (second.viewLocks hn).trans (first.viewLocks hn)
  later := first.later.trans second.later

theorem of_alike (i : Instance) (alike : Alike h h') : Within i h h' := by
  obtain ⟨diagnostics, operations, notices, rfl⟩ := alike
  exact ⟨fun _ => rfl, fun _ => rfl, fun _ => rfl, fun _ => rfl, Nat.le_refl _⟩

theorem share_of_apart (within : Within j h h') (apart : Apart i j) :
    i.share h' = { i.share h with next := h'.nextSerial } := by
  have hguest : h'.guest i.handle = h.guest i.handle := within.guests apart.handle
  have hwrappers : i.wrappers h' = i.wrappers h := within.wrappers apart.owner
  have hslot : i.viewSlot h' = i.viewSlot h := within.views apart.owner
  have hlock : h'.viewLocks.get i.serial = h.viewLocks.get i.serial := within.viewLocks apart.owner
  unfold share
  rw [hguest, hwrappers, hslot, hlock]

end Within

theorem share_of_alike (i : Instance) {h h' : Host} (alike : Alike h h') :
    i.share h' = i.share h := by
  obtain ⟨diagnostics, operations, notices, rfl⟩ := alike
  rfl

/-- An action on an instance acts on its share as a function tells, and touches nothing that is kept
of others. Requests for the memory view that have not ended are left out. -/
structure Acts (i : Instance) (a : HostAction α) (act : Share → Except Failure α × Share) :
    Prop where
  runs {h : Host} (free : (i.share h).lock = none) :
    ((a.run.run h).1, i.share (a.run.run h).2) = act (i.share h)
  within {h : Host} (free : (i.share h).lock = none) : Within i h (a.run.run h).2

namespace Acts

variable {a : HostAction α} {act : Share → Except Failure α × Share}

theorem recast (acts : Acts i a act) {b : HostAction β} {f : Except Failure α → Except Failure β}
    (hb : ∀ h, b.run.run h = (f (a.run.run h).1, (a.run.run h).2)) :
    Acts i b fun s => (f (act s).1, (act s).2) where
  runs {h} free := by
    rw [hb, ← acts.runs free]
  within {h} free := by
    rw [hb]
    exact acts.within free

theorem map (acts : Acts i a act) (f : α → β) :
    Acts i (do return f (← a)) fun s => ((act s).1.map f, (act s).2) :=
  acts.recast fun h => Action.run_bind_pure a f h

/-- What ends without looking at anything. -/
theorem done (i : Instance) {a : HostAction α} {result : Except Failure α}
    (ha : ∀ h, ∃ h', a.run.run h = (result, h') ∧ Alike h h') :
    Acts i a (Share.ofGuest fun guest => (result, guest)) where
  runs {h} _ := by
    obtain ⟨h', hrun, alike⟩ := ha h
    rw [hrun, i.share_of_alike alike]
    rfl
  within {h} _ := by
    obtain ⟨h', hrun, alike⟩ := ha h
    rw [hrun]
    exact .of_alike i alike

variable [Platform]

/-- On any thread an operation acts in the same way. -/
theorem steps {op : Operation} {act : Share → Except Failure Answer × Share}
    (acts : Acts i op.perform act) (thread : Thread) {h : Host} (free : (i.share h).lock = none) :
    op.outcome thread h = (act (i.share h)).1 ∧
      i.share (op.after thread h) = (act (i.share h)).2 ∧ Within i h (op.after thread h) := by
  have hruns := acts.runs (h := h.onThread thread) free
  have within := acts.within (h := h.onThread thread) free
  exact ⟨congrArg Prod.fst hruns, congrArg Prod.snd hruns, { within with }⟩

end Acts

theorem share_afterGuest (i : Instance) (e : Engine) (h : Host)
    (run : Except Guest.Trap (List Guest.GuestValue) × Guest.State) (notices : List Notice) :
    i.share (e.afterGuest i.handle h run notices) = { i.share h with guest := run.2 } := by
  have hguest : (e.afterGuest i.handle h run notices).guest i.handle = run.2 :=
    Cells.get_set_self ..
  unfold share
  rw [hguest]
  rfl

theorem within_afterGuest (i : Instance) (e : Engine) (h : Host)
    (run : Except Guest.Trap (List Guest.GuestValue) × Guest.State) (notices : List Notice) :
    Within i h (e.afterGuest i.handle h run notices) where
  guests hn := Cells.get_set_of_ne _ hn _
  wrappers _ := rfl
  views _ := rfl
  viewLocks _ := rfl
  later := Nat.le_refl _

/-- Two instances are of one program and on one engine. -/
structure Twins (i j : Instance) : Prop where
  engine : j.engine = i.engine
  program : j.handle.program = i.handle.program

theorem Twins.refl (i : Instance) : Twins i i := ⟨rfl, rfl⟩

section

variable [Platform]

/-- What a call of a name comes to on a program, as it depends on the guest: a failure without a
look at the guest, or one call of a function of the guest. -/
inductive CallsGuest (p : Guest.Program) (name : String) :
    (Guest.State → Except Failure HostValue × Guest.State) → Prop where
  | rejected (failure : Failure) : CallsGuest p name fun guest => (.error failure, guest)
  | called (f : Guest.Function) (words : List Guest.GuestValue) : CallsGuest p name fun guest =>
      (Engine.conclusion name (Guest.call p f words guest).1, (Guest.call p f words guest).2)

theorem CallsGuest.calls {p : Guest.Program} {name : String}
    {run : Guest.State → Except Failure HostValue × Guest.State} (form : CallsGuest p name run)
    (hp : i.handle.program = p) : Share.Calls i (Share.ofGuest run) := by
  subst hp
  intro s
  cases form with
  | rejected failure => exact Or.inl rfl
  | called f words => exact Or.inr ⟨f, words, rfl⟩

/-- A call with the signature that its name resolves to depends on the guest alone. It is the same
on all instances of the program, whatever their engines. -/
theorem exists_callsGuest {p : Guest.Program} {name : String} {signature : Signature}
    (hname : p.resolution name = .ok signature) (arguments : List HostValue) :
    ∃ run, CallsGuest p name run ∧ ∀ j : Instance, j.handle.program = p →
      Acts j (j.engine.invoker.call j.handle name signature arguments) (Share.ofGuest run) := by
  obtain ⟨f, hexport, hsignature⟩ := Guest.Program.resolution_eq_ok.mp hname
  -- arguments that do not suit are rejected before the guest is called
  rcases Engine.call_runs arguments hexport hsignature with
    ⟨failure, hrejects⟩ | ⟨words, hruns⟩
  · exact ⟨_, .rejected failure, fun j _ =>
      .done j fun h => ⟨h, hrejects j.engine j.handle h, .refl h⟩⟩
  -- the others call the guest with words that depend on them alone
  · refine ⟨_, .called f words, fun j hp => ⟨?_, ?_⟩⟩
    · intro h _
      obtain ⟨notices, hrun⟩ := hruns j.engine j.handle hp h
      rw [hrun, j.share_afterGuest]
      rfl
    · intro h _
      obtain ⟨notices, hrun⟩ := hruns j.engine j.handle hp h
      rw [hrun]
      exact j.within_afterGuest j.engine h _ notices

/-- A call by name depends on the guest alone: what its name resolves to never changes. It is the
same on all instances of the program, whatever their engines. -/
theorem exists_callsGuest_of_call (p : Guest.Program) (name : String)
    (arguments : List HostValue) :
    ∃ run, CallsGuest p name run ∧ ∀ j : Instance, j.handle.program = p →
      Acts j (j.call name arguments) (Share.ofGuest run) := by
  have asked (j : Instance) (h : Host) := j.engine.functionSignature_alike j.handle name h
  -- asking for the signature comes first, and changes nothing that is kept
  cases hname : p.resolution name with
  | error failure =>
    refine ⟨_, .rejected failure, fun j hp => .done j fun h => ⟨_, ?_, asked j h⟩⟩
    rw [← hp] at hname
    exact j.call_run_of_unresolved h hname arguments
  | ok signature =>
    obtain ⟨run, form, hacts⟩ := exists_callsGuest hname arguments
    refine ⟨run, form, fun j hp => ?_⟩
    have acts := hacts j hp
    rw [← hp] at hname
    refine ⟨?_, ?_⟩
    · intro h free
      have hsame := j.share_of_alike (asked j h)
      rw [j.call_run_of_resolved h hname, acts.runs (hsame ▸ free), hsame]
    · intro h free
      have hsame := j.share_of_alike (asked j h)
      rw [j.call_run_of_resolved h hname]
      exact (Within.of_alike j (asked j h)).trans (acts.within (hsame ▸ free))

theorem invoke_acts (i : Instance) {name : String} {signature : Signature}
    (hname : i.handle.program.resolution name = .ok signature) (arguments : List HostValue) :
    ∃ run, Acts i (i.engine.invoker.call i.handle name signature arguments) (Share.ofGuest run) ∧
      Share.Calls i (Share.ofGuest run) := by
  obtain ⟨run, form, hacts⟩ := exists_callsGuest hname arguments
  exact ⟨run, hacts i rfl, form.calls rfl⟩

theorem call_acts (i : Instance) (name : String) (arguments : List HostValue) :
    ∃ run, Acts i (i.call name arguments) (Share.ofGuest run) ∧
      Share.Calls i (Share.ofGuest run) := by
  obtain ⟨run, form, hacts⟩ := exists_callsGuest_of_call i.handle.program name arguments
  exact ⟨run, hacts i rfl, form.calls rfl⟩

theorem function_run_of_found (i : Instance) {name : String} {h : Host} {f : ExportedFunction}
    (hfound : (i.wrappers h).lookup name = some f) : (i.function name).run.run h = (.ok f, h) := by
  rw [function, Action.run_get_bind, hfound]
  rfl

theorem function_acts (i : Instance) (name : String) :
    Acts i (i.function name) (Share.function i name) := by
  have asked (h : Host) := i.engine.functionSignature_alike i.handle name h
  constructor
  · intro h _
    unfold Share.function
    have hlookup : (i.share h).wrappers.lookup name = (i.wrappers h).lookup name := rfl
    rw [hlookup]
    -- by whether the callable has been handed out before
    cases hfound : (i.wrappers h).lookup name with
    | some f => rw [i.function_run_of_found hfound]
    | none =>
      rcases hrun : (i.function name).run.run h with ⟨result, h'⟩
      cases i.function_looksUp hrun with
      | found hsome => exact nomatch hfound.symm.trans hsome
      | unresolved hname => rw [hname, i.share_of_alike (asked h)]
      | resolved hname hasked hf =>
        -- the new callable gets the next number, which asking has left as it was
        have alike := asked h
        rw [hasked] at alike
        obtain ⟨diagnostics, operations, notices, rfl⟩ := alike
        subst hf
        rw [hname]
        unfold share wrappers
        dsimp only
        rw [Cells.get_set_self]
        rfl
  · intro h _
    rcases hrun : (i.function name).run.run h with ⟨result, h'⟩
    cases i.function_looksUp hrun with
    | found _ => exact .refl i h
    | unresolved _ => exact .of_alike i (asked h)
    | resolved _ hasked _ =>
      -- the other instances keep what they have, since only one cell changes
      have alike := asked h
      rw [hasked] at alike
      exact (Within.of_alike i alike).trans
        ⟨fun _ => rfl, fun hn => Cells.get_set_of_ne _ hn _, fun _ => rfl, fun _ => rfl,
          Nat.le_succ _⟩

end

theorem share_filledWith (i : Instance) (view : Option MemoryView) (h : Host) :
    i.share (i.filledWith view h) = { i.share h with slot := .holds view, lock := none } := by
  have hslot : i.viewSlot (i.filledWith view h) = .holds view := Cells.get_set_self ..
  have hlock : (i.filledWith view h).viewLocks.get i.serial = none := Cells.get_set_self ..
  unfold share
  rw [hslot, hlock]
  rfl

theorem within_filledWith (i : Instance) (view : Option MemoryView) (h : Host) :
    Within i h (i.filledWith view h) :=
  ⟨fun _ => rfl, fun _ => rfl, fun hn => Cells.get_set_of_ne _ hn _,
    fun hn => Cells.get_set_of_ne _ hn _, Nat.le_refl _⟩

/-- Asking for the memory view acts on the share as `Share.memoryBuffer` tells, unless a request
that has not ended holds the lock. -/
theorem memoryBuffer_acts (i : Instance) :
    Acts i (liftM i.memoryBuffer) fun s =>
      (.ok (Share.memoryBuffer i s).1, (Share.memoryBuffer i s).2) := by
  -- taking the lock and asking the engine leave the other instances alone
  have taken (h : Host) : Within i h (i.lockedFor h) :=
    ⟨fun _ => rfl, fun _ => rfl, fun _ => rfl, fun hn => Cells.get_set_of_ne _ hn _, Nat.le_refl _⟩
  have asked (h : Host) : Within i h ((i.engine.memoryBuffer i.handle).run h).2 := by
    unfold Engine.memoryBuffer
    cases i.handle.program.exposedMemory? with
    | none => exact .of_alike i ⟨_, _, _, rfl⟩
    | some memory => exact ⟨fun _ => rfl, fun _ => rfl, fun _ => rfl, fun _ => rfl, Nat.le_succ _⟩
  constructor
  · intro h free
    rw [Action.run_lift]
    unfold Share.memoryBuffer
    -- with the slot empty the phases run through, because the lock is free
    cases hslot : i.viewSlot h with
    | holds view =>
      have hslot' : (i.share h).slot = .holds view := hslot
      rw [hslot', memoryBuffer_run_of_holds hslot]
    | unset =>
      have hslot' : (i.share h).slot = .unset := hslot
      have hlock : (i.share h).lock = none := free
      rw [hslot', memoryBuffer_run_of_unset hslot free, share_filledWith, ← hlock]
      unfold Engine.memoryBuffer
      cases i.handle.program.exposedMemory? <;> rfl
  · intro h free
    rw [Action.run_lift]
    cases hslot : i.viewSlot h with
    | holds view =>
      rw [memoryBuffer_run_of_holds hslot]
      exact .refl i h
    | unset =>
      rw [memoryBuffer_run_of_unset hslot free]
      exact ((taken h).trans (asked _)).trans (i.within_filledWith _ _)

end Instance

namespace Operation

/-- An operation on an instance, on a callable that wraps one of its exports, or on a view over one
of its memories. -/
inductive Concerns (i : Instance) : Operation → Prop where
  | call (name : String) (arguments : List HostValue) : Concerns i (.call i name arguments)
  | function (name : String) : Concerns i (.function i name)
  | getAttribute (name : String) : Concerns i (.getAttribute i name)
  | hasAttribute (name : String) : Concerns i (.hasAttribute i name)
  | getItem (name : String) : Concerns i (.getItem i name)
  | memoryBuffer : Concerns i (.memoryBuffer i)
  | apply {f : ExportedFunction} {name : String} (wraps : i.Wraps name f)
      (arguments : List HostValue) : Concerns i (.apply f arguments)
  | view {v : MemoryView} (hv : v.handle = i.handle) (request : ViewRequest) :
      Concerns i (.view v request)

end Operation

end WasmHost
