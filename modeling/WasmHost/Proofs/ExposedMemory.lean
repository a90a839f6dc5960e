import WasmHost.Proofs.BufferThreads
import WasmHost.Proofs.GuestRuns
import WasmHost.Proofs.MemoryRuns
/-!
The memory that an instance exposes.

An instance exposes the memory that is exported as `memory`, or else the first memory among its
exports. The choice depends on the exports alone, and so it stays the same: a view goes on reading
the memory that it was made over, which grows and is written to as the guest is called.
-/
namespace WasmHost

namespace Guest

/-- The memory that an export is, if it is one. -/
def Export.memory? (e : Export) : Option Nat :=
  match e.item with
  | .memory n => some n
  | _ => none

theorem Export.memory?_eq_some {e : Export} {n : Nat} :
    e.memory? = some n ↔ e.item = .memory n := by
  unfold memory?
  cases e.item <;> simp

theorem Export.memory?_eq_none {e : Export} : e.memory? = none ↔ ∀ n, e.item ≠ .memory n := by
  unfold memory?
  cases e.item <;> simp

namespace Program

/-- The memory that the exports of a program choose: that of the name `memory` if this is a memory,
or else the first of all, if there are any. -/
inductive Chooses (p : Program) : Option Nat → Prop where
  | named {n : Nat} (hnamed : p.export? "memory" = some (.memory n)) : Chooses p (some n)
  | first {before after : List Export} {name : String} {n : Nat}
      (hnamed : ∀ k, p.export? "memory" ≠ some (.memory k))
      (split : p.exports = before ++ ⟨name, .memory n⟩ :: after)
      (hfirst : ∀ e ∈ before, ∀ k, e.item ≠ .memory k) : Chooses p (some n)
  | nothing (hnone : ∀ e ∈ p.exports, ∀ k, e.item ≠ .memory k) : Chooses p none

variable {p : Program} {memory : Option Nat}

theorem exposedMemory?_of_named {n : Nat} (hnamed : p.export? "memory" = some (.memory n)) :
    p.exposedMemory? = some n := by
  unfold exposedMemory?
  rw [hnamed]

theorem exposedMemory?_of_unnamed (hnamed : ∀ k, p.export? "memory" ≠ some (.memory k)) :
    p.exposedMemory? = p.exports.findSome? Export.memory? := by
  unfold exposedMemory?
  split
  · next n hn => exact absurd hn (hnamed n)
  · rfl

theorem exists_of_export? {name : String} {item : ExportItem}
    (hexport : p.export? name = some item) : ∃ e ∈ p.exports, e.item = item := by
  obtain ⟨e, hfound, hitem⟩ := Option.map_eq_some_iff.mp hexport
  exact ⟨e, List.mem_of_find?_eq_some hfound, hitem⟩

theorem chooses_iff : p.Chooses memory ↔ p.exposedMemory? = memory := by
  constructor
  · intro chooses
    cases chooses with
    | named hnamed => exact exposedMemory?_of_named hnamed
    | first hnamed split hfirst =>
      rw [exposedMemory?_of_unnamed hnamed]
      exact List.findSome?_eq_some_iff.mpr ⟨_, _, _, split, rfl,
        fun e he => Export.memory?_eq_none.mpr (hfirst e he)⟩
    | nothing hnone =>
      -- what the name `memory` finds is one of the exports as well
      have hnamed (k : Nat) : p.export? "memory" ≠ some (.memory k) := fun hk => by
        obtain ⟨e, he, hitem⟩ := exists_of_export? hk
        exact hnone e he k hitem
      rw [exposedMemory?_of_unnamed hnamed]
      exact List.findSome?_eq_none_iff.mpr fun e he => Export.memory?_eq_none.mpr (hnone e he)
  · rintro rfl
    -- an export under the name `memory` is chosen first; without one, the first memory is
    by_cases hnamed : ∃ n, p.export? "memory" = some (.memory n)
    · obtain ⟨n, hn⟩ := hnamed
      rw [exposedMemory?_of_named hn]
      exact .named hn
    -- from here on, no memory is exported under the name
    · have hnamed : ∀ k, p.export? "memory" ≠ some (.memory k) := fun k hk => hnamed ⟨k, hk⟩
      rw [exposedMemory?_of_unnamed hnamed]
      cases hfirst : p.exports.findSome? Export.memory? with
      | none =>
        exact .nothing fun e he =>
          Export.memory?_eq_none.mp (List.findSome?_eq_none_iff.mp hfirst e he)
      | some n =>
        obtain ⟨before, ⟨name, item⟩, after, split, hitem, hbefore⟩ :=
          List.findSome?_eq_some_iff.mp hfirst
        cases Export.memory?_eq_some.mp hitem
        exact .first hnamed split fun e he => Export.memory?_eq_none.mp (hbefore e he)

end Program
end Guest

namespace Instance

variable {i : Instance} {h : Host} {K : Set Object} {view : Option MemoryView}

/-- A view, or that there is none, is what the exports of an instance choose. -/
structure Selects (i : Instance) (view : Option MemoryView) : Prop where
  chosen : i.handle.program.Chooses (view.map (·.memory))
  handle {v : MemoryView} (hv : view = some v) : v.handle = i.handle
  missing : view = none ↔ ∀ e ∈ i.handle.program.exports, ∀ n, e.item ≠ .memory n

theorem Exposes.selects (exposes : i.Exposes view) : i.Selects view := by
  have hmemory : i.handle.program.exposedMemory? = view.map (·.memory) := by
    cases view with
    | none => exact exposes
    | some v => exact exposes.2
  refine ⟨Guest.Program.chooses_iff.mpr hmemory, fun {v} hv => ?_, ?_⟩
  · subst hv
    exact exposes.1
  · constructor
    · rintro rfl
      have chooses := Guest.Program.chooses_iff.mpr hmemory
      cases chooses with
      | nothing hnone => exact hnone
    · intro hnone
      rw [Guest.Program.chooses_iff.mp (.nothing hnone)] at hmemory
      exact Option.map_eq_none_iff.mp hmemory.symm

theorem exposes_of_slot (ledger : Ledger h K) (hi : .running i ∈ K)
    (hslot : i.viewSlot h = .holds view) : i.Exposes view := by
  obtain ⟨j, hj, hserial, hnone, hsome⟩ := ledger.views hslot
  cases ledger.distinct hj hi hserial
  cases view with
  | none => exact hnone rfl
  | some v =>
    have hv := hsome v rfl
    have hsound : v.handle.program.exposedMemory? = some v.memory :=
      ledger.sound (ledger.held (.view hslot))
    exact ⟨hv, hv ▸ hsound⟩

-- Asking for the memory view gives what the exports choose, and the slot holds it afterwards.
theorem memoryBuffer_gives (ledger : Ledger h K) (hi : .running i ∈ K) :
    i.Exposes (i.memoryBuffer.run h).1 ∧
      i.viewSlot (i.memoryBuffer.run h).2 = .holds (i.memoryBuffer.run h).1 := by
  cases hslot : i.viewSlot h with
  | holds view =>
    rw [memoryBuffer_run_of_holds hslot]
    exact ⟨exposes_of_slot ledger hi hslot, hslot⟩
  | unset =>
    rw [memoryBuffer_run_of_unset hslot (ledger.unlocked i.serial)]
    exact ⟨(i.memoryBuffer_exposes (Prod.ext rfl rfl)).1, Cells.get_set_self ..⟩

end Instance

section

variable [Platform]

theorem Operation.memoryBuffer_outcome (i : Instance) (thread : Thread) (h : Host) :
    (Operation.memoryBuffer i).outcome thread h =
      .ok (.view (i.memoryBuffer.run (h.onThread thread)).1) := by
  rw [outcome_of_perform (a := liftM i.memoryBuffer) rfl, Action.run_lift]
  rfl

theorem Operation.memoryBuffer_after (i : Instance) (thread : Thread) (h : Host) :
    (Operation.memoryBuffer i).after thread h = (i.memoryBuffer.run (h.onThread thread)).2 := by
  rw [after_of_perform (a := liftM i.memoryBuffer) rfl, Action.run_lift]

-- Once the slot of a memory view is filled, every operation leaves it as it is.
theorem Operation.after_holds {h : Host} {i : Instance} {view : Option MemoryView}
    (hslot : i.viewSlot h = .holds view) (op : Operation) (thread : Thread) :
    i.viewSlot (op.after thread h) = .holds view := by
  -- only a request for the view of the same instance looks at the slot, and it finds it filled
  by_cases hop : ∃ j, op = .memoryBuffer j ∧ i.serial = j.serial
  · obtain ⟨j, rfl, hserial⟩ := hop
    have hslot' : j.viewSlot (h.onThread thread) = .holds view := by
      unfold Instance.viewSlot at hslot ⊢
      rw [← hserial]
      exact hslot
    rw [memoryBuffer_after, Instance.memoryBuffer_run_of_holds hslot']
    exact hslot
  · have hapart : ∀ j, op = .memoryBuffer j → i.serial ≠ j.serial :=
      fun j hj hserial => hop ⟨j, hj, hserial⟩
    rw [(op.after_apart hapart thread h).1]
    exact hslot

/-- What was once answered to a request for the memory view is in the slot from then on. -/
theorem History.view_in_slot {events : List Event} {h : Host} (history : History events h)
    {event : Event} (hevent : event ∈ events) {i : Instance} {view : Option MemoryView}
    (asked : event.operation = .memoryBuffer i) (given : event.outcome = .ok (.view view)) :
    i.viewSlot h = .holds view := by
  -- the event happened in a state that the process had come to, and it has filled the slot there
  obtain ⟨earlier, past, known, hsame⟩ := history.past hevent
  have houtcome : event.outcome = event.operation.outcome event.thread event.before :=
    congrArg Event.outcome hsame
  have hafter : event.after = event.operation.after event.thread event.before :=
    congrArg Event.after hsame
  obtain ⟨K, ledger, hknown⟩ := past.ledger
  rw [asked] at houtcome hafter known
  rw [Operation.memoryBuffer_outcome] at houtcome
  have hview : view = (i.memoryBuffer.run (event.before.onThread event.thread)).1 := by
    cases given.symm.trans houtcome
    rfl
  have hstart : i.viewSlot event.after = .holds view := by
    rw [hafter, Operation.memoryBuffer_after, hview]
    exact (Instance.memoryBuffer_gives (ledger.onThread event.thread) (hknown (known rfl))).2
  exact history.since (P := fun g => i.viewSlot g = .holds view) hevent hstart
    (fun {_ _ op} thread _ _ _ hheld => op.after_holds hheld thread) fun _ _ _ hheld => hheld

/-- In a state, on a thread, the engine and the instance itself give the memory that the exports
choose. What the instance has ever answered it answers again, and a view that was given at any
earlier time reads this memory; with what has become of its content since, if the memories of guests
consist of pages. -/
structure Instance.ExposesMemory (i : Instance) (events : List Event) (h : Host)
    (thread : Thread) : Prop where
  engine (e : Engine) : ∃ view, i.Selects view ∧
    (Operation.engineCall e (.memoryBuffer i.handle)).outcome thread h = .ok (.reply (.view view))
  own : ∃ view, i.Selects view ∧ (Operation.memoryBuffer i).outcome thread h = .ok (.view view)
  again {event : Event} (hevent : event ∈ events) {view : Option MemoryView}
    (asked : event.operation = .memoryBuffer i) (given : event.outcome = .ok (.view view)) :
    (Operation.memoryBuffer i).outcome thread h = .ok (.view view)
  reads {event : Event} (hevent : event ∈ events) {v : MemoryView}
    (given : .view v ∈ onOk Answer.objects event.outcome) (hv : v.handle = i.handle) :
    ∃ n, i.handle.program.Chooses (some n) ∧
      (∀ request : ViewRequest, (Operation.view v request).outcome thread h =
        request.outcome ((h.guest i.handle).memory n)) ∧
      (Guest.Paging →
        Relation.ReflTransGen ContentStep ((event.after.guest i.handle).memory n).toList
          ((h.guest i.handle).memory n).toList)

/-- In every state that a process comes to, on any thread, every instance exposes the memory that
its exports choose. -/
theorem History.exposes_memory {events : List Event} {h : Host} (history : History events h)
    {i : Instance} (known : Object.running i ∈ Known events) (thread : Thread) :
    i.ExposesMemory events h thread := by
  obtain ⟨K, ledger, hknown⟩ := history.ledger
  refine ⟨fun e => ?_, ?_, fun {event} hevent {view} asked given => ?_,
    fun {event} hevent {v} given hv => ?_⟩
  · -- which engine is asked makes no difference to what is exposed
    have exposes : i.Exposes ((e.memoryBuffer i.handle).run (h.onThread thread)).1 :=
      (Instance.memoryBuffer_exposes { i with engine := e } (Prod.ext rfl rfl)).1
    refine ⟨_, exposes.selects, ?_⟩
    rw [Operation.outcome_of_perform rfl]
    rfl
  · have gives := Instance.memoryBuffer_gives (ledger.onThread thread) (hknown known)
    exact ⟨_, gives.1.selects, Operation.memoryBuffer_outcome i thread h⟩
  · have hslot : i.viewSlot (h.onThread thread) = .holds view :=
      history.view_in_slot hevent asked given
    rw [Operation.memoryBuffer_outcome, Instance.memoryBuffer_run_of_holds hslot]
  · have hsound : v.handle.program.exposedMemory? = some v.memory :=
      ledger.sound (hknown (.given hevent given))
    have hhandle : .handle i.handle ∈ Known [event] :=
      hv ▸ .part (Known.given List.mem_cons_self given) List.mem_cons_self
    refine ⟨v.memory, Guest.Program.chooses_iff.mpr (hv ▸ hsound), fun request => ?_,
      fun paging => ?_⟩
    · rw [Operation.view_outcome, Host.memory, hv]
    · -- the pages are whole when the view is made, and from there the guest is only called
      obtain ⟨earlier, past, known', hsame⟩ := history.past hevent
      have hafter : History (earlier ++ [event.operation.event event.thread event.before])
        (event.operation.after event.thread event.before) := past.perform event.thread known'
      have whole : (event.after.guest i.handle).Whole := by
        rw [congrArg Event.after hsame]
        exact hafter.whole paging i.handle.serial
      exact (history.guest_runs hevent hhandle).content paging whole v.memory

end

section

attribute [local instance] Platform.machine

/-- A function has the name `memory`, and the first of two memories is exposed. After it has grown
by two pages, the view that was made before reads its new size. -/
theorem exposes_memory_grown :
    let p : Guest.Program := ⟨[], [⟨1, none⟩, ⟨4, none⟩], [], none, [
      ⟨"memory", .function ⟨[], [], .nop⟩⟩,
      ⟨"grow", .function ⟨[.i32], [.i32], .grow⟩⟩,
      ⟨"heap", .memory 0⟩,
      ⟨"spare", .memory 1⟩]⟩
    let e : Engine := ⟨2, ⟨1, .default⟩⟩
    let i : Instance := ⟨6, e, ⟨4, ⟨3, ⟨p, false, false⟩⟩⟩, ⟨5, e, ⟨3, ⟨p, false, false⟩⟩, none⟩⟩
    let v : MemoryView := ⟨7, i.handle, 0⟩
    let make := Operation.instanceOfBytes (.ofProgram p) none
    let grow := Operation.call i "grow" [.integer 2]
    let h₀ := Host.fresh ⟨.empty, none⟩ ⟨[]⟩
    let h₁ := make.after 0 h₀
    let h₂ := (Operation.memoryBuffer i).after 0 h₁
    let h := grow.after 1 h₂
    let events := [make.event 0 h₀, (Operation.memoryBuffer i).event 0 h₁, grow.event 1 h₂]
    i.ExposesMemory events h 1 ∧
      (Operation.memoryBuffer i).outcome 1 h = .ok (.view (some v)) ∧
      (Operation.view v .size).outcome 1 h = .ok (.reading (.count (3 * 65536))) ∧
      Relation.ReflTransGen ContentStep ((h₂.guest i.handle).memory 0).toList
        ((h.guest i.handle).memory 0).toList := by
  intro p e i v make grow h₀ h₁ h₂ h events
  have hmade : Object.running i ∈ onOk Answer.objects (make.event 0 h₀).outcome := rfl
  have hknown (later : List Event) : Object.running i ∈ Known (make.event 0 h₀ :: later) :=
    .given List.mem_cons_self hmade
  have history : History events h :=
    .perform (.perform (.perform (.start _ _) 0 (Set.empty_subset _)) 0
      fun _ ho => ho ▸ hknown []) 1 fun _ ho => ho ▸ hknown _
  have exposes := history.exposes_memory (hknown _) 1
  have hasked : (Operation.memoryBuffer i).event 0 h₁ ∈ events :=
    List.mem_cons_of_mem _ List.mem_cons_self
  obtain ⟨n, chooses, hreads, hsteps⟩ := exposes.reads hasked (v := v) rfl rfl
  obtain rfl : n = 0 := by
    have hn := Guest.Program.chooses_iff.mp chooses
    exact (Option.some.inj hn).symm
  refine ⟨exposes, exposes.again hasked rfl rfl, ?_, hsteps Guest.Machine.paging⟩
  have hsize : ((h.guest i.handle).memory 0).size = 3 * 65536 := by decide +kernel
  rw [hreads, ViewRequest.outcome, ViewRequest.answer, hsize]

end

end WasmHost
