import WasmHost.Proofs.GuestRuns
import WasmHost.Proofs.Isolation
/-!
The memories of an instance in runs of operations.

A call of the guest makes some changes of a memory, one after the other; other operations leave it
as it is. So every run of operations on instances is a run of each memory of theirs, in which the
views over this memory are asked.
-/
namespace WasmHost

/-- A state that differs only in the guest of a handle, which has a memory in a place. -/
def Host.withMemory (h : Host) (handle : Handle) (n : Nat) (m : LinearMemory) : Host :=
  { h with guests := h.guests.set handle.serial ⟨List.replicate (n + 1) m, 0, none⟩ }

theorem Host.memoryAt?_withMemory (h : Host) (handle : Handle) (n : Nat) (m : LinearMemory) :
    (h.withMemory handle n m).memoryAt? handle n = some m := by
  have hguest : (h.withMemory handle n m).guest handle = ⟨List.replicate (n + 1) m, 0, none⟩ :=
    Cells.get_set_self ..
  rw [memoryAt?, hguest, List.getElem?_replicate, if_pos n.lt_succ_self]

namespace Guest

variable {m m' : LinearMemory}

-- What a guest does to a memory is a change of it, and the memory stays shorter than any memory may
-- be.
theorem PageStep.exists_change (step : PageStep m m') (fits : m.size < addressSpace) :
    ∃ change : MemoryChange, m' = change.apply m ∧ m'.size < addressSpace := by
  cases step with
  | @stored address inside byte =>
    -- a byte is data of length one
    exact ⟨.write address [byte], rfl, by rwa [LinearMemory.size_set]⟩
  | @grown pages room =>
    have hmost : 65536 * LinearMemory.pageSize < addressSpace := by decide
    refine ⟨.resize ((m.pages + pages) * LinearMemory.pageSize), rfl, ?_⟩
    rw [LinearMemory.size_resize]
    exact (Nat.mul_le_mul_right _ room).trans_lt hmost

theorem PageSteps.size_lt (steps : PageSteps m m') (fits : m.size < addressSpace) :
    m'.size < addressSpace := by
  induction steps with
  | refl => exact fits
  | tail _ step ih =>
    obtain ⟨_, -, hsize⟩ := step.exists_change ih
    exact hsize

theorem getElem?_of_steps {before after : List LinearMemory}
    (steps : List.Forall₂ PageSteps before after) (n : Nat) :
    after[n]? = before[n]? ∨
      ∃ m m', before[n]? = some m ∧ after[n]? = some m' ∧ PageSteps m m' := by
  induction steps generalizing n with
  | nil => exact Or.inl rfl
  | cons first _ ih =>
    cases n with
    | zero => exact Or.inr ⟨_, _, rfl, rfl, first⟩
    | succ n => exact ih n

end Guest

variable [Platform]

theorem MemoryRun.after_steps {handle : Handle} {n : Nat} {m m' : LinearMemory}
    (steps : Guest.PageSteps m m') {h g h' : Host} (hbefore : h.memoryAt? handle n = some m)
    (hafter : g.memoryAt? handle n = some m') (fits : m.size < addressSpace)
    {readings : List Reading} {content' : List UInt8}
    (rest : MemoryRun handle n m'.toList g readings content' h') :
    MemoryRun handle n m.toList h readings content' h' := by
  -- by induction from the first change on; the states between two changes can be any
  induction steps using Relation.ReflTransGen.head_induction_on generalizing h with
  | refl => exact .elsewhere (hafter.trans hbefore.symm) rest
  | @head m m₁ step _ ih =>
    obtain ⟨change, rfl, fits₁⟩ := step.exists_change fits
    have later := ih (h.memoryAt?_withMemory handle n _) fits₁
    rw [change.toList_apply] at later
    refine .changes change ?_ ?_ later
    · rw [h.memoryAt?_withMemory, hbefore, Option.map_some]
    · rwa [← change.toList_apply, LinearMemory.length_toList]

namespace Operation

/-- A view over a memory is asked. -/
def asks (handle : Handle) (memory : Nat) : Operation → Bool
  | view v _ => v.handle = handle ∧ v.memory = memory
  | _ => false

omit [Platform] in
theorem eq_view_of_asks {handle : Handle} {memory : Nat} {op : Operation}
    (asked : op.asks handle memory = true) :
    ∃ serial request, op = .view ⟨serial, handle, memory⟩ request := by
  cases op with
  | view v request =>
    obtain ⟨rfl, rfl⟩ := of_decide_eq_true asked
    exact ⟨v.serial, request, rfl⟩
  | _ => exact Bool.noConfusion asked

end Operation

namespace Operation.Concerns

variable {i j : Instance} {op : Operation} (thread : Thread) {h : Host} (n : Nat)

/-- An operation on an instance leaves a memory of it as it is, or the guest changes it. -/
theorem memory_steps (paging : Guest.Paging) (concerns : op.Concerns i)
    (free : (i.share h).lock = none) :
    (op.after thread h).memoryAt? i.handle n = h.memoryAt? i.handle n ∨
      ∃ m m', h.memoryAt? i.handle n = some m ∧
        (op.after thread h).memoryAt? i.handle n = some m' ∧ Guest.PageSteps m m' := by
  -- of the instance, the operation changes at most the guest, by a call
  obtain ⟨act, -, calls, steps⟩ := concerns.steps
  obtain ⟨-, hshare, -⟩ := steps thread h free
  have hguest : (op.after thread h).guest i.handle = (act (i.share h)).2.guest :=
    congrArg Share.guest hshare
  unfold Host.memoryAt?
  rw [hguest]
  rcases calls (i.share h) with hsame | ⟨f, words, hcall⟩
  · rw [hsame]
    exact Or.inl rfl
  · rw [hcall]
    exact Guest.getElem?_of_steps (paging.call i.handle.program f words (h.guest i.handle)) n

theorem memory_kept (concerns : op.Concerns j) (apart : i.Apart j)
    (free : (j.share h).lock = none) :
    (op.after thread h).memoryAt? i.handle n = h.memoryAt? i.handle n := by
  obtain ⟨act, -, -, steps⟩ := concerns.steps
  obtain ⟨-, -, within⟩ := steps thread h free
  unfold Host.memoryAt? Host.guest
  rw [within.guests apart.handle]

end Operation.Concerns

namespace Slot

/-- The events of a run in which a view over a memory is asked. -/
def viewed (handle : Handle) (memory : Nat) : Host → List Slot → List Event
  | _, [] => []
  | h, slot :: slots =>
    let rest := viewed handle memory (slot.operation.after slot.thread h) slots
    if slot.operation.asks handle memory then slot.operation.event slot.thread h :: rest else rest

/-- A run of operations on an instance and on others that are apart from it is a run of each memory
of the instance, in which the views over this memory are asked that are asked in the run. -/
theorem memory_run (paging : Guest.Paging) {i : Instance} {n : Nat} {slots : List Slot} {h : Host}
    {content : List UInt8}
    (parted : ∀ slot ∈ slots, slot.operation.Concerns i ∨
      ∃ j, i.Apart j ∧ slot.operation.Concerns j)
    (unlocked : ∀ n, h.viewLocks.get n = none)
    (hstart : (h.memoryAt? i.handle n).map LinearMemory.toList = some content)
    (fits : content.length < addressSpace) :
    ∃ readings content', MemoryRun i.handle n content h readings content' (after h slots) ∧
      readings.map Reading.event = viewed i.handle n h slots := by
  -- by induction on the run, for every state and content that it may have come to
  induction slots generalizing h content with
  | nil => exact ⟨[], content, .stop content h, rfl⟩
  | cons slot slots ih =>
    obtain ⟨hslot, hslots⟩ := List.forall_mem_cons.mp parted
    have unlocked' : ∀ n, (slot.operation.after slot.thread h).viewLocks.get n = none := by
      rcases hslot with concerns | ⟨j, -, concerns⟩ <;>
        exact concerns.unlocked slot.thread unlocked
    have hsteps : (slot.operation.after slot.thread h).memoryAt? i.handle n =
        h.memoryAt? i.handle n ∨ ∃ m m', h.memoryAt? i.handle n = some m ∧
          (slot.operation.after slot.thread h).memoryAt? i.handle n = some m' ∧
            Guest.PageSteps m m' := by
      rcases hslot with concerns | ⟨j, apart, concerns⟩
      · exact concerns.memory_steps slot.thread n paging (unlocked _)
      · exact Or.inl (concerns.memory_kept slot.thread n apart (unlocked _))
    rw [after, viewed]
    cases hasks : slot.operation.asks i.handle n with
    -- an operation that asks a view of this memory is an entry of the run
    | true =>
      obtain ⟨serial, request, hop⟩ := Operation.eq_view_of_asks hasks
      have hsame : (slot.operation.after slot.thread h).memoryAt? i.handle n =
          h.memoryAt? i.handle n := by
        rw [hop, Operation.view_after]
        rfl
      obtain ⟨readings, content', run, hevents⟩ := ih hslots unlocked' (hsame ▸ hstart) fits
      rw [if_pos rfl, ← hevents, hop]
      exact ⟨_, content', .asks slot.thread serial request (hop ▸ run), rfl⟩
    | false =>
      rw [if_neg Bool.false_ne_true]
      -- any other leaves the memory as it is or changes it by steps, which come before the rest
      rcases hsteps with hsame | ⟨m, m', hbefore, hafter, steps⟩
      · obtain ⟨readings, content', run, hevents⟩ := ih hslots unlocked' (hsame ▸ hstart) fits
        exact ⟨readings, content', .elsewhere hsame run, hevents⟩
      · rw [hbefore] at hstart
        cases hstart
        rw [LinearMemory.length_toList] at fits
        have fits' : m'.toList.length < addressSpace := by
          rw [LinearMemory.length_toList]
          exact steps.size_lt fits
        obtain ⟨readings, content', run, hevents⟩ :=
          ih hslots unlocked' (congrArg (Option.map LinearMemory.toList) hafter) fits'
        exact ⟨readings, content', .after_steps steps hbefore hafter fits run, hevents⟩

end Slot
end WasmHost
