import WasmHost.Proofs.AlikeOperation
/-!
Operations that are rejected before the guest runs change nothing.

They may be inserted anywhere into a run, as many as one likes: all other operations of the run give
what they would have given without them, and the run ends in the same state, except for what has
been reported.
-/
namespace WasmHost

/-- A fault tells that an invocation failed, and not that a call was rejected before. -/
def Fault.isTrap : Fault → Bool
  | .trapped _ _ => true
  | _ => false

section

variable [Platform]

namespace Operation

/-- An operation on an instance, or on what it hands out, is rejected before the guest runs: a call
fails otherwise than by an invocation, or an export cannot be looked up, or a memory cannot be
read. -/
inductive Rejected (thread : Thread) (h : Host) : Operation → Prop where
  | call {i : Instance} {name : String} {arguments : List HostValue} {failure : Failure}
      (hfails : (Operation.call i name arguments).outcome thread h = .error failure)
      (htrap : failure.fault.isTrap = false) : Rejected thread h (.call i name arguments)
  | apply {f : ExportedFunction} {arguments : List HostValue} {failure : Failure}
      (hfails : (Operation.apply f arguments).outcome thread h = .error failure)
      (htrap : failure.fault.isTrap = false) : Rejected thread h (.apply f arguments)
  | function {i : Instance} {name : String} {failure : Failure}
      (hfails : (Operation.function i name).outcome thread h = .error failure) :
      Rejected thread h (.function i name)
  | getAttribute {i : Instance} {name : String} {failure : Failure}
      (hfails : (Operation.getAttribute i name).outcome thread h = .error failure) :
      Rejected thread h (.getAttribute i name)
  | hasAttribute {i : Instance} {name : String}
      (hfails : (Operation.hasAttribute i name).outcome thread h = .ok (.truth false)) :
      Rejected thread h (.hasAttribute i name)
  | getItem {i : Instance} {name : String} {failure : Failure}
      (hfails : (Operation.getItem i name).outcome thread h = .error failure) :
      Rejected thread h (.getItem i name)
  | view {v : MemoryView} {request : ViewRequest} {failure : Failure}
      (hfails : (Operation.view v request).outcome thread h = .error failure) :
      Rejected thread h (.view v request)

/-- What can be compared of the outcome of an operation: everything, unless it asks for the last
diagnostic. -/
def shown (op : Operation) (thread : Thread) (h : Host) : Option (Except Failure Answer) :=
  if op.asksLastError then none else some (op.outcome thread h)

end Operation

/-- An operation of a run on a thread. It may be one that is inserted into the run. -/
structure Slot where
  thread : Thread
  operation : Operation
  inserted : Bool

namespace Slot

/-- The operations of a run without those that are inserted. -/
def kept (slots : List Slot) : List Slot := slots.filter (!·.inserted)

/-- The state after a run. -/
def after : Host → List Slot → Host
  | h, [] => h
  | h, slot :: slots => after (slot.operation.after slot.thread h) slots

/-- What the operations of a run give that are not inserted, in order. -/
def outcomes : Host → List Slot → List (Option (Except Failure Answer))
  | _, [] => []
  | h, slot :: slots =>
    let rest := outcomes (slot.operation.after slot.thread h) slots
    if slot.inserted then rest else slot.operation.shown slot.thread h :: rest

/-- Each operation that is inserted is rejected where it stands. -/
def Harmless : Host → List Slot → Prop
  | _, [] => True
  | h, slot :: slots =>
    (slot.inserted = true → slot.operation.Rejected slot.thread h) ∧
      Harmless (slot.operation.after slot.thread h) slots

end Slot

namespace Engine

variable (e : Engine) (handle : Handle) {h h' : Host} {failure : Failure}

-- If a call fails once its arguments are values, and not by an invocation that failed, then the
-- guest has not run.
theorem concluding_alike {name : String} {values : List Value}
    (hrun : (e.concluding handle name values).run.run h = (.error failure, h'))
    (htrap : failure.fault.isTrap = false) : Alike h h' := by
  -- what the invocation did is known by its outcome, and a trap is the only one that ran the guest
  have hinvokes := e.invokeFunction_invokes handle name values h
  rcases hinvoke : (e.invokeFunction handle name values).run.run h with ⟨result, h₁⟩
  rw [hinvoke] at hinvokes
  cases result with
  | error raised =>
    -- it raised before the guest was asked for anything
    rw [concluding, Action.run_bind_error hinvoke] at hrun
    cases hrun
    cases hinvokes <;> exact ⟨_, _, _, rfl⟩
  | ok outcome =>
    cases outcome with
    | returned result => cases (e.concluding_run_returned handle hinvoke).symm.trans hrun
    | failed =>
      -- a failed invocation raises a trap, which is excluded
      cases (e.concluding_run_failed handle hinvoke).symm.trans hrun
      exact Bool.noConfusion htrap

theorem call_alike {name : String} {signature : Signature} {arguments : List HostValue}
    (hrun : (e.invoker.call handle name signature arguments).run.run h = (.error failure, h'))
    (htrap : failure.fault.isTrap = false) : Alike h h' := by
  obtain ⟨result, hmarshal⟩ := e.marshal_fixed name signature arguments
  cases result with
  | error failure =>
    cases (Action.run_bind_error (hmarshal h)).symm.trans hrun
    exact .refl h
  | ok values =>
    exact e.concluding_alike handle ((Action.run_bind_ok (hmarshal h)).symm.trans hrun) htrap

theorem dispatch_alike {name : String} {arguments : List HostValue}
    (hrun : (e.invoker.dispatch handle name arguments).run.run h = (.error failure, h'))
    (htrap : failure.fault.isTrap = false) : Alike h h' := by
  -- asking for the signature changes only what has been reported
  have hresolved := e.resolve_alike handle name h
  rcases hresolve : (e.invoker.resolve handle name).run.run h with ⟨result, h₁⟩
  rw [hresolve] at hresolved
  cases result with
  | error failure =>
    cases (Action.run_bind_error hresolve).symm.trans hrun
    exact hresolved
  | ok signature =>
    have hcalled := (Action.run_bind_ok hresolve).symm.trans hrun
    exact hresolved.trans (e.call_alike handle hcalled htrap)

end Engine

namespace Instance

variable (i : Instance) {name : String} {h h' : Host} {failure : Failure}

theorem function_alike (hrun : (i.function name).run.run h = (.error failure, h')) :
    Alike h h' := by
  cases i.function_looksUp hrun with
  | unresolved _ => exact i.engine.functionSignature_alike i.handle name h

-- What is made of a callable fails only where the callable cannot be had.
theorem function_alike_of_recast {α : Type}
    {f : Except Failure ExportedFunction → Except Failure α} (hf : ∀ g, ∃ x, f (.ok g) = .ok x)
    (hrun : (f ((i.function name).run.run h).1, ((i.function name).run.run h).2) =
      (.error failure, h')) : Alike h h' := by
  rcases hfunction : (i.function name).run.run h with ⟨result, h₁⟩
  rw [hfunction] at hrun
  have hstate : h₁ = h' := congrArg Prod.snd hrun
  cases result with
  | error _ => exact hstate ▸ i.function_alike hfunction
  | ok g =>
    obtain ⟨x, hx⟩ := hf g
    cases (congrArg Prod.fst hrun).symm.trans hx

theorem itemOf_alike (hrun : (i.itemOf name).run.run h = (.error failure, h')) : Alike h h' := by
  rw [i.itemOf_run] at hrun
  exact i.function_alike_of_recast (fun g => ⟨g, rfl⟩) hrun

theorem attributeOf_alike (hrun : (i.attributeOf name).run.run h = (.error failure, h')) :
    Alike h h' := by
  -- one case for each way in which a name is refused, and the export at the end
  rw [i.attributeOf_eq] at hrun
  split at hrun
  · cases hrun
  split at hrun
  · cases hrun
  split at hrun
  · cases hrun
    exact .refl h
  · rw [i.exportedAttribute_run] at hrun
    exact i.function_alike_of_recast (fun g => ⟨.exported g, rfl⟩) hrun

theorem hasAttribute_alike (hrun : (i.hasAttribute name).run h = (false, h')) : Alike h h' := by
  rw [i.hasAttribute_run] at hrun
  rcases hattribute : (i.attributeOf name).run.run h with ⟨result, h₁⟩
  rw [hattribute] at hrun
  cases result with
  | error failure =>
    cases hrun
    exact i.attributeOf_alike hattribute
  | ok found => exact Bool.noConfusion (congrArg Prod.fst hrun)

end Instance

namespace Operation

omit [Platform] in
theorem alike_of_fails {α : Type} {a : HostAction α} {f : α → Answer} {h : Host}
    {failure : Failure} (hfails : ((do return f (← a) : HostAction Answer).run.run h).1 =
      .error failure)
    (ha : ∀ {h'}, a.run.run h = (.error failure, h') → Alike h h') :
    Alike h ((do return f (← a) : HostAction Answer).run.run h).2 := by
  rw [Action.run_bind_pure]
  exact ha (Prod.ext (Action.error_of_map hfails) rfl)

theorem Rejected.alike {op : Operation} {thread : Thread} {h : Host}
    (rejected : op.Rejected thread h) : Alike (h.onThread thread) (op.after thread h) := by
  -- a rejected call of a memory view does not reach the engine, and the others fail as stated
  cases rejected with
  | @call i _ _ _ hfails htrap =>
    exact alike_of_fails hfails fun hrun => i.engine.dispatch_alike i.handle hrun htrap
  | @apply f _ _ hfails htrap =>
    exact alike_of_fails hfails fun hrun => f.engine.call_alike f.bound.handle hrun htrap
  | @function i _ _ hfails => exact alike_of_fails hfails i.function_alike
  | @getAttribute i _ _ hfails => exact alike_of_fails hfails i.attributeOf_alike
  | @getItem i _ _ hfails => exact alike_of_fails hfails i.itemOf_alike
  | @hasAttribute i name hfails =>
    rw [after, perform, Action.run_bind_pure, Action.run_lift]
    rw [outcome, perform, Action.run_bind_pure, Action.run_lift] at hfails
    rcases hrun : (i.hasAttribute name).run (h.onThread thread) with ⟨found, h'⟩
    rw [hrun] at hfails
    cases hfails
    exact i.hasAttribute_alike hrun
  | @view v request _ _ =>
    rw [after, perform, Action.run_get_bind]
    cases request.answer ((h.onThread thread).memory v) <;> exact .refl _

-- An operation does the same in states that differ only in what has been reported, whichever
-- threads were running.
theorem after_alike (op : Operation) {thread : Thread} {h h' : Host}
    (alike : Alike (h.onThread thread) (h'.onThread thread)) :
    op.shown thread h' = op.shown thread h ∧ Alike (op.after thread h) (op.after thread h') := by
  unfold shown
  cases hasks : op.asksLastError with
  | false =>
    obtain ⟨hresult, hafter⟩ := op.perform_respects hasks _ _ alike
    exact ⟨congrArg some hresult, hafter⟩
  | true =>
    -- the last diagnostic is only read
    -- asking for the last diagnostic is the only operation that may give another answer
    have hread (h : Host) : op.after thread h = h.onThread thread := by
      cases op with
      | engineCall e asked => cases asked <;> first | rfl | exact Bool.noConfusion hasks
      | _ => exact Bool.noConfusion hasks
    rw [hread, hread]
    exact ⟨rfl, alike⟩

end Operation

end

namespace Slot

section

variable [Platform]

/-- From states that differ only in what has been reported, a run goes as it goes without the
operations that are inserted and rejected. -/
theorem outcomes_kept {slots : List Slot} {h h' : Host} (harmless : Harmless h slots)
    (alike : ∀ thread, Alike (h'.onThread thread) (h.onThread thread)) :
    outcomes h slots = outcomes h' (kept slots) ∧
      ∀ thread,
        Alike ((after h' (kept slots)).onThread thread) ((after h slots).onThread thread) := by
  -- by induction on the longer run, for all pairs of states that the two runs may have come to
  induction slots generalizing h h' with
  | nil => exact ⟨rfl, alike⟩
  | cons slot slots ih =>
    obtain ⟨hrejected, hrest⟩ := harmless
    cases hinserted : slot.inserted with
    -- only the longer run goes on, to a state like the one that it comes from
    | true =>
      have hnothing := (hrejected hinserted).alike
      have hkept : kept (slot :: slots) = kept slots :=
        List.filter_cons_of_neg (by simp [hinserted])
      rw [hkept, outcomes, hinserted]
      exact ih hrest fun thread => (alike thread).trans (hnothing.onThread thread)
    | false =>
      obtain ⟨hshown, hafter⟩ := slot.operation.after_alike (alike slot.thread)
      have hkept : kept (slot :: slots) = slot :: kept slots :=
        List.filter_cons_of_pos (by simp [hinserted])
      obtain ⟨hsame, hend⟩ := ih hrest fun thread => hafter.onThread thread
      rw [hkept, outcomes, outcomes, hinserted, hshown, hsame]
      exact ⟨rfl, hend⟩

/-- Operations on instances, on their callables and on their memories that are rejected before the
guest runs may be inserted anywhere into a run. The other operations give what they give without
them, except for questions for the last diagnostic, and the run ends in the same state but for what
has been reported: every guest has the same memories, globals and fuel. -/
theorem rejected_change_nothing (h : Host) (slots : List Slot) (harmless : Harmless h slots) :
    outcomes h slots = outcomes h (kept slots) ∧
      (∀ handle, (after h slots).guest handle = (after h (kept slots)).guest handle) ∧
      ∀ thread,
        Alike ((after h (kept slots)).onThread thread) ((after h slots).onThread thread) := by
  obtain ⟨hsame, hend⟩ := outcomes_kept harmless fun thread => Alike.refl (h.onThread thread)
  exact ⟨hsame, fun handle => (hend 0).guest handle, hend⟩

end

section

attribute [local instance] Platform.machine

/-- A counter is called twice. In between a name is unknown, an export is no function, an item is
missing, and the memory is sliced with a step: the counter goes on to two all the same. -/
theorem rejected_change_nothing_counter :
    let p : Guest.Program := ⟨[], [⟨0, none⟩], [], none,
      [⟨"next", .function ⟨[], [.i32], .increment⟩⟩, ⟨"memory", .memory 0⟩]⟩
    let e : Engine := ⟨2, ⟨1, .default⟩⟩
    let i : Instance := ⟨6, e, ⟨4, ⟨3, ⟨p, false, false⟩⟩⟩, ⟨5, e, ⟨3, ⟨p, false, false⟩⟩, none⟩⟩
    let h := (Operation.instanceOfBytes (.ofProgram p) none).after 0 (.fresh ⟨.empty, none⟩ ⟨[]⟩)
    let slots : List Slot :=
      [⟨0, .call i "next" [], false⟩, ⟨0, .call i "last" [], true⟩,
        ⟨1, .call i "memory" [.integer 7], true⟩, ⟨0, .getItem i "last", true⟩,
        ⟨1, .view ⟨7, i.handle, 0⟩ (.slice none none (some 2)), true⟩,
        ⟨0, .call i "next" [], false⟩]
    Harmless h slots ∧ outcomes h slots = outcomes h (kept slots) ∧
      (outcomes h slots).map (fun
        | some (.ok (.value v)) => v.toInteger?
        | _ => none) = [some 1, some 2] := by
  intro p e i h slots
  have harmless : Harmless h slots :=
    ⟨fun kept => Bool.noConfusion kept, fun _ => .call rfl rfl, fun _ => .call rfl rfl,
      fun _ => .getItem rfl, fun _ => .view rfl, fun kept => Bool.noConfusion kept, trivial⟩
  exact ⟨harmless, (rejected_change_nothing h slots harmless).1, by decide +kernel⟩

end

end Slot
end WasmHost
