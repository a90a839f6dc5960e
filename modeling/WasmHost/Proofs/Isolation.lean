import WasmHost.Proofs.Insertion
import WasmHost.Proofs.Instances
import WasmHost.Proofs.MemoryRuns
import WasmHost.Proofs.Renumbering
/-!
Instances are isolated from each other.

Operations on other instances may come anywhere in a run. The operations on one instance give what
they give without them, and its guest, its callables and its view end as they do without them,
except that objects which are made in the run may have other numbers.
-/
namespace WasmHost

section

variable [Platform]

namespace Instance

variable (i : Instance) (name : String)

/-- On every instance looking an attribute up ends without a look at anything, or else looks an
export up. Which of these it does depends on the name alone. -/
theorem attributeOf_acts :
    (∃ result, (∀ f, result ≠ .ok (.exported f)) ∧ ∀ i : Instance,
      Acts i (i.attributeOf name) (Share.ofGuest fun guest => (result, guest))) ∨
    ∀ i : Instance, Acts i (i.attributeOf name) fun s => (asAttribute name
      (Share.function i (i.exportName name) s).1, (Share.function i (i.exportName name) s).2) := by
  have silent {result : Except Failure Attribute} {a : HostAction Attribute} (i : Instance)
      (ha : ∀ h, a.run.run h = (result, h)) :
      Acts i a (Share.ofGuest fun guest => (result, guest)) :=
    .done i fun h => ⟨h, ha h, .refl h⟩
  simp only [attributeOf_eq]
  -- names that are kept to the namespace are settled before any export is looked up
  split
  · exact Or.inl ⟨.ok .owner, fun f hf => (nomatch hf), fun i => silent i fun _ => rfl⟩
  split
  · exact Or.inl ⟨.ok (.ownMember name), fun f hf => (nomatch hf), fun i => silent i fun _ => rfl⟩
  split
  · exact Or.inl ⟨.error _, fun f hf => (nomatch hf), fun i => silent i fun _ => rfl⟩
  · exact Or.inr fun i =>
      (i.function_acts (i.exportName name)).recast (i.exportedAttribute_run name)

omit [Platform] in
theorem found_natural {result : Except Failure Attribute}
    (hresult : ∀ f, result ≠ .ok (.exported f)) :
    Share.Natural (Share.ofGuest fun guest => (result.map (Answer.found i), guest)) := by
  apply Share.Natural.fixed
  intro answer hanswer
  cases result with
  | error failure => cases hanswer
  | ok found =>
    cases hanswer
    cases found with
    | exported f => exact absurd rfl (hresult f)
    | owner | ownMember member => rfl

theorem hasAttribute_truth {act : Share → Except Failure Attribute × Share}
    (acts : Acts i (i.attributeOf name) act) : Acts i (Operation.hasAttribute i name).perform
      fun s => (.ok (.truth (act s).1.isOk), (act s).2) := by
  have hrun (h : Host) : (liftM (i.hasAttribute name) : HostAction Bool).run.run h =
      (.ok ((i.attributeOf name).run.run h).1.isOk, ((i.attributeOf name).run.run h).2) := by
    rw [Action.run_lift, i.hasAttribute_run]
  exact (acts.recast (f := fun r => .ok r.isOk) hrun).map Answer.truth

theorem getAttribute_acts : ∃ act, Acts i (Operation.getAttribute i name).perform act ∧
    Share.Natural act ∧ Share.Calls i act := by
  rcases attributeOf_acts name with ⟨result, hresult, acts⟩ | acts
  · exact ⟨_, (acts i).map (Answer.found i), i.found_natural hresult, fun s => Or.inl rfl⟩
  · exact ⟨_, (acts i).map (Answer.found i), .exported i name (i.exportName name),
      Share.function_calls i (i.exportName name)⟩

theorem hasAttribute_acts : ∃ act, Acts i (Operation.hasAttribute i name).perform act ∧
    Share.Natural act ∧ Share.Calls i act := by
  rcases attributeOf_acts name with ⟨result, -, acts⟩ | acts
  · refine ⟨_, i.hasAttribute_truth name (acts i),
      .fixed (.ok (.truth result.isOk)) fun hanswer => ?_, fun s => Or.inl rfl⟩
    cases hanswer
    rfl
  · exact ⟨_, i.hasAttribute_truth name (acts i), .truth i name (i.exportName name),
      Share.function_calls i (i.exportName name)⟩

end Instance

namespace Operation

theorem view_acts {i : Instance} {v : MemoryView} (hv : v.handle = i.handle)
    (request : ViewRequest) : i.Acts (view v request).perform
      (Share.ofGuest fun guest => (request.outcome (guest.memory v.memory), guest)) where
  runs {h} _ := by
    have hmemory : h.memory v = (i.share h).guest.memory v.memory := by
      unfold Host.memory
      rw [hv]
      rfl
    rw [view_run, hmemory]
    rfl
  within {h} _ := by
    rw [view_run]
    exact .refl i h

/-- Every operation on an instance acts on its share, in a way that goes along with other
numbers. It leaves the guest as it is or calls it. -/
-- one case for each operation on an instance
theorem Concerns.acts {i : Instance} {op : Operation} (concerns : op.Concerns i) :
    ∃ act, i.Acts op.perform act ∧ Share.Natural act ∧ Share.Calls i act := by
  cases concerns with
  | call name arguments =>
    obtain ⟨run, acts, calls⟩ := i.call_acts name arguments
    exact ⟨_, acts.map Answer.value, .value run, calls⟩
  | function name =>
    exact ⟨_, (i.function_acts name).map Answer.function, .function i name,
      Share.function_calls i name⟩
  | getAttribute name => exact i.getAttribute_acts name
  | hasAttribute name => exact i.hasAttribute_acts name
  | getItem name =>
    have acts := (i.function_acts name).recast (i.itemOf_run name)
    exact ⟨_, acts.map Answer.function, .item i name, Share.function_calls i name⟩
  | memoryBuffer =>
    exact ⟨_, i.memoryBuffer_acts.map Answer.view, .memoryBuffer i,
      fun s => Or.inl (Share.memoryBuffer_guest i s)⟩
  | @apply f name wraps arguments =>
    obtain ⟨run, acts, calls⟩ := i.invoke_acts wraps.resolved arguments
    rw [← wraps.apply_eq wraps.resolved arguments] at acts
    exact ⟨_, acts.map Answer.value, .value run, calls⟩
  -- a view reads the guest and leaves it alone
  | @view v hv request =>
    refine ⟨_, view_acts hv request, .ofGuest _ fun hanswer => ?_, fun s => Or.inl rfl⟩
    unfold ViewRequest.outcome at hanswer
    dsimp only at hanswer
    split at hanswer
    · cases hanswer
      rfl
    · cases hanswer

theorem Concerns.shown {i : Instance} {op : Operation} (concerns : op.Concerns i) (thread : Thread)
    (h : Host) : op.shown thread h = some (op.outcome thread h) := by
  cases concerns <;> rfl

theorem Concerns.steps {i : Instance} {op : Operation} (concerns : op.Concerns i) :
    ∃ act, Share.Natural act ∧ Share.Calls i act ∧ ∀ thread h, (i.share h).lock = none →
      op.outcome thread h = (act (i.share h)).1 ∧
      i.share (op.after thread h) = (act (i.share h)).2 ∧
      i.Within h (op.after thread h) := by
  obtain ⟨act, acts, natural, calls⟩ := concerns.acts
  exact ⟨act, natural, calls, fun thread h free => acts.steps thread free⟩

theorem Concerns.unlocked {i : Instance} {op : Operation} (concerns : op.Concerns i)
    (thread : Thread) {h : Host} (unlocked : ∀ n, h.viewLocks.get n = none) (n : Nat) :
    (op.after thread h).viewLocks.get n = none := by
  obtain ⟨act, natural, -, steps⟩ := concerns.steps
  obtain ⟨-, hshare, within⟩ := steps thread h (unlocked i.serial)
  by_cases hn : n = i.serial
  · have hlock : (i.share (op.after thread h)).lock = none :=
      hshare ▸ natural.free (unlocked i.serial)
    exact hn ▸ hlock
  · exact (within.viewLocks hn).trans (unlocked n)

/-- In states in which an instance has the same share but for numbers, an operation on it gives the
same but for numbers, and leaves such states. All numbers that were given out may be kept. -/
theorem Concerns.follows {i : Instance} {op : Operation} (concerns : op.Concerns i)
    (thread : Thread) {h r : Host} {σ : Nat → Nat}
    (follows : Share.Follows σ (i.share h) (i.share r)) :
    Share.Follows σ (i.share (op.after thread h)) (i.share (op.after thread r)) ∧
      r.nextSerial ≤ (op.after thread r).nextSerial ∧
      ∀ τ : Nat → Nat, (∀ n < (op.after thread r).nextSerial, τ n = σ n) →
        op.shown thread h = (op.shown thread r).map (Except.map (Answer.renumber τ)) := by
  -- the operation acts on the shares, and what it gives is given with other numbers
  obtain ⟨act, natural, -, steps⟩ := concerns.steps
  obtain ⟨houtcome, hshare, -⟩ := steps thread h follows.free
  obtain ⟨houtcome', hshare', -⟩ := steps thread r follows.free'
  have hnext : (op.after thread r).nextSerial = (act (i.share r)).2.next :=
    congrArg Share.next hshare'
  refine ⟨?_, hnext ▸ natural.later (i.share r), fun τ keeps => ?_⟩
  · rw [hshare, hshare']
    exact natural.leaves follows
  · rw [concerns.shown, concerns.shown, houtcome, houtcome', natural.gives follows]
    -- the number that is given is one of those that are kept
    cases hanswer : (act (i.share r)).1 with
    | error failure => rfl
    | ok answer =>
      have hnumber : ∀ n ∈ answer.number?, σ n = τ n := fun n hn =>
        (keeps n (hnext ▸ natural.issued follows hanswer n hn)).symm
      exact congrArg (fun a => some (Except.ok a)) (Answer.renumber_congr hnumber)

theorem Concerns.skips {i j : Instance} {op : Operation} (concerns : op.Concerns j)
    (apart : i.Apart j) (thread : Thread) {h r : Host} {σ : Nat → Nat}
    (free : (j.share h).lock = none) (follows : Share.Follows σ (i.share h) (i.share r)) :
    ∃ σ' : Nat → Nat, (∀ n < r.nextSerial, σ' n = σ n) ∧
      Share.Follows σ' (i.share (op.after thread h)) (i.share r) := by
  obtain ⟨act, natural, -, steps⟩ := concerns.steps
  obtain ⟨-, -, within⟩ := steps thread h free
  rw [within.share_of_apart apart]
  exact follows.skip within.later

/-- The same operation, but for the number of the callable or of the view that it is on. -/
inductive Like : Operation → Operation → Prop where
  | refl (op : Operation) : Like op op
  | apply (f : ExportedFunction) (serial : Nat) (arguments : List HostValue) :
      Like (.apply f arguments) (.apply { f with serial } arguments)
  | view (v : MemoryView) (serial : Nat) (request : ViewRequest) :
      Like (.view v request) (.view { v with serial } request)

theorem Like.shown_eq {op other : Operation} (like : Like op other) (thread : Thread) (h : Host) :
    other.shown thread h = op.shown thread h := by
  cases like <;> rfl

theorem Like.after_eq {op other : Operation} (like : Like op other) (thread : Thread) (h : Host) :
    other.after thread h = op.after thread h := by
  cases like <;> rfl

end Operation

namespace Slot

/-- The same slot of a run, but for the number of an object that is used in it. -/
structure Like (slot other : Slot) : Prop where
  thread : other.thread = slot.thread
  operation : slot.operation.Like other.operation
  kept : other.inserted = false

/-- A slot of a run is an operation on one instance, or it is inserted and an operation on one of
some others. -/
inductive Parted (i : Instance) (others : Set Instance) (slot : Slot) : Prop where
  | own (kept : slot.inserted = false) (concerns : slot.operation.Concerns i)
  | other {j : Instance} (hj : j ∈ others) (inserted : slot.inserted = true)
      (concerns : slot.operation.Concerns j)

/-- From states in which an instance has the same share but for numbers, a run goes on this instance
as it goes without the operations on others. -/
theorem outcomes_alone {i : Instance} {others : Set Instance} (apart : ∀ j ∈ others, i.Apart j)
    {slots alone : List Slot} {h r : Host} {σ : Nat → Nat}
    (parted : ∀ slot ∈ slots, slot.Parted i others)
    (like : List.Forall₂ Like (kept slots) alone) (unlocked : ∀ n, h.viewLocks.get n = none)
    (follows : Share.Follows σ (i.share h) (i.share r)) :
    ∃ σ' : Nat → Nat, (∀ n < r.nextSerial, σ' n = σ n) ∧
      outcomes h slots = (outcomes r alone).map (·.map (Except.map (Answer.renumber σ'))) ∧
      Share.Follows σ' (i.share (after h slots)) (i.share (after r alone)) := by
  -- by induction on the longer run, for all pairs of states that the two runs may have come to
  induction slots generalizing alone h r σ with
  | nil =>
    cases like
    exact ⟨σ, fun _ _ => rfl, rfl, follows⟩
  | cons slot slots ih =>
    obtain ⟨hslot, hslots⟩ := List.forall_mem_cons.mp parted
    cases hslot with
    -- only the longer run goes on
    | other hj inserted concerns =>
      obtain ⟨σ₁, keeps₁, follows₁⟩ :=
        concerns.skips (apart _ hj) slot.thread (unlocked _) follows
      have hkept : kept (slot :: slots) = kept slots :=
        List.filter_cons_of_neg (by simp [inserted])
      rw [hkept] at like
      obtain ⟨σ₂, keeps₂, hsame, hend⟩ :=
        ih hslots like (concerns.unlocked slot.thread unlocked) follows₁
      rw [outcomes, inserted]
      exact ⟨σ₂, fun n hn => (keeps₂ n hn).trans (keeps₁ n hn), hsame, hend⟩
    | own hown concerns =>
      have hkept : kept (slot :: slots) = slot :: kept slots :=
        List.filter_cons_of_pos (by simp [hown])
      rw [hkept] at like
      cases like with
      | @cons _ other _ alone alike like =>
        obtain ⟨follows₁, hlater, hshown⟩ := concerns.follows slot.thread follows
        obtain ⟨σ₂, keeps₂, hsame, hend⟩ :=
          ih hslots like (concerns.unlocked slot.thread unlocked) follows₁
        have hshown' : other.operation.shown other.thread r =
            slot.operation.shown slot.thread r := by
          rw [alike.thread, alike.operation.shown_eq]
        have hafter' : other.operation.after other.thread r =
            slot.operation.after slot.thread r := by
          rw [alike.thread, alike.operation.after_eq]
        refine ⟨σ₂, fun n hn => keeps₂ n (Nat.lt_of_lt_of_le hn hlater), ?_, ?_⟩
        · rw [outcomes, outcomes, hown, alike.kept, hshown', hafter', hshown σ₂ keeps₂, hsame]
          rfl
        · rw [after, after, hafter']
          exact hend

end Slot

omit [Platform] in
theorem Ledger.follows {h : Host} {K : Set Object} (ledger : Ledger h K) (i : Instance) :
    Share.Follows id (i.share h) (i.share h) where
  -- every number stands for itself, and those that are held have been given out
  guest := rfl
  wrappers := (List.map_id _).symm
  slot := by
    have hslot (slot : ViewSlot) : slot = slot.renumber id := by
      match slot with
      | .unset | .holds none | .holds (some _) => rfl
    exact hslot _
  free := ledger.unlocked i.serial
  free' := ledger.unlocked i.serial
  increasing := strictMono_id
  ahead _ := rfl
  wrapper hf := ledger.issued (ledger.held (.wrapper hf))
  view hv := ledger.issued (ledger.held (.view hv))

theorem History.apart {events : List Event} {h : Host} (history : History events h) {i j : Instance}
    (hi : .running i ∈ Known events) (hj : .running j ∈ Known events) (hne : i ≠ j) :
    i.Apart j where
  owner := by
    obtain ⟨K, ledger, hknown⟩ := history.ledger
    intro hserial
    exact hne (Object.running.inj (ledger.distinct (hknown hi) (hknown hj) hserial))
  handle := history.handles_distinct hi hj hne

/-- In every state that a process comes to, let a run be made of operations on one instance and of
operations on other instances, of the same modules and on the same engines or not, on any threads.
Without the operations on the others, every operation on this one gives the same result or the same
failure with the same diagnostic, and the guest ends with the same memories, the same globals and
the same fuel. So do the callables and the view that were handed out. Only objects that are made in
the run may have other numbers; two of them are the same in one run if they are in the other. -/
theorem History.instances_isolated {events : List Event} {h : Host} (history : History events h)
    {i : Instance} (known : .running i ∈ Known events) {slots alone : List Slot}
    (parted : ∀ slot ∈ slots, slot.Parted i {j | .running j ∈ Known events ∧ j ≠ i})
    (like : List.Forall₂ Slot.Like (Slot.kept slots) alone) :
    ∃ σ : Nat → Nat, StrictMono σ ∧ (∀ n < h.nextSerial, σ n = n) ∧
      Slot.outcomes h slots =
        (Slot.outcomes h alone).map (·.map (Except.map (Answer.renumber σ))) ∧
      (Slot.after h slots).guest i.handle = (Slot.after h alone).guest i.handle ∧
      i.wrappers (Slot.after h slots) = renumbered σ (i.wrappers (Slot.after h alone)) ∧
      i.viewSlot (Slot.after h slots) = (i.viewSlot (Slot.after h alone)).renumber σ := by
  obtain ⟨K, ledger, -⟩ := history.ledger
  obtain ⟨σ, keeps, hsame, hend⟩ := Slot.outcomes_alone
    (fun j hj => history.apart known hj.1 hj.2.symm) parted like ledger.unlocked (ledger.follows i)
  exact ⟨σ, hend.increasing, keeps, hsame, hend.guest, hend.wrappers, hend.slot⟩

end

section

attribute [local instance] Platform.machine

/-- Two counters of one program have fuel for three calls each. One counts to two, by name and by a
callable, and traps with its last fuel. In between the other one hands out a callable, traps, and
runs out of fuel. Only the number of the callable would be another one without it. -/
theorem History.instances_isolated_counters :
    let p : Guest.Program := ⟨[], [], [], none,
      [⟨"next", .function ⟨[], [.i32], .increment⟩⟩, ⟨"stop", .function ⟨[], [], .unreachable⟩⟩]⟩
    let e : Engine := ⟨2, ⟨1, .speed, false, true, 3⟩⟩
    let m : CompiledModule := ⟨5, e, ⟨4, ⟨p, true, false⟩⟩, none⟩
    let i : Instance := ⟨7, e, ⟨6, m.artifact⟩, m⟩
    let j : Instance := ⟨9, e, ⟨8, m.artifact⟩, m⟩
    let f (serial : Nat) : ExportedFunction :=
      ⟨serial, e, ⟨i.handle, "next", ⟨[], .ofNumeric .i32⟩⟩⟩
    let compiles := Operation.compile (.ofProgram p) none none
    let makes := Operation.newInstance m
    let h₀ := Host.fresh
      ⟨⟨[("wasm_embed_consume_fuel", "on"), ("wasm_embed_fuel", "3")]⟩, none⟩ ⟨[]⟩
    let h₁ := compiles.after 0 h₀
    let h₂ := makes.after 0 h₁
    let h := makes.after 0 h₂
    let slots : List Slot :=
      [⟨0, .call i "next" [], false⟩, ⟨0, .function j "next", true⟩,
        ⟨1, .function i "next", false⟩, ⟨0, .call j "stop" [], true⟩,
        ⟨1, .apply (f 11) [], false⟩, ⟨0, .call j "next" [], true⟩, ⟨0, .call i "stop" [], false⟩,
        ⟨1, .call j "next" [], true⟩, ⟨0, .call j "next" [], true⟩, ⟨0, .call i "next" [], false⟩]
    let alone : List Slot :=
      [⟨0, .call i "next" [], false⟩, ⟨1, .function i "next", false⟩,
        ⟨1, .apply (f 10) [], false⟩, ⟨0, .call i "stop" [], false⟩, ⟨0, .call i "next" [], false⟩]
    History [compiles.event 0 h₀, makes.event 0 h₁, makes.event 0 h₂] h ∧
      List.Forall₂ Slot.Like (Slot.kept slots) alone ∧
      (∃ σ : Nat → Nat, StrictMono σ ∧ σ 10 = 11 ∧ Slot.outcomes h slots =
        (Slot.outcomes h alone).map (·.map (Except.map (Answer.renumber σ)))) ∧
      (Slot.outcomes h alone).map (fun
        | some (.ok (.value v)) => v.toInteger?
        | _ => none) = [some 1, none, some 2, none, none] ∧
      (Slot.after h slots).guest i.handle = ⟨[], 2, some 0⟩ := by
  intro p e m i j f compiles makes h₀ h₁ h₂ h slots alone
  -- compiling and instantiating twice makes the module and the two instances
  have hm : Object.compiled m ∈ onOk Answer.objects (compiles.event 0 h₀).outcome := rfl
  have hi : Object.running i ∈ onOk Answer.objects (makes.event 0 h₁).outcome := rfl
  have hj : Object.running j ∈ onOk Answer.objects (makes.event 0 h₂).outcome := rfl
  let events := [compiles.event 0 h₀, makes.event 0 h₁, makes.event 0 h₂]
  have history₁ : History [compiles.event 0 h₀] h₁ :=
    .perform (.start _ _) 0 (Set.empty_subset _)
  have history₂ : History [compiles.event 0 h₀, makes.event 0 h₁] h₂ :=
    .perform history₁ 0 fun _ ho => ho ▸ .given List.mem_cons_self hm
  have history : History events h :=
    .perform history₂ 0 fun _ ho => ho ▸ .given List.mem_cons_self hm
  have known : Object.running i ∈ Known events :=
    .given (List.mem_cons_of_mem _ List.mem_cons_self) hi
  have hother : j ∈ {k | Object.running k ∈ Known events ∧ k ≠ i} :=
    ⟨.given (List.mem_cons_of_mem _ (List.mem_cons_of_mem _ List.mem_cons_self)) hj, by decide⟩
  have wraps : i.Wraps "next" (f 11) := ⟨rfl, rfl, rfl, rfl⟩
  -- each operation is on the first instance or on the other one
  have parted : ∀ slot ∈ slots, slot.Parted i {k | Object.running k ∈ Known events ∧ k ≠ i} := by
    simp only [slots, List.forall_mem_cons]
    exact ⟨.own rfl (.call _ _), .other hother rfl (.function _), .own rfl (.function _),
      .other hother rfl (.call _ _), .own rfl (.apply wraps _), .other hother rfl (.call _ _),
      .own rfl (.call _ _), .other hother rfl (.call _ _), .other hother rfl (.call _ _),
      .own rfl (.call _ _), fun _ hslot => absurd hslot List.not_mem_nil⟩
  -- without the operations on the other one, the callable gets the number before
  have like : List.Forall₂ Slot.Like (Slot.kept slots) alone :=
    .cons ⟨rfl, .refl _, rfl⟩ <| .cons ⟨rfl, .refl _, rfl⟩ <| .cons ⟨rfl, .apply _ 10 _, rfl⟩ <|
      .cons ⟨rfl, .refl _, rfl⟩ <| .cons ⟨rfl, .refl _, rfl⟩ .nil
  obtain ⟨σ, increasing, -, houtcomes, hguest, hwrappers, -⟩ :=
    history.instances_isolated known parted like
  -- the callable is the same but for its number, so the numbers tell how they were changed
  refine ⟨history, like, ⟨σ, increasing, ?_, houtcomes⟩, by decide +kernel, ?_⟩
  · have hslots : i.wrappers (Slot.after h slots) = [("next", f 11)] := by decide +kernel
    have halone : i.wrappers (Slot.after h alone) = [("next", f 10)] := by decide +kernel
    rw [hslots, halone] at hwrappers
    have hserials : [11] = [σ 10] :=
      congrArg (List.map fun entry : String × ExportedFunction => entry.2.serial) hwrappers
    exact (List.cons.inj hserials).1.symm
  · rw [hguest]
    decide +kernel

end

end WasmHost
