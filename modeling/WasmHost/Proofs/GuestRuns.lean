import Mathlib.Data.List.Forall2
import Mathlib.Logic.Relation
import WasmHost.Proofs.Callables
import WasmHost.Proofs.Creation
import WasmHost.Proofs.Fuel
import WasmHost.Proofs.MemoryContent
/-!
What happens to guests in the course of a process.

An operation leaves the guests alone, or makes one under a new number, or calls one. So from one
moment to a later one a guest is only called. If the runtime keeps to pages, the memories of a guest
only change as calls change them: bytes are stored, or a memory grows by pages. The machine does.
-/
namespace WasmHost

/-- What a call does to the content of a memory: nothing, or it stores a byte inside of the memory,
or adds pages of zeros. -/
inductive ContentStep : List UInt8 → List UInt8 → Prop where
  | kept (content : List UInt8) : ContentStep content content
  | stored {content : List UInt8} {address : Nat} (inside : address < content.length)
      (byte : UInt8) : ContentStep content (content.set address byte)
  | grown (content : List UInt8) (pages : Nat) :
      ContentStep content (content ++ List.replicate (pages * LinearMemory.pageSize) 0)

namespace LinearMemory

variable (m : LinearMemory)

theorem toList_set {address : Nat} (inside : address < m.size) (byte : UInt8) :
    (m.set address byte).toList = m.toList.set address byte := by
  apply List.ext_getElem?
  intro i
  rw [getElem?_toList, size_set, List.getElem?_set, getElem?_toList, length_toList,
    m.byteAt_set inside]
  by_cases hi : i = address
  · subst hi
    rw [if_pos inside, if_pos rfl, if_pos rfl, if_pos inside]
  · rw [if_neg hi, if_neg (Ne.symm hi)]

/-- A memory of whole pages keeps its content when it grows. -/
theorem toList_grown (whole : pageSize ∣ m.size) (pages : Nat) :
    (m.resize ((m.pages + pages) * pageSize)).toList =
      m.toList ++ List.replicate (pages * pageSize) 0 := by
  have hsize : (m.pages + pages) * pageSize = m.size + pages * pageSize := by
    rw [Nat.add_mul, LinearMemory.pages, Nat.div_mul_cancel whole]
  have hlength : m.toList.length ≤ m.size + pages * pageSize := by
    rw [length_toList]
    exact Nat.le_add_right _ _
  rw [toList_resize, hsize, List.take_of_length_le hlength, Nat.add_sub_cancel_left]

end LinearMemory

namespace Guest

/-- One change that a guest makes of a memory: it stores a byte inside of it, or adds pages as long
as there are not too many. -/
inductive PageStep : LinearMemory → LinearMemory → Prop where
  | stored {m : LinearMemory} {address : Nat} (inside : address < m.size) (byte : UInt8) :
      PageStep m (m.set address byte)
  | grown {m : LinearMemory} {pages : Nat} (room : m.pages + pages ≤ 65536) :
      PageStep m (m.resize ((m.pages + pages) * LinearMemory.pageSize))

/-- All memories consist of whole pages. -/
def State.Whole (s : State) : Prop := ∀ m ∈ s.memories, LinearMemory.pageSize ∣ m.size

namespace PageStep

variable {m m' : LinearMemory}

theorem whole (step : PageStep m m') (whole : LinearMemory.pageSize ∣ m.size) :
    LinearMemory.pageSize ∣ m'.size := by
  cases step with
  | stored => rwa [LinearMemory.size_set]
  | grown =>
    rw [LinearMemory.size_resize]
    exact Nat.dvd_mul_left _ _

theorem content (step : PageStep m m') (whole : LinearMemory.pageSize ∣ m.size) :
    ContentStep m.toList m'.toList := by
  cases step with
  | stored inside byte =>
    rw [m.toList_set inside]
    exact .stored (by rwa [LinearMemory.length_toList]) byte
  | grown =>
    rw [m.toList_grown whole]
    exact .grown _ _

end PageStep

/-- Several changes of a memory, one after the other. -/
abbrev PageSteps : LinearMemory → LinearMemory → Prop := Relation.ReflTransGen PageStep

theorem PageSteps.content {m m' : LinearMemory} (steps : PageSteps m m')
    (whole : LinearMemory.pageSize ∣ m.size) :
    LinearMemory.pageSize ∣ m'.size ∧ Relation.ReflTransGen ContentStep m.toList m'.toList := by
  -- the pages have to be known to be whole at every memory on the way
  induction steps with
  | refl => exact ⟨whole, .refl⟩
  | tail _ step ih => exact ⟨step.whole ih.1, ih.2.tail (step.content ih.1)⟩

section Runtime

variable [Runtime]

/-- Memories consist of pages: an instance begins with whole ones, and a call does nothing to them
but store bytes and add pages. -/
structure Paging : Prop where
  instantiate {p : Program} {fuel : Option Nat} {s : State}
    (hmade : Guest.instantiate p fuel = .ok s) : s.Whole
  call (p : Program) (f : Function) (args : List GuestValue) (s : State) :
    List.Forall₂ PageSteps s.memories (Guest.call p f args s).2.memories

/-- From one state to another by calls of functions. -/
def Runs (p : Program) : State → State → Prop :=
  Relation.ReflTransGen fun s s' => ∃ f words, s' = (Guest.call p f words s).2

end Runtime

namespace State

variable {s : State}

theorem Whole.memory (whole : s.Whole) (n : Nat) : LinearMemory.pageSize ∣ (s.memory n).size := by
  unfold State.memory
  rw [List.getD_eq_getElem?_getD]
  cases hm : s.memories[n]? with
  | none => exact ⟨0, rfl⟩
  | some m => exact whole m (List.mem_of_getElem? hm)

theorem Whole.setMemory (whole : s.Whole) (n : Nat) {m : LinearMemory}
    (hm : LinearMemory.pageSize ∣ m.size) : (s.setMemory n m).Whole := by
  intro m' hm'
  rcases List.mem_or_eq_of_mem_set hm' with hold | rfl
  · exact whole m' hold
  · exact hm

-- If the memories have changed by steps, so has each of them.
theorem memory_steps {s' : State} (steps : List.Forall₂ PageSteps s.memories s'.memories)
    (n : Nat) : PageSteps (s.memory n) (s'.memory n) := by
  unfold State.memory
  generalize s.memories = before, s'.memories = after at steps ⊢
  induction steps generalizing n with
  | nil => exact .refl
  | cons first _ ih =>
    cases n with
    | zero => exact first
    | succ n => exact ih n

theorem Whole.steps {s' : State} (whole : s.Whole)
    (steps : List.Forall₂ PageSteps s.memories s'.memories) : s'.Whole := by
  unfold State.Whole at whole ⊢
  generalize s.memories = before, s'.memories = after at steps whole ⊢
  induction steps with
  | nil => exact whole
  | cons first _ ih =>
    obtain ⟨hfirst, hrest⟩ := List.forall_mem_cons.mp whole
    exact List.forall_mem_cons.mpr ⟨(first.content hfirst).1, ih hrest⟩

theorem setMemory_steps {m : LinearMemory} (steps : PageSteps (s.memory 0) m) :
    List.Forall₂ PageSteps s.memories (s.setMemory 0 m).memories := by
  obtain ⟨memories, hidden, fuel⟩ := s
  cases memories with
  | nil => exact .nil
  | cons first rest => exact .cons steps (List.forall₂_same.mpr fun _ _ => .refl)

theorem memories_kept (s : State) : List.Forall₂ PageSteps s.memories s.memories :=
  List.forall₂_same.mpr fun _ _ => .refl

end State

/-- In a run of a guest every memory goes from content to content as calls do it. -/
theorem Runs.content [Runtime] (paging : Paging) {p : Program} {s s' : State} (runs : Runs p s s')
    (whole : s.Whole) (n : Nat) :
    Relation.ReflTransGen ContentStep (s.memory n).toList (s'.memory n).toList := by
  -- by induction on the calls, with whole pages as the invariant
  suffices s'.Whole ∧ Relation.ReflTransGen ContentStep (s.memory n).toList (s'.memory n).toList
    from this.2
  induction runs with
  | refl => exact ⟨whole, .refl⟩
  | @tail t _ _ step ih =>
    obtain ⟨f, words, rfl⟩ := step
    have steps := paging.call p f words t
    have hmemory := (State.memory_steps steps n).content (ih.1.memory n)
    exact ⟨ih.1.steps steps, ih.2.trans hmemory.2⟩

namespace Machine

variable {p : Program} {s : State}

theorem grow_steps (p : Program) (s : State) (pages : Nat) :
    List.Forall₂ PageSteps s.memories (grow p s pages).2.memories := by
  unfold grow
  dsimp only
  split
  · exact s.memories_kept
  · next hroom =>
    have hpages : (s.memory 0).pages + pages ≤ pageLimit := by
      rw [Bool.or_eq_true, decide_eq_true_eq] at hroom
      omega
    exact State.setMemory_steps (.single (.grown hpages))

theorem runBody_steps (p : Program) (s : State) (f : Function) (args : List GuestValue) :
    List.Forall₂ PageSteps s.memories (runBody p f args s).2.memories := by
  -- only growing and storing change a memory
  unfold runBody
  cases f.body with
  | grow => exact grow_steps p s _
  | load =>
    dsimp only
    split <;> exact s.memories_kept
  | store =>
    dsimp only
    split
    · next inside => exact State.setMemory_steps (.single (.stored inside _))
    · exact s.memories_kept
  | _ => exact s.memories_kept

theorem call_steps (p : Program) (s : State) (f : Function) (args : List GuestValue) :
    List.Forall₂ PageSteps s.memories (call p f args s).2.memories := by
  unfold call
  split
  · exact runBody_steps p s f args
  · exact s.memories_kept
  · exact runBody_steps p { s with fuel := some _ } f args

theorem writeSegments_whole {segments : List DataSegment} {written : State} (whole : s.Whole)
    (hwritten : writeSegments segments s = some written) : written.Whole := by
  -- by induction on the segments; each writes within the memory, whose size stays
  induction segments generalizing s with
  | nil =>
    cases hwritten
    exact whole
  | cons d rest ih =>
    unfold writeSegments at hwritten
    dsimp only at hwritten
    split at hwritten
    · refine ih (whole.setMemory d.memory ?_) hwritten
      rw [LinearMemory.size_write]
      exact whole.memory d.memory
    · cases hwritten

theorem instantiate_whole {fuel : Option Nat} (hmade : instantiate p fuel = .ok s) : s.Whole := by
  obtain ⟨-, -, written, hwritten, hstart⟩ := instantiate_eq_ok.mp hmade
  -- a blank memory has a whole number of pages, and neither segments nor the start function change
  -- that
  have hblank : (⟨blankMemories p, 0, none⟩ : State).Whole := by
    intro m hm
    obtain ⟨t, -, rfl⟩ := List.mem_map.mp hm
    exact Nat.dvd_mul_left _ _
  have hwhole : written.Whole := writeSegments_whole hblank hwritten
  have whole : (written.withFuel fuel).Whole := hwhole
  rcases runStart_eq_ok.mp hstart with ⟨-, rfl⟩ | ⟨action, results, -, hcall⟩
  · exact whole
  · have hstarted := whole.steps (call_steps p _ (startFunction action) [])
    rw [hcall] at hstarted
    exact hstarted

/-- The memories of the machine consist of pages. -/
theorem paging : @Paging machine :=
  letI := machine
  ⟨instantiate_whole, fun p f args s => call_steps p s f args⟩

end Machine
end Guest

variable [Platform]

/-- What becomes of the guests of a state: nothing, or one is made under a new number, or one that
is known is called. -/
inductive GuestStep (K : Set Object) (h h' : Host) : Prop where
  | kept (same : h'.guests = h.guests)
  | made {p : Guest.Program} {fuel : Option Nat} {guest : Guest.State} {serial : Nat}
      (begins : Guest.instantiate p fuel = .ok guest) (later : h.nextSerial ≤ serial)
      (guests : h'.guests = h.guests.set serial guest)
  | called {handle : Handle} (known : .handle handle ∈ K) {f : Guest.Function}
      {words : List Guest.GuestValue}
      (guests : h'.guests =
        h.guests.set handle.serial (Guest.call handle.program f words (h.guest handle)).2)

namespace GuestStep

variable {K : Set Object} {h h₁ h' : Host}

-- It makes no difference that other things than guests have changed before.
theorem of_same (step : GuestStep K h₁ h') (same : h₁.guests = h.guests)
    (later : h.nextSerial ≤ h₁.nextSerial) : GuestStep K h h' := by
  cases step with
  | kept same' => exact .kept (same'.trans same)
  | made begins later' guests => exact .made begins (later.trans later') (same ▸ guests)
  | called known guests => exact .called known (by rw [guests, Host.guest, Host.guest, same])

-- Nor that they change afterwards.
theorem followed (step : GuestStep K h h₁) (same : h'.guests = h₁.guests) : GuestStep K h h' := by
  cases step with
  | kept same' => exact .kept (same.trans same')
  | made begins later guests => exact .made begins later (same.trans guests)
  | called known guests => exact .called known (same.trans guests)

theorem mono {L : Set Object} (step : GuestStep K h h') (hsub : K ⊆ L) : GuestStep L h h' := by
  cases step with
  | kept same => exact .kept same
  | made begins later guests => exact .made begins later guests
  | called known guests => exact .called (hsub known) guests

end GuestStep

namespace Engine

variable (e : Engine)

theorem newInstance_guests (artifact : Artifact) (h : Host) :
    GuestStep ∅ h ((e.newInstance artifact).run h).2 := by
  unfold newInstance
  rw [stateM_run_bind]
  cases hguest : Guest.instantiate artifact.compiled.program e.budget with
  | error diagnostic => exact .kept rfl
  | ok guest => exact .made hguest (Nat.le_refl _) rfl

theorem newInstanceFromBytes_guests {h : Host} {K : Set Object} (ledger : Ledger h K)
    (he : .engine e ∈ K) (data : Guest.Image) :
    GuestStep ∅ h ((e.newInstanceFromBytes data).run h).2 := by
  obtain ⟨K₁, grows, -⟩ := Engine.compile_issues he data h K ledger subset_rfl
  have same : ((e.compile data).run h).2.guests = h.guests :=
    ((e.compile_touches data).run h).same .guests (by decide)
  unfold newInstanceFromBytes
  rw [stateM_run_bind]
  cases ((e.compile data).run h).1 with
  | none => exact .kept same
  | some artifact => exact (e.newInstance_guests artifact _).of_same same grows.later

theorem invokeFunction_guests {K : Set Object} {handle : Handle} (hh : .handle handle ∈ K)
    (name : String) (values : List Value) (h : Host) :
    GuestStep K h ((e.invokeFunction handle name values).run.run h).2 := by
  have invokes := e.invokeFunction_invokes handle name values h
  generalize ((e.invokeFunction handle name values).run.run h).1 = result at invokes
  generalize ((e.invokeFunction handle name values).run.run h).2 = after at invokes ⊢
  cases invokes with
  | missing | mismatched | wrongPayload | wrongValue => exact .kept rfl
  | @returned f args words results guest fits hpayload hargs hcall =>
    exact .called hh (show _ = h.guests.set _ (Guest.call _ f words _).2 by rw [hcall]; rfl)
  | @trapped f args words trap guest fits hpayload hargs hcall =>
    exact .called hh (show _ = h.guests.set _ (Guest.call _ f words _).2 by rw [hcall]; rfl)

end Engine

/-- An action, in using some objects, makes at most one guest and calls none. -/
def MakesGuest {α : Type} (used : Set Object) (a : HostAction α) : Prop :=
  ∀ h K, Ledger h K → used ⊆ K → GuestStep ∅ h (a.run.run h).2

namespace MakesGuest

variable {α β : Type} {used : Set Object} {parts : List HostPart}

theorem of_touches {a : HostAction α} (ha : Touches parts a.run) (hparts : .guests ∉ parts) :
    MakesGuest used a := fun h _ _ _ => .kept ((ha.run h).same .guests hparts)

theorem bind {M : α → Set Object} {a : HostAction α} {f : α → HostAction β}
    (issues : Issues used a.run (onOk M)) (touches : Touches parts a.run) (hparts : .guests ∉ parts)
    (hf : ∀ x, MakesGuest (used ∪ M x) (f x)) : MakesGuest used (a >>= f) := by
  -- the first action leaves the guests alone, and so only what follows it counts
  intro h K ledger hused
  obtain ⟨K₁, grows, ledger₁, hgiven⟩ := issues h K ledger hused
  have same := (touches.run h).same .guests hparts
  rw [Action.run_bind]
  -- `issues` and `touches` take the failures for values, and the state is the same either way
  change (a.run.run h).2.guests = h.guests at same
  change Grows h K (a.run.run h).2 K₁ at grows
  change Ledger (a.run.run h).2 K₁ at ledger₁
  change onOk M (a.run.run h).1 ⊆ K₁ at hgiven
  rcases hrun : a.run.run h with ⟨_ | x, h₁⟩
  · rw [hrun] at same
    exact .kept same
  · rw [hrun] at same grows ledger₁ hgiven
    have hused₁ : used ∪ M x ⊆ K₁ := Set.union_subset (fun _ ho => grows.kept (hused ho)) hgiven
    exact (hf x h₁ K₁ ledger₁ hused₁).of_same same grows.later

-- The guest is made by the engine, and what follows leaves it alone.
theorem instantiate {e : Engine} {artifact : Artifact} {f : Option Handle → HostAction β}
    (parts : List HostPart) (hf : ∀ handle, Touches parts (f handle).run)
    (hparts : .guests ∉ parts) :
    MakesGuest used ((liftM (e.newInstance artifact) : HostAction (Option Handle)) >>= f) := by
  intro h _ _ _
  rw [Action.run_lift_bind]
  exact (e.newInstance_guests artifact h).followed ((hf _).run _ |>.same .guests hparts)

theorem newInstance (m : CompiledModule) : MakesGuest used m.newInstance := by
  refine instantiate [.nextSerial] (fun handle => ?_) (by decide)
  cases handle with
  | none => exact m.engine.refusal_touches _
  | some handle => exact .action_bind Host.newSerial_touches fun _ => .action_pure _

theorem build {e : Engine} (he : .engine e ∈ used) (data : Guest.Image) (headline : String) :
    MakesGuest used (Instance.build e data headline) := by
  refine bind (.action_lift (Engine.compile_issues he data))
    (.action_lift (e.compile_touches data)) (by decide) fun artifact => ?_
  -- without an artifact nothing is instantiated, and what is raised touches no guest
  cases artifact with
  | none => exact of_touches (e.refusal_touches _) List.not_mem_nil
  | some artifact =>
    refine instantiate [.nextSerial] (fun handle => ?_) (by decide)
    cases handle with
    | none => exact e.refusal_touches _
    | some handle =>
      exact .action_bind Host.newSerial_touches fun _ =>
        .action_bind Host.newSerial_touches fun _ => .action_pure _

theorem ofFile {engine : Option Engine} (he : ∀ e, engine = some e → .engine e ∈ used)
    (path : String) : MakesGuest used (Instance.ofFile path engine) :=
  bind (Host.engineOr_issues he) (Host.engineOr_touches engine) (by decide) fun e =>
    bind (e.fetchBytes_issues path) (e.fetchBytes_touches path) (by decide) fun data =>
      build (Or.inl (Or.inr rfl)) data _

theorem ofBytes {engine : Option Engine} (he : ∀ e, engine = some e → .engine e ∈ used)
    (data : Guest.Image) : MakesGuest used (Instance.ofBytes data engine) :=
  bind (Host.engineOr_issues he) (Host.engineOr_touches engine) (by decide) fun _ =>
    build (Or.inr rfl) data _

end MakesGuest

theorem Engine.call_guests {K : Set Object} {handle : Handle} (hh : .handle handle ∈ K)
    {name : String} {f : Guest.Function} {signature : Signature}
    (hexport : handle.program.export? name = some (.function f))
    (hsignature : signatureOf? f = some signature) (e : Engine) (arguments : List HostValue)
    (h : Host) :
    GuestStep K h ((e.invoker.call handle name signature arguments).run.run h).2 := by
  rcases call_runs arguments hexport hsignature with ⟨failure, hrejects⟩ | ⟨words, hruns⟩
  · rw [hrejects]
    exact .kept rfl
  · obtain ⟨notices, hrun⟩ := hruns e handle rfl h
    rw [hrun]
    exact .called hh rfl

theorem Instance.call_guests {K : Set Object} {i : Instance} (hh : .handle i.handle ∈ K)
    (name : String) (arguments : List HostValue) (h : Host) :
    GuestStep K h ((i.call name arguments).run.run h).2 := by
  -- the question for the signature comes before the call, and leaves the guests alone
  have asked := LookedUp.functionSignature i.engine i.handle name h
  have later : h.nextSerial ≤ ((i.engine.functionSignature i.handle name).run h).2.nextSerial :=
    Nat.le_of_eq
      (((i.engine.functionSignature_touches i.handle name).run h).same .nextSerial (by decide)).symm
  cases hname : i.handle.program.resolution name with
  | error failure =>
    rw [i.call_run_of_unresolved h hname]
    exact .kept asked.guests
  | ok signature =>
    obtain ⟨f, hexport, hsignature⟩ := Guest.Program.resolution_eq_ok.mp hname
    rw [i.call_run_of_resolved h hname]
    exact (Engine.call_guests hh hexport hsignature i.engine arguments _).of_same asked.guests later

theorem EngineCall.guests_step {e : Engine} {h : Host} {K : Set Object} (ledger : Ledger h K)
    (he : .engine e ∈ K) {call : EngineCall} (hcall : call.objects ⊆ K) :
    GuestStep K h ((call.run e).run.run h).2 := by
  -- an answer is made of what the action gives, without touching the state
  have answered {α : Type} {a : HostAction α} {f : α → EngineReply}
      (step : GuestStep K h (a.run.run h).2) :
      GuestStep K h ((do return f (← a) : HostAction EngineReply).run.run h).2 := by
    rw [Action.run_bind_pure]
    exact step
  -- what does not have the guests among its parts leaves them alone
  have apart {α : Type} {parts : List HostPart} {a : HostAction α} (ha : Touches parts a.run)
      (hparts : .guests ∉ parts) : GuestStep K h (a.run.run h).2 :=
    .kept ((ha.run h).same .guests hparts)
  cases call with
  | lastError | exportNames _ | functionNames _ | memorySize _ _ | memoryRead _ _ _ _ =>
    exact .kept rfl
  | fetchBytes path => exact answered (apart (e.fetchBytes_touches path) (by decide))
  | validate data => exact answered (apart (.action_lift (e.validate_touches data)) (by decide))
  | compile data => exact answered (apart (.action_lift (e.compile_touches data)) (by decide))
  | serialize artifact =>
    exact answered (apart (.action_lift (e.serialize_touches artifact)) (by decide))
  | deserialize data =>
    exact answered (apart (.action_lift (e.deserialize_touches data)) (by decide))
  | functionSignature handle name =>
    exact answered (apart (.action_lift (e.functionSignature_touches handle name)) (by decide))
  | memoryBuffer handle =>
    exact answered (apart (.action_lift (e.memoryBuffer_touches handle)) (by decide))
  | makeValue kind a => exact answered (apart (e.makeValue_touches kind a) (by decide))
  | newInstance artifact =>
    exact answered (a := liftM (e.newInstance artifact))
      ((e.newInstance_guests artifact h).mono (Set.empty_subset K))
  | newInstanceFromBytes data =>
    exact answered (a := liftM (e.newInstanceFromBytes data))
      ((e.newInstanceFromBytes_guests ledger he data).mono (Set.empty_subset K))
  | invokeFunction handle name values =>
    exact answered (e.invokeFunction_guests (hcall rfl) name values h)

-- What an operation does to the guests.
theorem Operation.guests_step {h : Host} {K : Set Object} (ledger : Ledger h K) {op : Operation}
    (hop : op.objects ⊆ K) (thread : Thread) : GuestStep K h (op.after thread h) := by
  have ledger' := ledger.onThread thread
  have onThread {h' : Host} (step : GuestStep K (h.onThread thread) h') : GuestStep K h h' :=
    step.of_same rfl (Nat.le_refl _)
  -- operations that give instances are followed by their own lemma
  have makes {a : HostAction Instance} (hperform : op.perform = do return .running (← a))
      (ha : MakesGuest op.objects a) : GuestStep K h (op.after thread h) := by
    rw [after_of_perform hperform]
    exact onThread ((ha _ K ledger' hop).mono (Set.empty_subset K))
  -- and most operations do not have the guests among their parts
  have apart (hparts : .guests ∉ .thread :: op.parts) : GuestStep K h (op.after thread h) :=
    .kept ((op.after_sameBut thread h).same .guests hparts)
  cases op with
  | newInstance m => exact makes rfl (.newInstance m)
  | instanceOfFile path engine => exact makes rfl (.ofFile (of_optional fun _ ho => ho) path)
  | instanceOfBytes data engine => exact makes rfl (.ofBytes (of_optional fun _ ho => ho) data)
  | engineCall e call =>
    rw [after_of_perform rfl]
    exact onThread (EngineCall.guests_step ledger' (hop (Or.inl rfl)) fun _ ho => hop (Or.inr ho))
  | call i name arguments =>
    have hh : .handle i.handle ∈ K :=
      ledger.parts (hop rfl) (List.mem_cons_of_mem _ List.mem_cons_self)
    rw [after_of_perform rfl]
    exact onThread (i.call_guests hh name arguments _)
  | apply f arguments =>
    -- a callable that is known has the signature of the export that it calls
    obtain ⟨g, hexport, hsignature⟩ := ledger.sound (hop rfl)
    have hh : .handle f.bound.handle ∈ K :=
      ledger.parts (hop rfl) (List.mem_cons_of_mem _ List.mem_cons_self)
    rw [after_of_perform rfl]
    exact onThread (Engine.call_guests hh hexport hsignature f.engine arguments _)
  | _ => exact apart (of_decide_eq_true rfl)

namespace GuestStep

variable {K : Set Object} {h h' : Host}

-- A guest that is known is called, if anything happens to it.
theorem runs (step : GuestStep K h h') (ledger : Ledger h K) {handle : Handle}
    (hh : .handle handle ∈ K) :
    Guest.Runs handle.program (h.guest handle) (h'.guest handle) := by
  unfold Host.guest
  cases step with
  | kept same =>
    rw [same]
    exact .refl
  | made begins later guests =>
    -- the number of a known guest has been given out, and the new one has a later number
    have hissued : handle.serial < h.nextSerial := ledger.issued hh
    rw [guests, Cells.get_set_of_ne _ (Nat.ne_of_lt (hissued.trans_le later))]
    exact .refl
  | @called other known f words guests =>
    rw [guests, Cells.get_set]
    split
    · next hserial =>
      -- the same number is the same guest, and so of the same program
      cases ledger.distinct hh known hserial
      exact .single ⟨f, words, rfl⟩
    · exact .refl

theorem whole (paging : Guest.Paging) (step : GuestStep K h h')
    (whole : ∀ n, (h.guests.get n).Whole) (n : Nat) : (h'.guests.get n).Whole := by
  cases step with
  | kept same =>
    rw [same]
    exact whole n
  -- a guest that is made has whole pages, and so has a guest after a call
  | made begins later guests =>
    rw [guests, Cells.get_set]
    split
    · exact paging.instantiate begins
    · exact whole n
  | @called handle known f words guests =>
    rw [guests, Cells.get_set]
    split
    · exact (whole handle.serial).steps (paging.call handle.program f words _)
    · exact whole n

end GuestStep

theorem History.whole (paging : Guest.Paging) {events : List Event} {h : Host}
    (history : History events h) : ∀ n, (h.guests.get n).Whole := by
  induction history with
  | start context files => exact fun n m hm => absurd hm List.not_mem_nil
  | perform past thread known ih =>
    obtain ⟨K, ledger, hknown⟩ := past.ledger
    exact (Operation.guests_step ledger (fun _ ho => hknown (known ho)) thread).whole paging ih
  | surroundings past context files serializeFault ih => exact ih

omit [Platform] in
-- What one of the events has given is known.
theorem Known.of_mem {events : List Event} {event : Event} (hevent : event ∈ events) {o : Object}
    (known : o ∈ Known [event]) : o ∈ Known events := by
  induction known with
  | self ho =>
    obtain ⟨source, hsource, hgiven⟩ := ho
    exact .self ⟨source, List.mem_singleton.mp hsource ▸ hevent, hgiven⟩
  | part _ hp ih => exact .part ih hp

theorem History.guest_runs {events : List Event} {h : Host} (history : History events h)
    {event : Event} (hevent : event ∈ events) {handle : Handle}
    (known : .handle handle ∈ Known [event]) :
    Guest.Runs handle.program (event.after.guest handle) (h.guest handle) := by
  refine history.since (P := fun g => Guest.Runs handle.program _ (g.guest handle)) hevent .refl
    (fun {earlier g op} thread past hearlier hop runs => ?_) fun _ _ _ runs => runs
  obtain ⟨K, ledger, hknown⟩ := past.ledger
  have hh : .handle handle ∈ K := hknown (Known.of_mem hearlier known)
  exact runs.trans ((Operation.guests_step ledger (fun _ ho => hknown (hop ho)) thread).runs
    ledger hh)

end WasmHost
