import WasmHost.Proofs.Creation
import WasmHost.Proofs.Isolation
/-!
Instances of one program on one engine.

When two of them are in the same state of the guest and nothing else is kept of them, then nothing
that is done with them tells them apart: every sequence of calls, look-ups and readings has the same
outcomes on both. They may be in different hosts, and made in different ways. Of course what one of
them hands out is about this instance, and new objects are numbered as the host goes on.
-/
namespace WasmHost

/-- The same callable of another instance. -/
def ExportedFunction.onto (j : Instance) (f : ExportedFunction) : ExportedFunction :=
  { f with bound := { f.bound with handle := j.handle } }

/-- The same view over the memory of another instance. -/
def MemoryView.onto (j : Instance) (v : MemoryView) : MemoryView := { v with handle := j.handle }

def ViewSlot.onto (j : Instance) : ViewSlot → ViewSlot
  | unset => unset
  | holds view => holds (view.map (MemoryView.onto j))

/-- The same answer about another instance. -/
def Answer.onto (j : Instance) : Answer → Answer
  | function f => function (f.onto j)
  | found _ (.exported f) => found j (.exported (f.onto j))
  | found _ attr => found j attr
  | view v => view (v.map (MemoryView.onto j))
  | answer => answer

namespace EngineCall

/-- The same operation of an engine on two handles: what asks for the exports of an instance, calls
it or reads its memory. -/
inductive Counterpart (handle other : Handle) : EngineCall → EngineCall → Prop where
  | exportNames : Counterpart handle other (.exportNames handle) (.exportNames other)
  | functionNames : Counterpart handle other (.functionNames handle) (.functionNames other)
  | functionSignature (name : String) :
      Counterpart handle other (.functionSignature handle name) (.functionSignature other name)
  | invokeFunction (name : String) (values : List Value) :
      Counterpart handle other (.invokeFunction handle name values)
        (.invokeFunction other name values)
  | memorySize (memory : Nat) :
      Counterpart handle other (.memorySize handle memory) (.memorySize other memory)
  | memoryRead (memory : Nat) (start stop : Int) :
      Counterpart handle other (.memoryRead handle memory start stop)
        (.memoryRead other memory start stop)

end EngineCall

/-- The same operation on two instances: on the instances themselves, on callables that wrap exports
of one name, on views over the same memory, or on their handles. -/
inductive Operation.Counterpart (i j : Instance) : Operation → Operation → Prop where
  | call (name : String) (arguments : List HostValue) :
      Counterpart i j (.call i name arguments) (.call j name arguments)
  | function (name : String) : Counterpart i j (.function i name) (.function j name)
  | getAttribute (name : String) : Counterpart i j (.getAttribute i name) (.getAttribute j name)
  | hasAttribute (name : String) : Counterpart i j (.hasAttribute i name) (.hasAttribute j name)
  | getItem (name : String) : Counterpart i j (.getItem i name) (.getItem j name)
  | memoryBuffer : Counterpart i j (.memoryBuffer i) (.memoryBuffer j)
  | apply {f g : ExportedFunction} {name : String} (wraps : i.Wraps name f)
      (wraps' : j.Wraps name g) (arguments : List HostValue) :
      Counterpart i j (.apply f arguments) (.apply g arguments)
  | view {v w : MemoryView} (hv : v.handle = i.handle) (hw : w.handle = j.handle)
      (hmemory : w.memory = v.memory) (request : ViewRequest) :
      Counterpart i j (.view v request) (.view w request)
  | engine {asked asked' : EngineCall} (asks : asked.Counterpart i.handle j.handle asked') :
      Counterpart i j (.engineCall i.engine asked) (.engineCall j.engine asked')

/-- Slots of two runs hold the same operation on two instances, on any threads. -/
structure Slot.Paired (i j : Instance) (slot other : Slot) : Prop where
  operation : slot.operation.Counterpart i j other.operation
  kept : slot.inserted = false
  kept' : other.inserted = false

section

variable [Platform]

/-- Nothing that is done with two instances in two states tells them apart. Whatever the sequence of
calls, look-ups and readings, it has the same outcomes on both, but that each answer is about its
instance and numbers new objects from the next number of its host; and it leaves the guests in the
same state. -/
def Instance.Indistinguishable (i : Instance) (h : Host) (j : Instance) (r : Host) : Prop :=
  ∀ slots slots', List.Forall₂ (Slot.Paired i j) slots slots' →
    ∃ answers : List (Except Failure Answer),
      Slot.outcomes h slots =
        answers.map (fun a => some (a.map (Answer.renumber (h.nextSerial + ·)))) ∧
      Slot.outcomes r slots' =
        answers.map (fun a =>
          some ((a.map (Answer.onto j)).map (Answer.renumber (r.nextSerial + ·)))) ∧
      (Slot.after h slots).guest i.handle = (Slot.after r slots').guest j.handle

end

namespace Share

variable {α : Type} {i j : Instance}

/-- The same share of another instance. -/
def onto (j : Instance) (s : Share) : Share :=
  { s with
    wrappers := s.wrappers.map fun entry => (entry.1, entry.2.onto j)
    slot := s.slot.onto j }

/-- What acts on the shares of one instance does the same as what acts on those of another. -/
def Carried (j : Instance) (act act' : Share → Except Failure Answer × Share) : Prop :=
  ∀ s, act' (s.onto j) = ((act s).1.map (Answer.onto j), (act s).2.onto j)

theorem function_onto (twins : i.Twins j) (name : String) (s : Share) :
    Share.function j name (s.onto j) =
      ((Share.function i name s).1.map (·.onto j), (Share.function i name s).2.onto j) := by
  have hlookup : (s.onto j).wrappers.lookup name =
      (s.wrappers.lookup name).map (·.onto j) := lookup_map_snd _ name s.wrappers
  -- a callable that was handed out is found in both, and a new one is bound to what the name stands
  -- for
  unfold Share.function
  rw [hlookup, twins.program]
  cases s.wrappers.lookup name with
  | some f => rfl
  | none =>
    cases i.handle.program.resolution name with
    | error failure => rfl
    | ok signature =>
      unfold onto
      rw [List.map_append, twins.engine]
      rfl

theorem memoryBuffer_onto (twins : i.Twins j) (s : Share) :
    Share.memoryBuffer j (s.onto j) =
      ((Share.memoryBuffer i s).1.map (·.onto j), (Share.memoryBuffer i s).2.onto j) := by
  have hslot : (s.onto j).slot = s.slot.onto j := rfl
  unfold Share.memoryBuffer
  rw [hslot, twins.program]
  cases s.slot with
  | holds view => rfl
  | unset => cases i.handle.program.exposedMemory? <;> rfl

theorem Carried.ofGuest {run run' : Guest.State → Except Failure Answer × Guest.State}
    (same : ∀ guest, run' guest = ((run guest).1.map (Answer.onto j), (run guest).2)) :
    Carried j (Share.ofGuest run) (Share.ofGuest run') := by
  intro s
  have hguest : (s.onto j).guest = s.guest := rfl
  unfold Share.ofGuest
  rw [hguest, same]
  rfl

theorem Carried.lookUp (twins : i.Twins j) (name : String)
    {f g : Except Failure ExportedFunction → Except Failure Answer}
    (same : ∀ result, g (result.map (·.onto j)) = (f result).map (Answer.onto j)) :
    Carried j (fun s => (f (Share.function i name s).1, (Share.function i name s).2))
      (fun s => (g (Share.function j name s).1, (Share.function j name s).2)) := by
  intro s
  dsimp only
  rw [function_onto twins, same]

end Share

namespace Answer

/-- Neither an instance nor the number of an object is in an answer. -/
def isPlain : Answer → Bool
  | function _ | found _ _ | view _ => false
  | _ => true

theorem onto_of_plain {answer : Answer} (plain : answer.isPlain = true) (j : Instance) :
    answer.onto j = answer := by
  cases answer with
  | function | found | view => cases plain
  | _ => rfl

theorem number?_of_plain {answer : Answer} (plain : answer.isPlain = true) :
    answer.number? = none := by
  cases answer with
  | function | found | view => cases plain
  | _ => rfl

end Answer

namespace Instance

variable {i j : Instance}

/-- An action on one instance and one on another act alike on the shares of the two. -/
def ActAlike (i j : Instance) (a b : HostAction Answer) : Prop :=
  ∃ act act', Acts i a act ∧ Acts j b act' ∧ Share.Natural act ∧ Share.Natural act' ∧
    Share.Carried j act act'

theorem ActAlike.ofGuest {a b : HostAction Answer}
    (run : Guest.State → Except Failure Answer × Guest.State)
    (acts : Acts i a (Share.ofGuest run)) (acts' : Acts j b (Share.ofGuest run))
    (plain : ∀ guest answer, (run guest).1 = .ok answer → answer.isPlain = true) :
    ActAlike i j a b := by
  have natural : Share.Natural (Share.ofGuest run) :=
    .ofGuest run fun hanswer => Answer.number?_of_plain (plain _ _ hanswer)
  refine ⟨_, _, acts, acts', natural, natural, .ofGuest fun guest => ?_⟩
  refine Prod.ext ?_ rfl
  cases hresult : (run guest).1 with
  | error failure => rfl
  | ok answer => exact congrArg Except.ok (Answer.onto_of_plain (plain guest answer hresult) j).symm

theorem ActAlike.map {α : Type} {a b : HostAction α}
    {run : Guest.State → Except Failure α × Guest.State} (acts : Acts i a (Share.ofGuest run))
    (acts' : Acts j b (Share.ofGuest run)) {f : α → Answer} (plain : ∀ x, (f x).isPlain = true) :
    ActAlike i j (do return f (← a)) (do return f (← b)) := by
  refine .ofGuest (fun guest => ((run guest).1.map f, (run guest).2)) (acts.map f) (acts'.map f)
    fun guest answer hanswer => ?_
  dsimp only at hanswer
  cases hresult : (run guest).1 with
  | error failure =>
    rw [hresult] at hanswer
    cases hanswer
  | ok x =>
    rw [hresult] at hanswer
    cases hanswer
    exact plain x

theorem Twins.exportName (twins : i.Twins j) (name : String) :
    j.exportName name = i.exportName name := by
  have hnames : j.functionNames = i.functionNames :=
    congrArg Guest.Program.functionNames twins.program
  unfold Instance.exportName
  rw [hnames]

variable [Platform]

theorem Twins.getAttribute (twins : i.Twins j) (name : String) :
    ActAlike i j (Operation.getAttribute i name).perform
      (Operation.getAttribute j name).perform := by
  -- a member of the namespace itself is the same on both, and anything else is looked up
  rcases attributeOf_acts name with ⟨result, hresult, acts⟩ | acts
  · let settled (k : Instance) (guest : Guest.State) : Except Failure Answer × Guest.State :=
      (result.map (.found k), guest)
    have carried : Share.Carried j (Share.ofGuest (settled i)) (Share.ofGuest (settled j)) := by
      refine .ofGuest fun guest => ?_
      refine Prod.ext ?_ rfl
      dsimp only [settled]
      cases result with
      | error failure => rfl
      | ok attr =>
        -- an attribute that is settled is no callable
        cases attr with
        | exported f => exact absurd rfl (hresult f)
        | owner | ownMember member => rfl
    exact ⟨_, _, (acts i).map (Answer.found i), (acts j).map (Answer.found j),
      i.found_natural hresult, j.found_natural hresult, carried⟩
  · refine ⟨_, _, (acts i).map (Answer.found i), (acts j).map (Answer.found j),
      .exported i name (i.exportName name), .exported j name (j.exportName name), ?_⟩
    rw [twins.exportName]
    refine Share.Carried.lookUp twins (i.exportName name)
      (f := fun result => (asAttribute name result).map (.found i))
      (g := fun result => (asAttribute name result).map (.found j)) fun result => ?_
    -- what the failure is shown as does not depend on the instance
    rcases result with ⟨fault, cause⟩ | f
    · cases fault <;> rfl
    · rfl

theorem Twins.hasAttribute (twins : i.Twins j) (name : String) :
    ActAlike i j (Operation.hasAttribute i name).perform
      (Operation.hasAttribute j name).perform := by
  -- whether there is an attribute is said without the attribute
  rcases attributeOf_acts name with ⟨result, -, acts⟩ | acts
  · refine .ofGuest (fun guest => (.ok (.truth result.isOk), guest))
      (i.hasAttribute_truth name (acts i)) (j.hasAttribute_truth name (acts j))
      fun guest answer hanswer => ?_
    cases hanswer
    rfl
  · refine ⟨_, _, i.hasAttribute_truth name (acts i), j.hasAttribute_truth name (acts j),
      .truth i name (i.exportName name),
      .truth j name (j.exportName name), ?_⟩
    rw [twins.exportName]
    refine Share.Carried.lookUp twins (i.exportName name)
      (f := fun result => .ok (.truth (asAttribute name result).isOk))
      (g := fun result => .ok (.truth (asAttribute name result).isOk)) fun result => ?_
    -- an exception is no attribute, whichever it is
    rcases result with ⟨fault, cause⟩ | f
    · cases fault <;> rfl
    · rfl

theorem Twins.getItem (twins : i.Twins j) (name : String) :
    ActAlike i j (Operation.getItem i name).perform (Operation.getItem j name).perform := by
  refine ⟨_, _, ((i.function_acts name).recast (i.itemOf_run name)).map Answer.function,
    ((j.function_acts name).recast (j.itemOf_run name)).map Answer.function, .item i name,
    .item j name, ?_⟩
  refine Share.Carried.lookUp twins name
    (f := fun result => (asItem name result).map .function)
    (g := fun result => (asItem name result).map .function) fun result => ?_
  rcases result with ⟨fault, cause⟩ | f
  · cases fault <;> rfl
  · rfl

theorem Twins.function (twins : i.Twins j) (name : String) :
    ActAlike i j (Operation.function i name).perform (Operation.function j name).perform := by
  refine ⟨_, _, (i.function_acts name).map Answer.function,
    (j.function_acts name).map Answer.function, .function i name, .function j name, ?_⟩
  refine Share.Carried.lookUp twins name (f := Except.map .function) (g := Except.map .function)
    fun result => ?_
  cases result <;> rfl

theorem Twins.memoryBuffer (twins : i.Twins j) :
    ActAlike i j (Operation.memoryBuffer i).perform (Operation.memoryBuffer j).perform := by
  refine ⟨_, _, i.memoryBuffer_acts.map Answer.view, j.memoryBuffer_acts.map Answer.view,
    .memoryBuffer i, .memoryBuffer j, fun s => ?_⟩
  dsimp only
  rw [Share.memoryBuffer_onto twins]
  rfl

theorem Twins.apply (twins : i.Twins j) {name : String} {f g : ExportedFunction}
    (wraps : i.Wraps name f) (wraps' : j.Wraps name g) (arguments : List HostValue) :
    ActAlike i j (Operation.apply f arguments).perform (Operation.apply g arguments).perform := by
  obtain ⟨run, -, hrun⟩ := exists_callsGuest wraps.resolved arguments
  have hname : j.handle.program.resolution name = .ok f.bound.signature := by
    rw [twins.program, wraps.resolved]
  have acts : Acts i (f.apply arguments) (Share.ofGuest run) :=
    wraps.apply_eq wraps.resolved arguments ▸ hrun i rfl
  have acts' : Acts j (g.apply arguments) (Share.ofGuest run) :=
    wraps'.apply_eq hname arguments ▸ hrun j twins.program
  exact .map acts acts' fun _ => rfl

theorem view_actAlike {v w : MemoryView} (hv : v.handle = i.handle) (hw : w.handle = j.handle)
    (hmemory : w.memory = v.memory) (request : ViewRequest) :
    ActAlike i j (Operation.view v request).perform (Operation.view w request).perform := by
  have acts' := Operation.view_acts hw request
  rw [hmemory] at acts'
  refine .ofGuest _ (Operation.view_acts hv request) acts' fun guest answer hanswer => ?_
  unfold ViewRequest.outcome at hanswer
  dsimp only at hanswer
  split at hanswer
  · cases hanswer
    rfl
  · cases hanswer

end Instance

variable [Platform]

namespace Engine

/-- What invoking a function on values comes to, by the program and the state of its guest alone. -/
def invocation (p : Guest.Program) (name : String) (values : List Value) (guest : Guest.State) :
    Except Failure Outcome × Guest.State :=
  match p.export? name with
  | some (.function f) =>
    if values.map (·.kind) = f.params.map (·.kind) then
      match values.mapM guestValue with
      | .error fault => (.error ⟨.plain fault, none⟩, guest)
      | .ok args => match args.mapM id with
        | none => (.error ⟨.plain .wrongValue, none⟩, guest)
        | some words => let run := Guest.call p f words guest; (.ok (ran run.1), run.2)
    else (.ok .failed, guest)
  | _ => (.ok .failed, guest)

variable {e : Engine} {handle : Handle} {name : String} {values : List Value} {h h' : Host}
  {result : Except Failure Outcome}

theorem Invokes.invocation_eq (invokes : Invokes e handle name values h result h') :
    invocation handle.program name values (h.guest handle) = (result, h'.guest handle) := by
  unfold invocation
  -- the cases of an invocation are told apart by the program, the values and the guest
  cases invokes with
  | missing hexport =>
    split
    · next f hf => exact absurd hf (hexport f)
    · rfl
  | mismatched hexport hkinds =>
    rw [hexport]
    exact if_neg hkinds
  | wrongPayload fits hpayload =>
    rw [fits.1]
    dsimp only
    rw [if_pos fits.2, hpayload]
    rfl
  | wrongValue fits hpayload hargs =>
    rw [fits.1]
    dsimp only
    rw [if_pos fits.2, hpayload]
    dsimp only
    rw [hargs]
    rfl
  | returned fits hpayload hargs hcall | trapped fits hpayload hargs hcall =>
    rw [fits.1]
    dsimp only
    rw [if_pos fits.2, hpayload]
    dsimp only
    rw [hargs]
    dsimp only
    rw [hcall]
    exact Prod.ext rfl (Cells.get_set_self ..).symm

end Engine

namespace Instance

variable {i j : Instance}

-- Invoking a function changes nothing that is kept of an instance but the state of its guest.
theorem share_of_invokes (i : Instance) {name : String} {values : List Value} {h h' : Host}
    {result : Except Failure Outcome}
    (invokes : Engine.Invokes i.engine i.handle name values h result h') :
    i.share h' = { i.share h with guest := h'.guest i.handle } ∧ Within i h h' := by
  cases invokes with
  | returned | trapped =>
    exact ⟨rfl, fun hn => Cells.get_set_of_ne _ hn _, fun _ => rfl, fun _ => rfl, fun _ => rfl,
      Nat.le_refl _⟩
  | _ => exact ⟨rfl, .of_alike i ⟨_, _, _, rfl⟩⟩

theorem invokeFunction_acts (i : Instance) (name : String) (values : List Value) :
    Acts i (i.engine.invokeFunction i.handle name values)
      (Share.ofGuest (Engine.invocation i.handle.program name values)) := by
  have hinvokes (h : Host) := i.engine.invokeFunction_invokes i.handle name values h
  refine ⟨fun {h} _ => ?_, fun {h} _ => (i.share_of_invokes (hinvokes h)).2⟩
  have hguest : (i.share h).guest = h.guest i.handle := rfl
  unfold Share.ofGuest
  rw [(i.share_of_invokes (hinvokes h)).1, hguest, (hinvokes h).invocation_eq]

omit [Platform] in
theorem functionSignature_acts (i : Instance) (name : String) :
    Acts i (liftM (i.engine.functionSignature i.handle name))
      (Share.ofGuest fun guest => (.ok (i.handle.program.signatureFor name).1, guest)) := by
  refine .done i fun h => ⟨_, ?_, i.engine.functionSignature_alike i.handle name h⟩
  obtain ⟨notices, hrun⟩ := i.engine.functionSignature_run i.handle name h
  rw [Action.run_lift, hrun]

omit [Platform] in
theorem read_acts {α : Type} (i : Instance) (read : Guest.State → α) :
    Acts i (do return read ((← get).guest i.handle)) (Share.ofGuest fun guest =>
      (.ok (read guest), guest)) where
  runs {h} _ := by
    rw [Action.run_get_bind]
    rfl
  within {h} _ := by
    rw [Action.run_get_bind]
    exact .refl i h

theorem Twins.engineCall (twins : i.Twins j) {asked asked' : EngineCall}
    (asks : asked.Counterpart i.handle j.handle asked') :
    ActAlike i j (Operation.engineCall i.engine asked).perform
      (Operation.engineCall j.engine asked').perform := by
  cases asks with
  | exportNames =>
    have acts (k : Instance) (twins : i.Twins k) :
        Acts k (EngineCall.run k.engine (.exportNames k.handle)) (Share.ofGuest fun guest =>
          (.ok (.names i.handle.program.exportNames), guest)) :=
      .done k fun h => ⟨h, by rw [← twins.program]; rfl, .refl h⟩
    exact .map (acts i (.refl i)) (acts j twins) fun _ => rfl
  | functionNames =>
    have acts (k : Instance) (twins : i.Twins k) :
        Acts k (EngineCall.run k.engine (.functionNames k.handle)) (Share.ofGuest fun guest =>
          (.ok (.names i.handle.program.functionNames), guest)) :=
      .done k fun h => ⟨h, by rw [← twins.program]; rfl, .refl h⟩
    exact .map (acts i (.refl i)) (acts j twins) fun _ => rfl
  | functionSignature name =>
    have acts (k : Instance) (twins : i.Twins k) :
        Acts k (EngineCall.run k.engine (.functionSignature k.handle name))
          (Share.ofGuest fun guest =>
            (.ok (.signature (i.handle.program.signatureFor name).1), guest)) :=
      twins.program ▸ (k.functionSignature_acts name).map EngineReply.signature
    exact .map (acts i (.refl i)) (acts j twins) fun _ => rfl
  | invokeFunction name values =>
    have acts (k : Instance) (twins : i.Twins k) :
        Acts k (EngineCall.run k.engine (.invokeFunction k.handle name values))
          (Share.ofGuest fun guest =>
            ((Engine.invocation i.handle.program name values guest).1.map .outcome,
              (Engine.invocation i.handle.program name values guest).2)) :=
      twins.program ▸ (k.invokeFunction_acts name values).map EngineReply.outcome
    exact .map (acts i (.refl i)) (acts j twins) fun _ => rfl
  | memorySize memory =>
    have acts (k : Instance) := k.read_acts fun guest => EngineReply.size (guest.memory memory).size
    exact .map (acts i) (acts j) fun _ => rfl
  | memoryRead memory start stop =>
    have acts (k : Instance) := k.read_acts fun guest =>
      EngineReply.content ((guest.memory memory).between start stop)
    exact .map (acts i) (acts j) fun _ => rfl

theorem Twins.acts (twins : i.Twins j) {op op' : Operation}
    (counterpart : op.Counterpart i j op') : ActAlike i j op.perform op'.perform := by
  -- one case for each operation on the two instances
  cases counterpart with
  | call name arguments =>
    obtain ⟨run, -, hrun⟩ := exists_callsGuest_of_call i.handle.program name arguments
    exact .map (hrun i rfl) (hrun j twins.program) fun _ => rfl
  | function name => exact twins.function name
  | getAttribute name => exact twins.getAttribute name
  | hasAttribute name => exact twins.hasAttribute name
  | getItem name => exact twins.getItem name
  | memoryBuffer => exact twins.memoryBuffer
  | apply wraps wraps' arguments => exact twins.apply wraps wraps' arguments
  | view hv hw hmemory request => exact view_actAlike hv hw hmemory request
  | engine asks => exact twins.engineCall asks

/-- The same operation on two instances, in states where their shares are one share but for numbers,
gives one answer but for numbers, and leaves such states. -/
theorem ActAlike.step {op op' : Operation} (alike : ActAlike i j op.perform op'.perform)
    (thread thread' : Thread) {h r : Host} {t : Share} {σ τ : Nat → Nat}
    (follows : Share.Follows σ (i.share h) t) (follows' : Share.Follows τ (j.share r) (t.onto j)) :
    ∃ (answer : Except Failure Answer) (t' : Share),
      op.outcome thread h = answer.map (Answer.renumber σ) ∧
      op'.outcome thread' r = (answer.map (Answer.onto j)).map (Answer.renumber τ) ∧
      Share.Follows σ (i.share (op.after thread h)) t' ∧
      Share.Follows τ (j.share (op'.after thread' r)) (t'.onto j) := by
  obtain ⟨act, act', acts, acts', natural, natural', carried⟩ := alike
  have hruns := acts.runs (h := h.onThread thread) follows.free
  have hruns' := acts'.runs (h := r.onThread thread') follows'.free
  have houtcome : op.outcome thread h = (act (i.share h)).1 := congrArg Prod.fst hruns
  have houtcome' : op'.outcome thread' r = (act' (j.share r)).1 := congrArg Prod.fst hruns'
  have hshare : i.share (op.after thread h) = (act (i.share h)).2 := congrArg Prod.snd hruns
  have hshare' : j.share (op'.after thread' r) = (act' (j.share r)).2 := congrArg Prod.snd hruns'
  have hcarried := carried t
  -- both answers are those of one share, but for numbers
  refine ⟨(act t).1, (act t).2, ?_, ?_, ?_, ?_⟩
  · rw [houtcome, natural.gives follows]
  · rw [houtcome', natural'.gives follows', hcarried]
  · rw [hshare]
    exact natural.leaves follows
  · have hleaves := natural'.leaves follows'
    rw [hcarried] at hleaves
    exact hshare' ▸ hleaves

end Instance

theorem Operation.Counterpart.shown {i j : Instance} {op op' : Operation}
    (counterpart : op.Counterpart i j op') (thread thread' : Thread) (h r : Host) :
    op.shown thread h = some (op.outcome thread h) ∧
      op'.shown thread' r = some (op'.outcome thread' r) := by
  cases counterpart with
  | engine asks => cases asks <;> exact ⟨rfl, rfl⟩
  | _ => exact ⟨rfl, rfl⟩

/-- From states where the shares of two instances of one program are one share but for numbers, runs
of the same operations give the same answers but for numbers, and leave such states. -/
theorem Instance.Twins.run {i j : Instance} (twins : i.Twins j) {slots slots' : List Slot}
    (paired : List.Forall₂ (Slot.Paired i j) slots slots') {h r : Host} {t : Share}
    {σ τ : Nat → Nat} (follows : Share.Follows σ (i.share h) t)
    (follows' : Share.Follows τ (j.share r) (t.onto j)) :
    ∃ (answers : List (Except Failure Answer)) (t' : Share),
      Slot.outcomes h slots = answers.map (fun a => some (a.map (Answer.renumber σ))) ∧
      Slot.outcomes r slots' =
        answers.map (fun a => some ((a.map (Answer.onto j)).map (Answer.renumber τ))) ∧
      Share.Follows σ (i.share (Slot.after h slots)) t' ∧
      Share.Follows τ (j.share (Slot.after r slots')) (t'.onto j) := by
  -- by induction on the two runs, for all pairs of states that they may have come to
  induction paired generalizing h r t with
  | nil => exact ⟨[], t, rfl, rfl, follows, follows'⟩
  | @cons slot slot' slots slots' pair _ ih =>
    obtain ⟨hshown, hshown'⟩ := pair.operation.shown slot.thread slot'.thread h r
    obtain ⟨answer, t₁, houtcome, houtcome', follows₁, follows₁'⟩ :=
      (twins.acts pair.operation).step slot.thread slot'.thread follows follows'
    obtain ⟨answers, t₂, hrest, hrest', hend, hend'⟩ := ih follows₁ follows₁'
    refine ⟨answer :: answers, t₂, ?_, ?_, hend, hend'⟩
    · rw [Slot.outcomes, pair.kept, hshown, houtcome, hrest]
      rfl
    · rw [Slot.outcomes, pair.kept', hshown', houtcome', hrest']
      rfl

/-- Two instances of one program on one engine are indistinguishable if nothing is kept of them and
their guests are in the same state. -/
theorem Instance.Twins.indistinguishable {i j : Instance} (twins : i.Twins j) {h r : Host}
    (untouched : i.Untouched h) (untouched' : j.Untouched r)
    (same : h.guest i.handle = r.guest j.handle) : i.Indistinguishable h j r := by
  intro slots slots' paired
  -- the share of an instance that objects are counted from zero for
  let t : Share := ⟨h.guest i.handle, [], .unset, none, 0⟩
  have follows {k : Instance} {g : Host} (untouched : k.Untouched g)
      (same : h.guest i.handle = g.guest k.handle) :
      Share.Follows (g.nextSerial + ·) (k.share g) t := {
    guest := same.symm
    wrappers := untouched.wrappers
    slot := untouched.slot
    free := untouched.free
    free' := rfl
    increasing := fun m n hmn => Nat.add_lt_add_left hmn _
    ahead := fun n => congrArg (g.nextSerial + ·) (Nat.zero_add n)
    wrapper := fun hf => absurd hf List.not_mem_nil
    view := fun hv => by cases hv }
  obtain ⟨answers, t', hsame, hsame', hend, hend'⟩ :=
    twins.run paired (follows untouched rfl) (follows untouched' same)
  exact ⟨answers, hsame, hsame', hend.guest.trans hend'.guest.symm⟩

end WasmHost
