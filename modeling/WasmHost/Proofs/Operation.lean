import WasmHost.Memory.View
import WasmHost.Host.Platform
import WasmHost.Proofs.EngineCall
import WasmHost.Proofs.Issuing
/-!
The operations that a host offers as data, and the histories that they make up.

A history begins with a fresh host. Each of its events is an operation on some thread, and uses only
objects that earlier events have given. In between the surroundings may change: the environment, the
files, and whether modules can be serialized.
-/
namespace WasmHost

/-- A question to a view over a memory. -/
inductive ViewRequest where
  | size
  | pages
  | read (offset length : Int)
  | index (i : Int)
  | slice (start stop step : Option Int)
  | text (offset : Int) (encoding : String)
  | array (name : String) (offset count : Int)
  | written

/-- The answer of a view over a memory. -/
inductive ViewReply where
  | count (count : Nat)
  | bytes (bytes : List UInt8)
  | byte (byte : UInt8)
  | text (text : String)
  | array (array : ElementArray)

section

variable [Platform]

/-- What a view answers, by what its memory is at the moment. -/
def ViewRequest.answer (m : LinearMemory) : ViewRequest → Except Fault ViewReply
  | size => .ok (.count m.size)
  | pages => .ok (.count m.pages)
  | read offset length => (m.read offset length).map .bytes
  | index i => (m.index i).map .byte
  | slice start stop step => (m.slice start stop step).map .bytes
  | text offset encoding => (m.readText offset encoding).map .text
  | array name offset count => (m.readArray name offset count).map .array
  | written => .ok (.text m.viewText)

/-- An operation of a host. -/
inductive Operation where
  | newSettings (keywords : Keywords)
  | processSettings
  | resetSettings
  | newEngine (settings : Option SettingsObject)
  | processEngine
  | engineCall (engine : Engine) (call : EngineCall)
  | newCache (engine : Option Engine)
  | processCache
  | cacheCompile (cache : ModuleCache) (data : Guest.Image) (identifier : Option String)
  | cacheGet (cache : ModuleCache) (identifier : String)
  | cacheContains (cache : ModuleCache) (identifier : String)
  | cacheSize (cache : ModuleCache)
  | cacheClear (cache : ModuleCache)
  | compile (data : Guest.Image) (identifier : Option String) (cache : Option ModuleCache)
  | compileFile (path : String) (identifier : Option String) (cache : Option ModuleCache)
  | validate (data : Guest.Image) (strict : Bool) (engine : Option Engine)
  | serialize (compiled : CompiledModule)
  | deserialize (data : Guest.Image) (engine : Option Engine)
  | newInstance (compiled : CompiledModule)
  | instanceOfFile (path : String) (engine : Option Engine)
  | instanceOfBytes (data : Guest.Image) (engine : Option Engine)
  | call (owner : Instance) (name : String) (arguments : List HostValue)
  | function (owner : Instance) (name : String)
  | getAttribute (owner : Instance) (name : String)
  | hasAttribute (owner : Instance) (name : String)
  | getItem (owner : Instance) (name : String)
  | memoryBuffer (owner : Instance)
  | apply (function : ExportedFunction) (arguments : List HostValue)
  | view (view : MemoryView) (request : ViewRequest)

/-- What an operation of a host gives. -/
inductive Answer where
  | done
  | truth (truth : Bool)
  | count (count : Nat)
  | value (value : HostValue)
  | bytes (data : Guest.Image)
  | reading (reply : ViewReply)
  | reply (reply : EngineReply)
  | settings (settings : SettingsObject)
  | engine (engine : Engine)
  | cache (cache : ModuleCache)
  | compiled (compiled : CompiledModule)
  | entry (compiled : Option CompiledModule)
  | running (owner : Instance)
  | function (function : ExportedFunction)
  | found (owner : Instance) (found : Attribute)
  | view (view : Option MemoryView)

/-- The objects in what an engine gives. -/
def EngineReply.objects : EngineReply → Set Object
  | .artifact result => optional .artifact result
  | .handle result => optional .handle result
  | .view result => optional .view result
  | _ => ∅

/-- The objects in what an operation gives. -/
def Answer.objects : Answer → Set Object
  | .reply result => result.objects
  | settings s => {.settings s}
  | engine e => {.engine e}
  | cache c => {.cache c}
  | compiled m => {.compiled m}
  | entry m => optional .compiled m
  | running i => {.running i}
  | function f => {.function f}
  | found i a => i.attributeObject a
  | view v => optional .view v
  | _ => ∅

/-- The objects that an operation of an engine uses, besides the engine. -/
def EngineCall.objects : EngineCall → Set Object
  | serialize artifact | newInstance artifact => {.artifact artifact}
  | exportNames handle | functionNames handle | functionSignature handle _
  | invokeFunction handle _ _ | memoryBuffer handle | memorySize handle _
  | memoryRead handle _ _ _ => {.handle handle}
  | _ => ∅

namespace Operation

/-- The objects that an operation uses. -/
def objects : Operation → Set Object
  | newEngine settings => optional .settings settings
  | engineCall e asked => {.engine e} ∪ asked.objects
  | newCache engine | validate _ _ engine | deserialize _ engine | instanceOfFile _ engine
  | instanceOfBytes _ engine => optional .engine engine
  | cacheCompile c _ _ | cacheGet c _ | cacheContains c _ | cacheSize c | cacheClear c =>
    {.cache c}
  | compile _ _ cache | compileFile _ _ cache => optional .cache cache
  | serialize m | newInstance m => {.compiled m}
  | call i _ _ | function i _ | getAttribute i _ | hasAttribute i _ | getItem i _
  | memoryBuffer i => {.running i}
  | apply f _ => {.function f}
  | view v _ => {.view v}
  | newSettings _ | processSettings | resetSettings | processEngine | processCache => ∅

/-- Performs an operation. -/
def perform : Operation → HostAction Answer
  | newSettings keywords => do return .settings (← Host.newSettings keywords)
  | processSettings => do return .settings (← Host.processSettings)
  | resetSettings => do
    Host.resetSettings
    return .done
  | newEngine settings => do return .engine (← Host.newEngine settings)
  | processEngine => do return .engine (← Host.processEngine)
  | engineCall e asked => do return .reply (← asked.run e)
  | newCache engine => do return .cache (← Host.newCache engine)
  | processCache => do return .cache (← Host.processCache)
  | cacheCompile c data identifier => do return .compiled (← c.compile data identifier)
  | cacheGet c identifier => do return .entry (← c.get? identifier)
  | cacheContains c identifier => do return .truth (← c.contains identifier)
  | cacheSize c => do return .count (← c.size)
  | cacheClear c => do
    c.clear
    return .done
  | compile data identifier cache => do
    return .compiled (← CompiledModule.compile data identifier cache)
  | compileFile path identifier cache => do
    return .compiled (← CompiledModule.ofFile path identifier cache)
  | validate data strict engine => do return .truth (← CompiledModule.validate data strict engine)
  | serialize m => do return .bytes (← m.serialize)
  | deserialize data engine => do return .compiled (← CompiledModule.deserialize data engine)
  | newInstance m => do return .running (← m.newInstance)
  | instanceOfFile path engine => do return .running (← Instance.ofFile path engine)
  | instanceOfBytes data engine => do return .running (← Instance.ofBytes data engine)
  | call i name arguments => do return .value (← i.call name arguments)
  | function i name => do return .function (← i.function name)
  | getAttribute i name => do return .found i (← i.attributeOf name)
  | hasAttribute i name => do return .truth (← i.hasAttribute name)
  | getItem i name => do return .function (← i.itemOf name)
  | memoryBuffer i => do return .view (← i.memoryBuffer)
  | apply f arguments => do return .value (← f.apply arguments)
  | view v request => do
    match request.answer ((← get).memory v) with
    | .ok reply => return .reading reply
    | .error fault => Action.fail fault

/-- The outcome of an operation on a thread. -/
def outcome (op : Operation) (thread : Thread) (h : Host) : Except Failure Answer :=
  (op.perform.run.run (h.onThread thread)).1

/-- The state after an operation on a thread. -/
def after (op : Operation) (thread : Thread) (h : Host) : Host :=
  (op.perform.run.run (h.onThread thread)).2

end Operation

/-- An operation that was performed on a thread, with the states before and after it. -/
structure Event where
  thread : Thread
  operation : Operation
  outcome : Except Failure Answer
  before : Host
  after : Host

/-- The event of an operation on a thread. -/
def Operation.event (op : Operation) (thread : Thread) (h : Host) : Event :=
  ⟨thread, op, op.outcome thread h, h, op.after thread h⟩

/-- The objects that events have given, and those that they are made of. -/
def Known (events : List Event) : Set Object :=
  {o | Comprises {p | ∃ event ∈ events, p ∈ onOk Answer.objects event.outcome} o}

/-- The events of a process so far, and its state after them. -/
inductive History : List Event → Host → Prop where
  | start (context : SettingsContext) (files : Files.Tree) : History [] (Host.fresh context files)
  | perform {events : List Event} {h : Host} (past : History events h) (thread : Thread)
      {op : Operation} (known : op.objects ⊆ Known events) :
      History (events ++ [op.event thread h]) (op.after thread h)
  | surroundings {events : List Event} {h : Host} (past : History events h)
      (context : SettingsContext) (files : Files.Tree) (serializeFault : Option String) :
      History events { h with context, files, serializeFault }

omit [Platform] in
theorem Issues.action_map {α β : Type} {U : Set Object} {a : HostAction α} {f : α → β}
    {G : α → Set Object} {G' : β → Set Object} (ha : Issues U a.run (onOk G))
    (hf : ∀ x, G' (f x) ⊆ G x) :
    Issues U (do return f (← a) : HostAction β).run (onOk G') :=
  .action_bind ha fun _ x _ => .action_pure fun _ ho => Or.inr (hf x ho)

theorem Operation.outcome_of_perform {op : Operation} {α : Type} {a : HostAction α} {f : α → Answer}
    (hperform : op.perform = do return f (← a)) (thread : Thread) (h : Host) :
    op.outcome thread h = (a.run.run (h.onThread thread)).1.map f := by
  rw [outcome, hperform, Action.run_bind_pure]

theorem Operation.after_of_perform {op : Operation} {α : Type} {a : HostAction α} {f : α → Answer}
    (hperform : op.perform = do return f (← a)) (thread : Thread) (h : Host) :
    op.after thread h = (a.run.run (h.onThread thread)).2 := by
  rw [after, hperform, Action.run_bind_pure]

theorem Operation.run_of_outcome {op : Operation} {α : Type} {a : HostAction α} {f : α → Answer}
    (hperform : op.perform = do return f (← a)) {thread : Thread} {h : Host} {answer : Answer}
    (hanswer : op.outcome thread h = .ok answer) :
    ∃ x, a.run.run (h.onThread thread) = (.ok x, op.after thread h) ∧ f x = answer := by
  unfold outcome at hanswer
  rw [hperform] at hanswer
  obtain ⟨x, hx, hgiven⟩ := Action.ok_of_map hanswer
  exact ⟨x, Prod.ext hx (after_of_perform hperform thread h).symm, hgiven⟩

-- What an action gives is the answer of an operation that performs it.
theorem Operation.outcome_of_run {op : Operation} {α : Type} {a : HostAction α} {f : α → Answer}
    (hperform : op.perform = do return f (← a)) {thread : Thread} {h h' : Host} {x : α}
    (hrun : a.run.run (h.onThread thread) = (.ok x, h')) :
    op.outcome thread h = .ok (f x) ∧ op.after thread h = h' := by
  rw [outcome_of_perform hperform, after_of_perform hperform, hrun]
  exact ⟨rfl, rfl⟩

theorem EngineCall.run_issues {U : Set Object} {e : Engine} (he : .engine e ∈ U) {call : EngineCall}
    (hc : call.objects ⊆ U) : Issues U (call.run e).run (onOk EngineReply.objects) := by
  have hsilent {α : Type} {a : HostAction α} {f : α → EngineReply}
      (ha : Issues U a.run (onOk fun _ => ∅)) (hf : ∀ x, (f x).objects ⊆ ∅) :
      Issues U (do return f (← a) : HostAction EngineReply).run (onOk EngineReply.objects) :=
    .action_map ha hf
  -- an answer that carries no objects gives none, and the others give what their question makes
  cases call with
  | lastError =>
    exact hsilent (.action_lift (.of_touches fun _ _ h => h)) fun _ => Set.empty_subset _
  | fetchBytes path => exact hsilent (e.fetchBytes_issues path) fun _ => Set.empty_subset _
  | validate data =>
    exact hsilent (.action_lift (Engine.validate_issues he data)) fun _ => Set.empty_subset _
  | compile data =>
    exact .action_map (.action_lift (Engine.compile_issues he data)) fun _ _ ho => ho
  | serialize artifact =>
    exact hsilent (.action_lift (Engine.serialize_issues he artifact)) fun _ => Set.empty_subset _
  | deserialize data =>
    exact .action_map (.action_lift (Engine.deserialize_issues he data)) fun _ _ ho => ho
  | newInstance artifact =>
    exact .action_map (.action_lift (Engine.newInstance_issues he (hc rfl))) fun _ _ ho => ho
  | newInstanceFromBytes data =>
    exact .action_map (.action_lift (Engine.newInstanceFromBytes_issues he data)) fun _ _ ho => ho
  | exportNames handle => exact .action_pure (Set.empty_subset _)
  | functionNames handle => exact .action_pure (Set.empty_subset _)
  | functionSignature handle name =>
    exact hsilent (.action_lift (Engine.functionSignature_issues he handle name))
      fun _ => Set.empty_subset _
  | makeValue kind a =>
    exact hsilent (.action (.of_touches ((e.makeValue_touches kind a).mono (by decide))))
      fun _ => Set.empty_subset _
  | invokeFunction handle name values =>
    exact hsilent (.action (Engine.invokeFunction_issues he (hc rfl) name values))
      fun _ => Set.empty_subset _
  | memoryBuffer handle =>
    exact .action_map (.action_lift (Engine.memoryBuffer_issues he (hc rfl))) fun _ _ ho => ho
  | memorySize handle memory =>
    exact Issues.action_get_bind fun _ => .action_pure (Set.empty_subset _)
  | memoryRead handle memory start stop =>
    exact Issues.action_get_bind fun _ => .action_pure (Set.empty_subset _)

namespace Operation

omit [Platform] in
theorem of_optional {α : Type} {object : α → Object} {U : Set Object} {x : Option α}
    (hx : optional object x ⊆ U) : ∀ y, x = some y → object y ∈ U := by
  rintro y rfl
  exact hx rfl

/-- Every operation enters in the ledger what it gives. -/
theorem perform_issues (op : Operation) :
    Issues op.objects op.perform.run (onOk Answer.objects) := by
  -- every case is what the operation itself issues, wrapped as an answer
  cases op with
  | newSettings keywords =>
    exact .action_map (Host.newSettings_issues keywords) fun _ _ ho => ho
  | processSettings => exact .action_map Host.processSettings_issues fun _ _ ho => ho
  | resetSettings =>
    exact .action_seq (.action_lift Host.resetSettings_issues) fun _ _ _ =>
      .action_pure (Set.empty_subset _)
  | newEngine settings =>
    exact .action_map (Host.newEngine_issues (of_optional fun _ ho => ho)) fun _ _ ho => ho
  | processEngine => exact .action_map Host.processEngine_issues fun _ _ ho => ho
  | engineCall e call =>
    exact .action_map (EngineCall.run_issues (Or.inl rfl) fun _ ho => Or.inr ho) fun _ _ ho => ho
  | newCache engine =>
    exact .action_map (Host.newCache_issues (of_optional fun _ ho => ho)) fun _ _ ho => ho
  | processCache => exact .action_map Host.processCache_issues fun _ _ ho => ho
  | cacheCompile c data identifier =>
    exact .action_map (ModuleCache.compile_issues (Set.mem_singleton _) data identifier)
      fun _ _ ho => ho
  | cacheGet c identifier =>
    exact .action_map (.action_lift (c.get?_issues identifier)) fun _ _ ho => ho
  | cacheContains c identifier =>
    exact .action_map (G := fun _ => ∅) (.action_lift (.of_touches fun _ _ h => h))
      fun _ => Set.empty_subset _
  | cacheSize c =>
    exact .action_map (G := fun _ => ∅) (.action_lift (.of_touches fun _ _ h => h))
      fun _ => Set.empty_subset _
  | cacheClear c =>
    exact .action_seq (.action_lift (ModuleCache.clear_issues (Set.mem_singleton _))) fun _ _ _ =>
      .action_pure (Set.empty_subset _)
  | compile data identifier cache =>
    exact .action_map (CompiledModule.compile_issues (of_optional fun _ ho => ho) data identifier)
      fun _ _ ho => ho
  | compileFile path identifier cache =>
    exact .action_map (CompiledModule.ofFile_issues (of_optional fun _ ho => ho) path identifier)
      fun _ _ ho => ho
  | validate data strict engine =>
    exact .action_map (CompiledModule.validate_issues (of_optional fun _ ho => ho) data strict)
      fun _ => Set.empty_subset _
  | serialize m =>
    refine .of_comprises (.action_map (CompiledModule.serialize_issues ?_)
      fun _ => Set.empty_subset _)
    exact Comprises.part (o := .compiled m) (.self rfl) List.mem_cons_self
  | deserialize data engine =>
    exact .action_map (CompiledModule.deserialize_issues (of_optional fun _ ho => ho) data)
      fun _ _ ho => ho
  | newInstance m =>
    exact .action_map (CompiledModule.newInstance_issues (Set.mem_singleton _)) fun _ _ ho => ho
  | instanceOfFile path engine =>
    exact .action_map (Instance.ofFile_issues (of_optional fun _ ho => ho) path) fun _ _ ho => ho
  | instanceOfBytes data engine =>
    exact .action_map (Instance.ofBytes_issues (of_optional fun _ ho => ho) data) fun _ _ ho => ho
  | call i name arguments =>
    exact .action_map (Instance.call_issues (Set.mem_singleton _) name arguments)
      fun _ => Set.empty_subset _
  | function i name =>
    exact .action_map (Instance.function_issues (Set.mem_singleton _) name) fun _ _ ho => ho
  | getAttribute i name =>
    exact .action_map (Instance.attributeOf_issues (Set.mem_singleton _) name) fun _ _ ho => ho
  | hasAttribute i name =>
    exact .action_map (.action_lift (Instance.hasAttribute_issues (Set.mem_singleton _) name))
      fun _ => Set.empty_subset _
  | getItem i name =>
    exact .action_map (Instance.itemOf_issues (Set.mem_singleton _) name) fun _ _ ho => ho
  | memoryBuffer i =>
    exact .action_map (.action_lift (Instance.memoryBuffer_issues (Set.mem_singleton _)))
      fun _ _ ho => ho
  | apply f arguments =>
    exact .action_map (ExportedFunction.apply_issues (Set.mem_singleton _) arguments)
      fun _ => Set.empty_subset _
  | view v request =>
    refine Issues.action_get_bind fun h => ?_
    split
    · exact .action_pure (Set.empty_subset _)
    · exact .action_fail _

end Operation

/-- The parts of the state that operations of engines touch. -/
def EngineCall.parts : List HostPart := [.nextSerial, .diagnostics, .operations, .notices, .guests]

theorem EngineCall.run_touches (e : Engine) (call : EngineCall) :
    Touches EngineCall.parts (call.run e).run := by
  cases call with
  | lastError => exact fun _ _ same => same
  | fetchBytes path =>
    exact .action_bind ((e.fetchBytes_touches path).mono (by decide)) fun _ => .action_pure _
  | validate data => exact (e.validate_touches data).mono (by decide)
  | compile data => exact (e.compile_touches data).mono (by decide)
  | serialize artifact => exact (e.serialize_touches artifact).mono (by decide)
  | deserialize data => exact (e.deserialize_touches data).mono (by decide)
  | newInstance artifact => exact e.newInstance_touches artifact
  | newInstanceFromBytes data => exact e.newInstanceFromBytes_touches data
  | exportNames handle => exact .action_pure _
  | functionNames handle => exact .action_pure _
  | functionSignature handle name =>
    exact (e.functionSignature_touches handle name).mono (by decide)
  | makeValue kind a =>
    exact .action_bind ((e.makeValue_touches kind a).mono (by decide)) fun _ => .action_pure _
  | invokeFunction handle name values =>
    exact .action_bind ((e.invokeFunction_touches handle name values).mono (by decide)) fun _ =>
      .action_pure _
  | memoryBuffer handle => exact (e.memoryBuffer_touches handle).mono (by decide)
  | memorySize handle memory => exact fun _ _ same => same
  | memoryRead handle memory start stop => exact fun _ _ same => same

namespace Operation

/-- The parts of the state that an operation touches. -/
def parts : Operation → List HostPart
  | newSettings _ => [.nextSerial]
  | processSettings | newEngine _ => [.nextSerial, .settings]
  | resetSettings => [.settings]
  | processEngine | newCache _ => [.nextSerial, .settings, .engine]
  | engineCall _ _ => EngineCall.parts
  | processCache => [.nextSerial, .settings, .engine, .cache]
  | cacheCompile _ _ _ => [.nextSerial, .diagnostics, .operations, .notices, .cached]
  | cacheGet _ _ | cacheContains _ _ | cacheSize _ | view _ _ => []
  | cacheClear _ => [.cached, .notices]
  | compile _ _ _ | compileFile _ _ _ => CompiledModule.compileParts
  | validate _ _ _ | deserialize _ _ => [.nextSerial, .diagnostics, .notices, .settings, .engine]
  | serialize _ => [.diagnostics, .notices]
  | newInstance _ => [.nextSerial, .diagnostics, .operations, .notices, .guests]
  | instanceOfFile _ _ | instanceOfBytes _ _ =>
    [.nextSerial, .diagnostics, .operations, .notices, .guests, .settings, .engine]
  | call _ _ _ | apply _ _ => Engine.callParts
  | function _ _ | getAttribute _ _ | hasAttribute _ _ | getItem _ _ =>
    [.nextSerial, .diagnostics, .operations, .notices, .wrappers]
  | memoryBuffer _ => [.nextSerial, .diagnostics, .operations, .views, .viewLocks]

theorem perform_touches (op : Operation) : Touches op.parts op.perform.run := by
  have hmap {α : Type} {parts : List HostPart} {a : HostAction α} {f : α → Answer}
      (ha : Touches parts a.run) : Touches parts (do return f (← a) : HostAction Answer).run :=
    .action_bind ha fun _ => .action_pure _
  -- an answer only wraps what the action gives
  cases op with
  | newSettings keywords => exact hmap (Host.newSettings_touches keywords)
  | processSettings => exact hmap Host.processSettings_touches
  -- forgetting the settings of the process is one assignment
  | resetSettings =>
    refine .of_run fun h part => ?_
    cases part <;> first | exact Or.inr rfl | exact Or.inl (by decide)
  | newEngine settings => exact hmap (Host.newEngine_touches settings)
  | processEngine => exact hmap Host.processEngine_touches
  | engineCall e call => exact hmap (call.run_touches e)
  | newCache engine => exact hmap (Host.newCache_touches engine)
  | processCache => exact hmap Host.processCache_touches
  | cacheCompile c data identifier => exact hmap (c.compile_touches data identifier)
  | cacheGet c identifier => exact fun _ _ same => same
  | cacheContains c identifier => exact fun _ _ same => same
  | cacheSize c => exact fun _ _ same => same
  | cacheClear c =>
    refine .of_run fun h part => ?_
    change part ∈ [HostPart.cached, HostPart.notices] ∨ _
    cases part <;> first | exact Or.inr rfl | exact Or.inl (by decide)
  | compile data identifier cache =>
    exact hmap (CompiledModule.compile_touches data identifier cache)
  | compileFile path identifier cache =>
    exact hmap (CompiledModule.ofFile_touches path identifier cache)
  | validate data strict engine => exact hmap (CompiledModule.validate_touches data strict engine)
  | serialize m => exact hmap m.serialize_touches
  | deserialize data engine => exact hmap (CompiledModule.deserialize_touches data engine)
  | newInstance m => exact hmap m.newInstance_touches
  | instanceOfFile path engine => exact hmap (Instance.ofFile_touches path engine)
  | instanceOfBytes data engine => exact hmap (Instance.ofBytes_touches data engine)
  | call i name arguments => exact hmap (i.call_touches name arguments)
  | function i name => exact hmap (i.function_touches name)
  | getAttribute i name => exact hmap (i.attributeOf_touches name)
  | hasAttribute i name => exact i.hasAttribute_touches name
  | getItem i name => exact hmap (i.itemOf_touches name)
  | memoryBuffer i => exact i.memoryBuffer_touches
  | apply f arguments => exact hmap (f.apply_touches arguments)
  | view v request =>
    -- a request for the memory only reads the state
    refine .action_bind .action_get fun h => ?_
    split
    · exact .action_pure _
    · exact .action_fail _

/-- Besides the parts that it touches an operation on a thread only leaves that thread running. -/
theorem after_sameBut (op : Operation) (thread : Thread) (h : Host) :
    Host.SameBut (.thread :: op.parts) h (op.after thread h) := by
  have hthread : Host.SameBut [.thread] h (h.onThread thread) := fun part => by
    cases part <;> first | exact Or.inr rfl | exact Or.inl (by decide)
  -- the operation touches its own parts after the thread has been switched
  have hrun : Host.SameBut op.parts (h.onThread thread) (op.after thread h) :=
    op.perform_touches.run (h.onThread thread)
  exact (hthread.mono (List.cons_subset_cons _ (List.nil_subset _))).trans
    (hrun.mono (List.subset_cons_self _ _))

end Operation

end

theorem Known.given {events : List Event} {event : Event} (hevent : event ∈ events) {o : Object}
    (ho : o ∈ onOk Answer.objects event.outcome) : o ∈ Known events :=
  .self ⟨event, hevent, ho⟩

theorem Known.later {events : List Event} {o : Object} (known : o ∈ Known events) (event : Event) :
    -- what was given earlier is given still, and parts stay parts
    o ∈ Known (events ++ [event]) := by
  induction known with
  | self ho =>
    obtain ⟨earlier, hearlier, hgiven⟩ := ho
    exact .self ⟨earlier, List.mem_append_left _ hearlier, hgiven⟩
  | part _ hp ih => exact .part ih hp

/-- The objects that are known after an event are in every ledger that has those known before it
and those that it gives. -/
theorem Known.subset_of_append {events : List Event} {event : Event} {h : Host} {K : Set Object}
    (ledger : Ledger h K) (hold : Known events ⊆ K)
    (hgiven : onOk Answer.objects event.outcome ⊆ K) : Known (events ++ [event]) ⊆ K := by
  refine fun o ho => ledger.comprises (fun p hp => ?_) ho
  -- an object was given by an earlier event or by the last one
  obtain ⟨source, hsource, hp⟩ := hp
  rcases List.mem_append.mp hsource with hearlier | hlast
  · exact hold (.given hearlier hp)
  · exact hgiven (List.mem_singleton.mp hlast ▸ hp)

theorem Ledger.onThread {h : Host} {K : Set Object} (ledger : Ledger h K) (thread : Thread) :
    Ledger (h.onThread thread) K :=
  ledger.surroundings thread h.context h.files h.serializeFault

variable [Platform]

/-- An operation of known objects extends the ledger by what it gives. -/
theorem Ledger.perform {h : Host} {K : Set Object} (ledger : Ledger h K) {op : Operation}
    (hop : op.objects ⊆ K) (thread : Thread) :
    ∃ K', Grows h K (op.after thread h) K' ∧ Ledger (op.after thread h) K' ∧
      onOk Answer.objects (op.outcome thread h) ⊆ K' := by
  obtain ⟨K', grows, ledger', hgiven⟩ :=
    op.perform_issues (h.onThread thread) K (ledger.onThread thread) hop
  exact ⟨K', ⟨grows.kept, grows.later, grows.new⟩, ledger', hgiven⟩

/-- After any history there is a ledger of all that is known. -/
theorem History.ledger {events : List Event} {h : Host} (history : History events h) :
    ∃ K, Ledger h K ∧ Known events ⊆ K := by
  -- by induction on the history: every event extends the ledger that there was before it
  induction history with
  | start context files =>
    -- in the beginning nothing has been given
    have hnone : {p | ∃ event ∈ ([] : List Event), p ∈ onOk Answer.objects event.outcome} ⊆
        (∅ : Set Object) := fun _ ⟨_, hevent, _⟩ => absurd hevent List.not_mem_nil
    exact ⟨∅, .fresh context files, fun _ ho => (Ledger.fresh context files).comprises hnone ho⟩
  | perform past thread known ih =>
    obtain ⟨K, ledger, hknown⟩ := ih
    obtain ⟨K', grows, ledger', hgiven⟩ := ledger.perform (fun _ ho => hknown (known ho)) thread
    exact ⟨K', ledger', Known.subset_of_append ledger' (fun _ ho => grows.kept (hknown ho)) hgiven⟩
  | surroundings past context files serializeFault ih =>
    obtain ⟨K, ledger, hknown⟩ := ih
    exact ⟨K, ledger.surroundings _ context files serializeFault, hknown⟩

end WasmHost
