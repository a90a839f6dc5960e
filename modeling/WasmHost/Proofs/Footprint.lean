import WasmHost.Host.Exports
import WasmHost.Proofs.Invocation
import WasmHost.Proofs.Preserves
/-!
What the operations of the host touch.

The state of a host has named parts. Of every operation it is shown which parts it touches at most;
all others are as before, whether it fails or not.
-/
namespace WasmHost

/-- A part of the state of a host. -/
inductive HostPart where
  | nextSerial
  | thread
  | context
  | files
  | serializeFault
  | diagnostics
  | operations
  | notices
  | cached
  | guests
  | wrappers
  | views
  | viewLocks
  | settings
  | engine
  | cache
  deriving DecidableEq

namespace Host

/-- Two states agree on a part. -/
def SameOn (h h' : Host) : HostPart → Prop
  | .nextSerial => h'.nextSerial = h.nextSerial
  | .thread => h'.thread = h.thread
  | .context => h'.context = h.context
  | .files => h'.files = h.files
  | .serializeFault => h'.serializeFault = h.serializeFault
  | .diagnostics => h'.diagnostics = h.diagnostics
  | .operations => h'.operations = h.operations
  | .notices => h'.notices = h.notices
  | .cached => h'.cached = h.cached
  | .guests => h'.guests = h.guests
  | .wrappers => h'.wrappers = h.wrappers
  | .views => h'.views = h.views
  | .viewLocks => h'.viewLocks = h.viewLocks
  | .settings => h'.settings = h.settings
  | .engine => h'.engine = h.engine
  | .cache => h'.cache = h.cache

theorem SameOn.refl (h : Host) (part : HostPart) : h.SameOn h part := by
  cases part <;> rfl

theorem SameOn.trans {h h' h'' : Host} {part : HostPart} (first : h.SameOn h' part)
    (second : h'.SameOn h'' part) : h.SameOn h'' part := by
  cases part <;> exact Eq.trans second first

/-- Two states agree on all parts but some. -/
def SameBut (parts : List HostPart) (h h' : Host) : Prop :=
  ∀ part, part ∈ parts ∨ h.SameOn h' part

theorem SameBut.refl (parts : List HostPart) (h : Host) : SameBut parts h h :=
  fun part => Or.inr (.refl h part)

theorem SameBut.trans {parts : List HostPart} {h h' h'' : Host} (first : SameBut parts h h')
    (second : SameBut parts h' h'') : SameBut parts h h'' := by
  intro part
  rcases first part with hpart | hsame
  · exact Or.inl hpart
  · exact (second part).imp id hsame.trans

theorem SameBut.mono {parts more : List HostPart} {h h' : Host} (same : SameBut parts h h')
    (hsub : parts ⊆ more) : SameBut more h h' :=
  fun part => (same part).imp (fun hpart => hsub hpart) id

theorem SameBut.same {parts : List HostPart} {h h' : Host} (same : SameBut parts h h')
    (part : HostPart) (hpart : part ∉ parts) : h.SameOn h' part :=
  (same part).resolve_left hpart

end Host

/-- An operation touches no parts but some. -/
def Touches {α : Type} (parts : List HostPart) (a : HostM α) : Prop :=
  ∀ h₀, Preserves (Host.SameBut parts h₀) a

namespace Touches

variable {α β : Type} {parts more : List HostPart}

theorem of_run {a : HostM α} (ha : ∀ h, Host.SameBut parts h (a.run h).2) : Touches parts a :=
  fun _ h same => same.trans (ha h)

theorem run {a : HostM α} (ha : Touches parts a) (h : Host) : Host.SameBut parts h (a.run h).2 :=
  ha h h (.refl parts h)

theorem mono {a : HostM α} (ha : Touches parts a) (hsub : parts ⊆ more) : Touches more a :=
  of_run fun h => (ha.run h).mono hsub

theorem pure (x : α) : Touches parts (Pure.pure x : HostM α) := fun _ => .pure x

theorem get : Touches parts (MonadState.get : HostM Host) := fun _ => .get

theorem bind {a : HostM α} {f : α → HostM β} (ha : Touches parts a)
    (hf : ∀ x, Touches parts (f x)) : Touches parts (a >>= f) :=
  fun h₀ => (ha h₀).bind fun x => hf x h₀

theorem action_pure (x : α) : Touches parts (Pure.pure x : HostAction α).run :=
  fun _ => .action_pure x

theorem action_fail (fault : Fault) : Touches parts (Action.fail fault : HostAction α).run :=
  fun _ => .action_fail fault

theorem action_get : Touches parts (MonadState.get : HostAction Host).run := fun _ _ h => h

theorem action_lift {a : HostM α} (ha : Touches parts a) :
    Touches parts (liftM a : HostAction α).run := ha

theorem action_bind {a : HostAction α} {f : α → HostAction β} (ha : Touches parts a.run)
    (hf : ∀ x, Touches parts (f x).run) : Touches parts (a >>= f).run :=
  fun h₀ => (ha h₀).action_bind fun x => hf x h₀

end Touches

namespace Host

theorem newSerial_touches : Touches [.nextSerial] newSerial :=
  .of_run fun _ part => by cases part <;> first | exact Or.inr rfl | exact Or.inl (by decide)

theorem note_touches (notice : Notice) : Touches [.notices] (note notice) :=
  .of_run fun _ part => by cases part <;> first | exact Or.inr rfl | exact Or.inl (by decide)

theorem record_touches (e : Engine) (operation : EngineOperation) :
    Touches [.operations] (record e operation) :=
  .of_run fun _ part => by cases part <;> first | exact Or.inr rfl | exact Or.inl (by decide)

end Host

namespace Engine

variable (e : Engine)

theorem setError_touches (diagnostic : String) :
    Touches [.diagnostics, .notices] (e.setError diagnostic) :=
  .of_run fun _ part => by cases part <;> first | exact Or.inr rfl | exact Or.inl (by decide)

theorem clearError_touches : Touches [.diagnostics] e.clearError :=
  .of_run fun _ part => by cases part <;> first | exact Or.inr rfl | exact Or.inl (by decide)

theorem refusal_touches {α : Type} {parts : List HostPart} (fault : Option String → Fault) :
    Touches parts (do Action.fail (fault (← e.lastError)) : HostAction α).run :=
  .action_bind (.action_lift fun _ _ same => same) fun _ => .action_fail _

theorem fetchBytes_touches (path : String) : Touches [.operations] (e.fetchBytes path).run := by
  refine .of_run fun h => ?_
  unfold fetchBytes
  rw [Action.run_lift_bind, Action.run_get_bind]
  split <;>
    exact fun part => by cases part <;> first | exact Or.inr rfl | exact Or.inl (by decide)

section

variable [Guest.Runtime]

theorem validate_touches (data : Guest.Image) :
    Touches [.notices, .diagnostics] (e.validate data) := by
  refine .of_run fun h part => ?_
  unfold validate
  cases Guest.validate data <;> cases part <;> first | exact Or.inr rfl | exact Or.inl (by decide)

theorem compile_touches (data : Guest.Image) :
    Touches [.nextSerial, .diagnostics, .operations, .notices] (e.compile data) := by
  refine .of_run fun h part => ?_
  unfold compile
  cases Guest.compile data <;> cases part <;> first | exact Or.inr rfl | exact Or.inl (by decide)

theorem serialize_touches (artifact : Artifact) :
    Touches [.notices, .diagnostics] (e.serialize artifact) := by
  refine .of_run fun h part => ?_
  unfold serialize
  rw [stateM_run_get]
  cases h.serializeFault <;> cases part <;> first | exact Or.inr rfl | exact Or.inl (by decide)

theorem deserialize_touches (data : Guest.Image) :
    Touches [.nextSerial, .diagnostics, .notices] (e.deserialize data) := by
  refine .of_run fun h part => ?_
  unfold deserialize
  dsimp only
  split
  · split <;> cases part <;> first | exact Or.inr rfl | exact Or.inl (by decide)
  · cases part <;> first | exact Or.inr rfl | exact Or.inl (by decide)

theorem newInstance_touches (artifact : Artifact) :
    Touches [.nextSerial, .diagnostics, .operations, .notices, .guests]
      (e.newInstance artifact) := by
  refine .of_run fun h part => ?_
  unfold newInstance
  cases Guest.instantiate artifact.compiled.program e.budget <;> cases part <;>
    first | exact Or.inr rfl | exact Or.inl (by decide)

theorem newInstanceFromBytes_touches (data : Guest.Image) :
    Touches [.nextSerial, .diagnostics, .operations, .notices, .guests]
      (e.newInstanceFromBytes data) := by
  refine ((e.compile_touches data).mono (by decide)).bind fun compiled => ?_
  cases compiled with
  | none => exact .pure _
  | some artifact => exact e.newInstance_touches artifact

end

theorem functionSignature_touches (handle : Handle) (name : String) :
    Touches [.diagnostics, .operations, .notices] (e.functionSignature handle name) := by
  refine .of_run fun h part => ?_
  unfold functionSignature
  split
  · cases part <;> first | exact Or.inr rfl | exact Or.inl (by decide)
  · split <;> cases part <;> first | exact Or.inr rfl | exact Or.inl (by decide)
  · cases part <;> first | exact Or.inr rfl | exact Or.inl (by decide)

theorem memoryBuffer_touches (handle : Handle) :
    Touches [.nextSerial, .diagnostics, .operations] (e.memoryBuffer handle) := by
  refine .of_run fun h part => ?_
  unfold memoryBuffer
  cases handle.program.exposedMemory? <;> cases part <;>
    first | exact Or.inr rfl | exact Or.inl (by decide)

variable [Guest.Runtime]

theorem invokeFunction_touches (handle : Handle) (name : String) (values : List Value) :
    Touches [.diagnostics, .operations, .notices, .guests]
      (e.invokeFunction handle name values).run := by
  refine .of_run fun h part => ?_
  have hinvokes := e.invokeFunction_invokes handle name values h
  change part ∈ _ ∨ h.SameOn ((e.invokeFunction handle name values).run.run h).2 part
  generalize ((e.invokeFunction handle name values).run.run h).1 = result at hinvokes
  generalize ((e.invokeFunction handle name values).run.run h).2 = after at hinvokes ⊢
  cases hinvokes <;> cases part <;> first | exact Or.inr rfl | exact Or.inl (by decide)

theorem makeValue_touches (kind : ValueKind) (a : HostValue) :
    Touches [] (e.invoker.makeValue kind a).run := by
  refine .of_run fun h => ?_
  rw [e.makeValue_run kind a h]
  exact .refl [] h

theorem resolve_touches (handle : Handle) (name : String) :
    Touches [.diagnostics, .operations, .notices] (e.invoker.resolve handle name).run :=
  fun h₀ => Invoker.resolve_preserves (e.functionSignature_touches handle name h₀)
    fun _ same => same

/-- The parts that calls touch. -/
def callParts : List HostPart := [.diagnostics, .operations, .notices, .guests]

theorem invoker_touches (handle : Handle) (h₀ : Host) :
    e.invoker.Preserves handle (Host.SameBut callParts h₀) where
  signature? name := (e.functionSignature_touches handle name).mono (by decide) h₀
  lastError := fun _ same => same
  makeValue kind a := (e.makeValue_touches kind a).mono (by decide) h₀
  invoke name values := e.invokeFunction_touches handle name values h₀
  noteFailure name diagnostic :=
    (Host.note_touches (.invocationFailed name diagnostic)).mono (by decide) h₀

end Engine
namespace Host

theorem newSettings_touches (keywords : Keywords) :
    Touches [.nextSerial] (newSettings keywords).run := by
  refine .action_bind .action_get fun h => ?_
  split
  · exact .action_fail _
  · exact .action_bind (.action_lift newSerial_touches) fun _ => .action_pure _

theorem processSettings_touches : Touches [.nextSerial, .settings] processSettings.run := by
  refine .action_bind .action_get fun h => ?_
  split
  · exact .action_pure _
  · refine .action_bind ((newSettings_touches .empty).mono (by decide)) fun settings => ?_
    refine .action_bind (.of_run fun h part => ?_) fun _ => .action_pure _
    cases part <;> first | exact Or.inr rfl | exact Or.inl (by decide)

theorem newEngine_touches (settings : Option SettingsObject) :
    Touches [.nextSerial, .settings] (newEngine settings).run := by
  have hnew (s : SettingsObject) : Touches [.nextSerial, .settings] (do
      return ⟨← newSerial, s⟩ : HostAction Engine).run :=
    .action_bind (.action_lift (newSerial_touches.mono (by decide))) fun _ => .action_pure _
  cases settings with
  | some settings => exact .action_bind (.action_pure settings) hnew
  | none => exact .action_bind processSettings_touches hnew

theorem processEngine_touches :
    Touches [.nextSerial, .settings, .engine] processEngine.run := by
  refine .action_bind .action_get fun h => ?_
  split
  · exact .action_pure _
  · refine .action_bind ((newEngine_touches none).mono (by decide)) fun engine => ?_
    refine .action_bind (.of_run fun h part => ?_) fun _ => .action_pure _
    cases part <;> first | exact Or.inr rfl | exact Or.inl (by decide)

theorem engineOr_touches (engine : Option Engine) :
    Touches [.nextSerial, .settings, .engine] (engineOr engine).run := by
  cases engine with
  | some e => exact .action_pure e
  | none => exact processEngine_touches

-- Besides what finding the engine touches, making a cache takes a serial number.
theorem newCache_touches_of {parts : List HostPart} {engine : Option Engine}
    (hengine : Touches parts (engineOr engine).run) (hparts : [.nextSerial] ⊆ parts) :
    Touches parts (newCache engine).run :=
  .action_bind hengine fun _ =>
    .action_bind (.action_lift (newSerial_touches.mono hparts)) fun _ => .action_pure _

theorem newCache_touches (engine : Option Engine) :
    Touches [.nextSerial, .settings, .engine] (newCache engine).run :=
  newCache_touches_of (engineOr_touches engine) (by decide)

theorem processCache_touches :
    Touches [.nextSerial, .settings, .engine, .cache] processCache.run := by
  refine .action_bind .action_get fun h => ?_
  split
  · exact .action_pure _
  · refine .action_bind ((newCache_touches none).mono (by decide)) fun cache => ?_
    refine .action_bind (.of_run fun h part => ?_) fun _ => .action_pure _
    cases part <;> first | exact Or.inr rfl | exact Or.inl (by decide)

theorem cacheOr_touches (cache : Option ModuleCache) :
    Touches [.nextSerial, .settings, .engine, .cache] (cacheOr cache).run := by
  cases cache with
  | some c => exact .action_pure c
  | none => exact processCache_touches

end Host

variable [Guest.Runtime]

namespace ModuleCache

variable (c : ModuleCache)

theorem build_touches (data : Guest.Image) (identifier : Option String) :
    Touches [.nextSerial, .diagnostics, .operations, .notices] (c.build data identifier).run := by
  refine .action_bind (.action_lift (c.engine.compile_touches data)) fun compiled => ?_
  cases compiled with
  | none => exact c.engine.refusal_touches _
  | some artifact =>
    exact .action_bind (.action_lift (Host.newSerial_touches.mono (by decide))) fun _ =>
      .action_pure _

theorem compile_touches (data : Guest.Image) (identifier : Option String) :
    Touches [.nextSerial, .diagnostics, .operations, .notices, .cached]
      (c.compile data identifier).run := by
  cases identifier with
  | none => exact (c.build_touches data none).mono (by decide)
  | some key =>
    refine .action_bind (.action_lift (.bind .get fun _ => .pure _)) fun found => ?_
    cases found with
    | some m => exact .action_bind ((Host.note_touches (.cacheHit key)).mono (by decide)) fun _ =>
        .action_pure _
    | none =>
      refine .action_bind ((c.build_touches data (some key)).mono (by decide)) fun m => ?_
      refine .action_bind (.of_run fun h part => ?_) fun _ => .action_pure _
      cases part <;> first | exact Or.inr rfl | exact Or.inl (by decide)

end ModuleCache

namespace CompiledModule

/-- The parts that compiling through a cache touches, when the cache may still have to be made. -/
def compileParts : List HostPart :=
  [.nextSerial, .diagnostics, .operations, .notices, .cached, .settings, .engine, .cache]

-- Besides what finding the cache touches, compiling touches what the cache does.
theorem compile_touches_of {parts : List HostPart} {cache : Option ModuleCache}
    (hcache : Touches parts (Host.cacheOr cache).run)
    (hparts : [.nextSerial, .diagnostics, .operations, .notices, .cached] ⊆ parts)
    (data : Guest.Image) (identifier : Option String) :
    Touches parts (compile data identifier cache).run :=
  .action_bind hcache fun c => (c.compile_touches data identifier).mono hparts

theorem compile_touches (data : Guest.Image) (identifier : Option String)
    (cache : Option ModuleCache) : Touches compileParts (compile data identifier cache).run :=
  compile_touches_of ((Host.cacheOr_touches cache).mono (by decide)) (by decide) data identifier

theorem load_touches (c : ModuleCache) (path : String) (identifier : Option String) :
    Touches [.nextSerial, .diagnostics, .operations, .notices, .cached] (do
      match ← cachedFor c identifier with
      | some m => return m
      | none =>
        let data ← c.engine.fetchBytes path
        c.compile data identifier : HostAction CompiledModule).run := by
  refine .action_bind (.action_lift ?_) fun found => ?_
  · cases identifier with
    | none => exact .pure none
    | some key => exact .bind .get fun _ => .pure _
  · cases found with
    | some m => exact .action_pure m
    | none =>
      exact .action_bind ((c.engine.fetchBytes_touches path).mono (by decide)) fun data =>
        c.compile_touches data identifier

theorem ofFile_touches_of {parts : List HostPart} {cache : Option ModuleCache}
    (hcache : Touches parts (Host.cacheOr cache).run)
    (hparts : [.nextSerial, .diagnostics, .operations, .notices, .cached] ⊆ parts)
    (path : String) (identifier : Option String) :
    Touches parts (ofFile path identifier cache).run :=
  .action_bind hcache fun c => (load_touches c path identifier).mono hparts

theorem ofFile_touches (path : String) (identifier : Option String) (cache : Option ModuleCache) :
    Touches compileParts (ofFile path identifier cache).run :=
  ofFile_touches_of ((Host.cacheOr_touches cache).mono (by decide)) (by decide) path identifier

theorem validate_touches_of {parts : List HostPart} {engine : Option Engine}
    (hengine : Touches parts (Host.engineOr engine).run)
    (hparts : [.notices, .diagnostics] ⊆ parts) (data : Guest.Image) (strict : Bool) :
    Touches parts (validate data strict engine).run := by
  refine .action_bind hengine fun e => ?_
  refine .action_bind (.action_lift ((e.validate_touches data).mono hparts)) fun valid => ?_
  split
  · exact Engine.refusal_touches _ _
  · exact .action_pure _

theorem validate_touches (data : Guest.Image) (strict : Bool) (engine : Option Engine) :
    Touches [.nextSerial, .diagnostics, .notices, .settings, .engine]
      (validate data strict engine).run :=
  validate_touches_of ((Host.engineOr_touches engine).mono (by decide)) (by decide) data strict

theorem serialize_touches (m : CompiledModule) :
    Touches [.diagnostics, .notices] m.serialize.run := by
  refine .action_bind (.action_lift ((m.engine.serialize_touches m.artifact).mono (by decide)))
    fun data => ?_
  cases data with
  | some data => exact .action_pure data
  | none => exact Engine.refusal_touches _ _

theorem deserialize_touches_of {parts : List HostPart} {engine : Option Engine}
    (hengine : Touches parts (Host.engineOr engine).run)
    (hparts : [.nextSerial, .diagnostics, .notices] ⊆ parts) (data : Guest.Image) :
    Touches parts (deserialize data engine).run := by
  refine .action_bind hengine fun e => ?_
  refine .action_bind (.action_lift ((e.deserialize_touches data).mono hparts)) fun artifact => ?_
  cases artifact with
  | some artifact =>
    have hserial : [HostPart.nextSerial] ⊆ parts := fun _ h => hparts (List.mem_append_left _ h)
    exact .action_bind (.action_lift (Host.newSerial_touches.mono hserial)) fun _ =>
      .action_pure _
  | none => exact Engine.refusal_touches _ _

theorem deserialize_touches (data : Guest.Image) (engine : Option Engine) :
    Touches [.nextSerial, .diagnostics, .notices, .settings, .engine]
      (deserialize data engine).run :=
  deserialize_touches_of ((Host.engineOr_touches engine).mono (by decide)) (by decide) data

theorem newInstance_touches (m : CompiledModule) :
    Touches [.nextSerial, .diagnostics, .operations, .notices, .guests] m.newInstance.run := by
  refine .action_bind (.action_lift (m.engine.newInstance_touches m.artifact)) fun handle => ?_
  cases handle with
  | some handle =>
    exact .action_bind (.action_lift (Host.newSerial_touches.mono (by decide))) fun _ =>
      .action_pure _
  | none => exact Engine.refusal_touches _ _

end CompiledModule

namespace Instance

theorem build_touches (e : Engine) (data : Guest.Image) (headline : String) :
    Touches [.nextSerial, .diagnostics, .operations, .notices, .guests]
      (build e data headline).run := by
  refine .action_bind (.action_lift ((e.compile_touches data).mono (by decide))) fun artifact => ?_
  cases artifact with
  | none => exact e.refusal_touches _
  | some artifact =>
    refine .action_bind (.action_lift (e.newInstance_touches artifact)) fun handle => ?_
    cases handle with
    | none => exact e.refusal_touches _
    | some handle =>
      refine .action_bind (.action_lift (Host.newSerial_touches.mono (by decide))) fun _ => ?_
      exact .action_bind (.action_lift (Host.newSerial_touches.mono (by decide))) fun _ =>
        .action_pure _

theorem ofFile_touches_of {parts : List HostPart} {engine : Option Engine}
    (hengine : Touches parts (Host.engineOr engine).run)
    (hparts : [.nextSerial, .diagnostics, .operations, .notices, .guests] ⊆ parts)
    (path : String) : Touches parts (ofFile path engine).run := by
  refine .action_bind hengine fun e => ?_
  refine .action_bind (((e.fetchBytes_touches path).mono ?_).mono hparts) fun data => ?_
  · decide
  · exact (build_touches e data _).mono hparts

theorem ofFile_touches (path : String) (engine : Option Engine) :
    Touches [.nextSerial, .diagnostics, .operations, .notices, .guests, .settings, .engine]
      (ofFile path engine).run :=
  ofFile_touches_of ((Host.engineOr_touches engine).mono (by decide)) (by decide) path

theorem ofBytes_touches_of {parts : List HostPart} {engine : Option Engine}
    (hengine : Touches parts (Host.engineOr engine).run)
    (hparts : [.nextSerial, .diagnostics, .operations, .notices, .guests] ⊆ parts)
    (data : Guest.Image) : Touches parts (ofBytes data engine).run :=
  .action_bind hengine fun e => (build_touches e data _).mono hparts

theorem ofBytes_touches (data : Guest.Image) (engine : Option Engine) :
    Touches [.nextSerial, .diagnostics, .operations, .notices, .guests, .settings, .engine]
      (ofBytes data engine).run :=
  ofBytes_touches_of ((Host.engineOr_touches engine).mono (by decide)) (by decide) data

theorem call_touches (i : Instance) (name : String) (arguments : List HostValue) :
    Touches Engine.callParts (i.call name arguments).run :=
  fun h₀ => (i.engine.invoker_touches i.handle h₀).dispatch name arguments

theorem function_touches (i : Instance) (name : String) :
    Touches [.nextSerial, .diagnostics, .operations, .notices, .wrappers]
      (i.function name).run := by
  refine .action_bind .action_get fun h => ?_
  split
  · exact .action_pure _
  · refine .action_bind (.action_bind ?_ fun _ => .action_pure _) fun bound => ?_
    · exact (i.engine.resolve_touches i.handle name).mono (by decide)
    refine .action_bind (.action_lift (Host.newSerial_touches.mono (by decide))) fun _ => ?_
    refine .action_bind (.of_run fun h part => ?_) fun _ => .action_pure _
    cases part <;> first | exact Or.inr rfl | exact Or.inl (by decide)

theorem attributeOf_touches (i : Instance) (name : String) :
    Touches [.nextSerial, .diagnostics, .operations, .notices, .wrappers]
      (i.attributeOf name).run := by
  unfold attributeOf
  split
  · exact .action_pure _
  split
  · exact .action_pure _
  split
  · exact .action_fail _
  · refine (i.function_touches (i.exportName name)).bind fun result => ?_
    split
    · exact .pure _
    · split <;> exact .pure _

theorem hasAttribute_touches (i : Instance) (name : String) :
    Touches [.nextSerial, .diagnostics, .operations, .notices, .wrappers]
      (i.hasAttribute name) := by
  refine (i.attributeOf_touches name).bind fun result => ?_
  cases result <;> exact .pure _

theorem itemOf_touches (i : Instance) (name : String) :
    Touches [.nextSerial, .diagnostics, .operations, .notices, .wrappers]
      (i.itemOf name).run := by
  refine (i.function_touches name).bind fun result => ?_
  split
  · exact .pure _
  · split <;> exact .pure _

omit [Guest.Runtime] in
theorem bufferStep_touches (i : Instance) (phase : BufferPhase) :
    Touches [.nextSerial, .diagnostics, .operations, .views, .viewLocks]
      (i.bufferStep phase) := by
  cases phase with
  | asking =>
    exact .bind ((i.engine.memoryBuffer_touches i.handle).mono (by decide)) fun _ => .pure _
  | looking | checking =>
    refine .bind .get fun h => ?_
    split <;> exact .pure _
  | locking =>
    refine .of_run fun h part => ?_
    unfold bufferStep
    rw [stateM_run_get]
    split <;> cases part <;> first | exact Or.inr rfl | exact Or.inl (by decide)
  | filling _ | unlocking | reading | done _ =>
    refine .of_run fun h part => ?_
    cases part <;> first | exact Or.inr rfl | exact Or.inl (by decide)

omit [Guest.Runtime] in
theorem bufferRun_touches (i : Instance) (n : Nat) (phase : BufferPhase) :
    Touches [.nextSerial, .diagnostics, .operations, .views, .viewLocks]
      (i.bufferRun n phase) := by
  induction n generalizing phase with
  | zero => exact .pure phase
  | succ n ih => exact .bind (i.bufferStep_touches phase) ih

omit [Guest.Runtime] in
theorem memoryBuffer_touches (i : Instance) :
    Touches [.nextSerial, .diagnostics, .operations, .views, .viewLocks] i.memoryBuffer := by
  refine .bind (i.bufferRun_touches bufferPhases .looking) fun phase => ?_
  split <;> exact .pure _

end Instance

theorem ExportedFunction.apply_touches (f : ExportedFunction) (arguments : List HostValue) :
    Touches Engine.callParts (f.apply arguments).run :=
  fun h₀ => (f.engine.invoker_touches f.bound.handle h₀).call f.bound.name f.bound.signature
    arguments

end WasmHost
