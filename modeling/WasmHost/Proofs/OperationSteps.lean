import WasmHost.Proofs.Steps
/-!
The steps of every operation of a host.

Every question to an engine is a step of its own. What lies between two questions of an operation
concerns its own objects, caches and instances, and no diagnostic.
-/
namespace WasmHost
namespace Engine

variable (e : Engine)

variable [Platform]

def lastErrorSteps : Steps (liftM e.lastError : HostAction (Option String)) :=
  .ask ⟨e, .lastError, e.lastError, .diagnostic, rfl⟩

/-- Failing with the last diagnostic. -/
def refusalSteps {α : Type} (fault : Option String → Fault) :
    Steps (do Action.fail (fault (← e.lastError)) : HostAction α) :=
  .bind e.lastErrorSteps fun d => .fail (fault d)

def fetchBytesSteps (path : String) : Steps (e.fetchBytes path) :=
  .ask ⟨e, .fetchBytes path, e.fetchBytes path, .bytes, rfl⟩

def validateSteps (data : Guest.Image) : Steps (liftM (e.validate data) : HostAction Bool) :=
  .ask ⟨e, .validate data, e.validate data, .valid, rfl⟩

def compileSteps (data : Guest.Image) :
    Steps (liftM (e.compile data) : HostAction (Option Artifact)) :=
  .ask ⟨e, .compile data, e.compile data, .artifact, rfl⟩

def serializeSteps (artifact : Artifact) :
    Steps (liftM (e.serialize artifact) : HostAction (Option Guest.Image)) :=
  .ask ⟨e, .serialize artifact, e.serialize artifact, .serialized, rfl⟩

def deserializeSteps (data : Guest.Image) :
    Steps (liftM (e.deserialize data) : HostAction (Option Artifact)) :=
  .ask ⟨e, .deserialize data, e.deserialize data, .artifact, rfl⟩

def newInstanceSteps (artifact : Artifact) :
    Steps (liftM (e.newInstance artifact) : HostAction (Option Handle)) :=
  .ask ⟨e, .newInstance artifact, e.newInstance artifact, .handle, rfl⟩

def makeValueSteps (kind : ValueKind) (a : HostValue) : Steps (e.invoker.makeValue kind a) :=
  .ask ⟨e, .makeValue kind a, e.invoker.makeValue kind a, .value, rfl⟩

variable (handle : Handle)

def functionSignatureSteps (name : String) :
    Steps (liftM (e.functionSignature handle name) : HostAction (Option Signature)) :=
  .ask ⟨e, .functionSignature handle name, e.functionSignature handle name, .signature, rfl⟩

def invokeFunctionSteps (name : String) (values : List Value) :
    Steps (e.invokeFunction handle name values) :=
  .ask ⟨e, .invokeFunction handle name values, e.invokeFunction handle name values, .outcome, rfl⟩

def memoryBufferSteps : Steps (liftM (e.memoryBuffer handle) : HostAction (Option MemoryView)) :=
  .ask ⟨e, .memoryBuffer handle, e.memoryBuffer handle, .view, rfl⟩

/-- Telling by the last diagnostic why a name has no signature. -/
def unresolvedSteps (name : String) : Steps (do
    match ← e.lastError with
    | none => Action.fail (.unknownFunction name)
    | some diagnostic => Action.fail (.unresolvedSignature name (some diagnostic)) :
      HostAction Signature) :=
  .bind e.lastErrorSteps fun
    | none => .fail _
    | some _ => .fail _

def resolveSteps (name : String) : Steps (e.invoker.resolve handle name) :=
  .bind (e.functionSignatureSteps handle name) fun
    | some signature => .give signature
    | none => e.unresolvedSteps name

def checkSteps : ∀ fault : Option Fault, Steps (Action.check fault : HostAction Unit)
  | none => .give ()
  | some fault => .fail fault.raised

def marshalOneSteps (function : String) (position : Int) (kind : ValueKind) (a : HostValue) :
    Steps (e.invoker.marshalOne function position kind a) :=
  .bind (checkSteps _) fun _ => .bind (e.makeValueSteps kind a) fun
    | some value => .give value
    | none => .fail (Fault.unsupportedKind function position kind.name).raised

def marshalFromSteps (function : String) (position : Nat) :
    ∀ kinds arguments, Steps (e.invoker.marshalFrom function position kinds arguments)
  | kind :: kinds, a :: arguments =>
    .bind (e.marshalOneSteps function position kind a) fun value =>
      .map (marshalFromSteps function (position + 1) kinds arguments) (value :: ·)
  | [], _ => .give []
  | _ :: _, [] => .give []

def callSteps (name : String) (signature : Signature) (arguments : List HostValue) :
    Steps (e.invoker.call handle name signature arguments) :=
  .bind (.bind (checkSteps _) fun _ => e.marshalFromSteps name 1 signature.params arguments)
    fun values => .bind (e.invokeFunctionSteps handle name values) fun
      | .returned result => .give result
      | .failed => .bind e.lastErrorSteps fun diagnostic =>
        .bind (.note (.invocationFailed name diagnostic)) fun _ => .fail (.trapped name diagnostic)

def dispatchSteps (name : String) (arguments : List HostValue) :
    Steps (e.invoker.dispatch handle name arguments) :=
  .bind (e.resolveSteps handle name) fun signature => e.callSteps handle name signature arguments

end Engine

namespace Host

theorem newSettings_quiet (keywords : Keywords) (h : Host) :
    Quiet ((newSettings keywords).run.run h).1 := by
  rw [newSettings, Action.run_get_bind]
  split
  · exact .error rfl
  · exact .bind (.lift _ h) fun _ _ => .ok _

theorem processSettings_quiet (h : Host) : Quiet (processSettings.run.run h).1 := by
  rw [processSettings, Action.run_get_bind]
  split
  · exact .ok _
  · exact .bind (newSettings_quiet .empty h) fun _ _ => .bind (.ok _) fun _ _ => .ok _

theorem newEngine_quiet (settings : Option SettingsObject) (h : Host) :
    Quiet ((newEngine settings).run.run h).1 := by
  have hnew (s : SettingsObject) (h : Host) :
      Quiet ((do return ⟨← newSerial, s⟩ : HostAction Engine).run.run h).1 :=
    .bind (.lift _ h) fun _ _ => .ok _
  cases settings with
  | some s => exact .bind (.ok s) fun s h' => hnew s h'
  | none => exact .bind (processSettings_quiet h) fun s h' => hnew s h'

theorem processEngine_quiet (h : Host) : Quiet (processEngine.run.run h).1 := by
  rw [processEngine, Action.run_get_bind]
  split
  · exact .ok _
  · exact .bind (newEngine_quiet none h) fun _ _ => .bind (.ok _) fun _ _ => .ok _

theorem engineOr_quiet (engine : Option Engine) (h : Host) :
    Quiet ((engineOr engine).run.run h).1 := by
  cases engine with
  | some e => exact .ok e
  | none => exact processEngine_quiet h

theorem newCache_quiet (engine : Option Engine) (h : Host) :
    Quiet ((newCache engine).run.run h).1 :=
  .bind (engineOr_quiet engine h) fun _ h' => .bind (.lift _ h') fun _ _ => .ok _

theorem processCache_quiet (h : Host) : Quiet (processCache.run.run h).1 := by
  rw [processCache, Action.run_get_bind]
  split
  · exact .ok _
  · exact .bind (newCache_quiet none h) fun _ _ => .bind (.ok _) fun _ _ => .ok _

theorem cacheOr_quiet (cache : Option ModuleCache) (h : Host) :
    Quiet ((cacheOr cache).run.run h).1 := by
  cases cache with
  | some c => exact .ok c
  | none => exact processCache_quiet h

variable [Platform]

def engineOrSteps (engine : Option Engine) : Steps (engineOr engine) :=
  .own ((engineOr_touches engine).mono (by decide)) (engineOr_quiet engine)

def cacheOrSteps (cache : Option ModuleCache) : Steps (cacheOr cache) :=
  .own ((cacheOr_touches cache).mono (by decide)) (cacheOr_quiet cache)

end Host

namespace ModuleCache

variable (c : ModuleCache)

theorem get?_touches (key : String) : Touches ownParts (c.get? key) := .bind .get fun _ => .pure _

theorem insert_touches (key : String) (m : CompiledModule) : Touches ownParts (c.insert key m) :=
  .of_run fun h part => by cases part <;> first | exact Or.inr rfl | exact Or.inl (by decide)

theorem clear_touches : Touches ownParts c.clear :=
  .of_run fun h part => by cases part <;> first | exact Or.inr rfl | exact Or.inl (by decide)

variable [Platform]

def buildSteps (data : Guest.Image) (identifier : Option String) :
    Steps (c.build data identifier) :=
  .bind (c.engine.compileSteps data) fun
    | none => c.engine.refusalSteps _
    | some _ => .new _

def compileSteps (data : Guest.Image) : ∀ identifier, Steps (c.compile data identifier)
  | none => c.buildSteps data none
  | some key => .bind (.act (c.get?_touches key)) fun
    | some m => .bind (.note (.cacheHit key)) fun _ => .give m
    | none => .bind (c.buildSteps data (some key)) fun m =>
      .bind (.act (c.insert_touches key m)) fun _ => .give m

end ModuleCache

variable [Platform]

namespace CompiledModule

def compileSteps (data : Guest.Image) (identifier : Option String) (cache : Option ModuleCache) :
    Steps (compile data identifier cache) :=
  .bind (Host.cacheOrSteps cache) fun c => c.compileSteps data identifier

def cachedForSteps (c : ModuleCache) : ∀ identifier,
    Steps (liftM (cachedFor c identifier) : HostAction (Option CompiledModule))
  | none => .act (.pure none)
  | some key => .act (c.get?_touches key)

def ofFileSteps (path : String) (identifier : Option String) (cache : Option ModuleCache) :
    Steps (ofFile path identifier cache) :=
  .bind (Host.cacheOrSteps cache) fun c => .bind (cachedForSteps c identifier) fun
    | some m => .give m
    | none => .bind (c.engine.fetchBytesSteps path) fun data => c.compileSteps data identifier

def validateSteps (data : Guest.Image) (strict : Bool) (engine : Option Engine) :
    Steps (validate data strict engine) :=
  .bind (Host.engineOrSteps engine) fun e => .bind (e.validateSteps data) fun valid =>
    .ite (e.refusalSteps _) (.give valid)

def serializeSteps (m : CompiledModule) : Steps m.serialize :=
  .bind (m.engine.serializeSteps m.artifact) fun
    | some data => .give data
    | none => m.engine.refusalSteps _

def deserializeSteps (data : Guest.Image) (engine : Option Engine) :
    Steps (deserialize data engine) :=
  .bind (Host.engineOrSteps engine) fun e => .bind (e.deserializeSteps data) fun
    | some _ => .new _
    | none => e.refusalSteps _

def newInstanceSteps (m : CompiledModule) : Steps m.newInstance :=
  .bind (m.engine.newInstanceSteps m.artifact) fun
    | some _ => .new _
    | none => m.engine.refusalSteps _

end CompiledModule

namespace Instance

def buildSteps (e : Engine) (data : Guest.Image) (headline : String) :
    Steps (build e data headline) :=
  .bind (e.compileSteps data) fun
    | none => e.refusalSteps _
    | some artifact => .bind (e.newInstanceSteps artifact) fun
      | none => e.refusalSteps _
      | some _ => .bind (.act Steps.newSerial_touches) fun _ => .new _

def ofFileSteps (path : String) (engine : Option Engine) : Steps (ofFile path engine) :=
  .bind (Host.engineOrSteps engine) fun e => .bind (e.fetchBytesSteps path) fun data =>
    buildSteps e data _

def ofBytesSteps (data : Guest.Image) (engine : Option Engine) : Steps (ofBytes data engine) :=
  .bind (Host.engineOrSteps engine) fun e => buildSteps e data _

variable (i : Instance)

def functionSteps (name : String) : Steps (i.function name) :=
  .look fun h => match (i.wrappers h).lookup name with
    | some f => .give f
    | none => .bind (.map (i.engine.resolveSteps i.handle name) _) fun _ =>
      .bind (.act Steps.newSerial_touches) fun _ =>
        .bind (.change (.of_run fun h part => by
          cases part <;> first | exact Or.inr rfl | exact Or.inl (by decide))) fun _ =>
            .give _

/-- A callable as an attribute. That the export cannot be resolved becomes that there is no such
attribute. -/
def asAttribute (name : String) : Except Failure ExportedFunction → Except Failure Attribute
  | .ok f => .ok (.exported f)
  | .error failure => match failure.fault with
    | .unresolvedSignature _ _ => .error ⟨.plain (.noAttribute name), some failure.fault⟩
    | _ => .error failure

/-- A callable as an item. That the export is unknown or cannot be resolved becomes that there is no
such item. -/
def asItem (name : String) : Except Failure ExportedFunction → Except Failure ExportedFunction
  | .ok f => .ok f
  | .error failure => match failure.fault with
    | .unknownFunction _ | .unresolvedSignature _ _ =>
      .error ⟨.plain (.noItem name), some failure.fault⟩
    | _ => .error failure

/-- The attribute of a name that is looked up among the exports. -/
def exportedAttribute (name : String) : HostAction Attribute := ExceptT.mk do
  match ← (i.function (i.exportName name)).run with
  | .ok f => return .ok (.exported f)
  | .error failure => match failure.fault with
    | .unresolvedSignature _ _ =>
      return .error ⟨.plain (.noAttribute name), some failure.fault⟩
    | _ => return .error failure

theorem attributeOf_eq (name : String) : i.attributeOf name =
    if name = ownerName then pure .owner
    else if ownMembers.contains name then pure (.ownMember name)
    else if name.toList.head? = some '_' then Action.fail (.plain (.noAttribute name))
    else i.exportedAttribute name := rfl

theorem exportedAttribute_run (name : String) (h : Host) :
    (i.exportedAttribute name).run.run h =
      (asAttribute name ((i.function (i.exportName name)).run.run h).1,
        ((i.function (i.exportName name)).run.run h).2) := by
  change (do match ← (i.function (i.exportName name)).run with
    | .ok f => return .ok (.exported f)
    | .error failure => match failure.fault with
      | .unresolvedSignature _ _ =>
        return .error ⟨.plain (.noAttribute name), some failure.fault⟩
      | _ => return .error failure : HostM (Except Failure Attribute)).run h = _
  rw [stateM_run_bind]
  rcases ((i.function (i.exportName name)).run.run h).1 with ⟨fault, cause⟩ | f
  · cases fault <;> rfl
  · rfl

def attributeSteps (name : String) : Steps (i.attributeOf name) :=
  .ite (.give _) <| .ite (.give _) <| .ite (.fail _) <|
    .recast (i.functionSteps (i.exportName name)) (asAttribute name) (i.exportedAttribute_run name)

theorem hasAttribute_run (name : String) (h : Host) : (i.hasAttribute name).run h =
    (((i.attributeOf name).run.run h).1.isOk, ((i.attributeOf name).run.run h).2) := by
  rw [hasAttribute, stateM_run_bind]
  rcases ((i.attributeOf name).run.run h).1 with failure | a <;> rfl

theorem itemOf_run (name : String) (h : Host) : (i.itemOf name).run.run h =
    (asItem name ((i.function name).run.run h).1, ((i.function name).run.run h).2) := by
  change (do match ← (i.function name).run with
    | .ok f => return .ok f
    | .error failure => match failure.fault with
      | .unknownFunction _ | .unresolvedSignature _ _ =>
        return .error ⟨.plain (.noItem name), some failure.fault⟩
      | _ => return .error failure : HostM (Except Failure ExportedFunction)).run h = _
  rw [stateM_run_bind]
  rcases ((i.function name).run.run h).1 with ⟨fault, cause⟩ | f
  · cases fault <;> rfl
  · rfl

def hasAttributeSteps (name : String) : Steps (liftM (i.hasAttribute name) : HostAction Bool) :=
  .recast (i.attributeSteps name) (fun r => .ok r.isOk) fun h => by
    rw [Action.run_lift, hasAttribute_run]

def itemSteps (name : String) : Steps (i.itemOf name) :=
  .recast (i.functionSteps name) (asItem name) (i.itemOf_run name)

omit [Platform] in
-- Only one phase of a request for the memory view asks the engine.
theorem bufferStep_ownTouches {phase : BufferPhase} (hphase : phase ≠ .asking) :
    Touches ownParts (i.bufferStep phase) := by
  cases phase with
  | asking => exact absurd rfl hphase
  | looking | checking =>
    refine .bind .get fun h => ?_
    split <;> exact .pure _
  | locking =>
    refine .of_run fun h part => ?_
    unfold bufferStep
    rw [stateM_run_get]
    split <;> cases part <;> first | exact Or.inr rfl | exact Or.inl (by decide)
  | filling _ | unlocking | reading | done _ =>
    refine .of_run fun h part => ?_
    cases part <;> first | exact Or.inr rfl | exact Or.inl (by decide)

def bufferStepSteps (phase : BufferPhase) :
    Steps (liftM (i.bufferStep phase) : HostAction BufferPhase) :=
  if hphase : phase = .asking then
    .recast (i.engine.memoryBufferSteps i.handle) (·.map .filling) fun _ => hphase ▸ rfl
  else .act (i.bufferStep_ownTouches hphase)

def bufferSteps : ∀ n phase, Steps (liftM (i.bufferRun n phase) : HostAction BufferPhase)
  | 0, phase => .act (.pure phase)
  | n + 1, phase =>
    .recast (.bind (i.bufferStepSteps phase) fun next => bufferSteps n next) id fun _ => rfl

/-- What a request has come to: a view, or none if it has not come to an end. -/
def asView : Except Failure BufferPhase → Except Failure (Option MemoryView)
  | .ok (.done (.holds view)) => .ok view
  | _ => .ok none

def memoryBufferSteps : Steps (liftM i.memoryBuffer : HostAction (Option MemoryView)) :=
  .recast (i.bufferSteps bufferPhases .looking) asView fun h => by
    rw [Action.run_lift, memoryBuffer, stateM_run_bind, Action.run_lift]
    rcases ((i.bufferRun bufferPhases .looking).run h).1
      with _ | _ | _ | _ | _ | _ | _ | (_ | _) <;> rfl

end Instance

def EngineCall.steps (e : Engine) (call : EngineCall) : Steps (call.run e) :=
  .ask ⟨e, call, call.run e, id, (bind_pure (call.run e)).symm⟩

namespace Operation

/-- The steps of an operation. -/
def steps : ∀ op : Operation, Steps op.perform
  | newSettings keywords =>
    .map (.own ((Host.newSettings_touches keywords).mono (by decide))
      (Host.newSettings_quiet keywords)) _
  | processSettings =>
    .map (.own (Host.processSettings_touches.mono (by decide)) Host.processSettings_quiet) _
  | resetSettings => .bind (.change (.of_run fun h part => by
      cases part <;> first | exact Or.inr rfl | exact Or.inl (by decide))) fun _ => .give _
  | newEngine settings =>
    .map (.own ((Host.newEngine_touches settings).mono (by decide))
      (Host.newEngine_quiet settings)) _
  | processEngine =>
    .map (.own (Host.processEngine_touches.mono (by decide)) Host.processEngine_quiet) _
  | engineCall e asked => .map (asked.steps e) _
  | newCache engine =>
    .map (.own ((Host.newCache_touches engine).mono (by decide)) (Host.newCache_quiet engine)) _
  | processCache =>
    .map (.own (Host.processCache_touches.mono (by decide)) Host.processCache_quiet) _
  | cacheCompile c data identifier => .map (c.compileSteps data identifier) _
  | cacheGet c identifier => .map (.act (c.get?_touches identifier)) _
  | cacheContains c identifier =>
    .map (.act (a := c.contains identifier) (.bind .get fun _ => .pure _)) _
  | cacheSize c => .map (.act (a := c.size) (.bind .get fun _ => .pure _)) _
  | cacheClear c => .bind (.act c.clear_touches) fun _ => .give _
  | compile data identifier cache => .map (CompiledModule.compileSteps data identifier cache) _
  | compileFile path identifier cache => .map (CompiledModule.ofFileSteps path identifier cache) _
  | validate data strict engine => .map (CompiledModule.validateSteps data strict engine) _
  | serialize m => .map m.serializeSteps _
  | deserialize data engine => .map (CompiledModule.deserializeSteps data engine) _
  | newInstance m => .map m.newInstanceSteps _
  | instanceOfFile path engine => .map (Instance.ofFileSteps path engine) _
  | instanceOfBytes data engine => .map (Instance.ofBytesSteps data engine) _
  | call i name arguments => .map (i.engine.dispatchSteps i.handle name arguments) _
  | function i name => .map (i.functionSteps name) _
  | getAttribute i name => .map (i.attributeSteps name) _
  | hasAttribute i name => .map (i.hasAttributeSteps name) _
  | getItem i name => .map (i.itemSteps name) _
  | memoryBuffer i => .map i.memoryBufferSteps _
  | apply f arguments =>
    .map (f.engine.callSteps f.bound.handle f.bound.name f.bound.signature arguments) _
  | view v request => .look fun h => match request.answer (h.memory v) with
    | .ok _ => .give _
    | .error fault => .fail fault

/-- An operation on one thread leaves the diagnostics of all others alone, so that it may happen
while another thread is between two steps. -/
theorem meanwhile (op : Operation) {thread other : Thread} (hother : other ≠ thread) (h : Host) :
    Meanwhile thread h ((op.after other h).onThread thread) := by
  obtain ⟨-, hdiagnostics⟩ := op.steps.diagnostics_elsewhere (h.onThread other)
  exact ⟨rfl, fun e => hdiagnostics e thread hother.symm⟩

end Operation

/-- Whole operations of other threads and changes of the surroundings, one after the other. -/
inductive Elsewhere (thread : Thread) (h : Host) : Host → Prop where
  | nothing : Elsewhere thread h h
  | perform {h' : Host} (earlier : Elsewhere thread h h') {other : Thread}
      (hother : other ≠ thread) (op : Operation) :
      Elsewhere thread h ((op.after other h').onThread thread)
  | surroundings {h' : Host} (earlier : Elsewhere thread h h') (context : SettingsContext)
      (files : Files.Tree) (serializeFault : Option String) :
      Elsewhere thread h { h' with context, files, serializeFault }

-- All of this may happen while a thread is between two steps.
theorem Elsewhere.meanwhile {thread : Thread} {h h' : Host} (hthread : h.thread = thread)
    (elsewhere : Elsewhere thread h h') : Meanwhile thread h h' := by
  induction elsewhere with
  | nothing => exact .refl hthread
  | perform _ hother op ih => exact ih.trans (op.meanwhile hother _)
  | surroundings _ context files serializeFault ih =>
    exact ih.trans (.surroundings ih.1 context files serializeFault)

end WasmHost
