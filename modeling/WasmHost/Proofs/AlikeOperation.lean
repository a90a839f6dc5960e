import WasmHost.Proofs.Alike
/-!
Every operation does the same in states that differ only in what has been reported.

The exception is to ask an engine for its last diagnostic.
-/
namespace WasmHost

namespace Host

theorem newSettings_respects (keywords : Keywords) :
    Respects Alike Alike (newSettings keywords).run := by
  refine .action_look (fun _ _ _ _ => rfl) fun h => ?_
  cases Settings.make h.context keywords with
  | error faults => exact .action_done _
  | ok values => exact new_respects fun serial => (⟨serial, values⟩ : SettingsObject)

theorem processSettings_respects : Respects Alike Alike processSettings.run := by
  refine .action_look (fun _ _ _ _ => rfl) fun h => ?_
  cases h.settings with
  | some settings => exact .action_done _
  | none =>
    refine .action_seq (newSettings_respects .empty) fun settings => ?_
    exact .of_reporting fun _ _ _ n => ⟨n, rfl⟩

theorem newEngine_respects (settings : Option SettingsObject) :
    Respects Alike Alike (newEngine settings).run := by
  have hnew (s : SettingsObject) := new_respects fun serial => (⟨serial, s⟩ : Engine)
  cases settings with
  | some s => exact hnew s
  | none => exact .action_seq processSettings_respects hnew

theorem processEngine_respects : Respects Alike Alike processEngine.run := by
  refine .action_look (fun _ _ _ _ => rfl) fun h => ?_
  cases h.engine with
  | some engine => exact .action_done _
  | none =>
    refine .action_seq (newEngine_respects none) fun engine => ?_
    exact .of_reporting fun _ _ _ n => ⟨n, rfl⟩

theorem engineOr_respects (engine : Option Engine) :
    Respects Alike Alike (engineOr engine).run := by
  cases engine with
  | some e => exact .action_done _
  | none => exact processEngine_respects

theorem newCache_respects (engine : Option Engine) :
    Respects Alike Alike (newCache engine).run :=
  .action_seq (engineOr_respects engine) fun e =>
    new_respects fun serial => (⟨serial, e⟩ : ModuleCache)

theorem processCache_respects : Respects Alike Alike processCache.run := by
  refine .action_look (fun _ _ _ _ => rfl) fun h => ?_
  cases h.cache with
  | some cache => exact .action_done _
  | none =>
    refine .action_seq (newCache_respects none) fun cache => ?_
    exact .of_reporting fun _ _ _ n => ⟨n, rfl⟩

theorem cacheOr_respects (cache : Option ModuleCache) :
    Respects Alike Alike (cacheOr cache).run := by
  cases cache with
  | some c => exact .action_done _
  | none => exact processCache_respects

end Host

namespace ModuleCache

variable (c : ModuleCache)

theorem get?_respects (identifier : String) : Respects Alike Alike (c.get? identifier) :=
  .of_reporting fun _ _ _ n => ⟨n, rfl⟩

theorem contains_respects (identifier : String) : Respects Alike Alike (c.contains identifier) :=
  .of_reporting fun _ _ _ n => ⟨n, rfl⟩

theorem size_respects : Respects Alike Alike c.size :=
  .of_reporting fun _ _ _ n => ⟨n, rfl⟩

theorem insert_respects (identifier : String) (m : CompiledModule) :
    Respects Alike Alike (c.insert identifier m) :=
  .of_reporting fun _ _ _ n => ⟨n, rfl⟩

theorem clear_respects : Respects Alike Alike c.clear :=
  .of_reporting fun _ _ _ n => ⟨_ :: n, rfl⟩

variable [Platform]

theorem build_respects (data : Guest.Image) (identifier : Option String) :
    Respects Alike Alike (c.build data identifier).run := by
  refine .action_ask (c.engine.compile_respects data) fun artifact => ?_
  cases artifact with
  | none => exact c.engine.refusal_respects _
  | some artifact => exact .of_alike (Host.new_respects _)

theorem compile_respects (data : Guest.Image) (identifier : Option String) :
    Respects Alike Alike (c.compile data identifier).run := by
  cases identifier with
  | none => exact c.build_respects data none
  | some key =>
    refine .action_seq (.action_lift (c.get?_respects key)) fun found => ?_
    cases found with
    | some m =>
      exact .action_seq (.action_lift (Host.note_respects _)) fun _ => .action_done _
    | none =>
      exact .action_seq (c.build_respects data (some key)) fun m =>
        .action_seq (.action_lift (c.insert_respects key m)) fun _ => .action_done _

end ModuleCache

variable [Platform]

namespace CompiledModule

theorem compile_respects (data : Guest.Image) (identifier : Option String)
    (cache : Option ModuleCache) : Respects Alike Alike (compile data identifier cache).run :=
  .action_seq (Host.cacheOr_respects cache) fun c => c.compile_respects data identifier

theorem ofFile_respects (path : String) (identifier : Option String)
    (cache : Option ModuleCache) : Respects Alike Alike (ofFile path identifier cache).run := by
  have hcached (c : ModuleCache) : Respects Alike Alike (cachedFor c identifier) := by
    cases identifier with
    | none => exact .pure none
    | some key => exact c.get?_respects key
  refine .action_seq (Host.cacheOr_respects cache) fun c =>
    .action_seq (.action_lift (hcached c)) fun found => ?_
  cases found with
  | some m => exact .action_done _
  | none =>
    exact .action_seq (c.engine.fetchBytes_respects path) fun data =>
      c.compile_respects data identifier

theorem validate_respects (data : Guest.Image) (strict : Bool) (engine : Option Engine) :
    Respects Alike Alike (validate data strict engine).run := by
  refine .action_seq (Host.engineOr_respects engine) fun e =>
    .action_ask (e.validate_respects data) fun valid => ?_
  split
  · exact e.refusal_respects _
  · exact .of_alike (.action_done _)

theorem serialize_respects (m : CompiledModule) : Respects Alike Alike m.serialize.run := by
  refine .action_ask (m.engine.serialize_respects m.artifact) fun data => ?_
  cases data with
  | some data => exact .of_alike (.action_done _)
  | none => exact m.engine.refusal_respects _

theorem deserialize_respects (data : Guest.Image) (engine : Option Engine) :
    Respects Alike Alike (deserialize data engine).run := by
  refine .action_seq (Host.engineOr_respects engine) fun e =>
    .action_ask (e.deserialize_respects data) fun artifact => ?_
  cases artifact with
  | some artifact => exact .of_alike (Host.new_respects _)
  | none => exact e.refusal_respects _

theorem newInstance_respects (m : CompiledModule) : Respects Alike Alike m.newInstance.run := by
  refine .action_ask (m.engine.newInstance_respects m.artifact) fun handle => ?_
  cases handle with
  | some handle => exact .of_alike (Host.new_respects _)
  | none => exact m.engine.refusal_respects _

end CompiledModule

namespace Instance

theorem build_respects (e : Engine) (data : Guest.Image) (headline : String) :
    Respects Alike Alike (build e data headline).run := by
  refine .action_ask (e.compile_respects data) fun artifact => ?_
  cases artifact with
  | none => exact e.refusal_respects _
  | some artifact =>
    refine .of_alike (.action_ask (e.newInstance_respects artifact) fun handle => ?_)
    cases handle with
    | none => exact e.refusal_respects _
    | some handle =>
      exact .of_alike <| .action_seq (.action_lift Host.newSerial_respects) fun _ =>
        Host.new_respects _

theorem ofFile_respects (path : String) (engine : Option Engine) :
    Respects Alike Alike (ofFile path engine).run :=
  .action_seq (Host.engineOr_respects engine) fun e =>
    .action_seq (e.fetchBytes_respects path) fun data => build_respects e data _

theorem ofBytes_respects (data : Guest.Image) (engine : Option Engine) :
    Respects Alike Alike (ofBytes data engine).run :=
  .action_seq (Host.engineOr_respects engine) fun e => build_respects e data _

variable (i : Instance)

/-- What a look-up of a callable comes to. The one that was handed out before is given without
asking, and a new one is remembered; a name that cannot be resolved is not. -/
inductive LooksUp (i : Instance) (name : String) (h : Host) :
    Except Failure ExportedFunction → Host → Prop where
  | found {f : ExportedFunction} (hfound : (i.wrappers h).lookup name = some f) :
      LooksUp i name h (.ok f) h
  | unresolved {failure : Failure} (hname : i.handle.program.resolution name = .error failure) :
      LooksUp i name h (.error failure) ((i.engine.functionSignature i.handle name).run h).2
  | resolved {signature : Signature} {f : ExportedFunction} {h₁ : Host}
      (hname : i.handle.program.resolution name = .ok signature)
      (hasked : ((i.engine.functionSignature i.handle name).run h).2 = h₁)
      (hf : f = ⟨h₁.nextSerial, i.engine, ⟨i.handle, name, signature⟩⟩) :
      LooksUp i name h (.ok f) { h₁ with
        nextSerial := h₁.nextSerial + 1
        wrappers := h₁.wrappers.set i.serial (i.wrappers h₁ ++ [(name, f)]) }

theorem function_looksUp {name : String} {h h' : Host} {result : Except Failure ExportedFunction}
    (hrun : (i.function name).run.run h = (result, h')) : i.LooksUp name h result h' := by
  have hresolve := i.engine.resolve_eq i.handle name h
  rw [function, Action.run_get_bind] at hrun
  cases hfound : (i.wrappers h).lookup name with
  | some f =>
    rw [hfound] at hrun
    cases hrun
    exact .found hfound
  | none =>
    rw [hfound] at hrun
    cases hname : i.handle.program.resolution name with
    | error failure =>
      rw [hname] at hresolve
      have hbound : (BoundFunction.bind i.engine.invoker i.handle name).run.run h =
          (.error failure, _) := Action.run_bind_error hresolve
      cases (Action.run_bind_error hbound).symm.trans hrun
      exact .unresolved hname
    | ok signature =>
      rw [hname] at hresolve
      have hbound : (BoundFunction.bind i.engine.invoker i.handle name).run.run h =
          (.ok ⟨i.handle, name, signature⟩, _) := Action.run_bind_ok hresolve
      cases (Action.run_bind_ok hbound).symm.trans hrun
      exact .resolved hname rfl rfl

theorem function_respects (name : String) : Respects Alike Alike (i.function name).run := by
  refine .action_look (fun _ _ _ _ => rfl) fun h => ?_
  cases (i.wrappers h).lookup name with
  | some f => exact .action_done _
  | none =>
    refine .action_seq (.action_map (i.engine.resolve_respects i.handle name) _)
      fun bound => .action_seq (.action_lift Host.newSerial_respects)
        fun serial => ?_
    exact .of_reporting fun _ _ _ n => ⟨n, rfl⟩

theorem attributeOf_respects (name : String) :
    Respects Alike Alike (i.attributeOf name).run := by
  rw [i.attributeOf_eq]
  split
  · exact .action_done _
  split
  · exact .action_done _
  split
  · exact .action_done _
  · exact .recast (i.function_respects (i.exportName name)) (i.exportedAttribute_run name)

theorem hasAttribute_respects (name : String) : Respects Alike Alike (i.hasAttribute name) := by
  intro h h' alike
  obtain ⟨hresult, hafter⟩ := i.attributeOf_respects name h h' alike
  rw [hasAttribute_run, hasAttribute_run]
  exact ⟨congrArg Except.isOk hresult, hafter⟩

theorem itemOf_respects (name : String) : Respects Alike Alike (i.itemOf name).run :=
  .recast (i.function_respects name) (i.itemOf_run name)

omit [Platform] in
theorem bufferStep_respects (phase : BufferPhase) :
    Respects Alike Alike (i.bufferStep phase) := by
  cases phase with
  -- the engine clears its diagnostic, and no later phase reads it
  | asking =>
    refine .bind (i.engine.memoryBuffer_respects i.handle) fun view => ?_
    exact fun h h' hfor => ⟨rfl, hfor.1⟩
  | looking | checking =>
    rintro h _ ⟨d, o, n, rfl⟩
    unfold bufferStep
    rw [stateM_run_get, stateM_run_get]
    have hslot : i.viewSlot (h.reporting d o n) = i.viewSlot h := rfl
    rw [hslot]
    cases i.viewSlot h <;> exact ⟨rfl, d, o, n, rfl⟩
  | locking =>
    rintro h _ ⟨d, o, n, rfl⟩
    unfold bufferStep
    rw [stateM_run_get, stateM_run_get]
    have hlock : (h.reporting d o n).viewLocks = h.viewLocks := rfl
    rw [hlock]
    cases h.viewLocks.get i.serial <;> exact ⟨rfl, d, o, n, rfl⟩
  | filling _ | unlocking | reading | done _ =>
    exact .of_reporting fun _ _ _ n => ⟨n, rfl⟩

omit [Platform] in
theorem bufferRun_respects (n : Nat) (phase : BufferPhase) :
    Respects Alike Alike (i.bufferRun n phase) := by
  induction n generalizing phase with
  | zero => exact .pure phase
  | succ n ih => exact .bind (i.bufferStep_respects phase) ih

omit [Platform] in
theorem memoryBuffer_respects : Respects Alike Alike i.memoryBuffer := by
  refine .bind (i.bufferRun_respects bufferPhases .looking) fun phase => ?_
  rcases phase with _ | _ | _ | _ | _ | _ | _ | (_ | _) <;> exact .pure _

end Instance

-- Only the question for the last diagnostic is answered by what has been reported.
theorem EngineCall.run_respects (e : Engine) {call : EngineCall} (hcall : call ≠ .lastError) :
    Respects Alike Alike (call.run e).run := by
  have hmap {α : Type} {a : HostM α} (ha : Respects Alike (AlikeFor e) a) (f : α → EngineReply) :
      Respects Alike Alike (do return f (← a) : HostAction EngineReply).run :=
    .action_ask ha fun _ => .of_alike (.action_done _)
  cases call with
  | lastError => exact absurd rfl hcall
  | fetchBytes path => exact .action_map (e.fetchBytes_respects path) _
  | validate data => exact hmap (e.validate_respects data) _
  | compile data => exact hmap (e.compile_respects data) _
  | serialize artifact => exact hmap (e.serialize_respects artifact) _
  | deserialize data => exact hmap (e.deserialize_respects data) _
  | newInstance artifact => exact hmap (e.newInstance_respects artifact) _
  | newInstanceFromBytes data =>
    refine hmap (.bind (e.compile_respects data) fun artifact => ?_) _
    cases artifact with
    | none => exact .pure none
    | some artifact => exact .of_alike (e.newInstance_respects artifact)
  | exportNames handle | functionNames handle => exact .action_done _
  | functionSignature handle name => exact hmap (e.functionSignature_respects handle name) _
  | makeValue kind a => exact .action_map (e.makeValue_fixed kind a).respects _
  | invokeFunction handle name values =>
    refine .action_map (fun h h' alike => ?_) _
    obtain ⟨hresult, hafter, -⟩ := e.invokeFunction_respects handle name values alike
    exact ⟨hresult, hafter⟩
  | memoryBuffer handle => exact hmap (e.memoryBuffer_respects handle) _
  | memorySize handle memory | memoryRead handle memory start stop =>
    exact .of_reporting fun _ _ _ n => ⟨n, rfl⟩

namespace Operation

/-- An operation asks an engine for its last diagnostic. -/
def asksLastError : Operation → Bool
  | engineCall _ .lastError => true
  | _ => false

theorem perform_respects {op : Operation} (hop : op.asksLastError = false) :
    Respects Alike Alike op.perform.run := by
  have hown {a : HostM Unit} (ha : Respects Alike Alike a) :
      Respects Alike Alike (do a; return .done : HostAction Answer).run :=
    .action_seq (.action_lift ha) fun _ => .action_done _
  cases op with
  | newSettings keywords => exact .action_map (Host.newSettings_respects keywords) _
  | processSettings => exact .action_map Host.processSettings_respects _
  | resetSettings =>
    refine hown ?_
    exact .of_reporting fun _ _ _ n => ⟨n, rfl⟩
  | newEngine settings => exact .action_map (Host.newEngine_respects settings) _
  | processEngine => exact .action_map Host.processEngine_respects _
  | engineCall e call =>
    refine .action_map (call.run_respects e ?_) _
    rintro rfl
    exact Bool.noConfusion hop
  | newCache engine => exact .action_map (Host.newCache_respects engine) _
  | processCache => exact .action_map Host.processCache_respects _
  | cacheCompile c data identifier => exact .action_map (c.compile_respects data identifier) _
  | cacheGet c identifier => exact .action_map (.action_lift (c.get?_respects identifier)) _
  | cacheContains c identifier =>
    exact .action_map (.action_lift (c.contains_respects identifier)) _
  | cacheSize c => exact .action_map (.action_lift c.size_respects) _
  | cacheClear c => exact hown c.clear_respects
  | compile data identifier cache =>
    exact .action_map (CompiledModule.compile_respects data identifier cache) _
  | compileFile path identifier cache =>
    exact .action_map (CompiledModule.ofFile_respects path identifier cache) _
  | validate data strict engine =>
    exact .action_map (CompiledModule.validate_respects data strict engine) _
  | serialize m => exact .action_map m.serialize_respects _
  | deserialize data engine => exact .action_map (CompiledModule.deserialize_respects data engine) _
  | newInstance m => exact .action_map m.newInstance_respects _
  | instanceOfFile path engine => exact .action_map (Instance.ofFile_respects path engine) _
  | instanceOfBytes data engine => exact .action_map (Instance.ofBytes_respects data engine) _
  | call i name arguments =>
    exact .action_map (i.engine.dispatch_respects i.handle name arguments) _
  | function i name => exact .action_map (i.function_respects name) _
  | getAttribute i name => exact .action_map (i.attributeOf_respects name) _
  | hasAttribute i name => exact .action_map (.action_lift (i.hasAttribute_respects name)) _
  | getItem i name => exact .action_map (i.itemOf_respects name) _
  | memoryBuffer i => exact .action_map (.action_lift i.memoryBuffer_respects) _
  | apply f arguments =>
    exact .action_map
      (f.engine.call_respects f.bound.handle f.bound.name f.bound.signature arguments) _
  | view v request =>
    refine .action_look (fun _ _ _ _ => rfl) fun h => ?_
    cases request.answer (h.memory v) <;> exact .action_done _

end Operation
end WasmHost
