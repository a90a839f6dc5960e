import WasmHost.Proofs.Buffer
import WasmHost.Proofs.Dispatch
import WasmHost.Proofs.Issues
/-!
What each operation of the host enters in the ledger, from the engine up to the entry points.
-/
namespace WasmHost

theorem mem_of_lookup_eq_some {κ α : Type} [BEq κ] [LawfulBEq κ] {key : κ} {value : α}
    {entries : List (κ × α)} (h : entries.lookup key = some value) : (key, value) ∈ entries := by
  obtain ⟨before, after, rfl, -⟩ := List.lookup_eq_some_iff.mp h
  exact List.mem_append_right _ List.mem_cons_self

variable {U : Set Object}

namespace Host

theorem note_issues (notice : Notice) : Issues U (note notice) fun _ => ∅ :=
  .of_touches ((note_touches notice).mono (by decide))

theorem record_issues (e : Engine) (operation : EngineOperation) :
    Issues U (record e operation) fun _ => ∅ :=
  .of_touches ((record_touches e operation).mono (by decide))

end Host

namespace Engine

variable {e : Engine} (he : .engine e ∈ U)

include he

theorem setDiagnostic_issues (d : Option String) : Issues U (e.setDiagnostic d) fun _ => ∅ :=
  .modify (fun _ _ ledger hused => ledger.setDiagnostic (hused he) _ d) fun _ => rfl

theorem setError_issues (diagnostic : String) : Issues U (e.setError diagnostic) fun _ => ∅ :=
  (Host.note_issues _).seq fun _ => setDiagnostic_issues he _

theorem clearError_issues : Issues U e.clearError fun _ => ∅ := setDiagnostic_issues he none

variable [Guest.Runtime]

theorem validate_issues (data : Guest.Image) : Issues U (e.validate data) fun _ => ∅ := by
  unfold validate
  split
  · exact (setError_issues he _).seq fun _ => .pure (Set.empty_subset _)
  · exact (clearError_issues he).seq fun _ => .pure (Set.empty_subset _)

theorem compile_issues (data : Guest.Image) :
    Issues U (e.compile data) (optional .artifact) := by
  refine (Host.record_issues e _).seq fun _ => (Host.note_issues _).seq fun _ => ?_
  -- what is compiled becomes an artifact with a serial number of its own
  split
  · exact (setError_issues he _).seq fun _ => .pure (Set.empty_subset _)
  · refine (clearError_issues he).seq fun _ => ?_
    exact .new (fun _ => rfl) (fun _ => rfl) (fun _ _ hp => absurd hp List.not_mem_nil)
      fun _ => trivial

theorem serialize_issues (artifact : Artifact) :
    Issues U (e.serialize artifact) fun _ => ∅ := by
  refine Issues.get_bind fun h => ?_
  split
  · exact (setError_issues (Or.inl he) _).seq fun _ => .pure (Set.empty_subset _)
  · exact (clearError_issues (Or.inl he)).seq fun _ => .pure (Set.empty_subset _)

theorem deserialize_issues (data : Guest.Image) :
    Issues U (e.deserialize data) (optional .artifact) := by
  unfold deserialize
  dsimp only
  split
  -- the loader decides whether there is an artifact
  · split
    · exact (setError_issues he _).seq fun _ => .pure (Set.empty_subset _)
    · refine (clearError_issues he).seq fun _ => ?_
      exact .new (fun _ => rfl) (fun _ => rfl) (fun _ _ hp => absurd hp List.not_mem_nil)
        fun _ => trivial
  · exact (setError_issues he _).seq fun _ => .pure (Set.empty_subset _)

omit he in
theorem compile_fits {data : Guest.Image} {h : Host} {artifact : Artifact}
    (hcompiled : ((e.compile data).run h).1 = some artifact) : e.Fits artifact.compiled := by
  unfold compile at hcompiled
  cases hdata : Guest.compile data with
  | error diagnostic =>
    rw [hdata] at hcompiled
    cases hcompiled
  | ok program =>
    rw [hdata] at hcompiled
    cases hcompiled
    exact ⟨rfl, rfl⟩

omit he in
theorem deserialize_fits {data : Guest.Image} {h : Host} {artifact : Artifact}
    (hloaded : ((e.deserialize data).run h).1 = some artifact) : e.Fits artifact.compiled := by
  unfold deserialize at hloaded
  dsimp only at hloaded
  split at hloaded
  · cases hload : Guest.load e.settings.values.consumeFuel e.settings.values.debugInfo
        (data.drop (Guest.Image.ofBytes serializedMagic).length) with
    | error detail =>
      rw [hload] at hloaded
      cases hloaded
    | ok program =>
      rw [hload] at hloaded
      cases hloaded
      exact ⟨rfl, rfl⟩
  · cases hloaded

theorem newInstance_issues {artifact : Artifact} (ha : .artifact artifact ∈ U) :
    Issues U (e.newInstance artifact) (optional .handle) := by
  refine (Host.record_issues e _).seq fun _ => ?_
  split
  · exact (setError_issues he _).seq fun _ => .pure (Set.empty_subset _)
  · refine (clearError_issues he).seq fun _ => ?_
    -- the handle is entered before the guest behind it is stored
    refine Issues.bind (.newSerial (fun n => .handle ⟨n, artifact⟩) (fun _ => rfl)
      (fun _ p hp => List.mem_singleton.mp hp ▸ ha) fun _ => trivial) fun h => ?_
    have hhandle : Object.handle ⟨(Host.newSerial.run h).1, artifact⟩ ∈
        U ∪ {.handle ⟨(Host.newSerial.run h).1, artifact⟩} := Or.inr rfl
    refine Issues.seq (.modify (fun _ _ ledger hused => ledger.setGuest (hused hhandle) _)
      fun _ => rfl) fun _ => ?_
    exact (Host.note_issues _).seq fun _ => .pure fun _ ho => Or.inr ho

theorem newInstanceFromBytes_issues (data : Guest.Image) :
    Issues U (e.newInstanceFromBytes data) (optional .handle) := by
  refine (compile_issues he data).bind fun h => ?_
  cases ((e.compile data).run h).1 with
  | none => exact .pure (Set.empty_subset _)
  | some artifact => exact newInstance_issues (Or.inl he) (Or.inr rfl)

omit [Guest.Runtime] in
theorem functionSignature_issues (handle : Handle) (name : String) :
    Issues U (e.functionSignature handle name) fun _ => ∅ := by
  refine (Host.record_issues e _).seq fun _ => ?_
  split
  · exact (clearError_issues he).seq fun _ => .pure (Set.empty_subset _)
  · split
    · exact (clearError_issues he).seq fun _ => .pure (Set.empty_subset _)
    · exact (setError_issues he _).seq fun _ => .pure (Set.empty_subset _)
  · exact (setError_issues he _).seq fun _ => .pure (Set.empty_subset _)

theorem invokeFunction_issues {handle : Handle} (hh : .handle handle ∈ U) (name : String)
    (values : List Value) :
    Issues U (e.invokeFunction handle name values).run fun _ => ∅ := by
  intro h K ledger hused
  have hinvokes := e.invokeFunction_invokes handle name values h
  change ∃ K', Grows h K ((e.invokeFunction handle name values).run.run h).2 K' ∧
    Ledger ((e.invokeFunction handle name values).run.run h).2 K' ∧ ∅ ⊆ K'
  generalize ((e.invokeFunction handle name values).run.run h).1 = result at hinvokes
  generalize ((e.invokeFunction handle name values).run.run h).2 = after at hinvokes ⊢
  -- each exit records the call, and then notes, stores or reports as its case says
  have hrecord {a : HostM Unit} (ha : Issues U a fun _ => ∅) : Issues U
      (do Host.record e .invokeFunction; a) fun _ => ∅ := (Host.record_issues e _).seq fun _ => ha
  have hnote {a : HostM Unit} (ha : Issues U a fun _ => ∅) : Issues U
      (do Host.note (.invoking name values); a) fun _ => ∅ := (Host.note_issues _).seq fun _ => ha
  have hguest {guest : Guest.State} {a : HostM Unit} (ha : Issues U a fun _ => ∅) : Issues U
      (do modify fun h => { h with guests := h.guests.set handle.serial guest }; a) fun _ => ∅ :=
    (Issues.modify (fun _ _ ledger hused => ledger.setGuest (hused hh) guest) fun _ => rfl).seq
      fun _ => ha
  cases hinvokes with
  | missing | mismatched => exact hrecord (setError_issues he _) h K ledger hused
  | wrongPayload | wrongValue => exact hrecord (Host.note_issues _) h K ledger hused
  | returned => exact hrecord (hnote (hguest (clearError_issues he))) h K ledger hused
  | trapped => exact hrecord (hnote (hguest (setError_issues he _))) h K ledger hused

omit [Guest.Runtime] in
theorem memoryBuffer_issues {handle : Handle} (hh : .handle handle ∈ U) :
    Issues U (e.memoryBuffer handle) (optional .view) := by
  refine (Host.record_issues e _).seq fun _ => (clearError_issues he).seq fun _ => ?_
  split
  · exact .pure (Set.empty_subset _)
  · next memory hmemory =>
    exact .new (fun _ => rfl) (fun _ => rfl) (fun _ p hp => List.mem_singleton.mp hp ▸ hh)
      fun _ => hmemory

theorem invoker_issues {handle : Handle} (hh : .handle handle ∈ U) {h₀ : Host} {K : Set Object}
    (hused : U ⊆ K) : e.invoker.Preserves handle (Issues.Extends h₀ K) where
  signature? name := Issues.iff_preserves.mp (functionSignature_issues he handle name) h₀ K hused
  lastError := fun _ extended => extended
  makeValue kind a := Issues.iff_preserves.mp
    (.of_touches ((e.makeValue_touches kind a).mono (by decide))) h₀ K hused
  invoke name values := Issues.iff_preserves.mp (invokeFunction_issues he hh name values) h₀ K hused
  noteFailure name diagnostic := Issues.iff_preserves.mp (Host.note_issues _) h₀ K hused

theorem call_issues {handle : Handle} (hh : .handle handle ∈ U) (name : String)
    (signature : Signature) (arguments : List HostValue) :
    Issues U (e.invoker.call handle name signature arguments).run fun _ => ∅ :=
  Issues.iff_preserves.mpr fun _ _ hused =>
    (invoker_issues he hh hused).call name signature arguments

theorem dispatch_issues {handle : Handle} (hh : .handle handle ∈ U) (name : String)
    (arguments : List HostValue) :
    Issues U (e.invoker.dispatch handle name arguments).run fun _ => ∅ :=
  Issues.iff_preserves.mpr fun _ _ hused => (invoker_issues he hh hused).dispatch name arguments

theorem resolve_issues (handle : Handle) (name : String) :
    Issues U (e.invoker.resolve handle name).run fun _ => ∅ :=
  Issues.iff_preserves.mpr fun h₀ K hused => Invoker.resolve_preserves
    (Issues.iff_preserves.mp (functionSignature_issues he handle name) h₀ K hused)
    fun _ extended => extended

end Engine

namespace Engine

variable (e : Engine)

theorem functionSignature_eq_some {handle : Handle} {name : String} {h : Host}
    {signature : Signature}
    (hs : ((e.functionSignature handle name).run h).1 = some signature) :
    ∃ f, handle.program.export? name = some (.function f) ∧ signatureOf? f = some signature := by
  unfold functionSignature at hs
  cases hexport : handle.program.export? name with
  | none =>
    rw [hexport] at hs
    cases hs
  | some item =>
    rw [hexport] at hs
    cases item with
    | function f =>
      dsimp only at hs
      cases hsignature : signatureOf? f with
      | none =>
        rw [hsignature] at hs
        cases hs
      | some found =>
        rw [hsignature] at hs
        cases hs
        exact ⟨f, rfl, hsignature⟩
    | _ => cases hs

section

variable [Guest.Runtime]

theorem resolve_eq_ok {handle : Handle} {name : String} {h : Host} {signature : Signature}
    (hs : ((e.invoker.resolve handle name).run.run h).1 = .ok signature) :
    ∃ f, handle.program.export? name = some (.function f) ∧ signatureOf? f = some signature := by
  rw [Invoker.resolve_run] at hs
  rcases hrun : (e.invoker.signature? handle name).run h with ⟨answer, h₁⟩
  rw [hrun] at hs
  cases answer with
  | some found =>
    cases hs
    exact e.functionSignature_eq_some (congrArg Prod.fst hrun)
  | none =>
    dsimp only at hs
    rcases hlast : e.invoker.lastError.run h₁ with ⟨diagnostic, h₂⟩
    -- a name that does not resolve fails, whatever diagnostic there is
    rw [hlast] at hs
    cases diagnostic <;> cases hs

theorem bind_eq_ok {handle : Handle} {name : String} {h : Host} {bound : BoundFunction Handle}
    (hb : ((BoundFunction.bind e.invoker handle name).run.run h).1 = .ok bound) :
    bound.handle = handle ∧ bound.name = name ∧
      ∃ f, bound.handle.program.export? bound.name = some (.function f) ∧
        signatureOf? f = some bound.signature := by
  unfold BoundFunction.bind at hb
  rw [Action.run_bind_pure] at hb
  cases hresolve : ((e.invoker.resolve handle name).run.run h).1 with
  | error failure =>
    rw [hresolve] at hb
    cases hb
  | ok signature =>
    rw [hresolve] at hb
    cases hb
    exact ⟨rfl, rfl, e.resolve_eq_ok hresolve⟩

theorem newInstance_artifact {artifact : Artifact} {h : Host} {handle : Handle}
    (hh : ((e.newInstance artifact).run h).1 = some handle) : handle.artifact = artifact := by
  unfold newInstance at hh
  cases hguest : Guest.instantiate artifact.compiled.program e.budget with
  | error diagnostic =>
    rw [hguest] at hh
    cases hh
  | ok guest =>
    rw [hguest] at hh
    cases hh
    rfl

end

theorem fetchBytes_issues (path : String) :
    Issues U (e.fetchBytes path).run (onOk fun _ => ∅) :=
  .action (.of_touches ((e.fetchBytes_touches path).mono (by decide)))

theorem memoryBuffer_answer (handle : Handle) (h : Host) :
    (((e.memoryBuffer handle).run h).1 = none → handle.program.exposedMemory? = none) ∧
      ∀ v, ((e.memoryBuffer handle).run h).1 = some v → v.handle = handle := by
  unfold memoryBuffer
  cases handle.program.exposedMemory? with
  | none => exact ⟨fun _ => rfl, fun _ hv => nomatch hv⟩
  | some memory =>
    refine ⟨fun hnone => absurd hnone (Option.some_ne_none _), fun v hv => ?_⟩
    cases hv
    rfl

theorem memoryBuffer_run_locks (handle : Handle) (h : Host) (locks : Cells Nat (Option Thread)) :
    (e.memoryBuffer handle).run { h with viewLocks := locks } =
      (((e.memoryBuffer handle).run h).1,
        { ((e.memoryBuffer handle).run h).2 with viewLocks := locks }) := by
  unfold memoryBuffer
  cases handle.program.exposedMemory? <;> rfl

theorem refusal_issues {α : Type} {given : α → Set Object} (fault : Option String → Fault) :
    Issues U (do Action.fail (fault (← e.lastError)) : HostAction α).run (onOk given) :=
  .action_seq (.action_lift (.of_touches fun _ _ same => same)) fun _ _ _ => .action_fail _

end Engine

namespace Host

theorem newSettings_issues (keywords : Keywords) :
    Issues U (newSettings keywords).run (onOk fun s => {.settings s}) := by
  refine Issues.action_get_bind fun h => ?_
  split
  · exact .action_fail _
  · exact .action_new (fun _ => rfl) (fun _ => rfl) (fun _ _ hp => absurd hp List.not_mem_nil)
      fun _ => trivial

theorem processSettings_issues :
    Issues U processSettings.run (onOk fun s => {.settings s}) := by
  refine Issues.action_get_bind fun h => ?_
  split
  · next s hs => exact .action_pure fun _ ho => Or.inr (ho ▸ .settings hs)
  -- settings that are made are entered, and the process holds them from then on
  · refine Issues.action_bind (newSettings_issues .empty) fun _ s _ => ?_
    refine Issues.action_seq (.modify (fun h K ledger hused => ?_) fun _ => rfl) fun _ _ _ =>
      .action_pure fun _ ho => Or.inr ho
    refine ledger.setProcess (fun s' hs' => ?_) (fun e he => ledger.held (.engine he))
      fun c hc => ledger.held (.cache hc)
    exact Option.some.inj hs' ▸ hused (Or.inr rfl)

theorem newEngine_issues {settings : Option SettingsObject}
    (hs : ∀ s, settings = some s → .settings s ∈ U) :
    Issues U (newEngine settings).run (onOk fun e => {.engine e}) := by
  have hnew {V : Set Object} {s : SettingsObject} (hs : .settings s ∈ V) :
      Issues V (do return ⟨← newSerial, s⟩ : HostAction Engine).run (onOk fun e => {.engine e}) :=
    .action_new (fun _ => rfl) (fun _ => rfl) (fun _ p hp => List.mem_singleton.mp hp ▸ hs)
      fun _ => trivial
  cases settings with
  | some s => exact hnew (hs s rfl)
  | none => exact Issues.action_bind processSettings_issues fun _ s _ => hnew (Or.inr rfl)

theorem processEngine_issues : Issues U processEngine.run (onOk fun e => {.engine e}) := by
  refine Issues.action_get_bind fun h => ?_
  split
  · next e he => exact .action_pure fun _ ho => Or.inr (ho ▸ .engine he)
  -- an engine is entered with the settings that it is over
  · refine Issues.action_bind (newEngine_issues fun _ hs => nomatch hs) fun _ e _ => ?_
    refine Issues.action_seq (.modify (fun h K ledger hused => ?_) fun _ => rfl) fun _ _ _ =>
      .action_pure fun _ ho => Or.inr ho
    refine ledger.setProcess (fun s hs => ledger.held (.settings hs)) (fun e' he => ?_)
      fun c hc => ledger.held (.cache hc)
    exact Option.some.inj he ▸ hused (Or.inr rfl)

theorem engineOr_issues {engine : Option Engine} (he : ∀ e, engine = some e → .engine e ∈ U) :
    Issues U (engineOr engine).run (onOk fun e => {.engine e}) := by
  cases engine with
  | some e => exact .action_pure fun _ ho => ho ▸ he e rfl
  | none => exact processEngine_issues

theorem newCache_issues {engine : Option Engine} (he : ∀ e, engine = some e → .engine e ∈ U) :
    Issues U (newCache engine).run (onOk fun c => {.cache c}) :=
  Issues.action_bind (engineOr_issues he) fun _ _ _ => .action_new (fun _ => rfl) (fun _ => rfl)
    (fun _ _ hp => List.mem_singleton.mp hp ▸ Or.inr rfl) fun _ => trivial

theorem processCache_issues : Issues U processCache.run (onOk fun c => {.cache c}) := by
  refine Issues.action_get_bind fun h => ?_
  split
  · next c hc => exact .action_pure fun _ ho => Or.inr (ho ▸ .cache hc)
  · refine Issues.action_bind (newCache_issues fun _ he => nomatch he) fun _ c _ => ?_
    refine Issues.action_seq (.modify (fun h K ledger hused => ?_) fun _ => rfl) fun _ _ _ =>
      .action_pure fun _ ho => Or.inr ho
    refine ledger.setProcess (fun s hs => ledger.held (.settings hs))
      (fun e he => ledger.held (.engine he)) fun c' hc => ?_
    exact Option.some.inj hc ▸ hused (Or.inr rfl)

theorem cacheOr_issues {cache : Option ModuleCache} (hc : ∀ c, cache = some c → .cache c ∈ U) :
    Issues U (cacheOr cache).run (onOk fun c => {.cache c}) := by
  cases cache with
  | some c => exact .action_pure fun _ ho => ho ▸ hc c rfl
  | none => exact processCache_issues

theorem resetSettings_issues : Issues U resetSettings fun _ => ∅ :=
  .modify (fun _ _ ledger _ => ledger.setProcess (fun _ hs => nomatch hs)
    (fun _ he => ledger.held (.engine he)) fun _ hc => ledger.held (.cache hc)) fun _ => rfl

end Host

variable [Guest.Runtime]

namespace ModuleCache

variable {c : ModuleCache}

theorem build_issues (he : .engine c.engine ∈ U) (data : Guest.Image)
    (identifier : Option String) :
    Issues U (c.build data identifier).run (onOk fun m => {.compiled m}) := by
  refine Issues.action_bind (.action_lift (Engine.compile_issues he data)) fun _ compiled hrun => ?_
  cases compiled with
  | none => exact c.engine.refusal_issues _
  | some artifact =>
    -- the parts of a module are its engine and its artifact, both of which are entered
    refine .action_new (fun _ => rfl) (fun _ => rfl) (fun _ p hp => ?_)
      fun _ => Engine.compile_fits (Except.ok.inj hrun)
    simp only [Object.parts, List.mem_cons, List.not_mem_nil, or_false] at hp
    rcases hp with rfl | rfl
    · exact Or.inl he
    · exact Or.inr rfl

theorem build_eq_ok {data : Guest.Image} {identifier : Option String} {h : Host}
    {m : CompiledModule} (hm : ((c.build data identifier).run.run h).1 = .ok m) :
    m.engine = c.engine ∧ m.identifier = identifier := by
  unfold build at hm
  rw [Action.run_lift_bind] at hm
  cases hcompiled : ((c.engine.compile data).run h).1 with
  | none =>
    rw [hcompiled] at hm
    cases hm
  | some artifact =>
    rw [hcompiled] at hm
    cases hm
    exact ⟨rfl, rfl⟩

omit [Guest.Runtime] in
theorem insert_issues (hc : .cache c ∈ U) {m : CompiledModule} {key : String}
    (hm : .compiled m ∈ U) (he : m.engine = c.engine) (hk : m.identifier = some key) :
    Issues U (c.insert key m) fun _ => ∅ := by
  refine .modify (fun h K ledger hused => ?_) fun _ => rfl
  refine ledger.setCached (hused hc) (fun key' m' hentry => ?_) ?_
  -- an entry that stays was there before; only one cache has this serial number
  · rcases List.mem_append.mp hentry with hold | hnew
    · have hold' : (key', m') ∈ h.cached.get c.serial := List.mem_of_mem_filter hold
      obtain ⟨c', hc', hserial, hrest⟩ := ledger.cached hold'
      obtain rfl := Object.cache.inj (ledger.distinct hc' (hused hc) hserial)
      exact ⟨ledger.held (.cached hold'), hrest⟩
    · cases List.mem_singleton.mp hnew
      exact ⟨hused hm, he, hk⟩
  -- the other keys stay different, and the new key is none of them
  · have hkeys := ledger.keys c.serial
    rw [List.map_append, List.nodup_append]
    refine ⟨(List.filter_sublist.map _).nodup hkeys, List.pairwise_singleton _ _, ?_⟩
    intro a ha b hb
    obtain ⟨entry, hentry, rfl⟩ := List.mem_map.mp ha
    rw [List.mem_singleton.mp hb]
    exact of_decide_eq_true (List.mem_filter.mp hentry).2

omit [Guest.Runtime] in
theorem get?_issues (c : ModuleCache) (key : String) :
    Issues U (c.get? key) (optional .compiled) := by
  refine Issues.get_bind fun h => .pure ?_
  cases hfound : (c.entries h).lookup key with
  | none => exact Set.empty_subset _
  | some m => exact fun _ ho => Or.inr (ho ▸ .cached (mem_of_lookup_eq_some hfound))

theorem compile_issues (hc : .cache c ∈ U) (data : Guest.Image) (identifier : Option String) :
    Issues U (c.compile data identifier).run (onOk fun m => {.compiled m}) := by
  refine .of_comprises ?_
  have hcache : Comprises U (.cache c) := .self hc
  have hengine : Comprises U (.engine c.engine) := hcache.part (List.mem_singleton.mpr rfl)
  cases identifier with
  | none => exact build_issues hengine data none
  | some key =>
    -- what is found is held by the state, and what is built is entered and inserted
    refine Issues.action_bind (M := optional .compiled) (.action_lift ?_) fun _ found _ => ?_
    · exact c.get?_issues key
    · cases found with
      | some m =>
        exact .action_seq (.action_lift (Host.note_issues _)) fun _ _ _ =>
          .action_pure fun _ ho => Or.inr ho
      | none =>
        refine Issues.action_bind (build_issues (Or.inl hengine) data (some key)) fun _ m hm => ?_
        obtain ⟨he, hk⟩ := build_eq_ok hm
        -- it is inserted under the identifier that it was built with
        exact .action_seq (.action_lift (insert_issues (Or.inl (Or.inl hcache)) (Or.inr rfl) he hk))
          fun _ _ _ => .action_pure fun _ ho => Or.inr ho

omit [Guest.Runtime] in
theorem clear_issues (hc : .cache c ∈ U) : Issues U c.clear fun _ => ∅ := by
  refine Issues.get_bind fun _ => Issues.seq (.modify (fun h K ledger hused => ?_) fun _ => rfl)
    fun _ => Host.note_issues _
  exact ledger.setCached (hused (Or.inl hc)) (fun _ _ hm => absurd hm List.not_mem_nil)
    List.nodup_nil

end ModuleCache

namespace CompiledModule

theorem compile_issues {cache : Option ModuleCache} (hc : ∀ c, cache = some c → .cache c ∈ U)
    (data : Guest.Image) (identifier : Option String) :
    Issues U (compile data identifier cache).run (onOk fun m => {.compiled m}) :=
  Issues.action_bind (Host.cacheOr_issues hc) fun _ _ _ =>
    ModuleCache.compile_issues (Or.inr rfl) data identifier

theorem ofFile_issues {cache : Option ModuleCache} (hc : ∀ c, cache = some c → .cache c ∈ U)
    (path : String) (identifier : Option String) :
    Issues U (ofFile path identifier cache).run (onOk fun m => {.compiled m}) := by
  refine Issues.action_bind (Host.cacheOr_issues hc) fun _ c _ => ?_
  refine Issues.action_bind (M := optional .compiled) (.action_lift ?_) fun _ found _ => ?_
  -- without an identifier nothing is looked up
  · cases identifier with
    | none => exact .pure (Set.empty_subset _)
    | some key => exact c.get?_issues key
  · cases found with
    | some m => exact .action_pure fun _ ho => Or.inr ho
    | none =>
      exact Issues.action_seq (c.engine.fetchBytes_issues path) fun _ data _ =>
        ModuleCache.compile_issues (Or.inl (Or.inr rfl)) data identifier

theorem validate_issues {engine : Option Engine} (he : ∀ e, engine = some e → .engine e ∈ U)
    (data : Guest.Image) (strict : Bool) :
    Issues U (validate data strict engine).run (onOk fun _ => ∅) := by
  refine Issues.action_bind (Host.engineOr_issues he) fun _ e _ => ?_
  refine Issues.action_seq (.action_lift (Engine.validate_issues (Or.inr rfl) data))
    fun _ valid _ => ?_
  split
  · exact e.refusal_issues _
  · exact .action_pure (Set.empty_subset _)

theorem serialize_issues {m : CompiledModule} (he : .engine m.engine ∈ U) :
    Issues U m.serialize.run (onOk fun _ => ∅) := by
  refine Issues.action_seq (.action_lift (Engine.serialize_issues he m.artifact))
    fun _ data _ => ?_
  cases data with
  | some data => exact .action_pure (Set.empty_subset _)
  | none => exact m.engine.refusal_issues _

theorem deserialize_issues {engine : Option Engine} (he : ∀ e, engine = some e → .engine e ∈ U)
    (data : Guest.Image) :
    Issues U (deserialize data engine).run (onOk fun m => {.compiled m}) := by
  refine Issues.action_bind (Host.engineOr_issues he) fun _ e _ => ?_
  refine Issues.action_bind (.action_lift (Engine.deserialize_issues (Or.inr rfl) data))
    fun _ artifact hrun => ?_
  cases artifact with
  | some artifact =>
    refine .action_new (fun _ => rfl) (fun _ => rfl) (fun _ p hp => ?_)
      fun _ => Engine.deserialize_fits (Except.ok.inj hrun)
    simp only [Object.parts, List.mem_cons, List.not_mem_nil, or_false] at hp
    rcases hp with rfl | rfl
    · exact Or.inl (Or.inr rfl)
    -- the instance runs the program of the handle that it is over
    · exact Or.inr rfl
  | none => exact e.refusal_issues _

theorem newInstance_issues {m : CompiledModule} (hm : .compiled m ∈ U) :
    Issues U m.newInstance.run (onOk fun i => {.running i}) := by
  refine .of_comprises ?_
  have hcompiled : Comprises U (.compiled m) := .self hm
  have hengine : Comprises U (.engine m.engine) := hcompiled.part List.mem_cons_self
  have hartifact : Comprises U (.artifact m.artifact) :=
    hcompiled.part (List.mem_cons_of_mem _ List.mem_cons_self)
  refine Issues.action_bind (.action_lift (Engine.newInstance_issues hengine hartifact))
    fun h handle hrun => ?_
  cases handle with
  | some handle =>
    refine .action_new (fun _ => rfl) (fun _ => rfl) (fun _ p hp => ?_) fun _ => ⟨rfl, ?_⟩
    -- an instance has an engine, a handle and a module
    · simp only [Object.parts, List.mem_cons, List.not_mem_nil, or_false] at hp
      rcases hp with rfl | rfl | rfl
      · exact Or.inl hengine
      · exact Or.inr rfl
      · exact Or.inl hcompiled
    · exact (m.engine.newInstance_artifact (Except.ok.inj hrun)).symm
  | none => exact m.engine.refusal_issues _

end CompiledModule

namespace Instance

theorem build_issues {e : Engine} (he : .engine e ∈ U) (data : Guest.Image) (headline : String) :
    Issues U (build e data headline).run (onOk fun i => {.running i}) := by
  -- the artifact, the handle and the module are entered one after the other
  refine Issues.action_bind (.action_lift (Engine.compile_issues he data))
    fun _ artifact hcompiled => ?_
  cases artifact with
  | none => exact e.refusal_issues _
  | some artifact =>
    refine Issues.action_bind (.action_lift (Engine.newInstance_issues (Or.inl he) (Or.inr rfl)))
      fun h handle hrun => ?_
    cases handle with
    | none => exact e.refusal_issues _
    | some handle =>
      refine Issues.action_bind (.action_lift (Issues.newSerial
        (fun n => .compiled ⟨n, e, artifact, none⟩) (fun _ => rfl) (fun _ p hp => ?_)
        fun _ => Engine.compile_fits (Except.ok.inj hcompiled))) fun _ n _ => ?_
      · simp only [Object.parts, List.mem_cons, List.not_mem_nil, or_false] at hp
        rcases hp with rfl | rfl
        · exact Or.inl (Or.inl he)
        · exact Or.inl (Or.inr rfl)
      · refine .action_new (fun _ => rfl) (fun _ => rfl) (fun _ p hp => ?_) fun _ => ⟨rfl, ?_⟩
        · simp only [Object.parts, List.mem_cons, List.not_mem_nil, or_false] at hp
          rcases hp with rfl | rfl | rfl
          · exact Or.inl (Or.inl (Or.inl he))
          · exact Or.inl (Or.inr rfl)
          · exact Or.inr rfl
        · exact (e.newInstance_artifact (Except.ok.inj hrun)).symm

theorem ofFile_issues {engine : Option Engine} (he : ∀ e, engine = some e → .engine e ∈ U)
    (path : String) : Issues U (ofFile path engine).run (onOk fun i => {.running i}) := by
  refine Issues.action_bind (Host.engineOr_issues he) fun _ e _ => ?_
  exact Issues.action_seq (e.fetchBytes_issues path) fun _ data _ =>
    build_issues (Or.inr rfl) data _

theorem ofBytes_issues {engine : Option Engine} (he : ∀ e, engine = some e → .engine e ∈ U)
    (data : Guest.Image) : Issues U (ofBytes data engine).run (onOk fun i => {.running i}) :=
  Issues.action_bind (Host.engineOr_issues he) fun _ _ _ => build_issues (Or.inr rfl) data _

theorem function_issues {i : Instance} (hi : .running i ∈ U) (name : String) :
    Issues U (i.function name).run (onOk fun f => {.function f}) := by
  refine .of_comprises ?_
  have hinstance : Comprises U (.running i) := .self hi
  have hengine : Comprises U (.engine i.engine) := hinstance.part List.mem_cons_self
  have hhandle : Comprises U (.handle i.handle) :=
    hinstance.part (List.mem_cons_of_mem _ List.mem_cons_self)
  refine Issues.action_get_bind fun h => ?_
  split
  -- a callable that was handed out before is held by the state, so the ledger has it
  · next f hf => exact .action_pure fun _ ho => Or.inr (ho ▸ .wrapper (mem_of_lookup_eq_some hf))
  -- a new one is entered first and remembered then
  · refine Issues.action_seq (.action_seq (.action ?_) fun _ _ _ => .action_pure
      (Set.empty_subset _)) fun h' bound hbound => ?_
    · exact i.engine.resolve_issues (Or.inl hengine) i.handle name
    obtain ⟨hb, hn, hsound⟩ := i.engine.bind_eq_ok hbound
    refine Issues.action_bind (.action_lift (Issues.newSerial
      (fun n => .function ⟨n, i.engine, bound⟩) (fun _ => rfl) (fun _ p hp => ?_)
      fun _ => hsound)) fun _ n _ => ?_
    -- the parts of a callable are its engine and the handle that it is bound to
    · simp only [Object.parts, List.mem_cons, List.not_mem_nil, or_false] at hp
      rcases hp with rfl | rfl
      · exact Or.inl hengine
      · exact hb ▸ Or.inl hhandle
    · refine Issues.action_seq (.modify (fun h K ledger hused => ?_) fun _ => rfl) fun _ _ _ =>
        .action_pure fun _ ho => Or.inr ho
      -- it is remembered by its instance under the name that it was bound to
      have hremember := ledger.remember (hused (Or.inl (Or.inl hinstance)))
        (f := ⟨n, i.engine, bound⟩) (hused (Or.inr rfl)) rfl hb
      rw [hn] at hremember
      exact hremember

/-- The object that an attribute of a namespace is. -/
def attributeObject (i : Instance) : Attribute → Set Object
  | .exported f => {.function f}
  | .owner => {.running i}
  | .ownMember _ => ∅

theorem attributeOf_issues {i : Instance} (hi : .running i ∈ U) (name : String) :
    Issues U (i.attributeOf name).run (onOk i.attributeObject) := by
  unfold attributeOf
  split
  · exact .action_pure fun _ ho => ho ▸ hi
  split
  · exact .action_pure (Set.empty_subset _)
  split
  · exact .action_fail _
  -- what fails here is shown as another fault, which issues nothing
  · refine Issues.bind (function_issues hi (i.exportName name)) fun h => ?_
    cases (StateT.run (i.function (i.exportName name)).run h).1 with
    | ok f => exact .pure fun _ ho => Or.inr ho
    | error failure =>
      dsimp only
      split <;> exact .pure (Set.empty_subset _)

theorem hasAttribute_issues {i : Instance} (hi : .running i ∈ U) (name : String) :
    Issues U (i.hasAttribute name) fun _ => ∅ := by
  refine Issues.bind (attributeOf_issues hi name) fun h => ?_
  cases (StateT.run (i.attributeOf name).run h).1 <;> exact .pure (Set.empty_subset _)

theorem itemOf_issues {i : Instance} (hi : .running i ∈ U) (name : String) :
    Issues U (i.itemOf name).run (onOk fun f => {.function f}) := by
  refine Issues.bind (function_issues hi name) fun h => ?_
  cases (StateT.run (i.function name).run h).1 with
  | ok f => exact .pure fun _ ho => Or.inr ho
  | error failure =>
    dsimp only
    split <;> exact .pure (Set.empty_subset _)

theorem call_issues {i : Instance} (hi : .running i ∈ U) (name : String)
    (arguments : List HostValue) : Issues U (i.call name arguments).run (onOk fun _ => ∅) := by
  refine .of_comprises (.action ?_)
  have hinstance : Comprises U (.running i) := .self hi
  exact Engine.dispatch_issues (hinstance.part List.mem_cons_self)
    (hinstance.part (List.mem_cons_of_mem _ List.mem_cons_self)) name arguments

omit [Guest.Runtime] in
theorem memoryBuffer_issues {i : Instance} (hi : .running i ∈ U) :
    Issues U i.memoryBuffer (optional .view) := by
  intro h K ledger hused
  cases hslot : i.viewSlot h with
  -- a view that is held is known; otherwise the engine makes one
  | holds view =>
    rw [memoryBuffer_run_of_holds hslot]
    refine ⟨K, .refl K rfl, ledger, fun o ho => ?_⟩
    cases view with
    | none => exact absurd ho (Set.notMem_empty o)
    | some v => exact ho ▸ ledger.held (.view hslot)
  | unset =>
    -- between operations no lock is held, so the phases run through
    rw [memoryBuffer_run_of_unset hslot (ledger.unlocked i.serial), lockedFor,
      Engine.memoryBuffer_run_locks]
    have hinstance : Comprises U (.running i) := .self hi
    obtain ⟨K', grows, ledger', hgiven⟩ := Engine.memoryBuffer_issues (U := {o | Comprises U o})
      (hinstance.part List.mem_cons_self)
      (hinstance.part (List.mem_cons_of_mem _ List.mem_cons_self)) h K ledger
      fun _ ho => ledger.comprises hused ho
    obtain ⟨hnone, hsome⟩ := i.engine.memoryBuffer_answer i.handle h
    refine ⟨K', grows.trans (.refl K' rfl), ?_, hgiven⟩
    -- the slot is filled with what the engine has answered, and the lock is free again
    refine Ledger.setViewLocks (Ledger.setView ledger' (grows.kept (hused hi)) hnone
      fun v hv => ⟨hgiven (hv ▸ rfl), hsome v hv⟩) fun n => ?_
    dsimp only
    rw [Cells.get_set, Cells.get_set]
    by_cases hn : n = i.serial
    · rw [if_pos hn]
    · rw [if_neg hn, if_neg hn, ledger.unlocked]

end Instance

theorem ExportedFunction.apply_issues {f : ExportedFunction} (hf : .function f ∈ U)
    (arguments : List HostValue) : Issues U (f.apply arguments).run (onOk fun _ => ∅) := by
  refine .of_comprises (.action ?_)
  have hfunction : Comprises U (.function f) := .self hf
  exact Engine.call_issues (hfunction.part List.mem_cons_self)
    (hfunction.part (List.mem_cons_of_mem _ List.mem_cons_self)) f.bound.name f.bound.signature
    arguments

end WasmHost
