import WasmHost.Proofs.Routes
/-!
Serialized modules.

A serialized module is the magic octets followed by its native form. What loads native forms is not
part of the host: any loader may be put in its place, and watched for the bytes that it is handed.
It is handed everything behind the magic octets, once, and nothing when these are missing. If the
runtime takes back its own native forms, a module is restored from its serialized form wherever
there is its engine.
-/
namespace WasmHost

open Guest (Image Compiled)

/-- What loads native forms into an engine. -/
abbrev NativeLoader := Engine → Image → Except String Compiled

/-- The loader of the engines here: the runtime loads what fits their settings. -/
def NativeLoader.own [Guest.Runtime] : NativeLoader := fun e payload =>
  let settings := e.settings.values
  (Guest.load settings.consumeFuel settings.debugInfo payload).map fun program =>
    ⟨program, settings.consumeFuel, settings.debugInfo⟩

/-- A runtime takes back its own native forms, under the settings that they are made for. -/
def Guest.Restoring [Guest.Runtime] : Prop :=
  ∀ c : Compiled, Guest.load c.consumeFuel c.debugInfo (Guest.native c) = .ok c.program

theorem Guest.Machine.restoring : @Guest.Restoring Guest.machine := by
  intro c
  change Guest.Machine.load c.consumeFuel c.debugInfo (Guest.Machine.native c) = _
  unfold Guest.Machine.load
  rw [Guest.Machine.compiled?_native]
  simp

/-- A state beside which the bytes are listed that a loader has been handed. -/
abbrev Watched (α : Type) := StateM (Host × List Image) α

/-- Hands bytes to a loader, and lists them. -/
def NativeLoader.hand (load : NativeLoader) (e : Engine) (payload : Image) :
    Watched (Except String Compiled) := do
  modify fun (h, handed) => (h, handed ++ [payload])
  return load e payload

/-- Loads a serialized module by any loader. -/
def Engine.deserializeBy (load : NativeLoader) (e : Engine) (data : Image) :
    Watched (Option Artifact) := do
  let magic := Image.ofBytes serializedMagic
  if magic.isPrefixOf data then
    match ← load.hand e (data.drop magic.length) with
    | .error detail =>
      besides (e.setError (deserializeFailed ++ "\n" ++ detail))
      return none
    | .ok compiled =>
      besides e.clearError
      return some ⟨← besides Host.newSerial, compiled⟩
  else
    besides (e.setError deserializeFailed)
    return none

/-- The module of a serialized form that is loaded by any loader. -/
def CompiledModule.deserializeBy (load : NativeLoader) (data : Image) (engine : Option Engine) :
    Action (Host × List Image) CompiledModule := do
  let engine ← (Host.engineOr engine).besides
  match ← engine.deserializeBy load data with
  | some artifact => return ⟨← (besides Host.newSerial : Watched Nat), engine, artifact, none⟩
  | none =>
    let diagnostic ← (besides engine.lastError : Watched (Option String))
    Action.fail (.engine .deserialize "Cannot load the serialized module:" diagnostic)

/-- The parts of the state that deserialization touches. -/
def deserializeParts : List HostPart := [.nextSerial, .diagnostics, .notices, .settings, .engine]

theorem Preserves.besides {α τ : Type} {parts : List HostPart} {a : HostM α}
    (touches : Touches parts a) (h : Host) :
    Preserves (fun s : Host × τ => Host.SameBut parts h s.1) (WasmHost.besides a) :=
  fun s keeps => touches h s.1 keeps

/-- Bytes do not begin with the magic octets if they differ from them in one place: when they break
off before it, or have another octet there, like another version in the last. -/
theorem not_magic_prefix {data : Image} {k : Nat} (hk : k < serializedMagic.length)
    (hne : data[k]? ≠ (Image.ofBytes serializedMagic)[k]?) :
    ¬Image.ofBytes serializedMagic <+: data := by
  rintro ⟨rest, rfl⟩
  apply hne
  exact List.getElem?_append_left (by simpa [Image.ofBytes] using hk)

namespace Engine

variable (load : NativeLoader) (e : Engine) {data payload : Image} (h : Host) (handed : List Image)

theorem deserializeBy_malformed (hmagic : ¬Image.ofBytes serializedMagic <+: data) :
    (e.deserializeBy load data).run (h, handed) =
      (none, ((e.setError deserializeFailed).run h).2, handed) := by
  have hprefix : ¬(Image.ofBytes serializedMagic).isPrefixOf data = true :=
    fun hp => hmagic (List.isPrefixOf_iff_prefix.mp hp)
  unfold deserializeBy
  dsimp only
  rw [if_neg hprefix]
  rfl

theorem deserializeBy_framed :
    (e.deserializeBy load (Image.ofBytes serializedMagic ++ payload)).run (h, handed) =
      match load e payload with
      | .error detail =>
        (none, ((e.setError (deserializeFailed ++ "\n" ++ detail)).run h).2, handed ++ [payload])
      | .ok compiled =>
        let h₁ := (e.clearError.run h).2
        (some ⟨(Host.newSerial.run h₁).1, compiled⟩, (Host.newSerial.run h₁).2,
          handed ++ [payload]) := by
  have hprefix : (Image.ofBytes serializedMagic).isPrefixOf
      (Image.ofBytes serializedMagic ++ payload) = true :=
    List.isPrefixOf_iff_prefix.mpr (List.prefix_append _ _)
  unfold deserializeBy
  dsimp only
  rw [if_pos hprefix, List.drop_left, stateM_run_bind]
  change (match load e payload with | .error detail => _ | .ok compiled => _ : Watched _).run _ = _
  cases load e payload with
  | error detail => rfl
  | ok compiled => rfl

section

variable [Platform]

theorem deserializeBy_own (data : Image) :
    ((e.deserializeBy .own data).run (h, handed)).1 = ((e.deserialize data).run h).1 ∧
      ((e.deserializeBy .own data).run (h, handed)).2.1 = ((e.deserialize data).run h).2 := by
  -- with the magic octets the loader is asked for what is behind them, and without them nothing is
  by_cases hmagic : Image.ofBytes serializedMagic <+: data
  · have hprefix := List.isPrefixOf_iff_prefix.mpr hmagic
    obtain ⟨payload, rfl⟩ := hmagic
    rw [deserializeBy_framed, deserialize]
    dsimp only [NativeLoader.own]
    rw [if_pos hprefix, List.drop_left]
    cases Guest.load e.settings.values.consumeFuel e.settings.values.debugInfo payload with
    | error detail => exact ⟨rfl, rfl⟩
    | ok compiled => exact ⟨rfl, rfl⟩
  · have hprefix := fun hp => hmagic (List.isPrefixOf_iff_prefix.mp hp)
    rw [deserializeBy_malformed .own e h handed hmagic, deserialize]
    dsimp only
    rw [if_neg hprefix]
    exact ⟨rfl, rfl⟩

end

theorem deserializeBy_preserves (data : Image) :
    Preserves (fun s => Host.SameBut deserializeParts h s.1) (e.deserializeBy load data) := by
  -- a refusal records its diagnostic and gives no artifact
  have hfailed (diagnostic : String) : Preserves (fun s => Host.SameBut deserializeParts h s.1) (do
      besides (e.setError diagnostic); return none : Watched (Option Artifact)) :=
    .bind (.besides ((e.setError_touches diagnostic).mono (by decide)) h) fun _ => .pure _
  unfold deserializeBy
  dsimp only
  split
  · refine .bind (a := load.hand e _) (fun _ keeps => keeps) fun verdict => ?_
    cases verdict with
    | error detail => exact hfailed _
    | ok compiled =>
      refine .bind (.besides (e.clearError_touches.mono (by decide)) h) fun _ => ?_
      exact .bind (.besides (Host.newSerial_touches.mono (by decide)) h) fun _ => .pure _
  · exact hfailed _

theorem diagnosticOn_setError (diagnostic : String) :
    e.diagnosticOn ((e.setError diagnostic).run h).2 h.thread = some diagnostic :=
  Cells.get_set_self ..

theorem watched_refusal_run (fault : Option String → Fault) {α : Type} (diagnostic : String) :
    (do Action.fail (fault (← (besides e.lastError : Watched (Option String)))) :
      Action (Host × List Image) α).run.run (((e.setError diagnostic).run h).2, handed) =
        (.error ⟨fault (some diagnostic), none⟩, ((e.setError diagnostic).run h).2, handed) := by
  have told := Engine.refusal_run (α := α) e fault (e.diagnosticOn_setError h diagnostic)
  have hrun : ∀ h', (do Action.fail (fault (← (besides e.lastError : Watched (Option String)))) :
      Action (Host × List Image) α).run.run (h', handed) =
        (((do Action.fail (fault (← e.lastError)) : HostAction α).run.run h').1,
          ((do Action.fail (fault (← e.lastError)) : HostAction α).run.run h').2, handed) :=
    fun _ => rfl
  rw [hrun]
  exact congrArg (fun r => (r.1, r.2, handed)) told

theorem diagnosticOn_clearError : e.diagnosticOn (e.clearError.run h).2 h.thread = none :=
  Cells.get_set_self ..

end Engine

/-- How bytes are deserialized on an engine by a loader: what is given or raised, the diagnostic
that is left, and the bytes that the loader is handed. -/
structure Engine.Deserializes (load : NativeLoader) (e : Engine) (data : Image)
    (result : Except Failure CompiledModule) (diagnostic : Option String) (handed : List Image) :
    Prop where
  malformed (hmagic : ¬Image.ofBytes serializedMagic <+: data) :
    result = .error ⟨.engine .deserialize "Cannot load the serialized module:"
      (some "Failed to deserialize the module"), none⟩ ∧
      diagnostic = some "Failed to deserialize the module" ∧ handed = []
  rejected (payload : Image) (detail : String)
    (hdata : data = Image.ofBytes serializedMagic ++ payload)
    (hload : load e payload = .error detail) :
    result = .error ⟨.engine .deserialize "Cannot load the serialized module:"
      (some ("Failed to deserialize the module" ++ "\n" ++ detail)), none⟩ ∧
      diagnostic = some ("Failed to deserialize the module" ++ "\n" ++ detail) ∧
      handed = [payload]
  loaded (payload : Image) (compiled : Compiled)
    (hdata : data = Image.ofBytes serializedMagic ++ payload)
    (hload : load e payload = .ok compiled) :
    (∃ m, result = .ok m ∧ m.engine = e ∧ m.artifact.compiled = compiled ∧ m.identifier = none) ∧
      diagnostic = none ∧ handed = [payload]

namespace CompiledModule

variable (load : NativeLoader) (data : Image) (engine : Option Engine)

theorem deserializeBy_deserializes {h h₁ : Host} {e : Engine}
    (hengine : (Host.engineOr engine).run.run h = (.ok e, h₁)) :
    e.Deserializes load data ((deserializeBy load data engine).run.run (h, [])).1
      (e.diagnosticOn ((deserializeBy load data engine).run.run (h, [])).2.1 h.thread)
      ((deserializeBy load data engine).run.run (h, [])).2.2 := by
  -- finding an engine does not change the thread
  have hthread : h₁.thread = h.thread := by
    have same := (Host.engineOr_touches engine).run h
    rw [hengine] at same
    exact same.same .thread (by decide)
  have hfound :
      (Host.engineOr engine).besides.run.run (h, ([] : List Image)) = (.ok e, h₁, []) := by
    change (((Host.engineOr engine).run.run h).1, ((Host.engineOr engine).run.run h).2, []) = _
    rw [hengine]
  unfold deserializeBy
  -- the engine has been found, and what is left is what it makes of the bytes
  rw [Action.run_bind_ok hfound, Action.run_lift_bind, ← hthread]
  constructor
  case malformed =>
    intro hmagic
    rw [e.deserializeBy_malformed load h₁ [] hmagic]
    dsimp only
    rw [e.watched_refusal_run]
    exact ⟨rfl, e.diagnosticOn_setError h₁ _, rfl⟩
  case rejected =>
    rintro payload detail rfl hload
    rw [e.deserializeBy_framed load h₁ [], hload]
    dsimp only
    rw [e.watched_refusal_run]
    exact ⟨rfl, e.diagnosticOn_setError h₁ _, rfl⟩
  case loaded =>
    rintro payload compiled rfl hload
    rw [e.deserializeBy_framed load h₁ [], hload]
    exact ⟨⟨_, rfl, rfl, rfl, rfl⟩, e.diagnosticOn_clearError h₁, rfl⟩

theorem deserializeBy_sameBut (h : Host) (handed : List Image) :
    Host.SameBut deserializeParts h ((deserializeBy load data engine).run.run (h, handed)).2.1 := by
  have hwhole : Preserves (fun s : Host × List Image => Host.SameBut deserializeParts h s.1)
      (deserializeBy load data engine).run := by
    refine .action_bind (a := (Host.engineOr engine).besides) ?_ fun e => ?_
    · exact .besides ((Host.engineOr_touches engine).mono (by decide)) h
    refine .action_bind (.action_lift (e.deserializeBy_preserves load h data)) fun artifact => ?_
    cases artifact with
    | none => exact .action_bind (.action_lift fun _ keeps => keeps) fun _ => .action_fail _
    | some artifact =>
      refine .action_bind (.action_lift ?_) fun _ => .action_pure _
      exact .besides (Host.newSerial_touches.mono (by decide)) h
  exact hwhole (h, handed) (.refl _ h)

variable [Platform]

theorem deserializeBy_mirrors :
    Mirrors (deserializeBy .own data engine) (deserialize data engine) := by
  apply Mirrors.bind (a := (Host.engineOr engine).besides) (b := Host.engineOr engine)
  · exact fun _ _ => ⟨rfl, rfl⟩
  intro e
  apply Mirrors.bind (a := (liftM (e.deserializeBy .own data) : Action _ _))
    (b := liftM (e.deserialize data))
  · exact fun h handed => ⟨congrArg Except.ok (e.deserializeBy_own h handed data).1,
      (e.deserializeBy_own h handed data).2⟩
  intro artifact
  cases artifact with
  | none => exact (Mirrors.lift _).bind fun _ => .fail _
  | some artifact => exact (Mirrors.lift _).bind fun _ => .pure _

/-- The serialized form of a module: the magic octets and then its native form. -/
def serialized (m : CompiledModule) : Image :=
  Image.ofBytes serializedMagic ++ Guest.native m.artifact.compiled

theorem serialize_outcome (m : CompiledModule) (thread : Thread) (h : Host) :
    (Operation.serialize m).outcome thread h = match h.serializeFault with
      | none => .ok (.bytes m.serialized)
      | some diagnostic =>
        .error ⟨.engine .serialize "Failed to serialize the module:" (some diagnostic), none⟩ := by
  have hperform : (Operation.serialize m).perform = do return .bytes (← m.serialize) := rfl
  rw [Operation.outcome_of_perform hperform, serialize, Action.run_lift_bind, Engine.serialize,
    stateM_run_get]
  have hfault : (h.onThread thread).serializeFault = h.serializeFault := rfl
  rw [hfault]
  -- a fault of serializing is what the failure tells
  cases h.serializeFault with
  | none => rfl
  | some diagnostic =>
    have told := m.engine.diagnosticOn_setError (h.onThread thread) diagnostic
    have hfailed := Engine.refusal_run (α := Image) m.engine
      (.engine .serialize "Failed to serialize the module:") told
    exact congrArg (fun r => r.1.map Answer.bytes) hfailed

end CompiledModule

section

variable [Platform]

theorem Engine.Fits.load (restoring : Guest.Restoring) {e : Engine} {c : Compiled}
    (fits : e.Fits c) : NativeLoader.own e (Guest.native c) = .ok c := by
  unfold NativeLoader.own
  dsimp only
  rw [← fits.consumeFuel, ← fits.debugInfo, restoring c]
  rfl

/-- A module has been restored from another one: it is on the same engine and has no identifier, it
lists the same exports in the same order, and nothing tells its new instances from those of the
other, whenever and wherever they are made. -/
structure CompiledModule.Restores (restored m : CompiledModule) : Prop where
  engine : restored.engine = m.engine
  plain : restored.identifier = none
  exportNames : restored.exportNames = m.exportNames
  instances {events events' : List Event} {h h' : Host} (past : History events h)
    (known : .compiled m ∈ Known events) (past' : History events' h')
    (known' : .compiled restored ∈ Known events') (thread thread' : Thread) :
    (∃ failure, (Operation.newInstance m).outcome thread h = .error failure ∧
      (Operation.newInstance restored).outcome thread' h' = .error failure) ∨
    ∃ i j, (Operation.newInstance m).outcome thread h = .ok (.running i) ∧
      (Operation.newInstance restored).outcome thread' h' = .ok (.running j) ∧
      i.Indistinguishable ((Operation.newInstance m).after thread h) j
        ((Operation.newInstance restored).after thread' h')

theorem History.newInstance_ends {events : List Event} {h : Host} (past : History events h)
    {m : CompiledModule} (known : .compiled m ∈ Known events) (thread : Thread) :
    match Guest.instantiate m.artifact.compiled.program m.engine.budget with
    | .error diagnostic => (Operation.newInstance m).outcome thread h = .error
        ⟨.engine .instantiate "An error happened while instantiating the module:" (some diagnostic),
          none⟩
    | .ok guest => ∃ i, (Operation.newInstance m).outcome thread h = .ok (.running i) ∧
        i.Begins m.engine m.artifact.compiled.program guest
          ((Operation.newInstance m).after thread h) ∧
        i.Untouched ((Operation.newInstance m).after thread h) := by
  have hperform : (Operation.newInstance m).perform = do return .running (← m.newInstance) := rfl
  have houtcome := Operation.outcome_of_perform hperform thread h
  have hafter := Operation.after_of_perform hperform thread h
  -- by what comes of instantiating, which is the same for every handle of the program
  cases hguest : Guest.instantiate m.artifact.compiled.program m.engine.budget with
  | error diagnostic =>
    rw [houtcome, m.newInstance_fails _ hguest]
    rfl
  | ok guest =>
    obtain ⟨i, hi, begins, -⟩ := m.newInstance_begins (h.onThread thread) hguest
    rw [hi] at houtcome
    rw [← hafter] at begins
    obtain ⟨K, ledger, hknown⟩ := past.ledger
    have hused : (Operation.newInstance m).objects ⊆ K := fun _ ho => ho ▸ hknown known
    exact ⟨i, houtcome, begins, Operation.made_untouched ledger hused thread houtcome⟩

theorem CompiledModule.restores {restored m : CompiledModule} (hengine : restored.engine = m.engine)
    (hplain : restored.identifier = none)
    (hprogram : restored.artifact.compiled.program = m.artifact.compiled.program) :
    restored.Restores m where
  engine := hengine
  plain := hplain
  exportNames := congrArg Guest.Program.exportNames hprogram
  instances past known past' known' thread thread' := by
    have hnew := past.newInstance_ends known thread
    have hnew' := past'.newInstance_ends known' thread'
    rw [hprogram, hengine] at hnew'
    -- the two modules run one program in the same supply of fuel, so both fail or both begin alike
    cases hguest : Guest.instantiate m.artifact.compiled.program m.engine.budget with
    | error diagnostic =>
      rw [hguest] at hnew hnew'
      exact Or.inl ⟨_, hnew, hnew'⟩
    | ok guest =>
      rw [hguest] at hnew hnew'
      obtain ⟨i, hi, begins, untouched⟩ := hnew
      obtain ⟨j, hj, begins', untouched'⟩ := hnew'
      exact Or.inr ⟨i, j, hi, hj, begins.indistinguishable begins' untouched untouched'⟩

theorem CompiledModule.deserialize_serialized (restoring : Guest.Restoring) {m : CompiledModule}
    (fits : m.engine.Fits m.artifact.compiled) (thread : Thread) (h : Host) :
    (∃ restored, (Operation.deserialize m.serialized (some m.engine)).outcome thread h =
      .ok (.compiled restored) ∧ restored.Restores m) ∧
    ((deserializeBy .own m.serialized (some m.engine)).run.run (h.onThread thread, [])).2.2 =
      [Guest.native m.artifact.compiled] := by
  have hengine : (Host.engineOr (some m.engine)).run.run (h.onThread thread) =
    (.ok m.engine, h.onThread thread) := rfl
  -- the loader takes back what it is handed, so that there is a restored module
  have hends := deserializeBy_deserializes .own m.serialized (some m.engine) hengine
  obtain ⟨⟨restored, hrestored, hsame, hcompiled, hplain⟩, -, hhanded⟩ :=
    hends.loaded _ _ rfl (fits.load restoring)
  refine ⟨⟨restored, ?_, restores hsame hplain (congrArg Compiled.program hcompiled)⟩, hhanded⟩
  have hperform : (Operation.deserialize m.serialized (some m.engine)).perform =
      do return .compiled (← deserialize m.serialized (some m.engine)) := rfl
  -- an unwatched deserialization gives the same
  have hplainly := (deserializeBy_mirrors m.serialized (some m.engine) (h.onThread thread) []).1
  rw [hrestored] at hplainly
  rw [Operation.outcome_of_perform hperform, ← hplainly]
  rfl

/-- Serialization round-trips, and its framing is exact.

Whatever the loader, and whatever engine is found for the bytes: bytes that do not begin with the
magic octets are refused with one diagnostic, and the loader is handed nothing; otherwise it is
handed just what is behind them, and when it rejects that, its detail is in the diagnostic. Of no
cache are the entries changed, whether this succeeds or fails. With the loader of the engines this
is how modules are deserialized.

A module that is known is serialized to the magic octets and its native form, unless the engine has
been made to fail. If the runtime takes back its native forms, what a module is serialized to is
deserialized on its engine, later or elsewhere: the loader is handed the native form, and the module
that is restored has no identifier, the same exports and new instances that nothing tells from those
of the first. -/
theorem History.serialization_exact {events : List Event} {h : Host} (history : History events h)
    {m : CompiledModule} (known : .compiled m ∈ Known events) (thread : Thread) :
    (∀ (load : NativeLoader) (data : Image) (engine : Option Engine) (g : Host),
      let run := (CompiledModule.deserializeBy load data engine).run.run (g, [])
      (∀ e g', (Host.engineOr engine).run.run g = (.ok e, g') →
        e.Deserializes load data run.1 (e.diagnosticOn run.2.1 g.thread) run.2.2) ∧
      run.2.1.cached = g.cached ∧ run.2.1.cache = g.cache) ∧
    (∀ data engine, Mirrors (CompiledModule.deserializeBy .own data engine)
      (CompiledModule.deserialize data engine)) ∧
    (h.serializeFault = none →
      ∃ data, (Operation.serialize m).outcome thread h = .ok (.bytes data)) ∧
    ∀ data, (Operation.serialize m).outcome thread h = .ok (.bytes data) →
      data = Image.ofBytes serializedMagic ++ Guest.native m.artifact.compiled ∧
      (Guest.Restoring → ∀ (g : Host) (elsewhere : Thread),
        (∃ restored, (Operation.deserialize data (some m.engine)).outcome elsewhere g =
          .ok (.compiled restored) ∧ restored.Restores m) ∧
        ((CompiledModule.deserializeBy .own data (some m.engine)).run.run
          (g.onThread elsewhere, [])).2.2 = [Guest.native m.artifact.compiled]) := by
  obtain ⟨K, ledger, hknown⟩ := history.ledger
  have fits : m.engine.Fits m.artifact.compiled := ledger.sound (hknown known)
  have houtcome := m.serialize_outcome thread h
  refine ⟨fun load data engine g => ⟨fun e g' => ?_, ?_, ?_⟩, ?_, fun hworks => ?_,
    fun data hdata => ?_⟩
  · exact CompiledModule.deserializeBy_deserializes load data engine
  · exact (CompiledModule.deserializeBy_sameBut load data engine g []).same .cached (by decide)
  · exact (CompiledModule.deserializeBy_sameBut load data engine g []).same .cache (by decide)
  · exact fun data engine => CompiledModule.deserializeBy_mirrors data engine
  · rw [hworks] at houtcome
    exact ⟨_, houtcome⟩
  -- where there are serialized bytes they are those of the module
  · rw [hdata] at houtcome
    cases hfault : h.serializeFault with
    | some diagnostic =>
      rw [hfault] at houtcome
      cases houtcome
    | none =>
      rw [hfault] at houtcome
      cases houtcome
      exact ⟨rfl, fun restoring g elsewhere =>
        CompiledModule.deserialize_serialized restoring fits elsewhere g⟩

end

section

attribute [local instance] Platform.machine

/-- A counter that a process has compiled is serialized and restored on another thread of a fresh
process; the loader there is handed its native form. With another version in the last of the magic
octets nothing is handed. -/
theorem History.serialization_exact_counter :
    let p : Guest.Program :=
      ⟨[], [], [], some .increment, [⟨"next", .function ⟨[], [.i32], .increment⟩⟩]⟩
    let h₀ := Host.fresh ⟨.empty, none⟩ ⟨[]⟩
    let op := Operation.compile (.ofProgram p) (some "counter") none
    let e : Engine := ⟨2, ⟨1, .default⟩⟩
    let m : CompiledModule := ⟨5, e, ⟨4, ⟨p, false, false⟩⟩, some "counter"⟩
    let other := Image.ofBytes [0x57, 0x41, 0x53, 0x4d, 0x45, 0x4d, 0x42, 0x02] ++
      Guest.native ⟨p, false, false⟩
    History [op.event 0 h₀] (op.after 0 h₀) ∧ .compiled m ∈ Known [op.event 0 h₀] ∧
      (Operation.serialize m).outcome 0 (op.after 0 h₀) = .ok (.bytes m.serialized) ∧
      (∃ restored, (Operation.deserialize m.serialized (some e)).outcome 1 h₀ =
        .ok (.compiled restored) ∧ restored.Restores m) ∧
      ((CompiledModule.deserializeBy .own other (some e)).run.run (h₀, [])).1 =
        .error ⟨.engine .deserialize "Cannot load the serialized module:"
          (some "Failed to deserialize the module"), none⟩ ∧
      ((CompiledModule.deserializeBy .own other (some e)).run.run (h₀, [])).2.2 = [] := by
  -- the module is compiled by the only event of the history
  intro p h₀ op e m other
  have history : History [op.event 0 h₀] (op.after 0 h₀) :=
    .perform (.start _ _) 0 (Set.empty_subset _)
  have known : Object.compiled m ∈ Known [op.event 0 h₀] := .given List.mem_cons_self rfl
  obtain ⟨framing, -, works, restores⟩ := serialization_exact history known 0
  have hdata : (Operation.serialize m).outcome 0 (op.after 0 h₀) = .ok (.bytes m.serialized) := rfl
  -- the version is another one in the last octet
  have hmagic : ¬Image.ofBytes serializedMagic <+: other := by
    apply not_magic_prefix (k := 7) (by decide)
    intro hversion
    cases hversion
  have hother := ((framing .own other (some e) h₀).1 e h₀ rfl).malformed hmagic
  have hrestored := ((restores _ hdata).2 Guest.Machine.restoring h₀ 1).1
  exact ⟨history, known, hdata, hrestored, hother.1, hother.2.2⟩

end

end WasmHost
