import WasmHost.Proofs.Twins
/-!
The ways to make an instance from bytes.

Bytes may be given, or be read from a file, or be compiled through a cache; or an engine is asked
for a handle by itself. All of them compile the bytes and then make an instance, each in its own
words. So they succeed together, with instances that nothing tells apart, or fail together at the
same stage and with the same diagnostic.
-/
namespace WasmHost

section Platform

variable [Platform]

namespace Engine

variable (e : Engine) (h : Host) {d : Guest.Image} {p : Guest.Program} {guest : Guest.State}
  {diagnostic : String}

theorem compile_run_error (hd : Guest.compile d = .error diagnostic) :
    ∃ h', (e.compile d).run h = (none, h') ∧ e.diagnosticOn h' h'.thread = some diagnostic := by
  unfold compile
  rw [hd]
  exact ⟨_, rfl, Cells.get_set_self ..⟩

theorem compile_run_ok (hd : Guest.compile d = .ok p) :
    ∃ artifact h', (e.compile d).run h = (some artifact, h') ∧ artifact.compiled.program = p := by
  unfold compile
  rw [hd]
  exact ⟨_, _, rfl, rfl⟩

theorem newInstance_run_error {artifact : Artifact}
    (hguest : Guest.instantiate artifact.compiled.program e.budget = .error diagnostic) :
    ∃ h', (e.newInstance artifact).run h = (none, h') ∧
      e.diagnosticOn h' h'.thread = some diagnostic := by
  unfold newInstance
  rw [stateM_run_bind, hguest]
  exact ⟨_, rfl, Cells.get_set_self ..⟩

theorem newInstance_run_ok {artifact : Artifact}
    (hguest : Guest.instantiate artifact.compiled.program e.budget = .ok guest) :
    ∃ handle h', (e.newInstance artifact).run h = (some handle, h') ∧
      handle.artifact = artifact ∧ h'.guest handle = guest := by
  unfold newInstance
  rw [stateM_run_bind, hguest]
  exact ⟨_, _, rfl, rfl, Cells.get_set_self ..⟩

/-- What comes of bytes on an engine: they fail at a stage and with its diagnostic, or else they
spell a program whose instances begin in a state. -/
inductive Verdict (e : Engine) (d : Guest.Image) :
    Except (EngineStage × String) (Guest.Program × Guest.State) → Prop where
  | uncompiled {diagnostic : String} (hd : Guest.compile d = .error diagnostic) :
      Verdict e d (.error (.compile, diagnostic))
  | uninstantiated {p : Guest.Program} {diagnostic : String} (hd : Guest.compile d = .ok p)
      (hguest : Guest.instantiate p e.budget = .error diagnostic) :
      Verdict e d (.error (.instantiate, diagnostic))
  | begins {p : Guest.Program} {guest : Guest.State} (hd : Guest.compile d = .ok p)
      (hguest : Guest.instantiate p e.budget = .ok guest) : Verdict e d (.ok (p, guest))

theorem exists_verdict (d : Guest.Image) : ∃ verdict, e.Verdict d verdict := by
  cases hd : Guest.compile d with
  | error diagnostic => exact ⟨_, .uncompiled hd⟩
  | ok p =>
    cases hguest : Guest.instantiate p e.budget with
    | error diagnostic => exact ⟨_, .uninstantiated hd hguest⟩
    | ok guest => exact ⟨_, .begins hd hguest⟩

/-- A stage of making an instance of bytes fails: no program is compiled from them, or none of the
instances of what is compiled can be made. -/
inductive FailsAt (e : Engine) (d : Guest.Image) : EngineStage → Prop where
  | compile (fails : ∀ h, ((e.compile d).run h).1 = none) : FailsAt e d .compile
  | instantiate (fails : ∀ h, ∃ artifact h', (e.compile d).run h = (some artifact, h') ∧
      ((e.newInstance artifact).run h').1 = none) : FailsAt e d .instantiate

theorem Verdict.failsAt {e : Engine} {stage : EngineStage}
    (verdict : e.Verdict d (.error (stage, diagnostic))) : e.FailsAt d stage := by
  cases verdict with
  | uncompiled hd =>
    refine .compile fun h => ?_
    obtain ⟨h', hrun, -⟩ := e.compile_run_error h hd
    rw [hrun]
  | uninstantiated hd hguest =>
    refine .instantiate fun h => ?_
    obtain ⟨artifact, h₁, hcompiled, hprogram⟩ := e.compile_run_ok h hd
    obtain ⟨h', hrun, -⟩ := e.newInstance_run_error h₁ (hprogram ▸ hguest)
    exact ⟨artifact, h₁, hcompiled, congrArg Prod.fst hrun⟩

end Engine

/-- An instance is on an engine, of a program, and its guest is in a state. -/
structure Instance.Begins (i : Instance) (e : Engine) (p : Guest.Program) (guest : Guest.State)
    (h : Host) : Prop where
  engine : i.engine = e
  program : i.handle.program = p
  guest : h.guest i.handle = guest

theorem Instance.Begins.indistinguishable {i j : Instance} {e : Engine} {p : Guest.Program}
    {guest : Guest.State} {h r : Host} (begins : i.Begins e p guest h)
    (begins' : j.Begins e p guest r) (untouched : i.Untouched h) (untouched' : j.Untouched r) :
    i.Indistinguishable h j r :=
  have twins : i.Twins j :=
    ⟨begins'.engine.trans begins.engine.symm, begins'.program.trans begins.program.symm⟩
  twins.indistinguishable untouched untouched' (begins.guest.trans begins'.guest.symm)

omit [Platform] in
theorem Engine.refusal_run (e : Engine) {α : Type} (fault : Option String → Fault) {h : Host}
    {diagnostic : String} (told : e.diagnosticOn h h.thread = some diagnostic) :
    (do Action.fail (fault (← e.lastError)) : HostAction α).run.run h =
      (.error ⟨fault (some diagnostic), none⟩, h) := by
  rw [← told]
  rfl

namespace CompiledModule

variable (m : CompiledModule) (h : Host)

theorem newInstance_fails {diagnostic : String}
    (hguest : Guest.instantiate m.artifact.compiled.program m.engine.budget = .error diagnostic) :
    (m.newInstance.run.run h).1 = .error
      ⟨.engine .instantiate "An error happened while instantiating the module:" (some diagnostic),
        none⟩ := by
  obtain ⟨h', hrun, told⟩ := m.engine.newInstance_run_error h hguest
  unfold newInstance
  rw [Action.run_lift_bind, hrun]
  dsimp only
  rw [m.engine.refusal_run _ told]

theorem newInstance_begins {guest : Guest.State}
    (hguest : Guest.instantiate m.artifact.compiled.program m.engine.budget = .ok guest) :
    ∃ i, (m.newInstance.run.run h).1 = .ok i ∧
      i.Begins m.engine m.artifact.compiled.program guest (m.newInstance.run.run h).2 ∧
      i.source = m := by
  obtain ⟨handle, h', hrun, hartifact, hbegins⟩ := m.engine.newInstance_run_ok h hguest
  unfold newInstance
  rw [Action.run_lift_bind, hrun]
  exact ⟨_, rfl, ⟨rfl, by rw [Handle.program, hartifact], hbegins⟩, rfl⟩

end CompiledModule

namespace ModuleCache

variable (c : ModuleCache) (h : Host) {d : Guest.Image}

theorem build_fails (identifier : Option String) {diagnostic : String}
    (hd : Guest.compile d = .error diagnostic) :
    ∃ h', (c.build d identifier).run.run h =
      (.error ⟨.engine .compile "An error happened while compiling the module:" (some diagnostic),
        none⟩, h') := by
  obtain ⟨h', hrun, told⟩ := c.engine.compile_run_error h hd
  unfold build
  rw [Action.run_lift_bind, hrun]
  exact ⟨h', c.engine.refusal_run _ told⟩

theorem build_compiles (identifier : Option String) {p : Guest.Program}
    (hd : Guest.compile d = .ok p) :
    ∃ m h', (c.build d identifier).run.run h = (.ok m, h') ∧ m.engine = c.engine ∧
      m.artifact.compiled.program = p ∧ m.identifier = identifier := by
  obtain ⟨artifact, h₁, hrun, hprogram⟩ := c.engine.compile_run_ok h hd
  unfold build
  rw [Action.run_lift_bind, hrun]
  exact ⟨_, _, rfl, rfl, hprogram, rfl⟩

end ModuleCache

/-- An action that makes an instance of bytes ends as a verdict on them says: with a fault of the
stage that fails and its diagnostic, or with an instance that begins, whose module has no
identifier. -/
def Engine.EndsAs (e : Engine) (result : Except Failure Instance) (h : Host) :
    Except (EngineStage × String) (Guest.Program × Guest.State) → Prop
  | .error (stage, diagnostic) =>
    ∃ headline, result = .error ⟨.engine stage headline (some diagnostic), none⟩
  | .ok (p, guest) => ∃ i, result = .ok i ∧ i.Begins e p guest h ∧ i.source.identifier = none

/-- The instance of what a new cache compiles from bytes without an identifier. -/
def Instance.throughCache (e : Engine) (d : Guest.Image) : HostAction Instance := do
  let c ← Host.newCache (some e)
  let m ← c.compile d none
  m.newInstance

namespace Engine.Verdict

variable {e : Engine} {d : Guest.Image}
  {verdict : Except (EngineStage × String) (Guest.Program × Guest.State)}

theorem build (holds : e.Verdict d verdict) (headline : String) (h : Host) :
    e.EndsAs ((Instance.build e d headline).run.run h).1
      ((Instance.build e d headline).run.run h).2 verdict := by
  -- one stage after the other: what fails leaves its diagnostic, with which the action fails
  unfold Instance.build
  rw [Action.run_lift_bind]
  cases holds with
  | uncompiled hd =>
    obtain ⟨h', hrun, told⟩ := e.compile_run_error h hd
    rw [hrun]
    dsimp only
    rw [e.refusal_run _ told]
    exact ⟨headline, rfl⟩
  | uninstantiated hd hguest =>
    obtain ⟨artifact, h₁, hcompiled, hprogram⟩ := e.compile_run_ok h hd
    obtain ⟨h', hrun, told⟩ := e.newInstance_run_error h₁ (hprogram ▸ hguest)
    rw [hcompiled]
    dsimp only
    rw [Action.run_lift_bind, hrun]
    dsimp only
    rw [e.refusal_run _ told]
    exact ⟨headline, rfl⟩
  | begins hd hguest =>
    obtain ⟨artifact, h₁, hcompiled, hprogram⟩ := e.compile_run_ok h hd
    obtain ⟨handle, h', hrun, hartifact, hbegins⟩ := e.newInstance_run_ok h₁ (hprogram ▸ hguest)
    rw [hcompiled]
    dsimp only
    rw [Action.run_lift_bind, hrun]
    exact ⟨_, rfl, ⟨rfl, by rw [Handle.program, hartifact, hprogram], hbegins⟩, rfl⟩

theorem ofBytes (holds : e.Verdict d verdict) (h : Host) :
    e.EndsAs ((Instance.ofBytes d (some e)).run.run h).1
      ((Instance.ofBytes d (some e)).run.run h).2 verdict :=
  holds.build "An error happened while compiling or instantiating the module:" h

theorem ofFile (holds : e.Verdict d verdict) {path : String} {h : Host}
    (readable : h.files.find (.ofString path) = .ok (.file d true none)) :
    e.EndsAs ((Instance.ofFile path (some e)).run.run h).1
      ((Instance.ofFile path (some e)).run.run h).2 verdict := by
  -- reading the file leaves the bytes, and the rest is as for bytes
  have hfetch : (e.fetchBytes path).run.run h = (.ok d, ((Host.record e .fetchBytes).run h).2) := by
    unfold Engine.fetchBytes
    rw [Action.run_lift_bind, Action.run_get_bind]
    have hfiles : ((Host.record e .fetchBytes).run h).2.files.find (.ofString path) =
        .ok (.file d true none) := readable
    rw [hfiles]
    rfl
  have hrun : (Instance.ofFile path (some e)).run.run h = (Instance.build e d
      ("An error happened while compiling or instantiating the module `" ++ path ++ "`:")).run.run
        ((Host.record e .fetchBytes).run h).2 := Action.run_bind_ok hfetch
  rw [hrun]
  exact holds.build _ _

theorem cache (holds : e.Verdict d verdict) (h : Host) :
    e.EndsAs ((Instance.throughCache e d).run.run h).1
      ((Instance.throughCache e d).run.run h).2 verdict := by
  -- the cache is a new one, so that it holds nothing yet
  let c : ModuleCache := ⟨h.nextSerial, e⟩
  have hcache : (Host.newCache (some e)).run.run h = (.ok c, (Host.newSerial.run h).2) := rfl
  have hrun : (Instance.throughCache e d).run.run h =
      (do let m ← c.build d none; m.newInstance : HostAction Instance).run.run
        (Host.newSerial.run h).2 := Action.run_bind_ok hcache
  rw [hrun]
  -- the verdict depends on the bytes alone, and the headlines are those of the cache
  cases holds with
  | uncompiled hd =>
    obtain ⟨h', hbuild⟩ := c.build_fails (Host.newSerial.run h).2 none hd
    rw [Action.run_bind_error hbuild]
    exact ⟨_, rfl⟩
  | uninstantiated hd hguest =>
    obtain ⟨m, h', hbuild, hengine, hprogram, -⟩ :=
      c.build_compiles (Host.newSerial.run h).2 none hd
    rw [Action.run_bind_ok hbuild]
    have hbudget : m.engine.budget = e.budget := congrArg Engine.budget hengine
    exact ⟨_, m.newInstance_fails h' (by rw [hprogram, hbudget, hguest])⟩
  | begins hd hguest =>
    obtain ⟨m, h', hbuild, hengine, hprogram, hplain⟩ :=
      c.build_compiles (Host.newSerial.run h).2 none hd
    rw [Action.run_bind_ok hbuild]
    have hbudget : m.engine.budget = e.budget := congrArg Engine.budget hengine
    obtain ⟨i, hi, begins, hsource⟩ :=
      m.newInstance_begins h' (by rw [hprogram, hbudget, hguest])
    rw [hengine, hprogram] at begins
    exact ⟨i, hi, begins, hsource ▸ hplain⟩

theorem handle (holds : e.Verdict d verdict) (h : Host) :
    match verdict with
    | .error (_, diagnostic) => ∃ h', (e.newInstanceFromBytes d).run h = (none, h') ∧
        e.diagnosticOn h' h'.thread = some diagnostic
    | .ok (p, guest) => ∃ handle h', (e.newInstanceFromBytes d).run h = (some handle, h') ∧
        handle.program = p ∧ h'.guest handle = guest := by
  unfold Engine.newInstanceFromBytes
  rw [stateM_run_bind]
  -- the engine answers with a handle where an instance would be built around it
  cases holds with
  | uncompiled hd =>
    obtain ⟨h', hrun, told⟩ := e.compile_run_error h hd
    rw [hrun]
    exact ⟨h', rfl, told⟩
  | uninstantiated hd hguest =>
    obtain ⟨artifact, h₁, hcompiled, hprogram⟩ := e.compile_run_ok h hd
    rw [hcompiled]
    exact e.newInstance_run_error h₁ (hprogram ▸ hguest)
  | begins hd hguest =>
    obtain ⟨artifact, h₁, hcompiled, hprogram⟩ := e.compile_run_ok h hd
    obtain ⟨handle, h', hrun, hartifact, hbegins⟩ := e.newInstance_run_ok h₁ (hprogram ▸ hguest)
    rw [hcompiled]
    exact ⟨handle, h', hrun, by rw [Handle.program, hartifact, hprogram], hbegins⟩

end Engine.Verdict

/-- The parts of the state that any of the ways to make an instance of bytes touches. -/
def makingParts : List HostPart :=
  [.nextSerial, .diagnostics, .operations, .notices, .guests, .settings, .engine]

namespace Instance

variable {e : Engine} (d : Guest.Image)

theorem throughCache_touches : Touches makingParts (throughCache e d).run :=
  .action_bind ((Host.newCache_touches (some e)).mono (by decide)) fun c =>
    .action_bind ((c.build_touches d none).mono (by decide)) fun m =>
      m.newInstance_touches.mono (by decide)

theorem throughCache_issues :
    Issues {.engine e} (throughCache e d).run (onOk fun i => {.running i}) := by
  refine Issues.action_bind (Host.newCache_issues fun _ he => ?_) fun _ c _ => ?_
  · exact congrArg Object.engine (Option.some.inj he).symm
  refine Issues.action_bind (ModuleCache.compile_issues (Or.inr rfl) d none) fun _ m _ => ?_
  exact CompiledModule.newInstance_issues (Or.inr rfl)

theorem throughCache_anew : MakesAnew {.engine e} (throughCache e d) :=
  .bind (Host.newCache_issues fun _ he => congrArg Object.engine (Option.some.inj he).symm) fun _ =>
    .bind (ModuleCache.compile_issues (Or.inr rfl) d none) fun m => .newInstance m

end Instance

/-- A way to make an instance of bytes on an engine. -/
inductive Route where
  | bytes
  | file (path : String)
  | cache
  | engine

namespace Route

/-- A file that a route reads can be read and holds the bytes. -/
def Holds (d : Guest.Image) (h : Host) : Route → Prop
  | file path => h.files.find (.ofString path) = .ok (.file d true none)
  | _ => True

/-- Goes a route. An engine by itself answers with a handle, or without one. -/
def perform (e : Engine) (d : Guest.Image) : Route → HostAction Answer
  | bytes => (Operation.instanceOfBytes d (some e)).perform
  | file path => (Operation.instanceOfFile path (some e)).perform
  | cache => do return .running (← Instance.throughCache e d)
  | engine => (Operation.engineCall e (.newInstanceFromBytes d)).perform

theorem perform_touches (route : Route) (e : Engine) (d : Guest.Image) :
    Touches makingParts (route.perform e d).run := by
  cases route with
  | bytes => exact (Operation.instanceOfBytes d (some e)).perform_touches
  | file path => exact (Operation.instanceOfFile path (some e)).perform_touches
  | cache => exact .action_bind (Instance.throughCache_touches d) fun _ => .action_pure _
  | engine =>
    have hparts : EngineCall.parts ⊆ makingParts := by decide
    exact (Operation.engineCall e (.newInstanceFromBytes d)).perform_touches.mono hparts

end Route

/-- That an instance of bytes is made on an engine: the state that a process has come to, in which
the engine is known, the thread, and the route. -/
structure Construction (e : Engine) (d : Guest.Image) where
  events : List Event
  host : Host
  past : History events host
  known : .engine e ∈ Known events
  thread : Thread
  route : Route
  holds : route.Holds d host

namespace Construction

variable {e : Engine} {d : Guest.Image} (a : Construction e d)

/-- The outcome of a construction. -/
def outcome : Except Failure Answer :=
  ((a.route.perform e d).run.run (a.host.onThread a.thread)).1

/-- The state after a construction. -/
def after : Host := ((a.route.perform e d).run.run (a.host.onThread a.thread)).2

/-- A construction fails at a stage and with a diagnostic: it raises the fault of the stage, or an
engine by itself has no handle and leaves the diagnostic. -/
inductive Fails (stage : EngineStage) (diagnostic : String) : Prop where
  | raises (headline : String)
      (hfails : a.outcome = .error ⟨.engine stage headline (some diagnostic), none⟩)
  | leaves (hroute : a.route = .engine) (hnone : a.outcome = .ok (.reply (.handle none)))
      (told : e.diagnosticOn a.after a.thread = some diagnostic)

/-- A construction makes an instance, whose module has no identifier; or an engine by itself has
made a handle, and nothing else is kept of an instance around it. -/
inductive Makes (i : Instance) : Prop where
  | running (hi : a.outcome = .ok (.running i)) (plain : i.source.identifier = none)
  | around (hroute : a.route = .engine) (hi : a.outcome = .ok (.reply (.handle (some i.handle))))
      (engine : i.engine = e) (untouched : i.Untouched a.after)

/-- A construction ends as a verdict on the bytes says. -/
def EndsAs : Except (EngineStage × String) (Guest.Program × Guest.State) → Prop
  | .error (stage, diagnostic) => a.Fails stage diagnostic
  | .ok (p, guest) => (∃ i, a.Makes i) ∧
      ∀ i, a.Makes i → i.Begins e p guest a.after ∧ i.Untouched a.after

theorem exists_ledger : ∃ K, Ledger (a.host.onThread a.thread) K ∧ {.engine e} ⊆ K := by
  obtain ⟨K, ledger, hknown⟩ := a.past.ledger
  exact ⟨K, ledger.onThread a.thread, fun _ ho => ho ▸ hknown a.known⟩

theorem endsAs_of_running {make : HostAction Instance}
    (hperform : a.route.perform e d = do return .running (← make))
    (anew : MakesAnew {.engine e} make)
    (issues : Issues {.engine e} make.run (onOk fun i => {.running i}))
    (touches : Touches makingParts make.run)
    {verdict : Except (EngineStage × String) (Guest.Program × Guest.State)}
    (ends : e.EndsAs (make.run.run (a.host.onThread a.thread)).1
      (make.run.run (a.host.onThread a.thread)).2 verdict) : a.EndsAs verdict := by
  have houtcome : a.outcome = (make.run.run (a.host.onThread a.thread)).1.map .running := by
    rw [outcome, hperform, Action.run_bind_pure]
  have hafter : a.after = (make.run.run (a.host.onThread a.thread)).2 := by
    rw [after, hperform, Action.run_bind_pure]
  -- by the verdict: a failure is raised by the route, and an instance is what the answer holds
  match verdict with
  | .error (stage, diagnostic) =>
    obtain ⟨headline, hfails⟩ := ends
    rw [hfails] at houtcome
    exact .raises headline houtcome
  | .ok (p, guest) =>
    obtain ⟨i, hi, begins, plain⟩ := ends
    -- the instance is new, so nothing is kept of it yet
    obtain ⟨K, ledger, hused⟩ := a.exists_ledger
    have untouched : i.Untouched a.after := by
      rw [hafter]
      exact (anew.untouched issues touches (by decide) ledger hused (Prod.ext hi rfl)).2
    rw [hi] at houtcome
    rw [← hafter] at begins
    refine ⟨⟨i, .running houtcome plain⟩, fun j makes => ?_⟩
    -- an instance that the route gives is the one of its answer
    cases makes with
    | running hj _ =>
      cases houtcome.symm.trans hj
      exact ⟨begins, untouched⟩
    | around _ hj _ _ => cases houtcome.symm.trans hj

theorem endsAs_of_handle (hroute : a.route = .engine)
    {verdict : Except (EngineStage × String) (Guest.Program × Guest.State)}
    (holds : e.Verdict d verdict) : a.EndsAs verdict := by
  have hperform (h : Host) : (a.route.perform e d).run.run h =
      (.ok (.reply (.handle ((e.newInstanceFromBytes d).run h).1)),
        ((e.newInstanceFromBytes d).run h).2) := by
    rw [hroute]
    rfl
  have hend := holds.handle (a.host.onThread a.thread)
  have houtcome : a.outcome = .ok (.reply (.handle
      ((e.newInstanceFromBytes d).run (a.host.onThread a.thread)).1)) :=
    congrArg Prod.fst (hperform _)
  have hafter : a.after = ((e.newInstanceFromBytes d).run (a.host.onThread a.thread)).2 :=
    congrArg Prod.snd (hperform _)
  match verdict with
  | .error (stage, diagnostic) =>
    obtain ⟨h', hrun, told⟩ := hend
    -- the thread that has asked is still the one that runs
    have hthread : h'.thread = a.thread := by
      have same := (e.newInstanceFromBytes_touches d).run (a.host.onThread a.thread)
      rw [hrun] at same
      exact same.same .thread (by decide)
    rw [hrun] at houtcome hafter
    rw [hthread] at told
    exact .leaves hroute houtcome (hafter ▸ told)
  -- the handle is that of a new instance, whatever module is put beside it
  | .ok (p, guest) =>
    obtain ⟨handle, h', hrun, hprogram, hbegins⟩ := hend
    obtain ⟨K, ledger, hused⟩ := a.exists_ledger
    have issues : Issues {.engine e} (e.newInstanceFromBytes d) (optional .handle) :=
      Engine.newInstanceFromBytes_issues (Set.mem_singleton _) d
    obtain ⟨K', -, ledger', -⟩ := issues _ K ledger hused
    rw [← hafter] at ledger'
    rw [hrun] at houtcome hafter
    change a.after = h' at hafter
    rw [← hafter] at hbegins
    -- nothing is kept yet under a number that is not given out
    have unused := ledger'.unused (Nat.le_refl a.after.nextSerial)
    let i : Instance := ⟨a.after.nextSerial, e, handle, ⟨0, e, handle.artifact, none⟩⟩
    have untouched : i.Untouched a.after :=
      ⟨unused.wrappers, unused.views, ledger'.unlocked _⟩
    refine ⟨⟨i, .around hroute houtcome rfl untouched⟩, fun j makes => ?_⟩
    cases makes with
    | running hj _ => cases houtcome.symm.trans hj
    | around _ hj hengine untouched' =>
      have hhandle : handle = j.handle := by
        cases houtcome.symm.trans hj
        rfl
      subst hhandle
      exact ⟨⟨hengine, hprogram, hbegins⟩, untouched'⟩

theorem endsAs {verdict : Except (EngineStage × String) (Guest.Program × Guest.State)}
    (holds : e.Verdict d verdict) : a.EndsAs verdict := by
  have hengine : ∀ e', some e = some e' → Object.engine e' ∈ ({.engine e} : Set Object) :=
    fun _ he => congrArg Object.engine (Option.some.inj he).symm
  -- the three routes over actions and the one of the engine itself
  cases hroute : a.route with
  | bytes =>
    exact a.endsAs_of_running (by rw [hroute]; rfl) (.ofBytes hengine d)
      (Instance.ofBytes_issues hengine d) (Instance.ofBytes_touches d (some e)) (holds.ofBytes _)
  | file path =>
    have readable : a.route.Holds d a.host := a.holds
    rw [hroute] at readable
    exact a.endsAs_of_running (by rw [hroute]; rfl) (.ofFile hengine path)
      (Instance.ofFile_issues hengine path) (Instance.ofFile_touches path (some e))
      (holds.ofFile readable)
  | cache =>
    exact a.endsAs_of_running (by rw [hroute]; rfl) (Instance.throughCache_anew d)
      (Instance.throughCache_issues d) (Instance.throughCache_touches d) (holds.cache _)
  | engine => exact a.endsAs_of_handle hroute holds

theorem cached_after : a.after.cached = a.host.cached :=
  ((a.route.perform_touches e d).run (a.host.onThread a.thread)).same .cached (by decide)

/-- All routes to an instance of the same bytes on the same engine agree, in whatever states of
whatever processes, on whatever threads. Either each of them fails, all at one stage and with one
diagnostic, which an engine by itself leaves behind: at compiling if and only if the bytes cannot be
compiled, and at instantiating if and only if they can be but no instance can be made. Or each of
them makes an instance, and nothing that is done with any two of these tells them apart. The module
of an instance has no identifier, and no cache has other entries than before. -/
theorem routes_agree (e : Engine) (d : Guest.Image) :
    ((∃ stage diagnostic, e.FailsAt d stage ∧ ∀ a : Construction e d, a.Fails stage diagnostic) ∨
      ((∀ a : Construction e d, ∃ i, a.Makes i) ∧
        ∀ (a b : Construction e d) (i j : Instance), a.Makes i → b.Makes j →
          i.Indistinguishable a.after j b.after)) ∧
    ∀ a : Construction e d, a.after.cached = a.host.cached := by
  refine ⟨?_, fun a => a.cached_after⟩
  obtain ⟨verdict, holds⟩ := e.exists_verdict d
  match verdict with
  | .error (stage, diagnostic) =>
    exact Or.inl ⟨stage, diagnostic, holds.failsAt, fun a => a.endsAs holds⟩
  | .ok (p, guest) =>
    refine Or.inr ⟨fun a => (a.endsAs holds).1, fun a b i j makes makes' => ?_⟩
    obtain ⟨begins, untouched⟩ := (a.endsAs holds).2 i makes
    obtain ⟨begins', untouched'⟩ := (b.endsAs holds).2 j makes'
    exact begins.indistinguishable begins' untouched untouched'

end Construction

end Platform

section Machine

attribute [local instance] Platform.machine

/-- A counter that counts when it starts is made through a cache, and by an engine itself in another
process, on another thread. Nothing tells the two apart: both count to two next. -/
theorem Construction.routes_agree_counter :
    let p : Guest.Program :=
      ⟨[], [], [], some .increment, [⟨"next", .function ⟨[], [.i32], .increment⟩⟩]⟩
    let e : Engine := ⟨2, ⟨1, .default⟩⟩
    let m (serial artifact : Nat) : CompiledModule :=
      ⟨serial, e, ⟨artifact, ⟨p, false, false⟩⟩, none⟩
    let i : Instance := ⟨7, e, ⟨6, (m 5 4).artifact⟩, m 5 4⟩
    let j : Instance := ⟨9, e, ⟨4, (m 0 3).artifact⟩, m 0 3⟩
    let made := (Operation.newEngine none).event 0 (.fresh ⟨.empty, none⟩ ⟨[]⟩)
    ∃ a b : Construction e (.ofProgram p),
      a.events = [made] ∧ a.route = .cache ∧ a.Makes i ∧
      b.events = [made] ∧ b.route = .engine ∧ b.thread = 1 ∧ b.Makes j ∧
      i.Indistinguishable a.after j b.after ∧
      (i.call "next" []).run.run a.after =
        (.ok (.integer 2), ((i.call "next" []).run.run a.after).2) := by
  intro p e m i j made
  have past : History [made] ((Operation.newEngine none).after 0 (.fresh ⟨.empty, none⟩ ⟨[]⟩)) :=
    .perform (.start _ _) 0 (Set.empty_subset _)
  have known : Object.engine e ∈ Known [made] := .given List.mem_cons_self rfl
  -- both constructions are made in one and the same past, on different threads
  let a : Construction e (.ofProgram p) := ⟨[made], _, past, known, 0, .cache, trivial⟩
  let b : Construction e (.ofProgram p) := ⟨[made], _, past, known, 1, .engine, trivial⟩
  have hi : a.Makes i := .running rfl rfl
  have hj : b.Makes j := .around rfl rfl rfl ⟨rfl, rfl, rfl⟩
  refine ⟨a, b, rfl, rfl, hi, rfl, rfl, rfl, hj, ?_, rfl⟩
  -- of the two outcomes only the one with instances is possible here
  rcases (routes_agree e (.ofProgram p)).1 with ⟨stage, diagnostic, -, hfails⟩ | ⟨-, hsame⟩
  · cases hfails a with
    | raises headline hraised => cases hraised
    | leaves hroute => cases hroute
  · exact hsame a b i j hi hj

end Machine

end WasmHost
