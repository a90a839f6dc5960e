import WasmHost.Proofs.Fuel
import WasmHost.Proofs.Routes
/-!
The fuel that new instances are given.

An engine that meters its instances gives each of them its whole budget, as far as this fits in a
word of its meter. Whatever the way an instance is made, it begins as its program does with this
budget, and no other guest is changed.
-/
namespace WasmHost

theorem fuelMeter_eq_self_iff {fuel : Nat} : fuelMeter fuel = fuel ↔ fuel < wordCount 64 :=
  Nat.mod_eq_iff_lt (Nat.ne_of_gt (wordCount_pos 64))

namespace Engine

/-- An engine meters its instances. -/
def Metered (e : Engine) : Prop := e.settings.values.consumeFuel = true

theorem Metered.budget {e : Engine} (metered : e.Metered) :
    e.budget = some (fuelMeter e.settings.values.fuel) := if_pos metered

end Engine

variable [Platform]

/-- From one state to another an instance of a program has been made: its guest begins as the budget
of an engine says, and other guests are as they were. -/
structure Handle.Instantiated (handle : Handle) (e : Engine) (h h' : Host) : Prop where
  guest : Guest.instantiate handle.program e.budget = .ok (h'.guest handle)
  others {n : Nat} (hn : n ≠ handle.serial) : h'.guests.get n = h.guests.get n

-- It makes no difference that other things than guests have changed before.
theorem Handle.Instantiated.of_same {handle : Handle} {e : Engine} {h h₁ h' : Host}
    (made : handle.Instantiated e h₁ h') (same : h₁.guests = h.guests) :
    handle.Instantiated e h h' :=
  ⟨made.guest, fun hn => same ▸ made.others hn⟩

namespace Engine

variable (e : Engine) {h h' : Host} {handle : Handle}

theorem newInstance_instantiated {artifact : Artifact}
    (hrun : (e.newInstance artifact).run h = (some handle, h')) :
    handle.Instantiated e h h' := by
  unfold newInstance at hrun
  rw [stateM_run_bind] at hrun
  cases hguest : Guest.instantiate artifact.compiled.program e.budget with
  | error diagnostic =>
    rw [hguest] at hrun
    cases hrun
  | ok guest =>
    rw [hguest] at hrun
    obtain ⟨hhandle, rfl⟩ := Prod.mk.inj hrun
    cases hhandle
    exact ⟨hguest.trans (congrArg Except.ok (Cells.get_set_self ..).symm),
      fun hn => Cells.get_set_of_ne _ hn _⟩

theorem newInstanceFromBytes_instantiated {data : Guest.Image}
    (hrun : (e.newInstanceFromBytes data).run h = (some handle, h')) :
    handle.Instantiated e h h' := by
  unfold newInstanceFromBytes at hrun
  rw [stateM_run_bind] at hrun
  -- compiling comes first, and leaves the guests alone
  have same := ((e.compile_touches data).run h).same .guests (by decide)
  cases hcompiled : ((e.compile data).run h).1 with
  | none =>
    rw [hcompiled] at hrun
    cases hrun
  | some artifact =>
    rw [hcompiled] at hrun
    exact (e.newInstance_instantiated hrun).of_same same

end Engine

/-- An action gives no instance but one that it has made, on the engine of the instance. -/
def Instantiates (a : HostAction Instance) : Prop :=
  ∀ h i h', a.run.run h = (.ok i, h') → i.handle.Instantiated i.engine h h'

namespace Instantiates

variable {α : Type}

theorem bind {parts : List HostPart} {a : HostAction α} {f : α → HostAction Instance}
    (ha : Touches parts a.run) (hparts : .guests ∉ parts) (hf : ∀ x, Instantiates (f x)) :
    Instantiates (a >>= f) := by
  intro h i h' hrun
  have same := (ha.run h).same .guests hparts
  rw [Action.run_bind] at hrun
  rcases hfirst : a.run.run h with ⟨_ | x, h₁⟩
  · rw [hfirst] at hrun
    cases hrun
  · rw [hfirst] at hrun
    change (a.run.run h).2.guests = h.guests at same
    rw [hfirst] at same
    exact (hf x h₁ i h' hrun).of_same same

theorem around {e : Engine} {artifact : Artifact} {f : Option Handle → HostAction Instance}
    (hf : ∀ made h i h', (f made).run.run h = (.ok i, h') →
      made = some i.handle ∧ i.engine = e ∧ h'.guests = h.guests) :
    Instantiates ((liftM (e.newInstance artifact) : HostAction (Option Handle)) >>= f) := by
  intro h i h' hrun
  rw [Action.run_lift_bind] at hrun
  obtain ⟨hmade, hengine, same⟩ := hf _ _ i h' hrun
  have made := e.newInstance_instantiated
    (show (e.newInstance artifact).run h = (some i.handle, _) from Prod.ext hmade rfl)
  subst hengine
  refine ⟨made.guest.trans ?_, fun hn => same.symm ▸ made.others hn⟩
  rw [Host.guest, Host.guest, same]

theorem newInstance (m : CompiledModule) : Instantiates m.newInstance := by
  refine around fun made h i h' hrun => ?_
  cases made with
  | none => cases hrun
  | some handle =>
    cases hrun
    exact ⟨rfl, rfl, rfl⟩

theorem build (e : Engine) (data : Guest.Image) (headline : String) :
    Instantiates (Instance.build e data headline) := by
  refine bind (.action_lift (e.compile_touches data)) (by decide) fun artifact => ?_
  cases artifact with
  | none => exact fun h i h' hrun => nomatch hrun
  | some artifact =>
    refine around fun made h i h' hrun => ?_
    cases made with
    | none => cases hrun
    | some handle =>
      cases hrun
      exact ⟨rfl, rfl, rfl⟩

theorem ofFile (path : String) (engine : Option Engine) :
    Instantiates (Instance.ofFile path engine) :=
  bind (Host.engineOr_touches engine) (by decide) fun e =>
    bind (e.fetchBytes_touches path) (by decide) fun data => build e data _

theorem ofBytes (data : Guest.Image) (engine : Option Engine) :
    Instantiates (Instance.ofBytes data engine) :=
  bind (Host.engineOr_touches engine) (by decide) fun e => build e data _

end Instantiates

namespace Operation

/-- An operation on a thread makes an instance on an engine, as a whole or as a handle by itself. -/
inductive Makes (op : Operation) (thread : Thread) (h : Host) : Engine → Handle → Prop where
  | running {i : Instance} (made : op.outcome thread h = .ok (.running i)) :
      Makes op thread h i.engine i.handle
  | handle {e : Engine} {asked : EngineCall} {handle : Handle} (hop : op = .engineCall e asked)
      (made : op.outcome thread h = .ok (.reply (.handle (some handle)))) :
      Makes op thread h e handle

-- What an operation makes begins with the budget of the engine.
theorem Makes.instantiated {op : Operation} {thread : Thread} {h : Host} {e : Engine}
    {handle : Handle} (makes : op.Makes thread h e handle) :
    handle.Instantiated e h (op.after thread h) := by
  cases makes with
  | @running i made =>
    obtain ⟨a, making, hrun⟩ := making_of_running made
    have instantiates : Instantiates a := by
      cases making with
      | newInstance m => exact .newInstance m
      | ofFile path engine => exact .ofFile path engine
      | ofBytes data engine => exact .ofBytes data engine
    exact { instantiates _ i _ hrun with }
  | @handle e asked handle hop made =>
    subst hop
    obtain ⟨reply, hreply, hanswer⟩ := Action.ok_of_map made
    cases hanswer
    rw [after_of_perform rfl]
    cases asked with
    | newInstance artifact =>
      obtain ⟨result, hresult, hhandle⟩ := Action.ok_of_map hreply
      cases hhandle
      have made : (e.newInstance artifact).run (h.onThread thread) = (some handle, _) :=
        Prod.ext (Except.ok.inj hresult) rfl
      exact { e.newInstance_instantiated made with }
    | newInstanceFromBytes data =>
      obtain ⟨result, hresult, hhandle⟩ := Action.ok_of_map hreply
      cases hhandle
      have made : (e.newInstanceFromBytes data).run (h.onThread thread) = (some handle, _) :=
        Prod.ext (Except.ok.inj hresult) rfl
      exact { e.newInstanceFromBytes_instantiated made with }
    -- no other call of an engine gives a handle
    | exportNames | functionNames | memorySize | memoryRead => cases hreply
    | _ =>
      obtain ⟨result, -, hhandle⟩ := Action.ok_of_map hreply
      cases hhandle

/-- The fuel that a new instance starts with is the budget of its engine as a meter takes it. -/
theorem Makes.startsWith_iff (metering : Guest.Metering) {op : Operation} {thread : Thread}
    {h : Host} {e : Engine} {handle : Handle} (makes : op.Makes thread h e handle)
    (metered : e.Metered) {n : Nat} :
    Guest.StartsWith handle.program n ((op.after thread h).guest handle) ↔
      n = fuelMeter e.settings.values.fuel := by
  have hguest := makes.instantiated.guest
  rw [metered.budget] at hguest
  have starts : Guest.StartsWith handle.program (fuelMeter e.settings.values.fuel)
      ((op.after thread h).guest handle) := hguest
  exact ⟨fun starts' => starts'.unique metering starts, fun hn => hn ▸ starts⟩

end Operation

/-- An action makes an instance of a program on an engine if the program can be instantiated there,
and fails if it cannot. -/
structure Engine.Launches (e : Engine) (p : Guest.Program) (a : HostAction Instance) : Prop where
  begins {h h' : Host} {i : Instance} (hrun : a.run.run h = (.ok i, h')) :
    ∃ guest, Guest.instantiate p e.budget = .ok guest ∧ i.Begins e p guest h'
  runs {guest : Guest.State} (hguest : Guest.instantiate p e.budget = .ok guest) (h : Host) :
    ∃ i h', a.run.run h = (.ok i, h') ∧ i.Begins e p guest h'

theorem Engine.Launches.of_results {e : Engine} {p : Guest.Program} {a : HostAction Instance}
    (fails : ∀ diagnostic, Guest.instantiate p e.budget = .error diagnostic → ∀ h,
      ∃ failure, (a.run.run h).1 = .error failure)
    (begins : ∀ guest, Guest.instantiate p e.budget = .ok guest → ∀ h,
      ∃ i, (a.run.run h).1 = .ok i ∧ i.Begins e p guest (a.run.run h).2) : e.Launches p a where
  begins {h h' i} hrun := by
    cases hguest : Guest.instantiate p e.budget with
    | error diagnostic =>
      obtain ⟨failure, hfails⟩ := fails diagnostic hguest h
      rw [hrun] at hfails
      cases hfails
    | ok guest =>
      obtain ⟨j, hj, hbegins⟩ := begins guest hguest h
      rw [hrun] at hj hbegins
      cases hj
      exact ⟨guest, rfl, hbegins⟩
  runs {guest} hguest h := by
    obtain ⟨i, hi, hbegins⟩ := begins guest hguest h
    exact ⟨i, _, Prod.ext hi rfl, hbegins⟩

theorem CompiledModule.newInstance_launches (m : CompiledModule) :
    m.engine.Launches m.artifact.compiled.program m.newInstance := by
  refine .of_results (fun diagnostic hguest h => ⟨_, m.newInstance_fails h hguest⟩) ?_
  intro guest hguest h
  obtain ⟨i, hi, begins, -⟩ := m.newInstance_begins h hguest
  exact ⟨i, hi, begins⟩

/-- Bytes that spell no program make no instance; those that do make one of it. -/
theorem Instance.ofBytes_launches {d : Guest.Image} {e : Engine} {h h' : Host} {i : Instance}
    (hrun : (Instance.ofBytes d (some e)).run.run h = (.ok i, h')) :
    ∃ p, ∀ e' : Engine, e'.Launches p (Instance.ofBytes d (some e')) := by
  cases hd : Guest.compile d with
  | error diagnostic =>
    obtain ⟨headline, hfails⟩ := (Engine.Verdict.uncompiled hd : e.Verdict d _).ofBytes h
    rw [hrun] at hfails
    cases hfails
  | ok p =>
    -- bytes spell the same program on every engine
    refine ⟨p, fun e' => .of_results ?_ ?_⟩
    · intro diagnostic hguest h
      obtain ⟨headline, hfails⟩ := (Engine.Verdict.uninstantiated hd hguest).ofBytes h
      exact ⟨_, hfails⟩
    · intro guest hguest h
      obtain ⟨i, hi, begins, -⟩ := (Engine.Verdict.begins hd hguest).ofBytes h
      exact ⟨i, hi, begins⟩

/-- An instance in a state is of the same program as another in another state, and behind it: its
guest is in the same state, with no more fuel. -/
structure Instance.Behind (i : Instance) (h : Host) (j : Instance) (h' : Host) : Prop where
  program : j.handle.program = i.handle.program
  guest : (h.guest i.handle).Behind (h'.guest j.handle)

/-- An instance that is made on one engine can be made on any with a larger budget. -/
theorem Engine.Launches.behind (metering : Guest.Metering) {e e' : Engine} {p : Guest.Program}
    {a a' : HostAction Instance} (launches : e.Launches p a) (launches' : e'.Launches p a')
    (metered : e.Metered) (metered' : e'.Metered)
    (hle : fuelMeter e.settings.values.fuel ≤ fuelMeter e'.settings.values.fuel) {h h₁ : Host}
    {i : Instance} (hrun : a.run.run h = (.ok i, h₁)) (h' : Host) :
    ∃ j h₁', a'.run.run h' = (.ok j, h₁') ∧ i.Behind h₁ j h₁' := by
  obtain ⟨guest, hguest, begins⟩ := launches.begins hrun
  rw [metered.budget] at hguest
  -- the budgets are in order as the meters take them, not as the settings give them
  obtain ⟨guest', hguest', behind⟩ := Guest.instantiate_behind metering hle hguest
  rw [← metered'.budget] at hguest'
  obtain ⟨j, h₁', hrun', begins'⟩ := launches'.runs hguest' h'
  refine ⟨j, h₁', hrun', begins'.program.trans begins.program.symm, ?_⟩
  rw [begins.guest, begins'.guest]
  exact behind

end WasmHost
