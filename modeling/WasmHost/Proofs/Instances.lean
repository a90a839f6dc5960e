import WasmHost.Proofs.Operation
/-!
The instances of a process have nothing in common.

Every instance is made together with a handle of its own. So no two instances that a process knows
have the same handle, and what is kept under the handle of one is not kept of another.
-/
namespace WasmHost

variable {α : Type} {used : Set Object}

theorem Ledger.handle_issued {h : Host} {K : Set Object} (ledger : Ledger h K) {i : Instance}
    (hi : .running i ∈ K) : i.handle.serial < h.nextSerial := by
  have hpart : Object.handle i.handle ∈ (Object.running i).parts :=
    List.mem_cons_of_mem _ List.mem_cons_self
  exact ledger.issued (ledger.parts hi hpart)

/-- An action that uses some objects gives no instance but one with a new handle. -/
def MakesAnew (used : Set Object) (a : HostAction Instance) : Prop :=
  ∀ h K, Ledger h K → used ⊆ K → ∀ i, (a.run.run h).1 = .ok i → h.nextSerial ≤ i.handle.serial

namespace MakesAnew

theorem bind {M : α → Set Object} {a : HostAction α} {f : α → HostAction Instance}
    (ha : Issues used a.run (onOk M)) (hf : ∀ x, MakesAnew (used ∪ M x) (f x)) :
    MakesAnew used (a >>= f) := by
  intro h K ledger hused i hi
  -- the first step leaves a ledger, and what is new in it is new before that step
  obtain ⟨K₁, grows, ledger₁, hgiven⟩ := ha h K ledger hused
  rw [Action.run_bind] at hi
  rcases hrun : a.run.run h with ⟨result, h₁⟩
  rw [hrun] at grows ledger₁ hgiven hi
  cases result with
  | error failure => cases hi
  -- a failure makes no instance
  | ok x =>
    have hused₁ : used ∪ M x ⊆ K₁ :=
      Set.union_subset (fun _ ho => grows.kept (hused ho)) hgiven
    exact grows.later.trans (hf x h₁ K₁ ledger₁ hused₁ i hi)

variable [Platform]

/-- The handle of an instance is the one that the engine has made for it. -/
theorem instantiate {e : Engine} {artifact : Artifact} {f : Option Handle → HostAction Instance}
    (hf : ∀ handle h i, ((f handle).run.run h).1 = .ok i → handle = some i.handle) :
    MakesAnew used ((liftM (e.newInstance artifact) : HostAction (Option Handle)) >>= f) := by
  -- an instance is made under the next number of the state that the engine is in
  intro h K _ _ i hi
  rw [Action.run_lift_bind] at hi
  have hhandle := hf _ _ i hi
  unfold Engine.newInstance at hhandle
  cases hguest : Guest.instantiate artifact.compiled.program e.budget with
  | error diagnostic =>
    rw [hguest] at hhandle
    cases hhandle
  | ok guest =>
    rw [hguest] at hhandle
    exact Nat.le_of_eq (congrArg Handle.serial (Option.some.inj hhandle))

omit [Platform] in
theorem refusal (e : Engine) (fault : Option String → Fault) :
    MakesAnew used (do Action.fail (fault (← e.lastError))) :=
  fun _ _ _ _ _ hi => nomatch hi

theorem newInstance (m : CompiledModule) : MakesAnew used m.newInstance := by
  refine instantiate fun handle h i hi => ?_
  cases handle with
  | none => cases hi
  | some handle =>
    cases hi
    rfl

theorem build {e : Engine} (he : .engine e ∈ used) (data : Guest.Image) (headline : String) :
    MakesAnew used (Instance.build e data headline) := by
  -- without an artifact the making is refused; with one, it is made of the handle that there is
  refine bind (.action_lift (Engine.compile_issues he data)) fun artifact => ?_
  cases artifact with
  | none => exact refusal e _
  | some artifact =>
    refine instantiate fun handle h i hi => ?_
    cases handle with
    | none => cases hi
    | some handle =>
      cases hi
      rfl

theorem ofFile {engine : Option Engine} (he : ∀ e, engine = some e → .engine e ∈ used)
    (path : String) : MakesAnew used (Instance.ofFile path engine) :=
  bind (Host.engineOr_issues he) fun e => bind (e.fetchBytes_issues path) fun data =>
    build (Or.inl (Or.inr rfl)) data _

theorem ofBytes {engine : Option Engine} (he : ∀ e, engine = some e → .engine e ∈ used)
    (data : Guest.Image) : MakesAnew used (Instance.ofBytes data engine) :=
  bind (Host.engineOr_issues he) fun _ => build (Or.inr rfl) data _

end MakesAnew

-- Only two kinds of answers have an instance in them.
theorem Answer.of_running_mem {answer : Answer} {i : Instance} (hi : .running i ∈ answer.objects) :
    answer = .running i ∨ answer = .found i .owner := by
  cases answer with
  | running j =>
    cases hi
    exact Or.inl rfl
  | found j attr =>
    cases attr with
    | owner =>
      cases hi
      exact Or.inr rfl
    | exported f => cases hi
    | ownMember name => exact absurd hi (Set.notMem_empty _)
  | settings x | engine x | cache x | compiled x | function x => cases hi
  | entry x | view x => cases x <;> cases hi
  | reply result =>
    cases result with
    | artifact x | handle x | view x => cases x <;> cases hi
    | _ => exact absurd hi (Set.notMem_empty _)
  | _ => exact absurd hi (Set.notMem_empty _)

theorem onOk_running_unique {outcome : Except Failure Answer} {i j : Instance}
    (hi : .running i ∈ onOk Answer.objects outcome)
    (hj : .running j ∈ onOk Answer.objects outcome) : i = j := by
  cases outcome with
  | error failure => exact absurd hi (Set.notMem_empty _)
  | ok answer =>
    rcases Answer.of_running_mem hi with rfl | rfl
    · cases hj
      rfl
    · cases hj
      rfl

variable [Platform]

-- An operation that gives an instance uses it, or makes it with a new handle.
theorem Operation.running_new {h : Host} {K : Set Object} (ledger : Ledger h K) {op : Operation}
    (hop : op.objects ⊆ K) (thread : Thread) {i : Instance}
    (hi : .running i ∈ onOk Answer.objects (op.outcome thread h)) :
    .running i ∈ op.objects ∨ h.nextSerial ≤ i.handle.serial := by
  have makes {a : HostAction Instance} (anew : MakesAnew op.objects a)
      (hperform : op.perform = do return .running (← a)) : h.nextSerial ≤ i.handle.serial := by
    rw [outcome_of_perform hperform] at hi
    cases hresult : (a.run.run (h.onThread thread)).1 with
    | error failure =>
      rw [hresult] at hi
      exact absurd hi (Set.notMem_empty _)
    | ok j =>
      rw [hresult] at hi
      cases hi
      exact anew _ K (ledger.onThread thread) hop i hresult
  cases hanswer : op.outcome thread h with
  | error failure =>
    rw [hanswer] at hi
    exact absurd hi (Set.notMem_empty _)
  | ok answer =>
    have hgiven : answer = .running i ∨ answer = .found i .owner :=
      Answer.of_running_mem (by rwa [hanswer] at hi)
    cases op with
    | newInstance m => exact Or.inr (makes (.newInstance m) rfl)
    | instanceOfFile path engine =>
      exact Or.inr (makes (.ofFile (of_optional fun _ ho => ho) path) rfl)
    | instanceOfBytes data engine =>
      exact Or.inr (makes (.ofBytes (of_optional fun _ ho => ho) data) rfl)
    | getAttribute j name =>
      obtain ⟨x, -, rfl⟩ := Action.ok_of_map hanswer
      rcases hgiven with hgiven | hgiven
      · cases hgiven
      · cases hgiven
        exact Or.inl rfl
    | view v request =>
      unfold outcome perform at hanswer
      rw [Action.run_get_bind] at hanswer
      split at hanswer
      · cases hanswer
        rcases hgiven with hgiven | hgiven <;> cases hgiven
      · cases hanswer
    | resetSettings | cacheClear c =>
      cases hanswer
      rcases hgiven with hgiven | hgiven <;> cases hgiven
    | _ =>
      obtain ⟨x, -, rfl⟩ := Action.ok_of_map hanswer
      rcases hgiven with hgiven | hgiven <;> cases hgiven

omit [Platform] in
/-- An instance that is known was given by an event: it is no part of other objects. -/
theorem Known.running {events : List Event} {i : Instance} (known : .running i ∈ Known events) :
    ∃ event ∈ events, Object.running i ∈ onOk Answer.objects event.outcome := by
  cases known with
  | self ho => exact ho
  | @part o _ _ hp => cases o <;> simp [Object.parts] at hp

/-- No two instances that a process knows have the same handle. -/
theorem History.handles_distinct {events : List Event} {h : Host} (history : History events h)
    {i j : Instance} (hi : .running i ∈ Known events) (hj : .running j ∈ Known events)
    (hne : i ≠ j) : i.handle.serial ≠ j.handle.serial := by
  -- by induction on the history: an event gives a known instance, or one with a new handle
  induction history generalizing i j with
  | start context files =>
    obtain ⟨event, hevent, -⟩ := Known.running hi
    exact absurd hevent List.not_mem_nil
  | surroundings past context files serializeFault ih => exact ih hi hj hne
  | @perform events h past thread op known ih =>
    obtain ⟨K, ledger, hknown⟩ := past.ledger
    have hcases {k : Instance} (hk : .running k ∈ Known (events ++ [op.event thread h])) :
        .running k ∈ Known events ∨ .running k ∈ onOk Answer.objects (op.outcome thread h) ∧
          h.nextSerial ≤ k.handle.serial := by
      obtain ⟨event, hevent, hgiven⟩ := Known.running hk
      rcases List.mem_append.mp hevent with hearlier | hlast
      · exact Or.inl (.given hearlier hgiven)
      · cases List.mem_singleton.mp hlast
        exact (op.running_new ledger (fun _ ho => hknown (known ho)) thread hgiven).imp
          (fun hop => known hop) fun hnew => ⟨hgiven, hnew⟩
    have hold {k : Instance} (hk : .running k ∈ Known events) :
        k.handle.serial < h.nextSerial := ledger.handle_issued (hknown hk)
    rcases hcases hi with hi | ⟨hi, hnewi⟩
    · rcases hcases hj with hj | ⟨-, hnewj⟩
      · exact ih hi hj hne
      · exact Nat.ne_of_lt (Nat.lt_of_lt_of_le (hold hi) hnewj)
    · rcases hcases hj with hj | ⟨hj, -⟩
      · exact Nat.ne_of_gt (Nat.lt_of_lt_of_le (hold hj) hnewi)
      · exact absurd (onOk_running_unique hi hj) hne

end WasmHost
