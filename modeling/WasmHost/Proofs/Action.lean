import WasmHost.Fault
/-!
Running actions: what the building blocks of an action come to from a state.

An action that fails keeps the state it has reached, and nothing after the failure runs.
-/
namespace WasmHost

variable {σ α β : Type}

theorem stateM_run_bind (a : StateM σ α) (f : α → StateM σ β) (s : σ) :
    (a >>= f).run s = (f (a.run s).1).run (a.run s).2 := rfl

theorem stateM_run_get (f : σ → StateM σ β) (s : σ) : (get >>= f).run s = (f s).run s := rfl

theorem exceptMap_eq_error {ε : Type} {r : Except ε α} {f : α → β} {e : ε} :
    r.map f = .error e ↔ r = .error e := by
  cases r with
  | error e' =>
    constructor <;> rintro ⟨⟩ <;> rfl
  | ok x =>
    constructor <;> rintro ⟨⟩

namespace Action

theorem run_lift (a : StateM σ α) (s : σ) :
    (liftM a : Action σ α).run.run s = (.ok (a.run s).1, (a.run s).2) := rfl

/-- Running two steps in sequence: the second runs only when the first has given something. -/
theorem run_bind (a : Action σ α) (f : α → Action σ β) (s : σ) :
    (a >>= f).run.run s = match a.run.run s with
      | (.ok x, s') => (f x).run.run s'
      | (.error e, s') => (.error e, s') := by
  change (ExceptT.bind a f : StateM σ _) s = _
  simp only [ExceptT.bind, ExceptT.mk, bind, StateT.bind]
  rcases h : a s with ⟨r, s'⟩
  have hr : a.run.run s = (r, s') := h
  rw [hr]
  cases r <;> rfl

theorem run_bind_ok {a : Action σ α} {f : α → Action σ β} {s s' : σ} {x : α}
    (h : a.run.run s = (.ok x, s')) : (a >>= f).run.run s = (f x).run.run s' := by
  rw [run_bind, h]

theorem run_bind_error {a : Action σ α} {f : α → Action σ β} {s s' : σ} {e : Failure}
    (h : a.run.run s = (.error e, s')) : (a >>= f).run.run s = (.error e, s') := by
  rw [run_bind, h]

theorem run_lift_bind (a : StateM σ α) (f : α → Action σ β) (s : σ) :
    ((liftM a : Action σ α) >>= f).run.run s = (f (a.run s).1).run.run (a.run s).2 := by
  rw [run_bind, run_lift]

theorem run_get_bind (f : σ → Action σ β) (s : σ) :
    ((get : Action σ σ) >>= f).run.run s = (f s).run.run s := run_lift_bind get f s

theorem run_modify_bind (g : σ → σ) (f : PUnit → Action σ β) (s : σ) :
    ((modify g : Action σ PUnit) >>= f).run.run s = (f ⟨⟩).run.run (g s) :=
  run_lift_bind (modify g) f s

theorem run_bind_pure (a : Action σ α) (f : α → β) (s : σ) :
    (a >>= fun x => pure (f x)).run.run s = ((a.run.run s).1.map f, (a.run.run s).2) := by
  rw [run_bind]
  rcases a.run.run s with ⟨_ | _, s'⟩ <;> rfl

-- Something else is given in place of a result only where there is one.
theorem ok_of_map {a : Action σ α} {f : α → β} {s : σ} {y : β}
    (h : ((do return f (← a) : Action σ β).run.run s).1 = .ok y) :
    ∃ x, (a.run.run s).1 = .ok x ∧ f x = y := by
  rw [run_bind_pure] at h
  rcases hr : (a.run.run s).1 with e | x
  · rw [hr] at h
    cases h
  · rw [hr] at h
    exact ⟨x, rfl, Except.ok.inj h⟩

theorem error_of_map {a : Action σ α} {f : α → β} {s : σ} {e : Failure}
    (h : ((do return f (← a) : Action σ β).run.run s).1 = .error e) :
    (a.run.run s).1 = .error e := by
  rw [run_bind_pure] at h
  exact exceptMap_eq_error.mp h

end Action
end WasmHost
