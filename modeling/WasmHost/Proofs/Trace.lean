import WasmHost.Invocation
import WasmHost.Proofs.Action
/-!
Watching a call: an engine that lists what it is asked.

The engine that is watched answers as before, on the first part of a larger state. The second part
lists the values it was asked to make and the functions it was asked to invoke.
-/
namespace WasmHost

variable {σ τ η α β : Type}

/-- What a call asks of an engine when it has a signature. -/
inductive Request (η : Type) where
  | make (kind : ValueKind) (argument : HostValue)
  | invoke (handle : η) (name : String) (values : List Value)

/-- The invocation that a request asks for, if it asks for one. -/
def Request.invocation? : Request η → Option (η × String × List Value)
  | make _ _ => none
  | invoke handle name values => some (handle, name, values)

/-- The invocations among requests, in order. -/
def invocations (requests : List (Request η)) : List (η × String × List Value) :=
  requests.filterMap Request.invocation?

/-- An operation on the first part of a state. -/
def besides (a : StateM σ α) : StateM (σ × τ) α :=
  modifyGet fun (s, t) => ((a.run s).1, ((a.run s).2, t))

/-- An action on the first part of a state. -/
def Action.besides (a : Action σ α) : Action (σ × τ) α := ExceptT.mk (WasmHost.besides a.run)

/-- Adds a request to the list. -/
def noteRequest (request : Request η) : Action (σ × List (Request η)) Unit :=
  modify fun (s, requests) => (s, requests ++ [request])

/-- An engine together with the list of what it is asked to make and to invoke. -/
def Invoker.traced (engine : Invoker σ η) : Invoker (σ × List (Request η)) η where
  signature? handle name := besides (engine.signature? handle name)
  lastError := besides engine.lastError
  makeValue kind argument := do
    noteRequest (.make kind argument)
    (engine.makeValue kind argument).besides
  invoke handle name values := do
    noteRequest (.invoke handle name values)
    (engine.invoke handle name values).besides
  noteFailure function diagnostic := besides (engine.noteFailure function diagnostic)

theorem invocations_eq_nil {requests : List (Request η)}
    (h : ∀ r ∈ requests, ∃ kind argument, r = .make kind argument) : invocations requests = [] := by
  refine List.filterMap_eq_nil_iff.mpr ?_
  intro r hr
  obtain ⟨kind, argument, rfl⟩ := h r hr
  rfl

theorem invocations_append (first second : List (Request η)) :
    invocations (first ++ second) = invocations first ++ invocations second :=
  List.filterMap_append

/-- A watched action mirrors another one: it gives the same and leaves the same first part of the
state, whatever the list holds. -/
def Mirrors (watched : Action (σ × τ) α) (plain : Action σ α) : Prop :=
  ∀ s t, (watched.run.run (s, t)).1 = (plain.run.run s).1 ∧
    (watched.run.run (s, t)).2.1 = (plain.run.run s).2

namespace Mirrors

theorem fail (fault : Fault) :
    Mirrors (Action.fail fault : Action (σ × τ) α) (Action.fail fault) :=
  fun _ _ => ⟨rfl, rfl⟩

theorem pure (x : α) : Mirrors (Pure.pure x : Action (σ × τ) α) (Pure.pure x) :=
  fun _ _ => ⟨rfl, rfl⟩

theorem lift (a : StateM σ α) :
    Mirrors (liftM (besides a : StateM (σ × τ) α) : Action (σ × τ) α) (liftM a) :=
  fun _ _ => ⟨rfl, rfl⟩

theorem bind {a : Action (σ × τ) α} {b : Action σ α} {f : α → Action (σ × τ) β}
    {g : α → Action σ β} (ha : Mirrors a b) (hf : ∀ x, Mirrors (f x) (g x)) :
    Mirrors (a >>= f) (b >>= g) := by
  intro s t
  obtain ⟨hr, hs⟩ := ha s t
  rw [Action.run_bind, Action.run_bind]
  rcases hb : b.run.run s with ⟨r, s'⟩
  rcases hw : a.run.run (s, t) with ⟨r', s'', t'⟩
  rw [hb, hw] at hr hs
  obtain rfl : r' = r := hr
  obtain rfl : s'' = s' := hs
  cases r' with
  | ok x => exact hf x s'' t'
  | error e => exact ⟨rfl, rfl⟩

theorem check (fault : Option Fault) :
    Mirrors (Action.check fault : Action (σ × τ) Unit) (Action.check fault) := by
  cases fault with
  | none => exact pure ()
  | some fault => exact fail _

end Mirrors

namespace Invoker

variable (engine : Invoker σ η)

theorem traced_makeValue_run (kind : ValueKind) (argument : HostValue) (s : σ)
    (requests : List (Request η)) :
    (engine.traced.makeValue kind argument).run.run (s, requests) =
      (((engine.makeValue kind argument).run.run s).1,
        ((engine.makeValue kind argument).run.run s).2, requests ++ [.make kind argument]) := rfl

theorem traced_invoke_run (handle : η) (name : String) (values : List Value) (s : σ)
    (requests : List (Request η)) :
    (engine.traced.invoke handle name values).run.run (s, requests) =
      (((engine.invoke handle name values).run.run s).1,
        ((engine.invoke handle name values).run.run s).2,
        requests ++ [.invoke handle name values]) := rfl

theorem traced_makeValue_mirrors (kind : ValueKind) (argument : HostValue) :
    Mirrors (engine.traced.makeValue kind argument) (engine.makeValue kind argument) := by
  intro s t
  rw [traced_makeValue_run]
  exact ⟨rfl, rfl⟩

theorem traced_invoke_mirrors (handle : η) (name : String) (values : List Value) :
    Mirrors (engine.traced.invoke handle name values) (engine.invoke handle name values) := by
  intro s t
  rw [traced_invoke_run]
  exact ⟨rfl, rfl⟩

theorem traced_resolve_mirrors (handle : η) (name : String) :
    Mirrors (engine.traced.resolve handle name) (engine.resolve handle name) := by
  refine (Mirrors.lift _).bind fun signature => ?_
  cases signature with
  | some signature => exact .pure signature
  | none =>
    refine (Mirrors.lift _).bind fun diagnostic => ?_
    cases diagnostic with
    | none => exact .fail _
    | some d => exact .fail _

theorem traced_marshalFrom_mirrors (function : String) (position : Nat) (kinds : List ValueKind)
    (arguments : List HostValue) :
    Mirrors (engine.traced.marshalFrom function position kinds arguments)
      (engine.marshalFrom function position kinds arguments) := by
  induction kinds generalizing position arguments with
  | nil => cases arguments <;> exact .pure []
  | cons kind kinds ih =>
    cases arguments with
    | nil => exact .pure []
    | cons argument arguments =>
      refine Mirrors.bind ?_ fun value => (ih (position + 1) arguments).bind fun values =>
        .pure (value :: values)
      refine (Mirrors.check _).bind fun _ => ?_
      refine (traced_makeValue_mirrors engine kind argument).bind fun made => ?_
      cases made with
      | some value => exact .pure value
      | none => exact .fail _

theorem traced_call_mirrors (handle : η) (name : String) (signature : Signature)
    (arguments : List HostValue) :
    Mirrors (engine.traced.call handle name signature arguments)
      (engine.call handle name signature arguments) := by
  refine ((Mirrors.check _).bind fun _ => traced_marshalFrom_mirrors engine name 1 _ _).bind
    fun values => ?_
  refine (traced_invoke_mirrors engine handle name values).bind fun outcome => ?_
  cases outcome with
  | returned result => exact .pure result
  | failed =>
    exact (Mirrors.lift _).bind fun d => (Mirrors.lift _).bind fun _ => .fail _

theorem traced_dispatch_mirrors (handle : η) (name : String) (arguments : List HostValue) :
    Mirrors (engine.traced.dispatch handle name arguments)
      (engine.dispatch handle name arguments) :=
  (traced_resolve_mirrors engine handle name).bind fun signature =>
    traced_call_mirrors engine handle name signature arguments

end Invoker
end WasmHost
