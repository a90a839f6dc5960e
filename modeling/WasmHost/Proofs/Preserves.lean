import WasmHost.Invocation
import WasmHost.Proofs.Action
/-!
Properties of a state that operations keep.

A property that is kept by the operations of an engine is kept by everything on the call path, which
reaches the state through them only.
-/
namespace WasmHost

variable {σ η α β : Type}

/-- An operation keeps a property of the state, whatever it gives. -/
def Preserves (I : σ → Prop) (a : StateM σ α) : Prop := ∀ s, I s → I (a.run s).2

namespace Preserves

variable {I : σ → Prop}

theorem pure (x : α) : Preserves I (Pure.pure x : StateM σ α) := fun _ h => h

theorem bind {a : StateM σ α} {f : α → StateM σ β} (ha : Preserves I a)
    (hf : ∀ x, Preserves I (f x)) : Preserves I (a >>= f) :=
  fun s h => hf _ _ (ha s h)

theorem get : Preserves I (MonadState.get : StateM σ σ) := fun _ h => h

theorem action_pure (x : α) : Preserves I (Pure.pure x : Action σ α).run := fun _ h => h

theorem action_fail (fault : Fault) : Preserves I (Action.fail fault : Action σ α).run :=
  fun _ h => h

theorem action_lift {a : StateM σ α} (ha : Preserves I a) :
    Preserves I (liftM a : Action σ α).run := ha

theorem action_bind {a : Action σ α} {f : α → Action σ β} (ha : Preserves I a.run)
    (hf : ∀ x, Preserves I (f x).run) : Preserves I (a >>= f).run := by
  intro s h
  rw [Action.run_bind]
  have hs := ha s h
  rcases hr : a.run.run s with ⟨r, s'⟩
  rw [hr] at hs
  cases r with
  | ok x => exact hf x s' hs
  | error e => exact hs

theorem action_check (fault : Option Fault) :
    Preserves I (Action.check fault : Action σ Unit).run := by
  cases fault with
  | none => exact action_pure ()
  | some fault => exact action_fail _

end Preserves

/-- The operations of an engine keep a property of the state, as far as an instance is concerned. -/
structure Invoker.Preserves (engine : Invoker σ η) (handle : η) (I : σ → Prop) : Prop where
  signature? (name : String) : WasmHost.Preserves I (engine.signature? handle name)
  lastError : WasmHost.Preserves I engine.lastError
  makeValue (kind : ValueKind) (a : HostValue) : WasmHost.Preserves I (engine.makeValue kind a).run
  invoke (name : String) (values : List Value) :
    WasmHost.Preserves I (engine.invoke handle name values).run
  noteFailure (name : String) (diagnostic : Option String) :
    WasmHost.Preserves I (engine.noteFailure name diagnostic)

theorem Invoker.resolve_preserves {engine : Invoker σ η} {handle : η} {name : String} {I : σ → Prop}
    (hs : WasmHost.Preserves I (engine.signature? handle name))
    (hd : WasmHost.Preserves I engine.lastError) :
    WasmHost.Preserves I (engine.resolve handle name).run := by
  refine (WasmHost.Preserves.action_lift hs).action_bind fun signature => ?_
  cases signature with
  | some signature => exact .action_pure signature
  | none =>
    refine (WasmHost.Preserves.action_lift hd).action_bind fun diagnostic => ?_
    cases diagnostic with
    | none => exact .action_fail _
    | some diagnostic => exact .action_fail _

namespace Invoker.Preserves

variable {engine : Invoker σ η} {handle : η} {I : σ → Prop} (h : engine.Preserves handle I)

include h

theorem marshalOne (function : String) (position : Int) (kind : ValueKind) (a : HostValue) :
    WasmHost.Preserves I (engine.marshalOne function position kind a).run := by
  refine (WasmHost.Preserves.action_check _).action_bind fun _ => ?_
  refine (h.makeValue kind a).action_bind fun made => ?_
  cases made with
  | some value => exact .action_pure value
  | none => exact .action_fail _

theorem marshalFrom (function : String) (position : Nat) (kinds : List ValueKind)
    (arguments : List HostValue) :
    WasmHost.Preserves I (engine.marshalFrom function position kinds arguments).run := by
  induction kinds generalizing position arguments with
  | nil => cases arguments <;> exact .action_pure []
  | cons kind kinds ih =>
    cases arguments with
    | nil => exact .action_pure []
    | cons a arguments =>
      refine (h.marshalOne function position kind a).action_bind fun value => ?_
      exact (ih (position + 1) arguments).action_bind fun values => .action_pure (value :: values)

theorem call (name : String) (signature : Signature) (arguments : List HostValue) :
    WasmHost.Preserves I (engine.call handle name signature arguments).run := by
  refine WasmHost.Preserves.action_bind ?_ fun values => ?_
  · exact (WasmHost.Preserves.action_check _).action_bind fun _ => h.marshalFrom name 1 _ arguments
  · refine (h.invoke name values).action_bind fun outcome => ?_
    cases outcome with
    | returned result => exact .action_pure result
    | failed =>
      refine (WasmHost.Preserves.action_lift h.lastError).action_bind fun diagnostic => ?_
      exact (WasmHost.Preserves.action_lift (h.noteFailure name diagnostic)).action_bind fun _ =>
        .action_fail _

theorem dispatch (name : String) (arguments : List HostValue) :
    WasmHost.Preserves I (engine.dispatch handle name arguments).run :=
  (resolve_preserves (h.signature? name) h.lastError).action_bind fun signature =>
    h.call name signature arguments

end Invoker.Preserves
end WasmHost
