import Mathlib.Data.List.Forall2
import WasmHost.Proofs.Argument
import WasmHost.Proofs.Trace
/-!
What a dispatch does on any engine.

An engine may answer whatever it likes, and each answer may depend on what it was asked before. A
dispatch is either accepted or refused. If it is accepted, the engine is asked once to invoke the
function, on the values it made itself; if it is refused, the engine is not asked to invoke
anything, and the failure is that of the first stage that fails.
-/
namespace WasmHost
namespace Invoker

variable {σ η : Type} (engine : Invoker σ η)

/-- The engine makes these values of arguments, one after the other. -/
inductive Makes : List ValueKind → List HostValue → σ → List Value → σ → Prop where
  | nil (s : σ) : Makes [] [] s [] s
  | cons {kind : ValueKind} {kinds : List ValueKind} {a : HostValue} {arguments : List HostValue}
      {v : Value} {values : List Value} {s s₁ s₂ : σ}
      (first : (engine.makeValue kind a).run.run s = (.ok (some v), s₁))
      (rest : Makes kinds arguments s₁ values s₂) :
      Makes (kind :: kinds) (a :: arguments) s (v :: values) s₂

/-- The argument at a position stops a call: it does not suit its kind, or the engine makes no value
of it, or fails to. -/
inductive StopsAt (function : String) (position : Nat) (kind : ValueKind) (a : HostValue) (s : σ) :
    Failure → σ → Prop where
  | misfit {fault : Fault} (h : ¬Suits kind a) (hf : Misfit function position kind a fault) :
      StopsAt function position kind a s fault.raised s
  | raised {failure : Failure} {s' : σ} (h : Suits kind a)
      (hm : (engine.makeValue kind a).run.run s = (.error failure, s')) :
      StopsAt function position kind a s failure s'
  | unmade {s' : σ} (h : Suits kind a)
      (hm : (engine.makeValue kind a).run.run s = (.ok none, s')) :
      StopsAt function position kind a s
        (Fault.unsupportedKind function position kind.name).raised s'

/-- The first of several arguments to stop a call, when the first of them stands at `position`: all
before it suit their kinds and have become values. -/
inductive StopsAmong (function : String) (position : Nat) (kinds : List ValueKind)
    (arguments : List HostValue) (s : σ) : Failure → σ → Prop where
  | first {before after : List ValueKind} {kind : ValueKind} {passed left : List HostValue}
      {a : HostValue} {values : List Value} {s₁ s₂ : σ} {failure : Failure}
      (hk : kinds = before ++ kind :: after) (ha : arguments = passed ++ a :: left)
      (suited : List.Forall₂ Suits before passed) (made : engine.Makes before passed s values s₁)
      (stopped : engine.StopsAt function (position + passed.length) kind a s₁ failure s₂) :
      StopsAmong function position kinds arguments s failure s₂

/-- A dispatch is accepted: the name has a signature, there are as many arguments as parameters,
every argument suits the kind at its position, and the engine makes a value of each. -/
inductive Accepts (handle : η) (name : String) (arguments : List HostValue) (s : σ)
    (values : List Value) (s' : σ) : Prop where
  | intro {signature : Signature} {s₁ : σ}
      (resolved : (engine.signature? handle name).run s = (some signature, s₁))
      (count : arguments.length = signature.arity)
      (suited : List.Forall₂ Suits signature.params arguments)
      (made : engine.Makes signature.params arguments s₁ values s')

/-- A dispatch is refused, with the failure of the first stage that fails: resolving the name, the
number of arguments, and the arguments in order. -/
inductive Refuses (handle : η) (name : String) (arguments : List HostValue) (s : σ) :
    Failure → σ → Prop where
  | unknown {s₁ s₂ : σ} (unresolved : (engine.signature? handle name).run s = (none, s₁))
      (silent : engine.lastError.run s₁ = (none, s₂)) :
      Refuses handle name arguments s (Fault.unknownFunction name) s₂
  | unresolved {s₁ s₂ : σ} {diagnostic : String}
      (unresolved : (engine.signature? handle name).run s = (none, s₁))
      (told : engine.lastError.run s₁ = (some diagnostic, s₂)) :
      Refuses handle name arguments s (Fault.unresolvedSignature name (some diagnostic)) s₂
  | missing {signature : Signature} {s₁ : σ}
      (resolved : (engine.signature? handle name).run s = (some signature, s₁))
      (few : arguments.length < signature.arity) :
      Refuses handle name arguments s
        (Fault.missingArguments name signature.arity arguments.length).raised s₁
  | extra {signature : Signature} {s₁ : σ}
      (resolved : (engine.signature? handle name).run s = (some signature, s₁))
      (many : signature.arity < arguments.length) :
      Refuses handle name arguments s
        (Fault.extraArguments name signature.arity arguments.length).raised s₁
  | argument {signature : Signature} {s₁ s₂ : σ} {failure : Failure}
      (resolved : (engine.signature? handle name).run s = (some signature, s₁))
      (count : arguments.length = signature.arity)
      (stopped : engine.StopsAmong name 1 signature.params arguments s₁ failure s₂) :
      Refuses handle name arguments s failure s₂

/-- How an invocation ends: with the result as it is, with the engine's last diagnostic when it
failed, or with what it raised. -/
inductive Ends (handle : η) (name : String) (values : List Value) (s : σ) :
    Except Failure HostValue → σ → Prop where
  | returned {result : HostValue} {s' : σ}
      (h : (engine.invoke handle name values).run.run s = (.ok (.returned result), s')) :
      Ends handle name values s (.ok result) s'
  | failed {diagnostic : Option String} {s₁ s₂ s₃ : σ}
      (h : (engine.invoke handle name values).run.run s = (.ok .failed, s₁))
      (told : engine.lastError.run s₁ = (diagnostic, s₂))
      (noted : (engine.noteFailure name diagnostic).run s₂ = ((), s₃)) :
      Ends handle name values s (.error (Fault.trapped name diagnostic)) s₃
  | raised {failure : Failure} {s' : σ}
      (h : (engine.invoke handle name values).run.run s = (.error failure, s')) :
      Ends handle name values s (.error failure) s'

/-- Requests to make values of arguments that suit their kinds. -/
def MakesSuited (requests : List (Request η)) : Prop :=
  ∀ r ∈ requests, ∃ kind a, r = .make kind a ∧ Suits kind a

theorem MakesSuited.invocations_eq_nil {requests : List (Request η)}
    (h : MakesSuited requests) : invocations requests = [] := by
  refine WasmHost.invocations_eq_nil fun r hr => ?_
  obtain ⟨kind, a, rfl, _⟩ := h r hr
  exact ⟨kind, a, rfl⟩

theorem MakesSuited.append {first second : List (Request η)} (h₁ : MakesSuited first)
    (h₂ : MakesSuited second) : MakesSuited (first ++ second) := by
  intro r hr
  rcases List.mem_append.mp hr with hr | hr
  · exact h₁ r hr
  · exact h₂ r hr

theorem MakesSuited.nil : MakesSuited ([] : List (Request η)) :=
  fun _ h => absurd h List.not_mem_nil

theorem MakesSuited.single {kind : ValueKind} {a : HostValue} (h : Suits kind a) :
    MakesSuited [(.make kind a : Request η)] := by
  intro r hr
  exact ⟨kind, a, List.mem_singleton.mp hr, h⟩

variable {engine}

theorem Makes.unique {kinds : List ValueKind} {arguments : List HostValue} {s : σ}
    {values values' : List Value} {t t' : σ} (h : engine.Makes kinds arguments s values t)
    (h' : engine.Makes kinds arguments s values' t') : values = values' ∧ t = t' := by
  -- by induction on the values made: each is what the engine answers, in a state that is determined
  induction h generalizing values' with
  | nil s =>
    cases h'
    exact ⟨rfl, rfl⟩
  | cons first rest ih =>
    cases h' with
    | cons first' rest' =>
      rw [first] at first'
      cases first'
      obtain ⟨rfl, rfl⟩ := ih rest'
      exact ⟨rfl, rfl⟩

theorem StopsAt.not_made {function : String} {position : Nat} {kind : ValueKind} {a : HostValue}
    {s s' t : σ} {failure : Failure} {v : Value}
    (h : engine.StopsAt function position kind a s failure s') (hs : Suits kind a) :
    (engine.makeValue kind a).run.run s ≠ (.ok (some v), t) := by
  -- it is a misfit, or the engine made no value of it
  intro hm
  cases h with
  | misfit hno _ => exact hno hs
  | raised _ hm' =>
    rw [hm'] at hm
    cases hm
  | unmade _ hm' =>
    rw [hm'] at hm
    cases hm

theorem StopsAmong.not_made {function : String} {position : Nat} {kinds : List ValueKind}
    {arguments : List HostValue} {s s' t : σ} {failure : Failure} {values : List Value}
    (h : engine.StopsAmong function position kinds arguments s failure s')
    (hs : List.Forall₂ Suits kinds arguments) : ¬engine.Makes kinds arguments s values t := by
  intro hm
  obtain ⟨rfl, rfl, -, made, stopped⟩ := h
  -- both runs make the same values up to the argument that stops the call
  induction made generalizing position values with
  | nil s =>
    cases hm with
    | cons first _ =>
      cases hs with
      | cons suits _ => exact stopped.not_made suits first
  | cons first _ ih =>
    cases hm with
    | cons first' rest' =>
      cases hs with
      | cons _ suits =>
        rw [first] at first'
        cases first'
        rw [List.length_cons, Nat.add_comm _ 1, ← Nat.add_assoc] at stopped
        exact ih stopped suits rest'

theorem Accepts.unique {handle : η} {name : String} {arguments : List HostValue} {s : σ}
    {values values' : List Value} {t t' : σ} (h : engine.Accepts handle name arguments s values t)
    (h' : engine.Accepts handle name arguments s values' t') : values = values' ∧ t = t' := by
  obtain ⟨resolved, _, _, made⟩ := h
  obtain ⟨resolved', _, _, made'⟩ := h'
  rw [resolved] at resolved'
  cases resolved'
  exact made.unique made'

theorem Refuses.not_accepts {handle : η} {name : String} {arguments : List HostValue} {s s' t : σ}
    {failure : Failure} {values : List Value}
    (h : engine.Refuses handle name arguments s failure s') :
    ¬engine.Accepts handle name arguments s values t := by
  rintro ⟨resolved', count', suited', made'⟩
  -- each refusal contradicts one part of being accepted
  cases h with
  | unknown unresolved _ =>
    rw [unresolved] at resolved'
    cases resolved'
  | unresolved unresolved _ =>
    rw [unresolved] at resolved'
    cases resolved'
  | missing resolved few =>
    rw [resolved] at resolved'
    cases resolved'
    omega
  | extra resolved many =>
    rw [resolved] at resolved'
    cases resolved'
    omega
  | argument resolved _ stopped =>
    rw [resolved] at resolved'
    cases resolved'
    exact stopped.not_made suited' made'

variable (engine)

/-- One argument gives a value if it suits its kind, or the failure that stops the call. -/
theorem traced_marshalOne (function : String) (position : Nat) (kind : ValueKind) (a : HostValue)
    (s : σ) (requests : List (Request η)) :
    (∃ v s', Suits kind a ∧ (engine.makeValue kind a).run.run s = (.ok (some v), s') ∧
      (engine.traced.marshalOne function position kind a).run.run (s, requests) =
        (.ok v, s', requests ++ [.make kind a])) ∨
    (∃ failure s' made, engine.StopsAt function position kind a s failure s' ∧ MakesSuited made ∧
      (engine.traced.marshalOne function position kind a).run.run (s, requests) =
        (.error failure, s', requests ++ made)) := by
  -- the check of the argument decides first, and then the engine is asked for a value
  have hspec := argumentFault?_spec function position kind a
  unfold marshalOne
  cases hf : argumentFault? function position kind a with
  | some fault =>
    rw [hf] at hspec
    refine Or.inr ⟨fault.raised, s, [], .misfit hspec.1 hspec.2, .nil, ?_⟩
    rw [List.append_nil]
    rfl
  | none =>
    rw [hf] at hspec
    have hcheck : (Action.check none : Action (σ × List (Request η)) Unit).run.run (s, requests) =
        (.ok (), s, requests) := rfl
    rw [Action.run_bind_ok hcheck, Action.run_bind, traced_makeValue_run]
    rcases hm : (engine.makeValue kind a).run.run s with ⟨r, s'⟩
    cases r with
    | error failure =>
      exact Or.inr ⟨failure, s', [.make kind a], .raised hspec hm, .single hspec, rfl⟩
    -- the engine answers without a value: the argument is refused all the same
    | ok made =>
      cases made with
      | none => exact Or.inr ⟨_, s', [.make kind a], .unmade hspec hm, .single hspec, rfl⟩
      | some v => exact Or.inl ⟨v, s', hspec, rfl, rfl⟩

/-- Marshalling as many arguments as there are kinds: values of all of them, or the failure of the
first one that stops the call. Values are only asked for of arguments that suit their kinds. -/
theorem traced_marshalFrom (function : String) (position : Nat) (kinds : List ValueKind)
    (arguments : List HostValue) (hl : arguments.length = kinds.length) (s : σ)
    (requests : List (Request η)) :
    ∃ result s' made, MakesSuited made ∧
      (engine.traced.marshalFrom function position kinds arguments).run.run (s, requests) =
        (result, s', requests ++ made) ∧
      ((∃ values, result = .ok values ∧ List.Forall₂ Suits kinds arguments ∧
        engine.Makes kinds arguments s values s') ∨
      ∃ failure, result = .error failure ∧
        engine.StopsAmong function position kinds arguments s failure s') := by
  -- on the kinds and the arguments in step; the position grows with each of them
  induction kinds generalizing position arguments s requests with
  | nil =>
    obtain rfl := List.length_eq_zero_iff.mp hl
    refine ⟨.ok [], s, [], .nil, ?_, Or.inl ⟨[], rfl, .nil, .nil s⟩⟩
    rw [List.append_nil]
    rfl
  | cons kind kinds ih =>
    -- the counts agree, so that there is an argument for this kind
    obtain ⟨a, arguments, rfl⟩ := List.exists_cons_of_length_eq_add_one hl
    have hl' : arguments.length = kinds.length := Nat.succ.inj hl
    rw [marshalFrom]
    rcases traced_marshalOne engine function position kind a s requests with
      ⟨v, s₁, hs, hm, hrun⟩ | ⟨failure, s₁, made, hstop, hmade, hrun⟩
    -- the rest begins one position later, after the request for this value
    · obtain ⟨result, s₂, made, hmade, hrest, hcase⟩ :=
        ih (position + 1) arguments hl' s₁ (requests ++ [.make kind a])
      rw [Action.run_bind_ok hrun, Action.run_bind, hrest]
      have hall : MakesSuited (.make kind a :: made : List (Request η)) :=
        (MakesSuited.single hs).append hmade
      rw [List.append_assoc, List.singleton_append]
      rcases hcase with ⟨values, rfl, hsuit, hmakes⟩ | ⟨failure, rfl, hstop⟩
      · exact ⟨.ok (v :: values), s₂, _, hall, rfl,
          Or.inl ⟨v :: values, rfl, .cons hs hsuit, .cons hm hmakes⟩⟩
      · obtain ⟨rfl, rfl, hsuit, hmakes, hstop⟩ := hstop
        refine ⟨.error failure, s₂, _, hall, rfl, Or.inr ⟨failure, rfl, ?_⟩⟩
        refine .first (List.cons_append ..).symm (List.cons_append ..).symm (.cons hs hsuit)
          (.cons hm hmakes) ?_
        rw [List.length_cons, Nat.add_comm _ 1, ← Nat.add_assoc]
        exact hstop
    -- the first argument stops the call, and nothing is asked for after it
    · rw [Action.run_bind_error hrun]
      exact ⟨.error failure, s₁, made, hmade, rfl,
        Or.inr ⟨failure, rfl, .first rfl rfl .nil (.nil s) hstop⟩⟩

theorem traced_invocation (handle : η) (name : String) (values : List Value) (s : σ)
    (requests : List (Request η)) :
    ∃ result s', engine.Ends handle name values s result s' ∧
      (do match ← engine.traced.invoke handle name values with
          | .returned result => return result
          | .failed =>
            let diagnostic ← engine.traced.lastError
            engine.traced.noteFailure name diagnostic
            Action.fail (.trapped name diagnostic) :
        Action (σ × List (Request η)) HostValue).run.run (s, requests) =
        (result, s', requests ++ [.invoke handle name values]) := by
  rw [Action.run_bind, traced_invoke_run]
  rcases hi : (engine.invoke handle name values).run.run s with ⟨r, s₁⟩
  cases r with
  | error failure => exact ⟨.error failure, s₁, .raised hi, rfl⟩
  | ok outcome =>
    cases outcome with
    | returned result => exact ⟨.ok result, s₁, .returned hi, rfl⟩
    | failed => exact ⟨_, _, .failed hi rfl rfl, rfl⟩

/-- Calling with a signature: the number of arguments is checked, then the arguments, and then the
engine is asked to invoke the function. -/
theorem traced_call (handle : η) (name : String) (signature : Signature)
    (arguments : List HostValue) (s : σ) (requests : List (Request η)) :
    (∃ values s₁ made result s', arguments.length = signature.arity ∧
      List.Forall₂ Suits signature.params arguments ∧
      engine.Makes signature.params arguments s values s₁ ∧ MakesSuited made ∧
      engine.Ends handle name values s₁ result s' ∧
      (engine.traced.call handle name signature arguments).run.run (s, requests) =
        (result, s', requests ++ made ++ [.invoke handle name values])) ∨
    (∃ failure s' made, MakesSuited made ∧
      (engine.traced.call handle name signature arguments).run.run (s, requests) =
        (.error failure, s', requests ++ made) ∧
      (arguments.length < signature.arity ∧ s' = s ∧
          failure = (Fault.missingArguments name signature.arity arguments.length).raised ∨
        signature.arity < arguments.length ∧ s' = s ∧
          failure = (Fault.extraArguments name signature.arity arguments.length).raised ∨
        arguments.length = signature.arity ∧
          engine.StopsAmong name 1 signature.params arguments s failure s')) := by
  unfold call marshal
  -- the count is checked first, and only an exact one leads on to the arguments
  rcases Nat.lt_trichotomy arguments.length signature.arity with hc | hc | hc
  · have hcheck : arityFault? name signature arguments.length =
        some (.missingArguments name signature.arity arguments.length) := if_pos hc
    rw [hcheck]
    exact Or.inr ⟨_, s, [], .nil, by rw [List.append_nil]; rfl, Or.inl ⟨hc, rfl, rfl⟩⟩
  · have hcheck : arityFault? name signature arguments.length = none := by
      rw [arityFault?, if_neg (by omega), if_neg (by omega)]
    obtain ⟨result, s₁, made, hmade, hrun, hcase⟩ :=
      traced_marshalFrom engine name 1 signature.params arguments hc s requests
    rw [hcheck]
    rcases hcase with ⟨values, rfl, hsuit, hmakes⟩ | ⟨failure, rfl, hstop⟩
    · obtain ⟨result, s', hends, hinvoke⟩ :=
        traced_invocation engine handle name values s₁ (requests ++ made)
      refine Or.inl ⟨values, s₁, made, result, s', hc, hsuit, hmakes, hmade, hends, ?_⟩
      rw [← hinvoke]
      exact Action.run_bind_ok hrun
    · exact Or.inr ⟨failure, s₁, made, hmade, Action.run_bind_error hrun,
        Or.inr (Or.inr ⟨hc, hstop⟩)⟩
  · have hcheck : arityFault? name signature arguments.length =
        some (.extraArguments name signature.arity arguments.length) := by
      rw [arityFault?, if_neg (by omega), if_pos hc]
    rw [hcheck]
    exact Or.inr ⟨_, s, [], .nil, by rw [List.append_nil]; rfl, Or.inr (Or.inl ⟨hc, rfl, rfl⟩)⟩

theorem resolve_run (handle : η) (name : String) (s : σ) :
    (engine.resolve handle name).run.run s =
      match (engine.signature? handle name).run s with
      | (some signature, s₁) => (.ok signature, s₁)
      | (none, s₁) => match engine.lastError.run s₁ with
        | (none, s₂) => (.error (Fault.unknownFunction name), s₂)
        | (some diagnostic, s₂) =>
          (.error (Fault.unresolvedSignature name (some diagnostic)), s₂) := by
  -- only without an answer is the diagnostic asked for
  rw [resolve, Action.run_lift_bind]
  rcases (engine.signature? handle name).run s with ⟨answer, s₁⟩
  cases answer with
  | some signature => rfl
  | none =>
    dsimp only
    rw [Action.run_lift_bind]
    rcases engine.lastError.run s₁ with ⟨diagnostic, s₂⟩
    cases diagnostic with
    | none => rfl
    | some d => rfl

theorem traced_resolve_run (handle : η) (name : String) (s : σ) (requests : List (Request η)) :
    (engine.traced.resolve handle name).run.run (s, requests) =
      (((engine.resolve handle name).run.run s).1, ((engine.resolve handle name).run.run s).2,
        requests) := by
  have hsignature : (engine.traced.signature? handle name).run (s, requests) =
      (((engine.signature? handle name).run s).1, ((engine.signature? handle name).run s).2,
        requests) := rfl
  have hdiagnostic (t : σ) : engine.traced.lastError.run (t, requests) =
      ((engine.lastError.run t).1, (engine.lastError.run t).2, requests) := rfl
  -- the watched engine answers as the engine does, and requests for signatures are not written down
  rw [resolve_run, resolve_run, hsignature]
  rcases (engine.signature? handle name).run s with ⟨answer, s₁⟩
  cases answer with
  | some signature => rfl
  | none =>
    dsimp only
    rw [hdiagnostic]
    rcases engine.lastError.run s₁ with ⟨diagnostic, s₂⟩
    cases diagnostic with
    | none => rfl
    | some d => rfl

/-- A dispatch is accepted, and then ends as the invocation ends, or it is refused. -/
theorem traced_dispatch (handle : η) (name : String) (arguments : List HostValue) (s : σ)
    (requests : List (Request η)) :
    (∃ values s₁ made result s', engine.Accepts handle name arguments s values s₁ ∧
      MakesSuited made ∧ engine.Ends handle name values s₁ result s' ∧
      (engine.traced.dispatch handle name arguments).run.run (s, requests) =
        (result, s', requests ++ made ++ [.invoke handle name values])) ∨
    (∃ failure s' made, engine.Refuses handle name arguments s failure s' ∧ MakesSuited made ∧
      (engine.traced.dispatch handle name arguments).run.run (s, requests) =
        (.error failure, s', requests ++ made)) := by
  have hresolve := traced_resolve_run engine handle name s requests
  have hresult := resolve_run engine handle name s
  unfold dispatch
  rcases hs : (engine.signature? handle name).run s with ⟨answer, s₁⟩
  rw [hs] at hresult
  -- a signature leads on to the call, and its absence to one of two refusals
  cases answer with
  | some signature =>
    rw [hresult] at hresolve
    rw [Action.run_bind_ok hresolve]
    rcases traced_call engine handle name signature arguments s₁ requests with
      ⟨values, s₂, made, result, s', hc, hsuit, hmakes, hmade, hends, hrun⟩ |
      ⟨failure, s', made, hmade, hrun, hcase⟩
    · exact Or.inl ⟨values, s₂, made, result, s', .intro hs hc hsuit hmakes, hmade, hends, hrun⟩
    · refine Or.inr ⟨failure, s', made, ?_, hmade, hrun⟩
      rcases hcase with ⟨hc, rfl, rfl⟩ | ⟨hc, rfl, rfl⟩ | ⟨hc, hstop⟩
      · exact .missing hs hc
      · exact .extra hs hc
      · exact .argument hs hc hstop
  | none =>
    -- the diagnostic tells a name that is not exported from one that cannot be called
    rcases hd : engine.lastError.run s₁ with ⟨diagnostic, s₂⟩
    dsimp only at hresult
    rw [hd] at hresult
    cases diagnostic with
    | none =>
      rw [hresult] at hresolve
      refine Or.inr ⟨_, s₂, [], .unknown hs hd, .nil, ?_⟩
      rw [List.append_nil]
      exact Action.run_bind_error hresolve
    | some d =>
      rw [hresult] at hresolve
      refine Or.inr ⟨_, s₂, [], .unresolved hs hd, .nil, ?_⟩
      rw [List.append_nil]
      exact Action.run_bind_error hresolve

/-- Any dispatch on any engine asks it at most once to invoke something. It does so exactly when the
name has a signature, the arguments are as many as its parameters and each suits its kind, and the
engine makes a value of each; then it is on these values, and the dispatch ends as the invocation
ends. In every other case the dispatch fails as its first failing stage does. Watching the engine
changes nothing. -/
theorem dispatch_invokes_iff_accepts (handle : η) (name : String) (arguments : List HostValue)
    (s : σ) :
    match (engine.traced.dispatch handle name arguments).run.run (s, []) with
    | (result, s', requests) =>
      (engine.dispatch handle name arguments).run.run s = (result, s') ∧
      (invocations requests).length ≤ 1 ∧
      (invocations requests ≠ [] ↔
        ∃ values s₁, engine.Accepts handle name arguments s values s₁) ∧
      (∀ values s₁, engine.Accepts handle name arguments s values s₁ →
        invocations requests = [(handle, name, values)] ∧
        engine.Ends handle name values s₁ result s') ∧
      (invocations requests = [] → ∃ failure, result = .error failure ∧
        engine.Refuses handle name arguments s failure s') := by
  -- watching changes nothing, so that the result may be read off the watched run
  have hplain := traced_dispatch_mirrors engine handle name arguments s []
  rcases traced_dispatch engine handle name arguments s [] with
    ⟨values, s₁, made, result, s', haccepts, hmade, hends, hrun⟩ |
    ⟨failure, s', made, hrefuses, hmade, hrun⟩
  -- the only invocation is the last request; all before it ask for values
  · have hinvoked : invocations ([] ++ made ++ [.invoke handle name values]) =
        [(handle, name, values)] := by
      rw [List.nil_append, invocations_append, hmade.invocations_eq_nil]
      rfl
    rw [hrun] at hplain ⊢
    dsimp only
    rw [hinvoked]
    refine ⟨(Prod.ext hplain.1 hplain.2).symm, Nat.le_refl 1, ?_, ?_, ?_⟩
    · exact ⟨fun _ => ⟨values, s₁, haccepts⟩, fun _ => List.cons_ne_nil _ _⟩
    · intro values' t haccepts'
      obtain ⟨rfl, rfl⟩ := haccepts.unique haccepts'
      exact ⟨rfl, hends⟩
    · intro h
      exact absurd h (List.cons_ne_nil _ _)
  -- a refused dispatch has asked for values at most
  · rw [hrun] at hplain ⊢
    dsimp only
    rw [List.nil_append, hmade.invocations_eq_nil]
    refine ⟨(Prod.ext hplain.1 hplain.2).symm, Nat.zero_le 1, ?_, ?_, ?_⟩
    · exact ⟨fun h => absurd rfl h, fun ⟨_, _, haccepts⟩ => absurd haccepts hrefuses.not_accepts⟩
    · intro values t haccepts
      exact absurd haccepts hrefuses.not_accepts
    · intro _
      exact ⟨failure, rfl, hrefuses⟩

end Invoker
end WasmHost
