import WasmHost.Fault.Lineage
import WasmHost.Proofs.Delivery
import WasmHost.Proofs.Resolution
/-!
How calls on an engine end.

A call returns, or fails with a fault of one family: the guest trapped, or the call was rejected for
its name, for the number of its arguments, or for the first argument that does not suit its kind.
The message of a rejection writes out numbers, though, and a number that is too long to be written
leads to a fault outside the family.
-/
namespace WasmHost

/-- A fault is one of the family of failed calls. -/
def Fault.OfCall (fault : Fault) : Prop := FaultClass.invocation ∈ fault.lineage

/-- The first argument that does not suit its kind stands at a position, counted from one. -/
inductive FirstMisfit : List ValueKind → List HostValue → Nat → ValueKind → HostValue → Prop where
  | here {kind : ValueKind} {kinds : List ValueKind} {a : HostValue} {arguments : List HostValue}
      (misfit : ¬Suits kind a) : FirstMisfit (kind :: kinds) (a :: arguments) 1 kind a
  | later {kind other : ValueKind} {kinds : List ValueKind} {a b : HostValue}
      {arguments : List HostValue} {position : Nat} (suits : Suits kind a)
      (rest : FirstMisfit kinds arguments position other b) :
      FirstMisfit (kind :: kinds) (a :: arguments) (position + 1) other b

/-- What a rejection would have to write is too long: a count, the position of the first argument
that does not suit its kind, or this argument itself, if it is an integer out of range. -/
inductive Overlong (signature : Signature) (arguments : List HostValue) : Prop where
  | count (hne : arguments.length ≠ signature.arity)
      (long : ¬(isWritable signature.arity = true ∧ isWritable arguments.length = true))
  | position {position : Nat} {kind : ValueKind} {a : HostValue}
      (hc : arguments.length = signature.arity)
      (first : FirstMisfit signature.params arguments position kind a)
      (long : isWritable position = false)
  | integer {position : Nat} {k : NumericKind} {a : HostValue} {n : Int}
      (hc : arguments.length = signature.arity)
      (first : FirstMisfit signature.params arguments position (.ofNumeric k) a)
      (hk : k.isInteger = true) (hn : a.DenotesInteger n) (long : isWritable n = false)

/-- The ways for a call with a signature to end on an engine. -/
inductive CallEnds (name : String) (signature : Signature) (arguments : List HostValue) :
    Except Failure HostValue → Prop where
  | returned {result : HostValue} (hc : arguments.length = signature.arity)
      (suited : List.Forall₂ Suits signature.params arguments) :
      CallEnds name signature arguments (.ok result)
  | trapped {diagnostic : Option String} (hc : arguments.length = signature.arity)
      (suited : List.Forall₂ Suits signature.params arguments) :
      CallEnds name signature arguments (.error ⟨.trapped name diagnostic, none⟩)
  | missing (few : arguments.length < signature.arity) :
      CallEnds name signature arguments
        (.error (Fault.missingArguments name signature.arity arguments.length).raised)
  | extra (many : signature.arity < arguments.length) :
      CallEnds name signature arguments
        (.error (Fault.extraArguments name signature.arity arguments.length).raised)
  | rejected {position : Nat} {kind : ValueKind} {a : HostValue} {fault : Fault}
      (hc : arguments.length = signature.arity)
      (first : FirstMisfit signature.params arguments position kind a)
      (hf : Misfit name position kind a fault) :
      CallEnds name signature arguments (.error fault.raised)

namespace FirstMisfit

variable {kinds : List ValueKind} {arguments : List HostValue} {position position' : Nat}
  {kind kind' : ValueKind} {a a' : HostValue}

theorem not_suited (first : FirstMisfit kinds arguments position kind a) :
    ¬List.Forall₂ Suits kinds arguments := by
  -- every argument before the first misfit suits, and the misfit does not
  induction first with
  | here misfit =>
    intro suited
    cases suited with
    | cons suits _ => exact misfit suits
  | later _ _ ih =>
    intro suited
    cases suited with
    | cons _ rest => exact ih rest

theorem unique (first : FirstMisfit kinds arguments position kind a)
    (first' : FirstMisfit kinds arguments position' kind' a') :
    position = position' ∧ kind = kind' ∧ a = a' := by
  -- both go over the same suiting arguments, up to the same misfit
  induction first generalizing position' with
  | here misfit =>
    cases first' with
    | here _ => exact ⟨rfl, rfl, rfl⟩
    | later suits _ => exact absurd suits misfit
  | later suits rest ih =>
    cases first' with
    | here misfit => exact absurd suits misfit
    | later _ rest' =>
      obtain ⟨hposition, hkind, ha⟩ := ih rest'
      exact ⟨congrArg (· + 1) hposition, hkind, ha⟩

-- Where all arguments before one suit their kinds and this one does not, it is the first.
theorem of_suited {before after : List ValueKind} {passed left : List HostValue}
    (hk : kinds = before ++ kind :: after) (ha : arguments = passed ++ a :: left)
    (suited : List.Forall₂ Suits before passed) (misfit : ¬Suits kind a) :
    FirstMisfit kinds arguments (passed.length + 1) kind a := by
  subst hk ha
  induction suited with
  | nil => exact .here misfit
  | cons suits _ ih => exact .later suits ih

end FirstMisfit

namespace Engine

variable (e : Engine) (handle : Handle)

variable [Platform]

/-- On an engine an argument stops a call only by not suiting its kind, since every argument that
suits its kind becomes a value. -/
theorem stopsAt_misfit {function : String} {position : Nat} {kind : ValueKind} {a : HostValue}
    {h h' : Host} {failure : Failure}
    (stopped : e.invoker.StopsAt function position kind a h failure h') :
    ¬Suits kind a ∧ ∃ fault, Misfit function position kind a fault ∧ failure = fault.raised := by
  -- an engine makes a value of every argument that suits its kind
  have hmade (suits : Suits kind a) :
      ∃ v, (e.invoker.makeValue kind a).run.run h = (.ok (some v), h) := by
    obtain ⟨v, hv, -⟩ := suits.ofHost
    refine ⟨v, ?_⟩
    rw [e.makeValue_run, hv]
    rfl
  cases stopped with
  | misfit hno hf => exact ⟨hno, _, hf, rfl⟩
  | raised suits hm =>
    obtain ⟨v, hv⟩ := hmade suits
    cases hm.symm.trans hv
  | unmade suits hm =>
    obtain ⟨v, hv⟩ := hmade suits
    cases hm.symm.trans hv

/-- A call with the signature of an exported function ends in one of the ways listed. -/
theorem call_ends {name : String} {f : Guest.Function} {signature : Signature}
    (hexport : handle.program.export? name = some (.function f))
    (hsignature : signatureOf? f = some signature) (arguments : List HostValue) (h : Host) :
    CallEnds name signature arguments
      ((e.invoker.call handle name signature arguments).run.run h).1 := by
  have hmirrors := (e.invoker.traced_call_mirrors handle name signature arguments h []).1
  rcases e.invoker.traced_call handle name signature arguments h [] with
    ⟨values, h₁, made, result, h', hc, suited, makes, -, hends, hrun⟩ |
    ⟨failure, h', made, -, hrun, hcase⟩
  -- the arguments are accepted, and the invocation decides how the call ends
  · rw [hrun] at hmirrors
    rw [← hmirrors]
    cases hends with
    | returned _ => exact .returned hc suited
    | failed _ _ _ => exact .trapped hc suited
    | raised hraised =>
      -- the values deliver the arguments, so the guest runs and nothing is raised
      have hdelivers := (delivers_of_makes (e := e) hexport hsignature suited makes).reached
      obtain ⟨words, -, hruns⟩ := hdelivers
      have hruns := hruns h₁
      have hinvoke : (e.invokeFunction handle name values).run.run h₁ = _ := hraised
      rw [hinvoke] at hruns
      cases hruns
  · rw [hrun] at hmirrors
    rw [← hmirrors]
    -- the count is wrong, or an argument stops the call
    rcases hcase with ⟨few, -, rfl⟩ | ⟨many, -, rfl⟩ | ⟨hc, hstop⟩
    · exact .missing few
    · exact .extra many
    · obtain ⟨hk, ha, suited, -, stopped⟩ := hstop
      obtain ⟨hno, fault, hf, rfl⟩ := e.stopsAt_misfit stopped
      rw [Nat.add_comm 1] at hf
      exact .rejected hc (.of_suited hk ha suited hno) hf

end Engine

theorem isWritable_of_le {m n : Int} (h : m.natAbs ≤ n.natAbs) (hn : isWritable n = true) :
    isWritable m = true :=
  decide_eq_true (Nat.lt_of_le_of_lt h (of_decide_eq_true hn))

namespace Fault

theorem raised_or (fault : Fault) :
    fault.raised = fault ∨ fault.raised = .plain .integerTooLong := by
  unfold raised
  split
  · exact Or.inl rfl
  · exact Or.inr rfl

theorem raised_eq_tooLong_iff {fault : Fault} (hne : fault ≠ .plain .integerTooLong) :
    fault.raised = .plain .integerTooLong ↔ ∃ n ∈ fault.integers, isWritable n = false := by
  unfold raised
  constructor
  · intro h
    by_contra hnone
    -- if no integer of the fault were too long, it would be raised as it is
    have hall : fault.integers.all isWritable = true := by
      refine List.all_eq_true.mpr fun n hn => ?_
      cases hw : isWritable n with
      | true => rfl
      | false => exact absurd ⟨n, hn, hw⟩ hnone
    rw [if_pos hall] at h
    exact hne h
  · rintro ⟨n, hn, long⟩
    refine if_neg fun hall => ?_
    have hwritable := List.all_eq_true.mp hall n hn
    rw [long] at hwritable
    cases hwritable

-- The counts of a call can be written if the larger one can.
theorem counts_tooLong_iff {fault : Fault} (hne : fault ≠ .plain .integerTooLong)
    {difference : Int} {expected given : Nat} (hi : fault.integers = [difference, expected, given])
    (hd : difference.natAbs ≤ max expected given) :
    fault.raised = .plain .integerTooLong ↔
      ¬(isWritable expected = true ∧ isWritable given = true) := by
  rw [raised_eq_tooLong_iff hne, hi]
  constructor
  · rintro ⟨n, hn, long⟩ ⟨hexpected, hgiven⟩
    have hwritable : isWritable n = true := by
      -- the difference is no larger than the larger count
      simp only [List.mem_cons, List.not_mem_nil, or_false] at hn
      rcases Nat.le_total expected given with hle | hle
      · have hsmaller : n.natAbs ≤ (given : Int).natAbs := by
          rcases hn with rfl | rfl | rfl <;> omega
        exact isWritable_of_le hsmaller hgiven
      · have hsmaller : n.natAbs ≤ (expected : Int).natAbs := by
          rcases hn with rfl | rfl | rfl <;> omega
        exact isWritable_of_le hsmaller hexpected
    exact Bool.false_ne_true (long.symm.trans hwritable)
  · intro hnot
    cases hexpected : isWritable expected with
    | false => exact ⟨expected, by simp, hexpected⟩
    | true =>
      cases hgiven : isWritable given with
      | false => exact ⟨given, by simp, hgiven⟩
      | true => exact absurd ⟨hexpected, hgiven⟩ hnot

theorem missingArguments_ofCall (name : String) (expected given : Int) :
    (missingArguments name expected given).OfCall := by
  have hclass : FaultClass.invocation ∈ FaultClass.missingArguments.lineage := by decide
  exact hclass

theorem extraArguments_ofCall (name : String) (expected given : Int) :
    (extraArguments name expected given).OfCall := by
  have hclass : FaultClass.invocation ∈ FaultClass.extraArguments.lineage := by decide
  exact hclass

theorem trapped_ofCall (name : String) (diagnostic : Option String) :
    (trapped name diagnostic).OfCall := by
  have hclass : FaultClass.invocation ∈ FaultClass.trapped.lineage := by decide
  exact hclass

theorem unknownFunction_ofCall (name : String) : (unknownFunction name).OfCall := by
  have hclass : FaultClass.invocation ∈ FaultClass.unknownFunction.lineage := by decide
  exact hclass

theorem unresolvedSignature_ofCall (name : String) (diagnostic : Option String) :
    (unresolvedSignature name diagnostic).OfCall := by
  have hclass : FaultClass.invocation ∈ FaultClass.unresolvedSignature.lineage := by decide
  exact hclass

end Fault

/-- What a misfit is a fault of the family, unless it is an integer that is too long. -/
theorem Misfit.ofCall {function : String} {position : Int} {kind : ValueKind} {a : HostValue}
    {fault : Fault} (h : Misfit function position kind a fault) :
    fault.OfCall ∧ fault.integers = [position] ∨
      fault = .plain .integerTooLong ∧ ∃ (k : NumericKind) (n : Int), kind = .ofNumeric k ∧
        k.isInteger = true ∧ a.DenotesInteger n ∧ isWritable n = false := by
  have hmisfit : FaultClass.invocation ∈ FaultClass.argumentType.lineage := by decide
  have hunsupported : FaultClass.invocation ∈ FaultClass.unsupportedKind.lineage := by decide
  cases h with
  | unsupported _ => exact Or.inl ⟨hunsupported, rfl⟩
  | notAnInteger _ _ | outOfRange _ _ _ _ | notAFloat _ _ => exact Or.inl ⟨hmisfit, rfl⟩
  | outOfRangeAndLong hk ha _ long => exact Or.inr ⟨rfl, _, _, rfl, hk, ha, long⟩

/-- What is wrong with an integer of an integer kind is that it is out of range, and it is shown if
it can be written. -/
theorem Misfit.of_integer {function : String} {position : Int} {k : NumericKind} {a : HostValue}
    {fault : Fault} {n : Int} (h : Misfit function position (.ofNumeric k) a fault)
    (hk : k.isInteger = true) (hn : a.DenotesInteger n) :
    isWritable n = true ∧ fault =
        .argumentType function position k.name (some (toString n ++ " is out of range")) ∨
      isWritable n = false ∧ fault = .plain .integerTooLong := by
  generalize hkind : ValueKind.ofNumeric k = kind at h
  -- an integer can only be out of range for an integer kind
  cases h with
  | unsupported hno => exact absurd hkind.symm (hno k)
  | notAnInteger _ hno => exact absurd hn (hno n)
  | outOfRange _ ha _ short =>
    obtain rfl := ofNumeric_injective hkind
    obtain rfl := DenotesInteger_unique ha hn
    exact Or.inl ⟨short, rfl⟩
  | outOfRangeAndLong _ ha _ long =>
    obtain rfl := DenotesInteger_unique ha hn
    exact Or.inr ⟨long, rfl⟩
  | notAFloat hfloat _ =>
    obtain rfl := ofNumeric_injective hkind
    exact absurd hk (hfloat ▸ Bool.false_ne_true)

/-- A call keeps to the family of its faults, unless a number is too long to be written. -/
structure KeepsFamily (name : String) (signature : Signature) (arguments : List HostValue)
    (result : Except Failure HostValue) : Prop where
  family {failure : Failure} (h : result = .error failure) :
    failure.fault.OfCall ∨ result = .error ⟨.plain .integerTooLong, none⟩
  tooLong_iff : result = .error ⟨.plain .integerTooLong, none⟩ ↔ Overlong signature arguments
  outOfRange {position : Nat} {k : NumericKind} {a : HostValue} {n : Int}
    (hc : arguments.length = signature.arity)
    (first : FirstMisfit signature.params arguments position (.ofNumeric k) a)
    (hk : k.isInteger = true) (ha : a.DenotesInteger n) (hp : isWritable position = true)
    (hn : isWritable n = true) :
    result = .error ⟨.argumentType name position k.name (some (toString n ++ " is out of range")),
      none⟩

/-- Of a fault of the family, or of a number that is too long, nothing else is raised. -/
theorem Fault.raised_family (fault : Fault) (h : fault.OfCall ∨ fault = .plain .integerTooLong)
    {failure : Failure}
    (hf : (.error ⟨fault.raised, none⟩ : Except Failure HostValue) = .error failure) :
    failure.fault.OfCall ∨
      (.error ⟨fault.raised, none⟩ : Except Failure HostValue) =
        .error ⟨.plain .integerTooLong, none⟩ := by
  rw [← Except.error.inj hf]
  rcases fault.raised_or with hself | hlong
  · rw [hself]
    exact h.imp_right fun heq => by rw [heq]
  · exact Or.inr (by rw [hlong])

namespace CallEnds

variable {name : String} {signature : Signature} {arguments : List HostValue}
  {result : Except Failure HostValue}

theorem family (ends : CallEnds name signature arguments result) {failure : Failure}
    (h : result = .error failure) :
    failure.fault.OfCall ∨ result = .error ⟨.plain .integerTooLong, none⟩ := by
  cases ends with
  | returned _ _ => cases h
  | trapped _ _ =>
    cases h
    exact Or.inl (Fault.trapped_ofCall _ _)
  | missing _ => exact Fault.raised_family _ (Or.inl (Fault.missingArguments_ofCall _ _ _)) h
  | extra _ => exact Fault.raised_family _ (Or.inl (Fault.extraArguments_ofCall _ _ _)) h
  | rejected _ _ hf => exact Fault.raised_family _ (hf.ofCall.imp And.left And.left) h

/-- A call ends outside the family exactly when its rejection is too long to be written. -/
theorem tooLong_iff (ends : CallEnds name signature arguments result) :
    result = .error ⟨.plain .integerTooLong, none⟩ ↔ Overlong signature arguments := by
  have hraised (fault : Fault) :
      (.error ⟨fault.raised, none⟩ : Except Failure HostValue) =
        .error ⟨.plain .integerTooLong, none⟩ ↔ fault.raised = .plain .integerTooLong :=
    ⟨fun h => congrArg Failure.fault (Except.error.inj h), fun h => by rw [h]⟩
  -- an overlong rejection needs a misfit or a wrong count
  have hsuited (suited : List.Forall₂ Suits signature.params arguments)
      (hc : arguments.length = signature.arity) : ¬Overlong signature arguments := by
    intro overlong
    cases overlong with
    | count hne _ => exact hne hc
    | position _ first _ => exact first.not_suited suited
    | integer _ first _ _ _ => exact first.not_suited suited
  -- with a wrong count only the counts are written
  have hcount (hne : arguments.length ≠ signature.arity) : Overlong signature arguments ↔
      ¬(isWritable signature.arity = true ∧ isWritable arguments.length = true) := by
    refine ⟨fun overlong => ?_, .count hne⟩
    cases overlong with
    | count _ long => exact long
    | position hc _ _ | integer hc _ _ _ _ => exact absurd hc hne
  cases ends with
  | returned hc suited => exact ⟨fun h => (nomatch h), fun h => absurd h (hsuited suited hc)⟩
  | trapped hc suited => exact ⟨fun h => (nomatch h), fun h => absurd h (hsuited suited hc)⟩
  | missing few =>
    have hne : Fault.missingArguments name signature.arity arguments.length ≠
        .plain .integerTooLong := fun h => nomatch h
    rw [hraised, hcount (Nat.ne_of_lt few)]
    exact Fault.counts_tooLong_iff hne rfl (by omega)
  | extra many =>
    have hne : Fault.extraArguments name signature.arity arguments.length ≠
        .plain .integerTooLong := fun h => nomatch h
    rw [hraised, hcount (Nat.ne_of_gt many)]
    exact Fault.counts_tooLong_iff hne rfl (by omega)
  -- the position is written always, and the integer where the misfit shows one
  | @rejected position kind a fault hc first hf =>
    rw [hraised]
    rcases hf.ofCall with ⟨hof, hposition⟩ | ⟨rfl, k, n, rfl, hk, hn, long⟩
    -- a misfit that can be written itself is too long only by its position
    · have hne : fault ≠ .plain .integerTooLong := by
        rintro rfl
        cases hposition
      rw [Fault.raised_eq_tooLong_iff hne, hposition]
      constructor
      · rintro ⟨p, hp, long⟩
        rw [List.mem_singleton.mp hp] at long
        exact .position hc first long
      · intro overlong
        cases overlong with
        | count hcount _ => exact absurd hc hcount
        | position _ first' long =>
          obtain ⟨rfl, -, -⟩ := first.unique first'
          exact ⟨position, List.mem_singleton_self _, long⟩
        | integer _ first' hk hn long =>
          obtain ⟨-, rfl, rfl⟩ := first.unique first'
          rcases hf.of_integer hk hn with ⟨short, -⟩ | ⟨-, hlong⟩
          · exact absurd short (long ▸ Bool.false_ne_true)
          · exact absurd hlong hne
    · refine ⟨fun _ => .integer hc first hk hn long, fun _ => ?_⟩
      exact Fault.raised_eq_self fun p hp => absurd hp List.not_mem_nil

/-- An integer out of range is shown in the fault, if both it and its position can be written. -/
theorem outOfRange (ends : CallEnds name signature arguments result) {position : Nat}
    {k : NumericKind} {a : HostValue} {n : Int} (hc : arguments.length = signature.arity)
    (first : FirstMisfit signature.params arguments position (.ofNumeric k) a)
    (hk : k.isInteger = true) (ha : a.DenotesInteger n) (hp : isWritable position = true)
    (hn : isWritable n = true) : result =
      .error ⟨.argumentType name position k.name (some (toString n ++ " is out of range")),
        none⟩ := by
  -- of the ways to end, only a rejected argument fits a first misfit
  cases ends with
  | returned _ suited | trapped _ suited => exact absurd suited first.not_suited
  | missing few => exact absurd hc (Nat.ne_of_lt few)
  | extra many => exact absurd hc (Nat.ne_of_gt many)
  | rejected _ first' hf =>
    obtain ⟨rfl, rfl, rfl⟩ := first.unique first'
    rcases hf.of_integer hk ha with ⟨-, rfl⟩ | ⟨long, -⟩
    · rw [Fault.raised_eq_self]
      intro m hm
      exact List.mem_singleton.mp hm ▸ hp
    · exact absurd hn (long ▸ Bool.false_ne_true)

theorem keepsFamily (ends : CallEnds name signature arguments result) :
    KeepsFamily name signature arguments result :=
  ⟨ends.family, ends.tooLong_iff, ends.outOfRange⟩

end CallEnds

/-- A dispatch fails for its name, or it goes as a call with the signature that the name has. -/
inductive DispatchEnds (p : Guest.Program) (name : String) (arguments : List HostValue)
    (result : Except Failure HostValue) : Prop where
  | unresolved {fault : Fault} (hname : (p.signatureFor name).1 = none)
      (hresult : result = .error ⟨fault, none⟩) (hfault : fault.OfCall) :
      DispatchEnds p name arguments result
  | resolved {signature : Signature} (hname : (p.signatureFor name).1 = some signature)
      (kept : KeepsFamily name signature arguments result) : DispatchEnds p name arguments result

section

variable [Platform]

theorem Engine.dispatch_ends (e : Engine) (handle : Handle) (name : String)
    (arguments : List HostValue) (h : Host) :
    DispatchEnds handle.program name arguments
      ((e.invoker.dispatch handle name arguments).run.run h).1 := by
  -- the name resolves, or the diagnostic tells which of two faults it is
  have hresolve := e.resolve_eq handle name h
  unfold Invoker.dispatch
  rcases hname : handle.program.signatureFor name with ⟨_ | signature, diagnostic⟩
  · rw [Guest.Program.resolution, hname] at hresolve
    cases diagnostic with
    | none =>
      refine .unresolved (by rw [hname]) ?_ (Fault.unknownFunction_ofCall name)
      rw [Action.run_bind_error hresolve]
    | some d =>
      refine .unresolved (by rw [hname]) ?_ (Fault.unresolvedSignature_ofCall name (some d))
      rw [Action.run_bind_error hresolve]
  · rw [Guest.Program.resolution, hname] at hresolve
    rw [Action.run_bind_ok hresolve]
    obtain ⟨f, hexport, hsignature⟩ := e.resolve_eq_ok (congrArg Prod.fst hresolve)
    exact .resolved (by rw [hname]) (e.call_ends handle hexport hsignature arguments _).keepsFamily

/-- In every state that a process comes to, calling an instance by name or a callable that it once
handed out, on any thread and with any arguments, returns or fails with a fault of the family, or
the rejection is too long to be written. An integer out of range that can be written is rejected as
such, with its position and its kind. -/
theorem History.calls_keep_family {events : List Event} {h : Host} (history : History events h)
    (thread : Thread) (arguments : List HostValue) :
    (∀ (i : Instance) (name : String), DispatchEnds i.handle.program name arguments
      ((i.call name arguments).run.run (h.onThread thread)).1) ∧
    ∀ f : ExportedFunction, Object.function f ∈ Known events →
      KeepsFamily f.bound.name f.bound.signature arguments
        ((f.apply arguments).run.run (h.onThread thread)).1 := by
  refine ⟨fun i name => ?_, fun f hf => ?_⟩
  · exact i.engine.dispatch_ends i.handle name arguments _
  · obtain ⟨K, ledger, hknown⟩ := history.ledger
    obtain ⟨g, hexport, hsignature⟩ := ledger.sound (hknown hf)
    exact (f.engine.call_ends f.bound.handle hexport hsignature arguments _).keepsFamily

end

section

attribute [local instance] Platform.machine

/-- A callable for a function of a word rejects an integer of 33 bits by its position and kind. -/
theorem calls_keep_family_wide_integer :
    let p : Guest.Program := ⟨[], [], [], none, [⟨"f", .function ⟨[.i32], [], .nop⟩⟩]⟩
    let e : Engine := ⟨2, ⟨1, .default⟩⟩
    let i : Instance := ⟨6, e, ⟨4, ⟨3, ⟨p, false, false⟩⟩⟩, ⟨5, e, ⟨3, ⟨p, false, false⟩⟩, none⟩⟩
    let f : ExportedFunction := ⟨7, e, ⟨i.handle, "f", ⟨[.ofNumeric .i32], .void⟩⟩⟩
    let make := Operation.instanceOfBytes (.ofProgram p) none
    let bind := Operation.function i "f"
    let h₀ := Host.fresh ⟨.empty, none⟩ ⟨[]⟩
    let h₁ := make.after 0 h₀
    let h₂ := bind.after 0 h₁
    KeepsFamily "f" f.bound.signature [.integer 4294967296]
        ((f.apply [.integer 4294967296]).run.run (h₂.onThread 1)).1 ∧
      ((f.apply [.integer 4294967296]).run.run (h₂.onThread 1)).1 =
        .error ⟨.argumentType "f" 1 "i32" (some "4294967296 is out of range"), none⟩ := by
  intro p e i f make bind h₀ h₁ h₂
  have hmade : Object.running i ∈ onOk Answer.objects (make.event 0 h₀).outcome := rfl
  have hbound : Object.function f ∈ onOk Answer.objects (bind.event 0 h₁).outcome := rfl
  have hknown : Object.running i ∈ Known [make.event 0 h₀] := .given List.mem_cons_self hmade
  have history : History [make.event 0 h₀, bind.event 0 h₁] h₂ :=
    .perform (.perform (.start _ _) 0 (Set.empty_subset _)) 0 fun _ ho => ho ▸ hknown
  have hf : Object.function f ∈ Known [make.event 0 h₀, bind.event 0 h₁] :=
    .given (List.mem_cons_of_mem _ List.mem_cons_self) hbound
  have kept := (history.calls_keep_family 1 [.integer 4294967296]).2 f hf
  -- 2 ^ 32 is one more than the largest value that a word takes
  have misfit : ¬Suits (.ofNumeric .i32) (.integer 4294967296) := by
    rw [suits_integer_iff rfl]
    rintro ⟨n, hn, hr⟩
    cases hn
    exact absurd hr (by decide)
  exact ⟨kept, kept.outOfRange rfl (.here misfit) rfl (.plain _) (by decide +kernel)
    (by decide +kernel)⟩

/-- An integer of 4301 digits for a word is the first argument out of range, and the call ends
outside the family: the message of its rejection cannot be written. -/
theorem long_integer_leaves_family :
    let p : Guest.Program := ⟨[], [], [], none, [⟨"f", .function ⟨[.i32], [], .nop⟩⟩]⟩
    let e : Engine := ⟨2, ⟨1, .default⟩⟩
    let i : Instance := ⟨6, e, ⟨4, ⟨3, ⟨p, false, false⟩⟩⟩, ⟨5, e, ⟨3, ⟨p, false, false⟩⟩, none⟩⟩
    let long : HostValue := .integer (10 ^ 4300 : Nat)
    let h := Host.fresh ⟨.empty, none⟩ ⟨[]⟩
    FirstMisfit [.ofNumeric .i32] [long] 1 (.ofNumeric .i32) long ∧
      ((i.call "f" [long]).run.run h).1 = .error ⟨.plain .integerTooLong, none⟩ ∧
      ¬(Fault.plain .integerTooLong).OfCall := by
  intro p e i long h
  -- the integer is far out of range of a word
  have misfit : ¬Suits (.ofNumeric .i32) long := by
    rw [suits_integer_iff rfl]
    rintro ⟨n, hn, hr⟩
    rw [DenotesInteger_unique hn (.plain (10 ^ 4300 : Nat))] at hr
    exact absurd hr (by decide +kernel)
  have first : FirstMisfit [.ofNumeric .i32] [long] 1 (.ofNumeric .i32) long := .here misfit
  have overlong : Overlong ⟨[.ofNumeric .i32], .void⟩ [long] :=
    .integer rfl first rfl (.plain _) (by decide +kernel)
  have hclass : FaultClass.invocation ∉ FaultClass.valueFault.lineage := by decide
  refine ⟨first, ?_, hclass⟩
  have ends := e.dispatch_ends i.handle "f" [long] h
  have hname : (p.signatureFor "f").1 = some ⟨[.ofNumeric .i32], .void⟩ := rfl
  cases ends with
  | unresolved hnone _ _ => cases hname.symm.trans hnone
  | resolved hsome kept =>
    cases hname.symm.trans hsome
    exact kept.tooLong_iff.mpr overlong

end

end WasmHost
