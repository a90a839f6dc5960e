import WasmHost.Proofs.Dispatch
import WasmHost.Proofs.Invocation
import WasmHost.Proofs.Operation
import WasmHost.Proofs.Rounding
/-!
What reaches the guest.

The check of arguments is stricter than the making of values, which would also read texts and drop
fractions. So the engine only makes values of arguments that are numbers already, and each value is
the number that its argument is, but for extended numbers, which are rounded to the width of the
host. The kinds come from the signature that a call resolves, or that a callable resolved long ago;
they are those of the export either way, which never changes.
-/
namespace WasmHost

/-- A host value is a floating-point number, and the double is the same number. Only for an extended
number it is one that this number is rounded to, and the same wherever a double is. -/
inductive HostValue.DenotesFloat : HostValue → Double → Prop where
  | plain {x y : Double} (h : x.SameValue y) : DenotesFloat (.float x) y
  | half {x : Floating .half} {y : Double} (h : x.SameValue y) : DenotesFloat (.scalar (.half x)) y
  | single {x : Floating .single} {y : Double} (h : x.SameValue y) :
      DenotesFloat (.scalar (.single x)) y
  | double {x y : Double} (h : x.SameValue y) : DenotesFloat (.scalar (.double x)) y
  | extended {x : Floating .extended} {y : Double} (rounded : x.RoundsTo y)
      (kept : ∀ z : Double, x.SameValue z → x.SameValue y) :
      DenotesFloat (.scalar (.extended x)) y

/-- A value carries an argument: its kind is numeric, and its payload is the number that the
argument is, an integer in the range of the kind or a double. -/
inductive Value.Carries : Value → HostValue → Prop where
  | integer {k : NumericKind} {a : HostValue} {n : Int} (hk : k.isInteger = true)
      (ha : a.DenotesInteger n) (low : k.least ≤ n) (high : n ≤ k.greatest) :
      Carries ⟨.ofNumeric k, .integer n⟩ a
  | floating {k : NumericKind} {a : HostValue} {x : Double} (hk : k.isInteger = false)
      (ha : a.DenotesFloat x) : Carries ⟨.ofNumeric k, .float x⟩ a

theorem HostValue.DenotesInteger.asInteger {a : HostValue} {n : Int} (h : a.DenotesInteger n) :
    a.asInteger = .ok n := by
  cases h <;> rfl

theorem HostValue.IsFloatingPoint.asFloat {a : HostValue} (h : a.IsFloatingPoint) :
    ∃ x, a.asFloat = .ok x ∧ a.DenotesFloat x := by
  -- the conversion to a double loses nothing, but for an extended number
  cases h with
  | plain x => exact ⟨x, rfl, .plain (.refl x)⟩
  | half x =>
    have hsame := Floating.convert_sameValue FloatFormat.half_within_double x
    exact ⟨x.toDouble, rfl, .half hsame⟩
  | single x =>
    have hsame := Floating.convert_sameValue FloatFormat.single_within_double x
    exact ⟨x.toDouble, rfl, .single hsame⟩
  | double x => exact ⟨x, rfl, .double (.refl x)⟩
  | extended x =>
    have hrounded : x.RoundsTo x.toDouble := Floating.convert_roundsTo (by decide) x
    exact ⟨x.toDouble, rfl, .extended hrounded fun _ => hrounded.sameValue⟩

theorem Suits.ofHost {kind : ValueKind} {a : HostValue} (h : Suits kind a) :
    ∃ v, Value.ofHost kind a = .ok (some v) ∧ v.kind = kind ∧ v.Carries a := by
  cases h with
  | @integer k _ n hk ha low high =>
    refine ⟨⟨.ofNumeric k, .integer n⟩, ?_, rfl, .integer hk ha low high⟩
    rw [Value.ofHost, ValueKind.numeric?_ofNumeric]
    dsimp only
    rw [if_pos hk, ha.asInteger]
    rfl
  | @floating k _ hk ha =>
    obtain ⟨x, hx, hdenotes⟩ := ha.asFloat
    refine ⟨⟨.ofNumeric k, .float x⟩, ?_, rfl, .floating hk hdenotes⟩
    rw [Value.ofHost, ValueKind.numeric?_ofNumeric]
    dsimp only
    rw [if_neg (hk ▸ Bool.false_ne_true), hx]
    rfl

theorem Value.Carries.numeric {v : Value} {a : HostValue} (h : v.Carries a) :
    ∃ k, v.kind = .ofNumeric k := by
  cases h with
  | integer _ _ _ _ => exact ⟨_, rfl⟩
  | floating _ _ => exact ⟨_, rfl⟩

-- A value that carries an argument becomes a word of the guest.
theorem Value.Carries.guestValue {v : Value} {a : HostValue} (h : v.Carries a) :
    ∃ word, Engine.guestValue v = .ok (some word) := by
  -- an integer kind carries an integer, and the others a double
  cases h with
  | @integer k _ n hk _ _ _ =>
    cases k with
    | i32 => exact ⟨.i32 (BitVec.ofInt 32 n), rfl⟩
    | i64 => exact ⟨.i64 (BitVec.ofInt 64 n), rfl⟩
    | f32 => cases hk
    | f64 => cases hk
  | @floating k _ x hk _ =>
    cases k with
    | i32 => cases hk
    | i64 => cases hk
    | f32 => exact ⟨.f32 (x.convert .single), rfl⟩
    | f64 => exact ⟨.f64 x, rfl⟩

theorem numeric_of_carries {values : List Value} {arguments : List HostValue}
    (h : List.Forall₂ Value.Carries values arguments) :
    ∀ v ∈ values, ∃ k, v.kind = .ofNumeric k := by
  induction h with
  | nil => exact fun v hv => absurd hv List.not_mem_nil
  | cons first _ ih =>
    intro v hv
    rcases List.mem_cons.mp hv with rfl | hv
    · exact first.numeric
    · exact ih v hv

theorem guestValues_of_carries {values : List Value} {arguments : List HostValue}
    (h : List.Forall₂ Value.Carries values arguments) :
    ∃ words : List Guest.GuestValue, values.mapM Engine.guestValue = .ok (words.map some) := by
  induction h with
  | nil => exact ⟨[], rfl⟩
  | cons first _ ih =>
    obtain ⟨word, hword⟩ := first.guestValue
    obtain ⟨words, hwords⟩ := ih
    refine ⟨word :: words, ?_⟩
    rw [List.mapM_cons, hword, hwords]
    rfl

theorem mapM_id_map_some {α : Type} (xs : List α) : (xs.map some).mapM id = some xs := by
  induction xs with
  | nil => rfl
  | cons x xs ih =>
    rw [List.map_cons, List.mapM_cons, ih]
    rfl

theorem signatureOf?_params {f : Guest.Function} {signature : Signature}
    (h : Engine.signatureOf? f = some signature) : signature.params = f.params.map (·.kind) := by
  unfold Engine.signatureOf? at h
  split at h
  · cases h
    rfl
  · cases h
    rfl
  · cases h

section

variable [Platform]

namespace Engine

/-- The guest runs a function on words, and an invocation ends as that run does: with its results,
or failed with the diagnostic of its trap. -/
inductive RunsGuest (e : Engine) (handle : Handle) (f : Guest.Function)
    (words : List Guest.GuestValue) (h : Host) : Except Failure Outcome → Host → Prop where
  | returned {results : List Guest.GuestValue} {guest : Guest.State} {h' : Host}
      (hcall : Guest.call handle.program f words (h.guest handle) = (.ok results, guest)) :
      RunsGuest e handle f words h (.ok (.returned (hostResult results))) h'
  | trapped {trap : Guest.Trap} {guest : Guest.State} {h' : Host}
      (hcall : Guest.call handle.program f words (h.guest handle) = (.error trap, guest))
      (told : e.diagnosticOn h' h.thread = some trap.diagnostic) :
      RunsGuest e handle f words h (.ok .failed) h'

/-- Values deliver arguments to an export: it is a function, they are of the kinds of its parameters
and carry the arguments, and invoking it on them runs the guest in every state. -/
structure Delivers (e : Engine) (handle : Handle) (name : String) (f : Guest.Function)
    (values : List Value) (arguments : List HostValue) : Prop where
  fits : FitsParameters handle name f values
  numeric : ∀ v ∈ values, ∃ k, v.kind = .ofNumeric k
  carried : List.Forall₂ Value.Carries values arguments
  reached : ∃ words : List Guest.GuestValue, values.mapM guestValue = .ok (words.map some) ∧
    ∀ h : Host, e.RunsGuest handle f words h ((e.invokeFunction handle name values).run.run h).1
      ((e.invokeFunction handle name values).run.run h).2

/-- What a call may ask of an engine: values of arguments that suit their kinds, which carry these
arguments, and to invoke the called function on values that deliver all of them. -/
inductive Sanctions (e : Engine) (handle : Handle) (name : String) (arguments : List HostValue) :
    Request Handle → Prop where
  | make {kind : ValueKind} {a : HostValue} {v : Value} (suited : Suits kind a)
      (made : ∀ h : Host, (e.invoker.makeValue kind a).run.run h = (.ok (some v), h))
      (carried : v.Carries a) : Sanctions e handle name arguments (.make kind a)
  | invoke {f : Guest.Function} {values : List Value}
      (delivered : e.Delivers handle name f values arguments) :
      Sanctions e handle name arguments (.invoke handle name values)

variable {e : Engine}

-- The values that the engine makes of suitable arguments are of their kinds and carry them.
theorem carries_of_makes {kinds : List ValueKind} {arguments : List HostValue} {h h' : Host}
    {values : List Value} (made : e.invoker.Makes kinds arguments h values h')
    (suited : List.Forall₂ Suits kinds arguments) :
    values.map (·.kind) = kinds ∧ List.Forall₂ Value.Carries values arguments := by
  -- each value is what the argument becomes on any engine
  induction made with
  | nil h => exact ⟨rfl, .nil⟩
  | @cons kind kinds a arguments v values h h₁ h₂ first rest ih =>
    cases suited with
    | cons suits suited =>
      obtain ⟨w, hw, hkind, hcarries⟩ := suits.ofHost
      rw [e.makeValue_run, hw] at first
      cases first
      obtain ⟨hkinds, hall⟩ := ih suited
      refine ⟨?_, .cons hcarries hall⟩
      rw [List.map_cons, hkind, hkinds]

omit [Platform] in
-- Values of a function's kinds that become words fit no other function and become no other words.
theorem FitsParameters.unique {handle : Handle} {name : String} {f g : Guest.Function}
    {values : List Value} {words words' : List Guest.GuestValue}
    {args : List (Option Guest.GuestValue)} (fits : FitsParameters handle name f values)
    (hwords : values.mapM guestValue = .ok (words.map some))
    (fits' : FitsParameters handle name g values) (hpayload : values.mapM guestValue = .ok args)
    (hargs : args.mapM id = some words') : f = g ∧ words = words' := by
  obtain ⟨hexport, -⟩ := fits
  obtain ⟨hexport', -⟩ := fits'
  rw [hexport] at hexport'
  rw [hwords] at hpayload
  cases hexport'
  cases hpayload
  rw [mapM_id_map_some] at hargs
  exact ⟨rfl, Option.some.inj hargs⟩

-- Invoking a function on values of its kinds that become words runs the guest.
theorem invokeFunction_runsGuest {handle : Handle} {name : String} {f : Guest.Function}
    {values : List Value} {words : List Guest.GuestValue}
    (fits : FitsParameters handle name f values)
    (hwords : values.mapM guestValue = .ok (words.map some)) (h : Host) :
    e.RunsGuest handle f words h ((e.invokeFunction handle name values).run.run h).1
      ((e.invokeFunction handle name values).run.run h).2 := by
  have hinvokes := invokeFunction_invokes e handle name values h
  generalize ((e.invokeFunction handle name values).run.run h).1 = outcome at hinvokes ⊢
  generalize ((e.invokeFunction handle name values).run.run h).2 = h' at hinvokes ⊢
  -- all ways for an invocation to go but the last two contradict what is known of the values
  cases hinvokes with
  | missing hmissing => exact absurd fits.1 (hmissing f)
  | mismatched hexport hmismatch =>
    cases fits.1.symm.trans hexport
    exact absurd fits.2 hmismatch
  | wrongPayload _ hpayload => cases hwords.symm.trans hpayload
  | wrongValue _ hpayload hargs =>
    cases hwords.symm.trans hpayload
    rw [mapM_id_map_some] at hargs
    cases hargs
  | returned fits' hpayload hargs hcall =>
    obtain ⟨rfl, rfl⟩ := fits.unique hwords fits' hpayload hargs
    exact .returned hcall
  | trapped fits' hpayload hargs hcall =>
    obtain ⟨rfl, rfl⟩ := fits.unique hwords fits' hpayload hargs
    exact .trapped hcall (Cells.get_set_self _ _ _)

theorem delivers_of_makes {handle : Handle} {name : String} {f : Guest.Function}
    {signature : Signature} {arguments : List HostValue} {h h' : Host} {values : List Value}
    (hexport : handle.program.export? name = some (.function f))
    (hsignature : signatureOf? f = some signature)
    (suited : List.Forall₂ Suits signature.params arguments)
    (made : e.invoker.Makes signature.params arguments h values h') :
    e.Delivers handle name f values arguments := by
  obtain ⟨hkinds, hcarries⟩ := carries_of_makes made suited
  obtain ⟨words, hwords⟩ := guestValues_of_carries hcarries
  have fits : FitsParameters handle name f values :=
    ⟨hexport, hkinds.trans (signatureOf?_params hsignature)⟩
  exact ⟨fits, numeric_of_carries hcarries, hcarries, words, hwords,
    invokeFunction_runsGuest fits hwords⟩

-- What a call with the signature of an exported function asks for is sanctioned.
theorem sanctions_of_traced_call {handle : Handle} {name : String} {f : Guest.Function}
    {signature : Signature} (hexport : handle.program.export? name = some (.function f))
    (hsignature : signatureOf? f = some signature) (arguments : List HostValue) (h : Host) :
    ∀ r ∈ ((e.invoker.traced.call handle name signature arguments).run.run (h, [])).2.2,
      e.Sanctions handle name arguments r := by
  -- a value is asked for only of an argument that suits its kind, and then it carries the argument
  have hmakes {made : List (Request Handle)} (hmade : Invoker.MakesSuited made) :
      ∀ r ∈ made, e.Sanctions handle name arguments r := by
    intro r hr
    obtain ⟨kind, a, rfl, suited⟩ := hmade r hr
    obtain ⟨v, hv, -, hcarries⟩ := suited.ofHost
    have hmade (h : Host) : (e.invoker.makeValue kind a).run.run h = (.ok (some v), h) := by
      rw [e.makeValue_run, hv]
      rfl
    exact .make suited hmade hcarries
  rcases e.invoker.traced_call handle name signature arguments h [] with
    ⟨values, h₁, made, result, h', -, suited, makes, hmade, -, hrun⟩ |
    ⟨failure, h', made, hmade, hrun, -⟩
  -- all requests are for values, but the last one
  · rw [hrun]
    intro r hr
    rcases List.mem_append.mp hr with hr | hr
    · exact hmakes hmade r hr
    · rw [List.mem_singleton.mp hr]
      exact .invoke (delivers_of_makes hexport hsignature suited makes)
  · rw [hrun]
    exact hmakes hmade

theorem sanctions_of_traced_dispatch (e : Engine) (handle : Handle) (name : String)
    (arguments : List HostValue) (h : Host) :
    ∀ r ∈ ((e.invoker.traced.dispatch handle name arguments).run.run (h, [])).2.2,
      e.Sanctions handle name arguments r := by
  -- resolving lists nothing, so what is asked for is what a call with the signature found asks for
  have hresolve := e.invoker.traced_resolve_run handle name h []
  unfold Invoker.dispatch
  rw [Action.run_bind, hresolve]
  rcases hs : (e.invoker.resolve handle name).run.run h with ⟨result, h₁⟩
  cases result with
  | error failure => exact fun r hr => absurd hr List.not_mem_nil
  | ok signature =>
    obtain ⟨f, hexport, hsignature⟩ := resolve_eq_ok e (congrArg Prod.fst hs)
    exact sanctions_of_traced_call hexport hsignature arguments h₁

end Engine

/-- An action gives what its watched form gives, and all that this form asks for is sanctioned. -/
def Engine.Safe (e : Engine) (handle : Handle) (name : String) (arguments : List HostValue)
    (watched : Action (Host × List (Request Handle)) HostValue) (plain : HostAction HostValue)
    (h : Host) : Prop :=
  match watched.run.run (h, []) with
  | (result, h', requests) =>
    plain.run.run h = (result, h') ∧ ∀ r ∈ requests, e.Sanctions handle name arguments r

theorem Engine.Safe.of_mirrors {e : Engine} {handle : Handle} {name : String}
    {arguments : List HostValue} {watched : Action (Host × List (Request Handle)) HostValue}
    {plain : HostAction HostValue} {h : Host} (mirrors : Mirrors watched plain)
    (sanctioned : ∀ r ∈ (watched.run.run (h, [])).2.2, e.Sanctions handle name arguments r) :
    e.Safe handle name arguments watched plain h := by
  obtain ⟨hresult, hstate⟩ := mirrors h []
  exact ⟨(Prod.ext hresult hstate).symm, sanctioned⟩

/-- In every state that a process comes to, calling an instance by name or a callable that it once
handed out, on any thread and with any arguments, asks the engine only for values of arguments that
suit their kinds, and only to invoke a function on values that deliver all the arguments. -/
theorem History.calls_safe {events : List Event} {h : Host} (history : History events h)
    (thread : Thread) (arguments : List HostValue) :
    (∀ (i : Instance) (name : String),
      i.engine.Safe i.handle name arguments
        (i.engine.invoker.traced.dispatch i.handle name arguments) (i.call name arguments)
        (h.onThread thread)) ∧
    ∀ f : ExportedFunction, Object.function f ∈ Known events →
      f.engine.Safe f.bound.handle f.bound.name arguments
        (f.bound.apply f.engine.invoker.traced arguments) (f.apply arguments)
        (h.onThread thread) := by
  refine ⟨fun i name => ?_, fun f hf => ?_⟩
  · exact .of_mirrors (i.engine.invoker.traced_dispatch_mirrors i.handle name arguments)
      (i.engine.sanctions_of_traced_dispatch i.handle name arguments _)
  -- the signature is that of the export, however long ago it was resolved
  · obtain ⟨K, ledger, hknown⟩ := history.ledger
    obtain ⟨g, hexport, hsignature⟩ := ledger.sound (hknown hf)
    exact .of_mirrors
      (f.engine.invoker.traced_call_mirrors f.bound.handle f.bound.name f.bound.signature arguments)
      (Engine.sanctions_of_traced_call hexport hsignature arguments _)

end

section

attribute [local instance] Platform.machine

/-- A callable for a function of a word and a single, handed out on one thread and called on another
one: a plain integer and a half are made into values, and the function is invoked on them. -/
theorem calls_safe_word_and_half :
    let p : Guest.Program := ⟨[], [], [], none, [⟨"f", .function ⟨[.i32, .f32], [], .nop⟩⟩]⟩
    let e : Engine := ⟨2, ⟨1, .default⟩⟩
    let i : Instance := ⟨6, e, ⟨4, ⟨3, ⟨p, false, false⟩⟩⟩, ⟨5, e, ⟨3, ⟨p, false, false⟩⟩, none⟩⟩
    let f : ExportedFunction := ⟨7, e, ⟨i.handle, "f", ⟨[.ofNumeric .i32, .ofNumeric .f32], .void⟩⟩⟩
    let arguments : List HostValue := [.integer 5, .scalar (.half (.ofInt .half 1))]
    let make := Operation.instanceOfBytes (.ofProgram p) none
    let bind := Operation.function i "f"
    let h₀ := Host.fresh ⟨.empty, none⟩ ⟨[]⟩
    let h₁ := make.after 0 h₀
    let h₂ := bind.after 0 h₁
    f.engine.Safe f.bound.handle f.bound.name arguments
      (f.bound.apply f.engine.invoker.traced arguments) (f.apply arguments) (h₂.onThread 1) ∧
    invocations ((f.bound.apply f.engine.invoker.traced arguments).run.run
        (h₂.onThread 1, [])).2.2 =
      [(i.handle, "f", [⟨.ofNumeric .i32, .integer 5⟩,
        ⟨.ofNumeric .f32, .float (.ofInt .double 1)⟩])] := by
  intro p e i f arguments make bind h₀ h₁ h₂
  have hmade : Object.running i ∈ onOk Answer.objects (make.event 0 h₀).outcome := rfl
  have hbound : Object.function f ∈ onOk Answer.objects (bind.event 0 h₁).outcome := rfl
  have hknown : Object.running i ∈ Known [make.event 0 h₀] := .given List.mem_cons_self hmade
  have history : History [make.event 0 h₀, bind.event 0 h₁] h₂ :=
    .perform (.perform (.start _ _) 0 (Set.empty_subset _)) 0 fun _ ho => ho ▸ hknown
  have hf : Object.function f ∈ Known [make.event 0 h₀, bind.event 0 h₁] :=
    .given (List.mem_cons_of_mem _ List.mem_cons_self) hbound
  have hone : (Floating.ofInt .half 1).toDouble = .ofInt .double 1 := by decide +kernel
  rw [← hone]
  exact ⟨(history.calls_safe 1 arguments).2 f hf, rfl⟩

/-- The argument is two to the power of 53 and one more, which no double is: the call hands the
function the double below it. -/
theorem extended_argument_rounded :
    let p : Guest.Program := ⟨[], [], [], none, [⟨"f", .function ⟨[.f64], [], .nop⟩⟩]⟩
    let e : Engine := ⟨2, ⟨1, .default⟩⟩
    let i : Instance := ⟨6, e, ⟨4, ⟨3, ⟨p, false, false⟩⟩⟩, ⟨5, e, ⟨3, ⟨p, false, false⟩⟩, none⟩⟩
    let x : Floating .extended := .ofInt .extended 9007199254740993
    let y : Double := .ofInt .double 9007199254740992
    let make := Operation.instanceOfBytes (.ofProgram p) none
    let h₀ := Host.fresh ⟨.empty, none⟩ ⟨[]⟩
    let h₁ := make.after 0 h₀
    Object.running i ∈ onOk Answer.objects (make.event 0 h₀).outcome ∧
    invocations ((i.engine.invoker.traced.dispatch i.handle "f" [.scalar (.extended x)]).run.run
        (h₁, [])).2.2 =
      [(i.handle, "f", [⟨.ofNumeric .f64, .float y⟩])] ∧
    ¬x.SameValue y := by
  intro p e i x y make h₀ h₁
  have hrounded : x.toDouble = y := by decide +kernel
  -- the argument is written, rounded, as the double below it
  refine ⟨rfl, ?_, fun h => ?_⟩
  · rw [← hrounded]
    rfl
  · cases h with
    | nan hx _ => exact absurd hx (by decide +kernel)
    | infinite hx _ _ => exact absurd hx (by decide +kernel)
    | finite _ _ _ hvalue =>
      -- and the two do not have the same value
      have hx : |x.value| = 9007199254740993 := by
        rw [Floating.abs_value]
        decide +kernel
      have hy : |y.value| = 9007199254740992 := by
        rw [Floating.abs_value]
        decide +kernel
      rw [hvalue, hy] at hx
      exact absurd hx (by decide)

end

end WasmHost
