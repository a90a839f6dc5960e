import WasmHost.Host.Engine
import WasmHost.Proofs.Action
/-!
What an engine does when it is asked to make a value or to invoke a function.

A value depends on its kind and its argument alone. For an invocation the name has to be that of an
exported function, the values have to be of the kinds of its parameters, and every payload has to be
one that the guest can be given. Only then does the guest run, and it either returns or traps.
-/
namespace WasmHost.Engine

variable [Guest.Runtime]

theorem makeValue_run (e : Engine) (kind : ValueKind) (a : HostValue) (h : Host) :
    (e.invoker.makeValue kind a).run.run h =
      ((Value.ofHost kind a).mapError fun fault => ⟨.plain (.coercion fault), none⟩, h) := by
  unfold invoker
  dsimp only
  cases Value.ofHost kind a with
  | ok value => rfl
  | error fault => rfl

/-- The diagnostic of a name that is not that of an exported function. -/
def missingExport (name : String) : String :=
  "Call error: no exported function named `" ++ name ++ "`"

/-- The diagnostic of values that are not of the kinds of the parameters. -/
def mismatch (f : Guest.Function) (values : List Value) : String :=
  "Call error: Parameters of type " ++ ValueKind.listText (values.map (·.kind)) ++
    " did not match signature " ++ ValueKind.listText (f.params.map (·.kind)) ++ " -> " ++
    ValueKind.listText (f.results.map (·.kind))

/-- The values are of the kinds of the parameters of an exported function. -/
def FitsParameters (handle : Handle) (name : String) (f : Guest.Function) (values : List Value) :
    Prop :=
  handle.program.export? name = some (.function f) ∧ values.map (·.kind) = f.params.map (·.kind)

/-- How an invocation goes: its outcome and the state after it. -/
inductive Invokes (e : Engine) (handle : Handle) (name : String) (values : List Value) (h : Host) :
    Except Failure Outcome → Host → Prop where
  | missing (hexport : ∀ f, handle.program.export? name ≠ some (.function f)) :
      Invokes e handle name values h (.ok .failed)
        ((do Host.record e .invokeFunction; e.setError (missingExport name) : HostM Unit).run h).2
  | mismatched {f : Guest.Function} (hexport : handle.program.export? name = some (.function f))
      (hkinds : values.map (·.kind) ≠ f.params.map (·.kind)) :
      Invokes e handle name values h (.ok .failed)
        ((do Host.record e .invokeFunction; e.setError (mismatch f values) : HostM Unit).run h).2
  | wrongPayload {f : Guest.Function} {fault : PlainFault}
      (fits : FitsParameters handle name f values)
      (hpayload : values.mapM guestValue = .error fault) :
      Invokes e handle name values h (.error ⟨.plain fault, none⟩)
        ((do Host.record e .invokeFunction; Host.note (.invoking name values) : HostM Unit).run h).2
  | wrongValue {f : Guest.Function} {args : List (Option Guest.GuestValue)}
      (fits : FitsParameters handle name f values)
      (hpayload : values.mapM guestValue = .ok args) (hargs : args.mapM id = none) :
      Invokes e handle name values h (.error ⟨.plain .wrongValue, none⟩)
        ((do Host.record e .invokeFunction; Host.note (.invoking name values) : HostM Unit).run h).2
  | returned {f : Guest.Function} {args : List (Option Guest.GuestValue)}
      {words results : List Guest.GuestValue} {guest : Guest.State}
      (fits : FitsParameters handle name f values)
      (hpayload : values.mapM guestValue = .ok args) (hargs : args.mapM id = some words)
      (hcall : Guest.call handle.program f words (h.guest handle) = (.ok results, guest)) :
      Invokes e handle name values h (.ok (.returned (hostResult results)))
        ((do
          Host.record e .invokeFunction
          Host.note (.invoking name values)
          modify fun h => { h with guests := h.guests.set handle.serial guest }
          e.clearError : HostM Unit).run h).2
  | trapped {f : Guest.Function} {args : List (Option Guest.GuestValue)}
      {words : List Guest.GuestValue} {trap : Guest.Trap} {guest : Guest.State}
      (fits : FitsParameters handle name f values)
      (hpayload : values.mapM guestValue = .ok args) (hargs : args.mapM id = some words)
      (hcall : Guest.call handle.program f words (h.guest handle) = (.error trap, guest)) :
      Invokes e handle name values h (.ok .failed)
        ((do
          Host.record e .invokeFunction
          Host.note (.invoking name values)
          modify fun h => { h with guests := h.guests.set handle.serial guest }
          e.setError trap.diagnostic : HostM Unit).run h).2

theorem invokeFunction_invokes (e : Engine) (handle : Handle) (name : String)
    (values : List Value) (h : Host) :
    Invokes e handle name values h ((e.invokeFunction handle name values).run.run h).1
      ((e.invokeFunction handle name values).run.run h).2 := by
  unfold invokeFunction
  rw [Action.run_lift_bind]
  cases hexport : handle.program.export? name with
  | none => exact .missing fun f hf => nomatch hexport.symm.trans hf
  | some item =>
    cases item with
    | function f =>
      dsimp only
      by_cases hkinds : values.map (·.kind) = f.params.map (·.kind)
      · rw [if_pos hkinds, Action.run_lift_bind]
        cases hpayload : values.mapM guestValue with
        | error fault => exact .wrongPayload ⟨hexport, hkinds⟩ hpayload
        | ok args =>
          dsimp only
          cases hargs : args.mapM id with
          | none => exact .wrongValue ⟨hexport, hkinds⟩ hpayload hargs
          | some words =>
            dsimp only
            have hguest : ((Host.note (.invoking name values)).run
                ((Host.record e .invokeFunction).run h).2).2.guest handle = h.guest handle := rfl
            rw [Action.run_get_bind, hguest]
            rcases hcall : Guest.call handle.program f words (h.guest handle) with ⟨result, guest⟩
            dsimp only
            rw [Action.run_modify_bind]
            cases result with
            | ok results => exact .returned ⟨hexport, hkinds⟩ hpayload hargs hcall
            | error trap => exact .trapped ⟨hexport, hkinds⟩ hpayload hargs hcall
      · rw [if_neg hkinds]
        exact .mismatched hexport hkinds
    | _ => exact .missing fun f hf => nomatch hexport.symm.trans hf

end WasmHost.Engine
