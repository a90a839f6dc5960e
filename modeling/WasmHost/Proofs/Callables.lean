import WasmHost.Proofs.AlikeOperation
import WasmHost.Proofs.Rejection
/-!
Calling a callable is calling its instance by name.

A callable keeps the signature that was found when it was handed out, and a call by name resolves
the name anew. Both come to the same, however long ago the callable was handed out: the exports of
an instance never change, and so resolving a name always gives the same. The diagnostic is the same
as well, unless the call is rejected for its arguments; then the call by name has cleared it in
resolving the name, and the callable leaves it alone.
-/
namespace WasmHost

section

variable [Platform]

namespace Engine

variable (e : Engine) (handle : Handle) {name : String} {f : Guest.Function}

/-- Values that the engine marshals with the signature of an exported function deliver its
arguments. -/
theorem delivers_of_marshal {signature : Signature} {arguments : List HostValue} {h h' : Host}
    {values : List Value} (hexport : handle.program.export? name = some (.function f))
    (hsignature : signatureOf? f = some signature)
    (hmarshal : (e.invoker.marshal name signature arguments).run.run h = (.ok values, h')) :
    e.Delivers handle name f values arguments := by
  unfold Invoker.marshal at hmarshal
  -- a count that is wrong ends the marshalling before any value is made
  cases hcheck : arityFault? name signature arguments.length with
  | some fault =>
    rw [hcheck] at hmarshal
    cases hmarshal
  | none =>
    rw [hcheck] at hmarshal
    -- the check passes, so that there are neither too few nor too many
    have hcount : arguments.length = signature.params.length := by
      unfold arityFault? at hcheck
      split at hcheck
      · cases hcheck
      · split at hcheck
        · cases hcheck
        · exact Nat.le_antisymm (Nat.le_of_not_lt ‹_›) (Nat.le_of_not_lt ‹_›)
    have hrun : (e.invoker.marshalFrom name 1 signature.params arguments).run.run h =
        (.ok values, h') := hmarshal
    -- the watched run goes the same way, and it is known to stop at the first misfit
    have hmirrors :=
      (e.invoker.traced_marshalFrom_mirrors name 1 signature.params arguments h []).1
    obtain ⟨result, h₁, made, -, htraced, hcase⟩ :=
      e.invoker.traced_marshalFrom name 1 signature.params arguments hcount h []
    rw [htraced, hrun] at hmirrors
    obtain rfl : result = .ok values := hmirrors
    rcases hcase with ⟨values', hvalues, suited, makes⟩ | ⟨failure, hfailure, -⟩
    · cases hvalues
      exact delivers_of_makes hexport hsignature suited makes
    · cases hfailure

/-- A call with the signature of an exported function is rejected for its arguments in every state,
or invokes the function in every state, on values that deliver them. -/
theorem call_cases {signature : Signature} (arguments : List HostValue)
    (hexport : handle.program.export? name = some (.function f))
    (hsignature : signatureOf? f = some signature) :
    (∃ failure, ∀ h, (e.invoker.call handle name signature arguments).run.run h =
      (.error failure, h)) ∨
    ∃ values, e.Delivers handle name f values arguments ∧ ∀ h,
      (e.invoker.call handle name signature arguments).run.run h =
        (e.concluding handle name values).run.run h := by
  obtain ⟨result, hmarshal⟩ := e.marshal_fixed name signature arguments
  cases result with
  | error failure => exact Or.inl ⟨failure, fun h => Action.run_bind_error (hmarshal h)⟩
  | ok values =>
    -- marshalling comes to the same everywhere, and so it can be watched in any state
    have somewhere := Host.fresh ⟨.empty, none⟩ ⟨[]⟩
    exact Or.inr ⟨values, e.delivers_of_marshal handle hexport hsignature (hmarshal somewhere),
      fun h => Action.run_bind_ok (hmarshal h)⟩

/-- The outcome of an invocation in which the guest runs. -/
def ran : Except Guest.Trap (List Guest.GuestValue) → Outcome
  | .ok results => .returned (hostResult results)
  | .error _ => .failed

/-- The diagnostic that a run of the guest leaves. -/
def told : Except Guest.Trap (List Guest.GuestValue) → Option String
  | .ok _ => none
  | .error trap => some trap.diagnostic

/-- What a call makes of a run of the guest: its result, or a fault with the diagnostic of the
trap. -/
def conclusion (name : String) :
    Except Guest.Trap (List Guest.GuestValue) → Except Failure HostValue
  | .ok results => .ok (hostResult results)
  | .error trap => .error ⟨.trapped name (some trap.diagnostic), none⟩

/-- The state after the guest has run. -/
def afterGuest (h : Host) (run : Except Guest.Trap (List Guest.GuestValue) × Guest.State)
    (notices : List Notice) : Host :=
  { h with
    guests := h.guests.set handle.serial run.2
    diagnostics := h.diagnostics.set (e.serial, h.thread) (told run.1)
    operations := (e.serial, .invokeFunction) :: h.operations
    notices }

omit [Platform] in
theorem diagnosticOn_afterGuest (other : Engine) (thread : Thread) (h : Host)
    (run : Except Guest.Trap (List Guest.GuestValue) × Guest.State) (notices : List Notice) :
    other.diagnosticOn (e.afterGuest handle h run notices) thread =
      if (other.serial, thread) = (e.serial, h.thread) then told run.1
      else other.diagnosticOn h thread :=
  h.diagnostics.get_set _ _ _

theorem invokeFunction_run_guest {values : List Value} {words : List Guest.GuestValue}
    (fits : FitsParameters handle name f values)
    (hwords : values.mapM guestValue = .ok (words.map some)) (h : Host) :
    ∃ notices, (e.invokeFunction handle name values).run.run h =
      (.ok (ran (Guest.call handle.program f words (h.guest handle)).1),
        e.afterGuest handle h (Guest.call handle.program f words (h.guest handle)) notices) := by
  have hguest : ((Host.note (.invoking name values)).run
      -- recording the operation and the notice leaves the guest alone
      ((Host.record e .invokeFunction).run h).2).2.guest handle = h.guest handle := rfl
  unfold invokeFunction
  rw [Action.run_lift_bind, fits.1]
  dsimp only
  rw [if_pos fits.2, Action.run_lift_bind, hwords]
  dsimp only
  rw [mapM_id_map_some]
  dsimp only
  rw [Action.run_get_bind, hguest]
  rcases Guest.call handle.program f words (h.guest handle) with ⟨result, guest⟩
  dsimp only
  rw [Action.run_modify_bind]
  cases result <;> exact ⟨_, rfl⟩

-- On values of the parameter kinds that become words a call runs the guest on them. What it gives
-- depends on the words and the state of the guest alone.
theorem concluding_run_words {values : List Value} {words : List Guest.GuestValue}
    (fits : FitsParameters handle name f values)
    (hwords : values.mapM guestValue = .ok (words.map some)) (h : Host) :
    ∃ notices, (e.concluding handle name values).run.run h =
      (conclusion name (Guest.call handle.program f words (h.guest handle)).1,
        e.afterGuest handle h (Guest.call handle.program f words (h.guest handle)) notices) := by
  obtain ⟨notices, hinvoke⟩ := e.invokeFunction_run_guest handle fits hwords h
  rcases hcall : Guest.call handle.program f words (h.guest handle) with ⟨result, guest⟩
  rw [hcall] at hinvoke
  -- what a trap leaves to read is the diagnostic of this very call
  cases result with
  | ok results => exact ⟨notices, e.concluding_run_returned handle hinvoke⟩
  | error trap =>
    have htold : e.diagnosticOn (e.afterGuest handle h (.error trap, guest) notices)
        (e.afterGuest handle h (.error trap, guest) notices).thread = some trap.diagnostic :=
      (e.diagnosticOn_afterGuest handle e h.thread h (.error trap, guest) notices).trans
        (if_pos rfl)
    rw [e.concluding_run_failed handle hinvoke, htold]
    exact ⟨_, rfl⟩

/-- On values that deliver arguments a call runs the guest. -/
theorem concluding_run_guest {values : List Value} {arguments : List HostValue}
    (delivers : e.Delivers handle name f values arguments) :
    ∃ words, ∀ h : Host, ∃ notices,
      (e.concluding handle name values).run.run h =
        (conclusion name (Guest.call handle.program f words (h.guest handle)).1,
          e.afterGuest handle h (Guest.call handle.program f words (h.guest handle)) notices) := by
  obtain ⟨words, hwords, -⟩ := delivers.reached
  exact ⟨words, e.concluding_run_words handle delivers.fits hwords⟩

/-- With the signature of a function a call is rejected for its arguments by every engine, on every
instance and in every state, or else every engine runs the guest on the same words on every instance
of the program. -/
theorem call_runs {p : Guest.Program} {signature : Signature} (arguments : List HostValue)
    (hexport : p.export? name = some (.function f))
    (hsignature : signatureOf? f = some signature) :
    (∃ failure, ∀ (e : Engine) handle h,
      (e.invoker.call handle name signature arguments).run.run h = (.error failure, h)) ∨
    ∃ words, ∀ (e : Engine) handle, handle.program = p → ∀ h, ∃ notices,
      (e.invoker.call handle name signature arguments).run.run h =
        (conclusion name (Guest.call p f words (h.guest handle)).1,
          e.afterGuest handle h (Guest.call p f words (h.guest handle)) notices) := by
  -- marshalling depends on no state, so that any engine tells what it gives on all of them
  let any : Engine := ⟨0, ⟨0, .default⟩⟩
  obtain ⟨result, hany⟩ := any.marshal_fixed name signature arguments
  have hmarshal (e : Engine) (h : Host) :
      (e.invoker.marshal name signature arguments).run.run h = (result, h) := by
    rw [any.marshal_eq e, hany]
  cases result with
  | error failure => exact Or.inl ⟨failure, fun e _ h => Action.run_bind_error (hmarshal e h)⟩
  | ok values =>
    refine Or.inr ?_
    -- the words are those of the values, and so they can be had from any instance in any state
    have somewhere := Host.fresh ⟨.empty, none⟩ ⟨[]⟩
    let anywhere : Handle := ⟨0, ⟨0, ⟨p, false, false⟩⟩⟩
    have delivers : any.Delivers anywhere name f values arguments :=
      any.delivers_of_marshal anywhere hexport hsignature (hany somewhere)
    obtain ⟨words, hwords, -⟩ := delivers.reached
    refine ⟨words, fun e handle hp h => ?_⟩
    have fits : FitsParameters handle name f values := ⟨hp ▸ hexport, delivers.fits.2⟩
    obtain ⟨notices, hrun⟩ := e.concluding_run_words handle fits hwords h
    subst hp
    exact ⟨notices, (Action.run_bind_ok (hmarshal e h)).trans hrun⟩

end Engine

/-- A callable calls the export of an instance that has a name, with the signature that the name
resolves to. -/
structure Instance.Wraps (i : Instance) (name : String) (f : ExportedFunction) : Prop where
  sameEngine : f.engine = i.engine
  sameHandle : f.bound.handle = i.handle
  sameName : f.bound.name = name
  resolved : i.handle.program.resolution name = .ok f.bound.signature

theorem Instance.Wraps.apply_eq {i : Instance} {name : String} {signature : Signature}
    {f : ExportedFunction} (wraps : i.Wraps name f)
    (hname : i.handle.program.resolution name = .ok signature) (arguments : List HostValue) :
    f.apply arguments = i.engine.invoker.call i.handle name signature arguments := by
  obtain ⟨serial, e, ⟨handle, name', signature'⟩⟩ := f
  obtain ⟨rfl, rfl, rfl, hwraps⟩ := wraps
  cases hname.symm.trans hwraps
  rfl

/-- A look-up has changed no guest and invoked nothing, and it has left alone all diagnostics but
that of its engine on the running thread. -/
structure LookedUp (e : Engine) (h h' : Host) : Prop where
  guests : h'.guests = h.guests
  thread : h'.thread = h.thread
  count : h'.count e .invokeFunction = h.count e .invokeFunction
  elsewhere (other : Engine) (thread : Thread)
    (hother : (other.serial, thread) ≠ (e.serial, h.thread)) :
    other.diagnosticOn h' thread = other.diagnosticOn h thread

/-- What there is to compare of the diagnostics after a callable was called and after its instance
was called by name. They are the same when no callable can be had, and when the function is invoked.
When the call is rejected for its arguments, the call by name has cleared the diagnostic in
resolving the name, and the callable leaves it as it is. -/
inductive SameChannel (e : Engine) (h : Host) (had : Except Failure ExportedFunction × Host)
    (result : Except Failure HostValue) (called plain : Host) : Prop where
  | unresolved {failure : Failure} (hhad : had.1 = .error failure)
      (hcalled : called.count e .invokeFunction = h.count e .invokeFunction)
      (hplain : plain.count e .invokeFunction = h.count e .invokeFunction)
      (same : ∀ (other : Engine) (thread : Thread),
        other.diagnosticOn called thread = other.diagnosticOn plain thread)
  | invoked (hcalled : called.count e .invokeFunction = h.count e .invokeFunction + 1)
      (hplain : plain.count e .invokeFunction = h.count e .invokeFunction + 1)
      (same : ∀ (other : Engine) (thread : Thread),
        other.diagnosticOn called thread = other.diagnosticOn plain thread)
  | rejected {failure : Failure} (hresult : result = .error failure)
      (hcalled : called.count e .invokeFunction = h.count e .invokeFunction)
      (hplain : plain.count e .invokeFunction = h.count e .invokeFunction)
      (left : ∀ (other : Engine) (thread : Thread),
        other.diagnosticOn called thread = other.diagnosticOn had.2 thread)
      (cleared : e.diagnosticOn plain h.thread = none)
      (elsewhere : ∀ (other : Engine) (thread : Thread),
        (other.serial, thread) ≠ (e.serial, h.thread) →
          other.diagnosticOn called thread = other.diagnosticOn plain thread)

/-- To call a callable that is had in some way agrees with calling an instance by name: it gives the
same, and leaves the same guests and, as far as can be, the same diagnostics. -/
structure AgreesWithCall (i : Instance) (name : String) (arguments : List HostValue)
    (access : HostAction ExportedFunction) (h : Host) : Prop where
  outcome : ((do (← access).apply arguments : HostAction HostValue).run.run h).1 =
    ((i.call name arguments).run.run h).1
  guest (handle : Handle) :
    ((do (← access).apply arguments : HostAction HostValue).run.run h).2.guest handle =
      ((i.call name arguments).run.run h).2.guest handle
  channel : SameChannel i.engine h (access.run.run h) ((i.call name arguments).run.run h).1
    ((do (← access).apply arguments : HostAction HostValue).run.run h).2
    ((i.call name arguments).run.run h).2

end

namespace LookedUp

theorem refl (e : Engine) (h : Host) : LookedUp e h h :=
  ⟨rfl, rfl, rfl, fun _ _ _ => rfl⟩

theorem functionSignature (e : Engine) (handle : Handle) (name : String) (h : Host) :
    LookedUp e h ((e.functionSignature handle name).run h).2 := by
  obtain ⟨notices, hrun⟩ := e.functionSignature_run handle name h
  rw [hrun]
  refine ⟨rfl, rfl, ?_, fun other thread hother => Cells.get_set_of_ne _ hother _⟩
  have hne : ((e.serial, .functionSignature) : Nat × EngineOperation) ≠
      (e.serial, .invokeFunction) := fun h => nomatch (Prod.mk.inj h).2
  exact List.count_cons_of_ne hne

end LookedUp

section

variable [Platform]

namespace Instance

variable (i : Instance) {name : String} (h : Host)

theorem call_run_of_resolved {signature : Signature}
    (hname : i.handle.program.resolution name = .ok signature) (arguments : List HostValue) :
    (i.call name arguments).run.run h =
      (i.engine.invoker.call i.handle name signature arguments).run.run
        ((i.engine.functionSignature i.handle name).run h).2 := by
  have hresolve := i.engine.resolve_eq i.handle name h
  rw [hname] at hresolve
  exact Action.run_bind_ok hresolve

theorem call_run_of_unresolved {failure : Failure}
    (hname : i.handle.program.resolution name = .error failure) (arguments : List HostValue) :
    (i.call name arguments).run.run h =
      (.error failure, ((i.engine.functionSignature i.handle name).run h).2) := by
  have hresolve := i.engine.resolve_eq i.handle name h
  rw [hname] at hresolve
  exact Action.run_bind_error hresolve

variable {i h}

/-- A callable of an instance that is had by a look-up agrees with the instance. -/
theorem Wraps.agrees {f : ExportedFunction} {access : HostAction ExportedFunction} {h₂ : Host}
    (wraps : i.Wraps name f) (haccess : access.run.run h = (.ok f, h₂))
    (found : LookedUp i.engine h h₂) (arguments : List HostValue) :
    AgreesWithCall i name arguments access h := by
  obtain ⟨serial, e, ⟨handle, name', signature⟩⟩ := f
  obtain ⟨rfl, rfl, rfl, hname⟩ := wraps
  -- the callable was made for the export that the name resolves to
  obtain ⟨g, hexport, hsignature⟩ := Guest.Program.resolution_eq_ok.mp hname
  have hplain := i.call_run_of_resolved h hname arguments
  -- the callable skips the question for the signature, which the call by name makes first
  have hcalled : (do (← access).apply arguments : HostAction HostValue).run.run h =
      (i.engine.invoker.call i.handle name' signature arguments).run.run h₂ := by
    rw [Action.run_bind_ok haccess]
    rfl
  have asked := LookedUp.functionSignature i.engine i.handle name' h
  have hsilent := (i.engine.functionSignature_tells i.handle name' h).2
  generalize ((i.engine.functionSignature i.handle name').run h).2 = h₁ at hplain asked hsilent
  rcases i.engine.call_cases i.handle arguments hexport hsignature with
    ⟨failure, hrejects⟩ | ⟨values, delivers, hinvokes⟩
  -- nothing is touched after the look-up, on either path
  · rw [hrejects] at hplain hcalled
    refine ⟨by rw [hplain, hcalled], fun handle => ?_, ?_⟩
    · rw [hplain, hcalled, Host.guest, Host.guest, asked.guests, found.guests]
    · rw [hplain, hcalled, haccess]
      refine .rejected rfl found.count asked.count (fun _ _ => rfl) ?_ fun other thread hother => ?_
      · rw [hsilent, Guest.Program.signatureFor_of_signature hexport hsignature]
      · rw [found.elsewhere other thread hother, asked.elsewhere other thread hother]
  -- both paths run the guest, from states in which it is the same
  · obtain ⟨words, hruns⟩ := i.engine.concluding_run_guest i.handle delivers
    obtain ⟨notices₁, hrun₁⟩ := hruns h₁
    obtain ⟨notices₂, hrun₂⟩ := hruns h₂
    -- the guest has not changed since, and so it runs the same way
    have hguest : h₂.guest i.handle = h₁.guest i.handle := by
      rw [Host.guest, Host.guest, found.guests, asked.guests]
    rw [hguest] at hrun₂
    rw [hinvokes, hrun₁] at hplain
    rw [hinvokes, hrun₂] at hcalled
    generalize Guest.call i.handle.program g words (h₁.guest i.handle) = run at hplain hcalled
    -- either way there is one more invocation
    have hcount {h' : Host} (looked : LookedUp i.engine h h') (notices : List Notice) :
        (i.engine.afterGuest i.handle h' run notices).count i.engine .invokeFunction =
          h.count i.engine .invokeFunction + 1 := by
      rw [← looked.count]
      exact List.count_cons_self
    refine ⟨by rw [hplain, hcalled], fun handle => ?_, ?_⟩
    · rw [hplain, hcalled]
      change (h₂.guests.set i.handle.serial run.2).get handle.serial =
        (h₁.guests.set i.handle.serial run.2).get handle.serial
      rw [found.guests, asked.guests]
    · rw [hplain, hcalled]
      refine .invoked (hcount found notices₂) (hcount asked notices₁) fun other thread => ?_
      rw [i.engine.diagnosticOn_afterGuest, i.engine.diagnosticOn_afterGuest, found.thread,
        asked.thread]
      -- only the diagnostic of this engine on this thread is recorded, and it is the same in both
      by_cases hkey : (other.serial, thread) = (i.engine.serial, h.thread)
      · rw [if_pos hkey, if_pos hkey]
      · rw [if_neg hkey, if_neg hkey, found.elsewhere other thread hkey,
          asked.elsewhere other thread hkey]

/-- A look-up of a callable that succeeds has changed nothing that a call depends on. -/
theorem lookedUp_of_function {f : ExportedFunction} {h' : Host}
    (hrun : (i.function name).run.run h = (.ok f, h')) : LookedUp i.engine h h' := by
  cases i.function_looksUp hrun with
  | found _ => exact .refl _ _
  | resolved _ hasked _ =>
    obtain ⟨hguests, hthread, hcount, helsewhere⟩ :=
      LookedUp.functionSignature i.engine i.handle name h
    rw [hasked] at hguests hthread hcount helsewhere
    exact ⟨hguests, hthread, hcount, helsewhere⟩

-- What a look-up gives, now or earlier, wraps an export of the instance.
theorem wraps_of_function {K : Set Object} (ledger : Ledger h K) (hi : Object.running i ∈ K)
    {f : ExportedFunction} {h' : Host} (hrun : (i.function name).run.run h = (.ok f, h')) :
    i.Wraps name f := by
  cases i.function_looksUp hrun with
  | found hfound =>
    -- what is remembered under the number of an instance was handed out by this instance
    have hheld := mem_of_lookup_eq_some hfound
    obtain ⟨j, hj, hserial, hengine, hhandle, hname⟩ := ledger.wrappers hheld
    cases ledger.distinct hj hi hserial
    have hsound := ledger.sound (ledger.held (.wrapper hheld))
    rw [Object.Sound, hhandle, hname] at hsound
    exact ⟨hengine, hhandle, hname, Guest.Program.resolution_eq_ok.mpr hsound⟩
  | resolved hname _ hf =>
    subst hf
    exact ⟨rfl, rfl, rfl, hname⟩

/-- To look a callable up and call it agrees with calling the instance by name, also when there is
no callable. -/
theorem function_agrees {K : Set Object} (ledger : Ledger h K) (hi : Object.running i ∈ K)
    (name : String) (arguments : List HostValue) :
    AgreesWithCall i name arguments (i.function name) h := by
  -- either the look-up hands out a callable, or nothing can be called on both paths
  rcases hrun : (i.function name).run.run h with ⟨result, h'⟩
  cases result with
  | ok f =>
    exact (wraps_of_function ledger hi hrun).agrees hrun (lookedUp_of_function hrun) arguments
  | error failure =>
    have hcalled : (do (← i.function name).apply arguments : HostAction HostValue).run.run h =
      (.error failure, h') := Action.run_bind_error hrun
    have hcount := (LookedUp.functionSignature i.engine i.handle name h).count
    cases i.function_looksUp hrun with
    | unresolved hname =>
      have hplain := i.call_run_of_unresolved h hname arguments
      refine ⟨by rw [hplain, hcalled], fun handle => by rw [hplain, hcalled], ?_⟩
      rw [hplain, hcalled, hrun]
      exact .unresolved rfl hcount hcount fun _ _ => rfl

end Instance

/-- An event hands out a callable of an instance: one that was asked for by name, or as an item or
an attribute of the namespace of its exports. -/
inductive Event.Hands (i : Instance) (name : String) (f : ExportedFunction) (event : Event) :
    Prop where
  | function (asked : event.operation = .function i name)
      (given : event.outcome = .ok (.function f)) : Hands i name f event
  | item (asked : event.operation = .getItem i name)
      (given : event.outcome = .ok (.function f)) : Hands i name f event
  | exported {attr : String} (asked : event.operation = .getAttribute i attr)
      (hname : i.exportName attr = name) (given : event.outcome = .ok (.found i (.exported f))) :
      Hands i name f event

theorem History.past {events : List Event} {h : Host} (history : History events h) {event : Event}
    (hevent : event ∈ events) : ∃ earlier, History earlier event.before ∧
      event.operation.objects ⊆ Known earlier ∧
      event = event.operation.event event.thread event.before := by
  -- by induction on the history; only the last event has to be looked at
  induction history with
  | start context files => exact absurd hevent List.not_mem_nil
  | perform past thread known ih =>
    rcases List.mem_append.mp hevent with hearlier | hlast
    · exact ih hearlier
    · cases List.mem_singleton.mp hlast
      exact ⟨_, past, known, rfl⟩
  | surroundings past context files serializeFault ih => exact ih hevent

/-- A property of the state that holds after an event holds from then on, if later operations and
the surroundings keep it. -/
theorem History.since {P : Host → Prop} {events : List Event} {h : Host}
    (history : History events h) {event : Event} (hevent : event ∈ events)
    (hstart : P event.after)
    (hstep : ∀ {earlier : List Event} {g : Host} {op : Operation} (thread : Thread),
      History earlier g → event ∈ earlier → op.objects ⊆ Known earlier → P g →
        P (op.after thread g))
    (hsurroundings : ∀ {g : Host} (context : SettingsContext) (files : Files.Tree)
      (serializeFault : Option String), P g → P { g with context, files, serializeFault }) :
    P h := by
  -- the event is one of the earlier ones, which keep the property, or the last one, after which it
  -- holds
  induction history with
  | start context files => exact absurd hevent List.not_mem_nil
  | perform past thread known ih =>
    rcases List.mem_append.mp hevent with hearlier | hlast
    · exact hstep thread past hearlier known (ih hearlier)
    · cases List.mem_singleton.mp hlast
      exact hstart
  | surroundings past context files serializeFault ih =>
    exact hsurroundings context files serializeFault (ih hevent)

namespace Instance

variable {i : Instance} {name : String} {h : Host} {f : ExportedFunction}

theorem function_of_item (hgiven : ((i.itemOf name).run.run h).1 = .ok f) :
    ((i.function name).run.run h).1 = .ok f := by
  rw [i.itemOf_run] at hgiven
  rcases hresult : ((i.function name).run.run h).1 with ⟨fault, cause⟩ | g
  · rw [hresult] at hgiven
    cases fault <;> cases hgiven
  · rw [hresult] at hgiven
    exact hgiven

theorem function_of_attribute
    (hgiven : ((i.attributeOf name).run.run h).1 = .ok (.exported f)) :
    ((i.function (i.exportName name)).run.run h).1 = .ok f := by
  -- members of the namespace itself, and other names that begin with a low line, are no exports
  rw [i.attributeOf_eq] at hgiven
  split at hgiven
  · cases hgiven
  split at hgiven
  · cases hgiven
  split at hgiven
  · cases hgiven
  · rw [i.exportedAttribute_run] at hgiven
    rcases hresult : ((i.function (i.exportName name)).run.run h).1 with ⟨fault, cause⟩ | g
    · rw [hresult] at hgiven
      cases fault <;> cases hgiven
    · rw [hresult] at hgiven
      cases hgiven
      rfl

end Instance

/-- A callable that was handed out for a name came from a look-up of this name. -/
theorem Event.Hands.function_run {i : Instance} {name : String} {f : ExportedFunction}
    {event : Event} (hands : event.Hands i name f)
    (hevent : event = event.operation.event event.thread event.before) :
    event.operation.objects = {.running i} ∧
      ((i.function name).run.run (event.before.onThread event.thread)).1 = .ok f := by
  have houtcome : event.outcome = event.operation.outcome event.thread event.before :=
    congrArg Event.outcome hevent
  -- each way of handing out passes through the look-up of the name
  cases hands with
  | function asked given =>
    rw [asked, given] at houtcome
    obtain ⟨g, hg, hsame⟩ := Action.ok_of_map houtcome.symm
    cases hsame
    exact ⟨asked ▸ rfl, hg⟩
  | item asked given =>
    rw [asked, given] at houtcome
    obtain ⟨g, hg, hsame⟩ := Action.ok_of_map houtcome.symm
    cases hsame
    exact ⟨asked ▸ rfl, Instance.function_of_item hg⟩
  | exported asked hname given =>
    rw [asked, given] at houtcome
    obtain ⟨g, hg, hsame⟩ := Action.ok_of_map houtcome.symm
    cases hsame
    exact ⟨asked ▸ rfl, hname ▸ Instance.function_of_attribute hg⟩

/-- A callable that was once handed out wraps the export that it was asked for. -/
theorem Event.Hands.wraps {events : List Event} {h : Host} (history : History events h)
    {event : Event} (hevent : event ∈ events) {i : Instance} {name : String}
    {f : ExportedFunction} (hands : event.Hands i name f) : i.Wraps name f := by
  obtain ⟨earlier, past, known, hsame⟩ := history.past hevent
  obtain ⟨K, ledger, hknown⟩ := past.ledger
  obtain ⟨hobjects, hrun⟩ := hands.function_run hsame
  rw [hobjects] at known
  exact Instance.wraps_of_function (ledger.onThread event.thread) (hknown (known rfl))
    (Prod.ext hrun rfl)

/-- In every state that a process comes to, on any thread, for every name and all arguments: to look
a callable up and call it, and to call one that was handed out at any earlier time, agrees with
calling the instance by name. If a look-up failed at any earlier time, then calling the instance by
name fails in the same way. -/
theorem History.callables_agree {events : List Event} {h : Host} (history : History events h)
    {i : Instance} (known : Object.running i ∈ Known events) (thread : Thread) (name : String)
    (arguments : List HostValue) :
    AgreesWithCall i name arguments (i.function name) (h.onThread thread) ∧
    ∀ event ∈ events,
      (∀ f, event.Hands i name f →
        AgreesWithCall i name arguments (pure f) (h.onThread thread)) ∧
      ∀ failure, event.operation = .function i name → event.outcome = .error failure →
        ((i.call name arguments).run.run (h.onThread thread)).1 = .error failure := by
  -- whatever is known is in the ledger, and so what an instance remembers is its own
  obtain ⟨K, ledger, hknown⟩ := history.ledger
  refine ⟨Instance.function_agrees (ledger.onThread thread) (hknown known) name arguments,
    fun event hevent => ⟨fun f hands => ?_, fun failure asked failed => ?_⟩⟩
  -- a callable that was handed out wraps the export, and nothing is asked to look it up again
  · exact (hands.wraps history hevent).agrees rfl (.refl _ _) arguments
  · obtain ⟨earlier, past, -, hsame⟩ := history.past hevent
    have houtcome : event.outcome = event.operation.outcome event.thread event.before :=
      congrArg Event.outcome hsame
    rw [asked, failed] at houtcome
    -- what the name resolves to has not changed since
    obtain ⟨h', hrun⟩ : ∃ h', (i.function name).run.run (event.before.onThread event.thread) =
        (.error failure, h') := ⟨_, Prod.ext (Action.error_of_map houtcome.symm) rfl⟩
    cases i.function_looksUp hrun with
    | unresolved hname => rw [i.call_run_of_unresolved _ hname]

end

section

attribute [local instance] Platform.machine

/-- A callable of a counter is handed out, the counter is called by name on another thread, and then
the callable is called: it agrees with one more call by name, which counts to two. -/
theorem callables_agree_counter :
    let p : Guest.Program := ⟨[], [], [], none, [⟨"next", .function ⟨[], [.i32], .increment⟩⟩]⟩
    let e : Engine := ⟨2, ⟨1, .default⟩⟩
    let i : Instance := ⟨6, e, ⟨4, ⟨3, ⟨p, false, false⟩⟩⟩, ⟨5, e, ⟨3, ⟨p, false, false⟩⟩, none⟩⟩
    let f : ExportedFunction := ⟨7, e, ⟨i.handle, "next", ⟨[], .ofNumeric .i32⟩⟩⟩
    let make := Operation.instanceOfBytes (.ofProgram p) none
    let h₀ := Host.fresh ⟨.empty, none⟩ ⟨[]⟩
    let h₁ := make.after 0 h₀
    let h₂ := (Operation.function i "next").after 0 h₁
    let h₃ := (Operation.call i "next" []).after 1 h₂
    AgreesWithCall i "next" [] (pure f) (h₃.onThread 0) ∧
      AgreesWithCall i "next" [] (i.function "next") (h₃.onThread 0) ∧
      ((i.call "next" []).run.run (h₃.onThread 0)).1.toOption.bind HostValue.toInteger? =
        some 2 := by
  intro p e i f make h₀ h₁ h₂ h₃
  have hmade : Object.running i ∈ onOk Answer.objects (make.event 0 h₀).outcome := rfl
  have hknown : Object.running i ∈ Known [make.event 0 h₀] := .given List.mem_cons_self hmade
  have history₂ : History [make.event 0 h₀, (Operation.function i "next").event 0 h₁] h₂ :=
    .perform (.perform (.start _ _) 0 (Set.empty_subset _)) 0 fun _ ho => ho ▸ hknown
  have hknown₂ : Object.running i ∈
      Known [make.event 0 h₀, (Operation.function i "next").event 0 h₁] :=
    .given List.mem_cons_self hmade
  have history₃ : History [make.event 0 h₀, (Operation.function i "next").event 0 h₁,
      (Operation.call i "next" []).event 1 h₂] h₃ :=
    .perform history₂ 1 fun _ ho => ho ▸ hknown₂
  obtain ⟨hfresh, hhanded⟩ := history₃.callables_agree (.given List.mem_cons_self hmade) 0 "next" []
  have hf := (hhanded _ (List.mem_cons_of_mem _ List.mem_cons_self)).1 f (.function rfl rfl)
  exact ⟨hf, hfresh, by decide +kernel⟩

end

end WasmHost
