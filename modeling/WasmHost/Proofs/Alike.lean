import WasmHost.Proofs.Blame
import WasmHost.Proofs.Buffer
/-!
Operations do not depend on what has been reported.

Diagnostics, the record of what engines were asked, and notices are only ever added to. An operation
that is performed in two states which differ at most in these gives the same in both, and leaves
states that again differ at most in these. The one exception is to ask an engine for its last
diagnostic: that depends on the diagnostic which is there, and operations do it only when they have
just had one recorded.
-/
namespace WasmHost

variable {α β : Type}

/-- Two states differ at most in what has been reported. -/
def Alike (h h' : Host) : Prop :=
  ∃ diagnostics operations notices, h' = h.reporting diagnostics operations notices

/-- Besides, an engine has the same diagnostic on the running thread. -/
def AlikeFor (e : Engine) (h h' : Host) : Prop :=
  Alike h h' ∧ e.diagnosticOn h' h.thread = e.diagnosticOn h h.thread

/-- From states in one relation an operation gives the same and leaves states in another. -/
def Respects (R S : Host → Host → Prop) (a : HostM α) : Prop :=
  ∀ h h', R h h' → (a.run h').1 = (a.run h).1 ∧ S (a.run h).2 (a.run h').2

namespace Respects

variable {R S T : Host → Host → Prop}

theorem pure (x : α) : Respects R R (Pure.pure x : HostM α) := fun _ _ h => ⟨rfl, h⟩

theorem bind {a : HostM α} {f : α → HostM β} (ha : Respects R S a)
    (hf : ∀ x, Respects S T (f x)) : Respects R T (a >>= f) := by
  intro h h' hR
  obtain ⟨hresult, hS⟩ := ha h h' hR
  rw [stateM_run_bind, stateM_run_bind, hresult]
  exact hf _ _ _ hS

theorem action_done (result : Except Failure α) :
    Respects R R (ExceptT.mk (Pure.pure result) : HostAction α).run := fun _ _ h => ⟨rfl, h⟩

theorem action_lift {a : HostM α} (ha : Respects R S a) :
    Respects R S (liftM a : HostAction α).run := by
  intro h h' hR
  obtain ⟨hresult, hS⟩ := ha h h' hR
  exact ⟨congrArg Except.ok hresult, hS⟩

/-- If the first of two steps fails, the states are only known to be related as it leaves them. -/
theorem action_bind {a : HostAction α} {f : α → HostAction β} (ha : Respects R S a.run)
    (hST : ∀ h h', S h h' → T h h') (hf : ∀ x, Respects S T (f x).run) :
    Respects R T (a >>= f).run := by
  -- both runs start with the first step, which gives the same result in both
  intro h h' hR
  obtain ⟨hresult, hS⟩ := ha h h' hR
  rw [Action.run_bind, Action.run_bind]
  rcases hrun : a.run.run h with ⟨result, h₁⟩
  rcases hrun' : a.run.run h' with ⟨result', h₁'⟩
  rw [hrun, hrun'] at hresult hS
  obtain rfl : result' = result := hresult
  cases result' with
  -- the rest does not run: the states are left as the first step leaves them
  | error failure => exact ⟨rfl, hST _ _ hS⟩
  | ok x => exact hf x _ _ hS

theorem action_seq {a : HostAction α} {f : α → HostAction β} (ha : Respects R S a.run)
    (hf : ∀ x, Respects S S (f x).run) : Respects R S (a >>= f).run :=
  .action_bind ha (fun _ _ h => h) hf

theorem action_map {a : HostAction α} (ha : Respects R S a.run) (f : α → β) :
    Respects R S (do return f (← a) : HostAction β).run :=
  .action_seq ha fun _ => .action_done _

theorem of_reporting {a : HostM α} (ha : ∀ (h : Host) d o n, ∃ n',
    a.run (h.reporting d o n) = ((a.run h).1, (a.run h).2.reporting d o n')) :
    Respects Alike Alike a := by
  rintro h _ ⟨d, o, n, rfl⟩
  obtain ⟨n', hrun⟩ := ha h d o n
  rw [hrun]
  exact ⟨rfl, d, o, n', rfl⟩

theorem action_look {f : Host → HostAction β} (hsame : ∀ h d o n, f (h.reporting d o n) = f h)
    (hf : ∀ h, Respects Alike S (f h).run) :
    Respects Alike S ((MonadState.get : HostAction Host) >>= f).run := by
  rintro h _ ⟨d, o, n, rfl⟩
  rw [Action.run_get_bind, Action.run_get_bind, hsame]
  exact hf h h _ ⟨d, o, n, rfl⟩

theorem of_alike {e : Engine} {a : HostM α} (ha : Respects Alike S a) :
    Respects (AlikeFor e) S a :=
  fun h h' hfor => ha h h' hfor.1

-- What comes after a question to an engine may read the diagnostic that this question leaves.
theorem action_ask {e : Engine} {a : HostM α} {f : α → HostAction β}
    (ha : Respects Alike (AlikeFor e) a) (hf : ∀ x, Respects (AlikeFor e) Alike (f x).run) :
    Respects Alike Alike ((liftM a : HostAction α) >>= f).run :=
  .action_bind (.action_lift ha) (fun _ _ hfor => hfor.1) hf

theorem recast {a : HostAction α} {b : HostAction β} {f : Except Failure α → Except Failure β}
    (ha : Respects R S a.run) (hb : ∀ h, b.run.run h = (f (a.run.run h).1, (a.run.run h).2)) :
    Respects R S b.run := by
  intro h h' hR
  obtain ⟨hresult, hS⟩ := ha h h' hR
  rw [hb, hb]
  exact ⟨congrArg f hresult, hS⟩

end Respects

/-- An operation gives the same in every state and leaves every state as it is. -/
def Fixed (a : HostAction α) : Prop := ∃ result, ∀ h, a.run.run h = (result, h)

namespace Fixed

theorem done (result : Except Failure α) : Fixed (ExceptT.mk (Pure.pure result)) :=
  ⟨result, fun _ => rfl⟩

theorem check (fault : Option Fault) : Fixed (Action.check fault) := by
  cases fault <;> exact done _

theorem bind {a : HostAction α} {f : α → HostAction β} (ha : Fixed a) (hf : ∀ x, Fixed (f x)) :
    Fixed (a >>= f) := by
  obtain ⟨result, hrun⟩ := ha
  cases result with
  | error failure => exact ⟨.error failure, fun h => Action.run_bind_error (hrun h)⟩
  | ok x =>
    obtain ⟨result, hrest⟩ := hf x
    exact ⟨result, fun h => (Action.run_bind_ok (hrun h)).trans (hrest h)⟩

theorem respects {R : Host → Host → Prop} {a : HostAction α} (ha : Fixed a) :
    Respects R R a.run := by
  obtain ⟨result, hrun⟩ := ha
  intro h h' hR
  rw [hrun, hrun]
  exact ⟨rfl, hR⟩

end Fixed

namespace Alike

variable {h h' : Host}

theorem refl (h : Host) : Alike h h := ⟨_, _, _, rfl⟩

theorem trans {h'' : Host} (first : Alike h h') (second : Alike h' h'') : Alike h h'' := by
  obtain ⟨d, o, n, rfl⟩ := first
  obtain ⟨d', o', n', rfl⟩ := second
  exact ⟨d', o', n', rfl⟩

theorem guest (alike : Alike h h') (handle : Handle) : h'.guest handle = h.guest handle := by
  obtain ⟨d, o, n, rfl⟩ := alike
  rfl

theorem onThread (alike : Alike h h') (thread : Thread) :
    Alike (h.onThread thread) (h'.onThread thread) := by
  obtain ⟨d, o, n, rfl⟩ := alike
  exact ⟨d, o, n, rfl⟩

end Alike

namespace Host

theorem newSerial_respects : Respects Alike Alike newSerial :=
  .of_reporting fun _ _ _ n => ⟨n, rfl⟩

theorem note_respects (notice : Notice) : Respects Alike Alike (note notice) :=
  .of_reporting fun _ _ _ n => ⟨notice :: n, rfl⟩

theorem new_respects (make : Nat → α) :
    Respects Alike Alike (do return make (← newSerial) : HostAction α).run :=
  .action_map (.action_lift newSerial_respects) make

end Host

namespace Engine

variable (e : Engine) (handle : Handle)

/-- What is set under a key is the same whatever was there. -/
theorem diagnostics_set (c c' : Cells (Nat × Thread) (Option String)) (key : Nat × Thread)
    (d : Option String) : (c'.set key d).get key = (c.set key d).get key := by
  rw [Cells.get_set_self, Cells.get_set_self]

theorem fetchBytes_respects (path : String) : Respects Alike Alike (e.fetchBytes path).run := by
  rintro h _ ⟨d, o, n, rfl⟩
  unfold fetchBytes
  rw [Action.run_lift_bind, Action.run_get_bind, Action.run_lift_bind, Action.run_get_bind]
  have hfiles : ((Host.record e .fetchBytes).run (h.reporting d o n)).2.files =
      ((Host.record e .fetchBytes).run h).2.files := rfl
  rw [hfiles]
  split <;> exact ⟨rfl, d, _, n, rfl⟩

section

variable [Platform]

theorem validate_respects (data : Guest.Image) : Respects Alike (AlikeFor e) (e.validate data) := by
  rintro h _ ⟨d, o, n, rfl⟩
  unfold validate
  cases Guest.validate data <;> exact ⟨rfl, ⟨_, _, _, rfl⟩, diagnostics_set ..⟩

theorem compile_respects (data : Guest.Image) : Respects Alike (AlikeFor e) (e.compile data) := by
  rintro h _ ⟨d, o, n, rfl⟩
  unfold compile
  cases Guest.compile data <;> exact ⟨rfl, ⟨_, _, _, rfl⟩, diagnostics_set ..⟩

theorem serialize_respects (artifact : Artifact) :
    Respects Alike (AlikeFor e) (e.serialize artifact) := by
  rintro h _ ⟨d, o, n, rfl⟩
  unfold serialize
  rw [stateM_run_get, stateM_run_get]
  have hfault : (h.reporting d o n).serializeFault = h.serializeFault := rfl
  rw [hfault]
  cases h.serializeFault <;> exact ⟨rfl, ⟨_, _, _, rfl⟩, diagnostics_set ..⟩

theorem deserialize_respects (data : Guest.Image) :
    Respects Alike (AlikeFor e) (e.deserialize data) := by
  rintro h _ ⟨d, o, n, rfl⟩
  unfold deserialize
  dsimp only
  split
  · split <;> exact ⟨rfl, ⟨_, _, _, rfl⟩, diagnostics_set ..⟩
  · exact ⟨rfl, ⟨_, _, _, rfl⟩, diagnostics_set ..⟩

theorem newInstance_respects (artifact : Artifact) :
    Respects Alike (AlikeFor e) (e.newInstance artifact) := by
  rintro h _ ⟨d, o, n, rfl⟩
  unfold newInstance
  cases Guest.instantiate artifact.compiled.program e.budget <;>
    exact ⟨rfl, ⟨_, _, _, rfl⟩, diagnostics_set ..⟩

end

theorem functionSignature_alike (name : String) (h : Host) :
    Alike h ((e.functionSignature handle name).run h).2 := by
  obtain ⟨notices, hrun⟩ := e.functionSignature_run handle name h
  rw [hrun]
  exact ⟨_, _, notices, rfl⟩

theorem functionSignature_respects (name : String) :
    Respects Alike (AlikeFor e) (e.functionSignature handle name) := by
  rintro h _ ⟨d, o, n, rfl⟩
  obtain ⟨notices, hrun⟩ := e.functionSignature_run handle name h
  obtain ⟨notices', hrun'⟩ := e.functionSignature_run handle name (h.reporting d o n)
  rw [hrun, hrun']
  exact ⟨rfl, ⟨_, _, _, rfl⟩, diagnostics_set ..⟩

theorem memoryBuffer_respects : Respects Alike (AlikeFor e) (e.memoryBuffer handle) := by
  rintro h _ ⟨d, o, n, rfl⟩
  unfold memoryBuffer
  cases handle.program.exposedMemory? <;> exact ⟨rfl, ⟨_, _, _, rfl⟩, diagnostics_set ..⟩

section

variable [Platform]

theorem makeValue_fixed (kind : ValueKind) (a : HostValue) : Fixed (e.invoker.makeValue kind a) :=
  ⟨_, e.makeValue_run kind a⟩

/-- An invocation that raises nothing leaves its mark, so that the diagnostic is the same, too. -/
theorem invokeFunction_respects (name : String) (values : List Value) {h h' : Host}
    (alike : Alike h h') :
    ((e.invokeFunction handle name values).run.run h').1 =
        ((e.invokeFunction handle name values).run.run h).1 ∧
      Alike ((e.invokeFunction handle name values).run.run h).2
        ((e.invokeFunction handle name values).run.run h').2 ∧
      ∀ outcome, ((e.invokeFunction handle name values).run.run h).1 = .ok outcome →
        AlikeFor e ((e.invokeFunction handle name values).run.run h).2
          ((e.invokeFunction handle name values).run.run h').2 := by
  -- the two states have the same instances, so that each look-up and check goes the same way
  obtain ⟨d, o, n, rfl⟩ := alike
  unfold invokeFunction
  rw [Action.run_lift_bind, Action.run_lift_bind]
  cases handle.program.export? name with
  | none => exact ⟨rfl, ⟨_, _, _, rfl⟩, fun _ _ => ⟨⟨_, _, _, rfl⟩, diagnostics_set ..⟩⟩
  | some item =>
    cases item with
    | function f =>
      dsimp only
      by_cases hkinds : values.map (·.kind) = f.params.map (·.kind)
      · rw [if_pos hkinds, Action.run_lift_bind, Action.run_lift_bind]
        cases values.mapM guestValue with
        | error fault => exact ⟨rfl, ⟨_, _, _, rfl⟩, fun _ hok => nomatch hok⟩
        | ok args =>
          dsimp only
          cases args.mapM id with
          | none => exact ⟨rfl, ⟨_, _, _, rfl⟩, fun _ hok => nomatch hok⟩
          | some words =>
            dsimp only
            rw [Action.run_get_bind, Action.run_get_bind]
            -- the guest is the same in both states, and so is what it does
            have hguest (h : Host) : ((Host.note (.invoking name values)).run
                ((Host.record e .invokeFunction).run h).2).2.guest handle = h.guest handle := rfl
            have hsame : (h.reporting d o n).guest handle = h.guest handle := rfl
            rw [hguest, hguest, hsame]
            rcases Guest.call handle.program f words (h.guest handle) with ⟨result, guest⟩
            dsimp only
            rw [Action.run_modify_bind, Action.run_modify_bind]
            cases result <;>
              exact ⟨rfl, ⟨_, _, _, rfl⟩, fun _ _ => ⟨⟨_, _, _, rfl⟩, diagnostics_set ..⟩⟩
      · rw [if_neg hkinds]
        exact ⟨rfl, ⟨_, _, _, rfl⟩, fun _ _ => ⟨⟨_, _, _, rfl⟩, diagnostics_set ..⟩⟩
    | _ => exact ⟨rfl, ⟨_, _, _, rfl⟩, fun _ _ => ⟨⟨_, _, _, rfl⟩, diagnostics_set ..⟩⟩

end

theorem lastError_respects : Respects (AlikeFor e) Alike e.lastError := by
  rintro h h' ⟨⟨d, o, n, rfl⟩, hsame⟩
  exact ⟨hsame, d, o, n, rfl⟩

theorem refusal_respects (fault : Option String → Fault) :
    Respects (AlikeFor e) Alike (do Action.fail (fault (← e.lastError)) : HostAction α).run :=
  .action_seq (.action_lift e.lastError_respects) fun _ => .action_done _

variable [Platform]

theorem resolve_alike (name : String) (h : Host) :
    Alike h ((e.invoker.resolve handle name).run.run h).2 := by
  rw [e.resolve_eq]
  exact e.functionSignature_alike handle name h

theorem resolve_respects (name : String) :
    Respects Alike Alike (e.invoker.resolve handle name).run := by
  intro h h' alike
  obtain ⟨-, hafter⟩ := e.functionSignature_respects handle name h h' alike
  rw [e.resolve_eq, e.resolve_eq]
  exact ⟨rfl, hafter.1⟩

theorem marshalFrom_fixed (function : String) (position : Nat) (kinds : List ValueKind)
    (arguments : List HostValue) :
    Fixed (e.invoker.marshalFrom function position kinds arguments) := by
  -- by induction on the kinds, since every kind takes one argument with it
  induction kinds generalizing position arguments with
  | nil => cases arguments <;> exact .done _
  | cons kind kinds ih =>
    cases arguments with
    | nil => exact .done _
    | cons a arguments =>
      refine .bind ?_ fun value => .bind (ih (position + 1) arguments) fun values => .done _
      refine .bind (.check _) fun _ => .bind (e.makeValue_fixed kind a) fun made => ?_
      cases made <;> exact .done _

theorem marshal_fixed (function : String) (signature : Signature) (arguments : List HostValue) :
    Fixed (e.invoker.marshal function signature arguments) :=
  .bind (.check _) fun _ => e.marshalFrom_fixed function 1 signature.params arguments

-- Engines do not differ in the values that they make of arguments.
theorem marshalFrom_eq (e e' : Engine) (function : String) (position : Nat)
    (kinds : List ValueKind) (arguments : List HostValue) :
    e'.invoker.marshalFrom function position kinds arguments =
      e.invoker.marshalFrom function position kinds arguments := by
  induction kinds generalizing position arguments with
  | nil => cases arguments <;> rfl
  | cons kind kinds ih =>
    cases arguments with
    | nil => rfl
    | cons a arguments =>
      unfold Invoker.marshalFrom
      rw [ih]
      rfl

theorem marshal_eq (e e' : Engine) (function : String) (signature : Signature)
    (arguments : List HostValue) : e'.invoker.marshal function signature arguments =
      e.invoker.marshal function signature arguments :=
  bind_congr fun _ => marshalFrom_eq e e' function 1 signature.params arguments

/-- What a call does once its arguments are values: it invokes the function, and fails with the
diagnostic if the invocation failed. -/
def concluding (name : String) (values : List Value) : HostAction HostValue := do
  match ← e.invokeFunction handle name values with
  | .returned result => return result
  | .failed =>
    let diagnostic ← e.lastError
    Host.note (.invocationFailed name diagnostic)
    Action.fail (.trapped name diagnostic)

theorem concluding_run_returned {name : String} {values : List Value} {result : HostValue}
    {h h₁ : Host} (hinvoke : (e.invokeFunction handle name values).run.run h =
      (.ok (.returned result), h₁)) :
    (e.concluding handle name values).run.run h = (.ok result, h₁) :=
  Action.run_bind_ok hinvoke

theorem concluding_run_failed {name : String} {values : List Value} {h h₁ : Host}
    (hinvoke : (e.invokeFunction handle name values).run.run h = (.ok .failed, h₁)) :
    (e.concluding handle name values).run.run h =
      (.error ⟨.trapped name (e.diagnosticOn h₁ h₁.thread), none⟩,
        ((Host.note (.invocationFailed name (e.diagnosticOn h₁ h₁.thread))).run h₁).2) :=
  Action.run_bind_ok hinvoke

theorem concluding_respects (name : String) (values : List Value) :
    Respects Alike Alike (e.concluding handle name values).run := by
  intro h h' alike
  obtain ⟨hsame, hafter, hfor⟩ := e.invokeFunction_respects handle name values alike
  -- the invocation gives the same in both, and only what it has left to read is needed
  rcases hrun : (e.invokeFunction handle name values).run.run h with ⟨result, h₁⟩
  rcases hrun' : (e.invokeFunction handle name values).run.run h' with ⟨result', h₁'⟩
  rw [hrun, hrun'] at hsame hafter hfor
  obtain rfl : result' = result := hsame
  cases result' with
  | error failure =>
    rw [concluding, Action.run_bind_error hrun, Action.run_bind_error hrun']
    exact ⟨rfl, hafter⟩
  | ok outcome =>
    cases outcome with
    | returned result =>
      rw [e.concluding_run_returned handle hrun, e.concluding_run_returned handle hrun']
      exact ⟨rfl, hafter⟩
    | failed =>
      rw [e.concluding_run_failed handle hrun, e.concluding_run_failed handle hrun']
      -- the diagnostic was recorded by the invocation
      obtain ⟨⟨d, o, n, rfl⟩, hlast⟩ := hfor _ rfl
      have hlast : e.diagnosticOn (h₁.reporting d o n) (h₁.reporting d o n).thread =
        e.diagnosticOn h₁ h₁.thread := hlast
      rw [hlast]
      exact ⟨rfl, d, o, _, rfl⟩

theorem call_respects (name : String) (signature : Signature) (arguments : List HostValue) :
    Respects Alike Alike (e.invoker.call handle name signature arguments).run :=
  .action_seq (e.marshal_fixed name signature arguments).respects fun values =>
    e.concluding_respects handle name values

theorem dispatch_respects (name : String) (arguments : List HostValue) :
    Respects Alike Alike (e.invoker.dispatch handle name arguments).run :=
  .action_seq (e.resolve_respects handle name) fun signature =>
    e.call_respects handle name signature arguments

end Engine
end WasmHost
