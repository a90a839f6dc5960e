import WasmHost.Proofs.EngineCall
import WasmHost.Proofs.Invocation
/-!
The diagnostics of an engine over whole histories.

Of every operation it is shown which mark it leaves: none, a cleared diagnostic, or a recorded one.
By induction over the history, the diagnostic that a thread reads is then the one left by the last
operation of that thread that left a mark at all.
-/
namespace WasmHost

theorem Mark.ofSuccess_ne_kept (success : Bool) :
    ofSuccess success ≠ kept := by
  cases success <;> decide

theorem Guest.Program.contains_exportNames (p : Guest.Program) (name : String) :
    p.exportNames.contains name = (p.export? name).isSome := by
  unfold exportNames export?
  rw [Option.isSome_map, Bool.eq_iff_iff, List.contains_iff_mem, List.find?_isSome, List.mem_map]
  simp only [decide_eq_true_eq]

/-- Between two states an engine has left a mark on the diagnostic of a thread, and every other
diagnostic is as before. A new diagnostic is the one that has been recorded meanwhile. -/
def Marked (e : Engine) (thread : Thread) (before after : Host) (mark : Mark) : Prop :=
  ∃ new, after.notices = new ++ before.notices ∧
    match mark with
    | .kept => new.filterMap Notice.diagnostic? = [] ∧
      ∀ key, after.diagnostics.get key = before.diagnostics.get key
    | .cleared => new.filterMap Notice.diagnostic? = [] ∧
      ∀ key, after.diagnostics.get key =
        if key = (e.serial, thread) then none else before.diagnostics.get key
    | .recorded => ∃ diagnostic, new.filterMap Notice.diagnostic? = [diagnostic] ∧
      ∀ key, after.diagnostics.get key =
        if key = (e.serial, thread) then some diagnostic else before.diagnostics.get key

-- The diagnostics recorded between two states are those among the new notices.
theorem Host.diagnosticsBetween_eq {before after : Host} {new : List Notice}
    (h : after.notices = new ++ before.notices) :
    before.diagnosticsBetween after = (new.filterMap Notice.diagnostic?).reverse := by
  have hnew : after.notices.take (after.notices.length - before.notices.length) = new := by
    rw [h, List.length_append, Nat.add_sub_cancel, List.take_left]
  rw [diagnosticsBetween, hnew]

namespace Marked

variable {e : Engine} {thread : Thread} {before after : Host}

theorem keep (new : List Notice) (hn : after.notices = new ++ before.notices)
    (hs : new.filterMap Notice.diagnostic? = []) (hd : after.diagnostics = before.diagnostics) :
    Marked e thread before after .kept :=
  ⟨new, hn, hs, fun key => by rw [hd]⟩

theorem clear (new : List Notice) (hn : after.notices = new ++ before.notices)
    (hs : new.filterMap Notice.diagnostic? = [])
    (hd : after.diagnostics = before.diagnostics.set (e.serial, thread) none) :
    Marked e thread before after .cleared :=
  ⟨new, hn, hs, fun key => by rw [hd, Cells.get_set]⟩

theorem record (new : List Notice) {diagnostic : String}
    (hn : after.notices = new ++ before.notices)
    (hs : new.filterMap Notice.diagnostic? = [diagnostic])
    (hd : after.diagnostics = before.diagnostics.set (e.serial, thread) (some diagnostic)) :
    Marked e thread before after .recorded :=
  ⟨new, hn, diagnostic, hs, fun key => by rw [hd, Cells.get_set]⟩

-- What is marked after a diagnostic was cleared is as if it had not been cleared.
theorem after_cleared {mark : Mark} {last : Host} (first : Marked e thread before after .cleared)
    (second : Marked e thread after last mark) (h : mark ≠ .kept) :
    Marked e thread before last mark := by
  obtain ⟨new₁, hn₁, hs₁, hg₁⟩ := first
  obtain ⟨new₂, hn₂, hmark⟩ := second
  refine ⟨new₂ ++ new₁, by rw [hn₂, hn₁, List.append_assoc], ?_⟩
  -- the second mark is under the key that was cleared, so it covers what clearing did
  have hover {value : Option String} {key : Nat × Thread}
      (hk : last.diagnostics.get key =
        if key = (e.serial, thread) then value else after.diagnostics.get key) :
      last.diagnostics.get key =
        if key = (e.serial, thread) then value else before.diagnostics.get key := by
    rw [hk]
    by_cases hkey : key = (e.serial, thread)
    · rw [if_pos hkey, if_pos hkey]
    · rw [if_neg hkey, if_neg hkey, hg₁, if_neg hkey]
  cases mark with
  | kept => exact absurd rfl h
  | cleared =>
    refine ⟨?_, fun key => hover (hmark.2 key)⟩
    rw [List.filterMap_append, hmark.1, hs₁]
    rfl
  | recorded =>
    obtain ⟨diagnostic, hs₂, hg₂⟩ := hmark
    refine ⟨diagnostic, ?_, fun key => hover (hg₂ key)⟩
    rw [List.filterMap_append, hs₂, hs₁]
    rfl

theorem of_recorded (h : Marked e thread before after .recorded) :
    ∃ diagnostic, before.diagnosticsBetween after = [diagnostic] ∧
      e.diagnosticOn after thread = some diagnostic := by
  obtain ⟨new, hn, diagnostic, hs, hg⟩ := h
  refine ⟨diagnostic, ?_, ?_⟩
  · rw [Host.diagnosticsBetween_eq hn, hs, List.reverse_singleton]
  · rw [Engine.diagnosticOn, hg, if_pos rfl]

theorem of_cleared (h : Marked e thread before after .cleared) :
    e.diagnosticOn after thread = none := by
  obtain ⟨new, hn, hs, hg⟩ := h
  rw [Engine.diagnosticOn, hg, if_pos rfl]

theorem of_kept (h : Marked e thread before after .kept) (other : Engine) (t : Thread) :
    other.diagnosticOn after t = other.diagnosticOn before t := by
  obtain ⟨new, hn, hs, hg⟩ := h
  exact hg _

theorem elsewhere {mark : Mark} (h : Marked e thread before after mark) {other : Engine}
    {t : Thread} (hne : ¬(other.serial = e.serial ∧ t = thread)) :
    other.diagnosticOn after t = other.diagnosticOn before t := by
  have hkey : (other.serial, t) ≠ (e.serial, thread) := fun heq =>
    hne ⟨congrArg Prod.fst heq, congrArg Prod.snd heq⟩
  obtain ⟨new, hn, hmark⟩ := h
  cases mark with
  | kept => exact hmark.2 _
  | cleared => exact (hmark.2 _).trans (if_neg hkey)
  | recorded =>
    obtain ⟨diagnostic, hs, hg⟩ := hmark
    exact (hg _).trans (if_neg hkey)

end Marked

section Runtime

variable [Guest.Runtime]

namespace Engine

variable (e : Engine) (h : Host)

omit [Guest.Runtime] in
theorem fetchBytes_marked (path : String) :
    Marked e h.thread h ((e.fetchBytes path).run.run h).2 .kept := by
  unfold fetchBytes
  rw [Action.run_lift_bind, Action.run_get_bind]
  split <;> exact .keep [] rfl rfl rfl

theorem validate_marked (data : Guest.Image) :
    Marked e h.thread h ((e.validate data).run h).2
      (.ofSuccess ((e.validate data).run h).1) := by
  unfold validate
  cases Guest.validate data with
  | some problem => exact .record [_] rfl rfl rfl
  | none => exact .clear [] rfl rfl rfl

theorem compile_thread (data : Guest.Image) :
    ((e.compile data).run h).2.thread = h.thread := by
  unfold compile
  cases Guest.compile data <;> rfl

theorem compile_marked (data : Guest.Image) :
    Marked e h.thread h ((e.compile data).run h).2
      (.ofSuccess ((e.compile data).run h).1.isSome) := by
  unfold compile
  cases Guest.compile data with
  | error diagnostic => exact .record [_, _] rfl rfl rfl
  | ok program => exact .clear [_] rfl rfl rfl

theorem serialize_marked (artifact : Artifact) :
    Marked e h.thread h ((e.serialize artifact).run h).2
      (.ofSuccess ((e.serialize artifact).run h).1.isSome) := by
  unfold serialize
  rw [stateM_run_get]
  cases h.serializeFault with
  | some diagnostic => exact .record [_] rfl rfl rfl
  | none => exact .clear [] rfl rfl rfl

theorem deserialize_marked (data : Guest.Image) :
    Marked e h.thread h ((e.deserialize data).run h).2
      (.ofSuccess ((e.deserialize data).run h).1.isSome) := by
  unfold deserialize
  dsimp only
  -- data without the magic, data that cannot be loaded, and a program
  by_cases hmagic : (Guest.Image.ofBytes serializedMagic).isPrefixOf data
  · rw [if_pos hmagic]
    cases Guest.load e.settings.values.consumeFuel e.settings.values.debugInfo
        (data.drop (Guest.Image.ofBytes serializedMagic).length) with
    | error detail => exact .record [_] rfl rfl rfl
    | ok program => exact .clear [] rfl rfl rfl
  · rw [if_neg hmagic]
    exact .record [_] rfl rfl rfl

theorem newInstance_marked (artifact : Artifact) :
    Marked e h.thread h ((e.newInstance artifact).run h).2
      (.ofSuccess ((e.newInstance artifact).run h).1.isSome) := by
  unfold newInstance
  cases Guest.instantiate artifact.compiled.program e.budget with
  | error diagnostic => exact .record [_] rfl rfl rfl
  | ok guest => exact .clear [_] rfl rfl rfl

theorem newInstanceFromBytes_marked (data : Guest.Image) :
    Marked e h.thread h ((e.newInstanceFromBytes data).run h).2
      (.ofSuccess ((e.newInstanceFromBytes data).run h).1.isSome) := by
  have hcompile := e.compile_marked h data
  have hthread := e.compile_thread h data
  unfold newInstanceFromBytes
  -- a failed compilation ends it; a successful one clears, and the instance decides
  rw [stateM_run_bind]
  cases hresult : ((e.compile data).run h).1 with
  | none =>
    rw [hresult] at hcompile
    exact hcompile
  | some artifact =>
    have hnew := e.newInstance_marked ((e.compile data).run h).2 artifact
    rw [hthread] at hnew
    rw [hresult] at hcompile
    exact Marked.after_cleared hcompile hnew (Mark.ofSuccess_ne_kept _)

omit [Guest.Runtime] in
theorem functionSignature_marked (handle : Handle) (name : String) :
    Marked e h.thread h ((e.functionSignature handle name).run h).2
      (.ofSuccess (((e.functionSignature handle name).run h).1.isSome ||
        !handle.program.exportNames.contains name)) := by
  unfold functionSignature
  -- a name that is no export clears all the same, since nothing is wrong with the module
  cases hexport : handle.program.export? name with
  | none =>
    rw [handle.program.contains_exportNames, hexport]
    exact .clear [] rfl rfl rfl
  | some item =>
    rw [handle.program.contains_exportNames, hexport]
    cases item with
    | function f =>
      dsimp only
      cases hsig : signatureOf? f with
      | some signature => exact .clear [] rfl rfl rfl
      | none => exact .record [_] rfl rfl rfl
    | _ => exact .record [_] rfl rfl rfl

omit [Guest.Runtime] in
theorem memoryBuffer_marked (handle : Handle) :
    Marked e h.thread h ((e.memoryBuffer handle).run h).2 .cleared := by
  unfold memoryBuffer
  cases handle.program.exposedMemory? with
  | none => exact .clear [] rfl rfl rfl
  | some memory => exact .clear [] rfl rfl rfl

theorem invokeFunction_marked (handle : Handle) (name : String) (values : List Value) :
    Marked e h.thread h ((e.invokeFunction handle name values).run.run h).2
      (match ((e.invokeFunction handle name values).run.run h).1 with
        | .ok (.returned _) => .cleared
        | .ok .failed => .recorded
        | .error _ => .kept) := by
  have hinvokes := e.invokeFunction_invokes handle name values h
  generalize ((e.invokeFunction handle name values).run.run h).1 = result at hinvokes
  -- a wrong argument is refused by the conversion, which records nothing
  generalize ((e.invokeFunction handle name values).run.run h).2 = after at hinvokes
  cases hinvokes with
  | missing => exact .record [_] rfl rfl rfl
  | mismatched => exact .record [_] rfl rfl rfl
  | wrongPayload => exact .keep [_] rfl rfl rfl
  | wrongValue => exact .keep [_] rfl rfl rfl
  | returned => exact .clear [_] rfl rfl rfl
  | trapped => exact .record [_, _] rfl rfl rfl

/-- Every operation leaves the mark that its outcome tells. -/
theorem call_marked (call : EngineCall) :
    Marked e h.thread h ((call.run e).run.run h).2 (call.mark ((call.run e).run.run h).1) := by
  -- what asks for something clears or records, and what only looks keeps
  cases call with
  | lastError => exact .keep [] rfl rfl rfl
  | fetchBytes path =>
    have hmarked := e.fetchBytes_marked h path
    rw [EngineCall.run, Action.run_bind_pure]
    cases ((e.fetchBytes path).run.run h).1 <;> exact hmarked
  | validate data => exact e.validate_marked h data
  | compile data => exact e.compile_marked h data
  | serialize artifact => exact e.serialize_marked h artifact
  | deserialize data => exact e.deserialize_marked h data
  | newInstance artifact => exact e.newInstance_marked h artifact
  | newInstanceFromBytes data => exact e.newInstanceFromBytes_marked h data
  | exportNames handle => exact .keep [] rfl rfl rfl
  | functionNames handle => exact .keep [] rfl rfl rfl
  | functionSignature handle name => exact e.functionSignature_marked h handle name
  | makeValue kind argument =>
    rw [EngineCall.run, Action.run_bind_pure, e.makeValue_run kind argument h]
    dsimp only
    cases Value.ofHost kind argument <;> exact .keep [] rfl rfl rfl
  | invokeFunction handle name values =>
    have hmarked := e.invokeFunction_marked h handle name values
    rw [EngineCall.run, Action.run_bind_pure]
    cases hresult : ((e.invokeFunction handle name values).run.run h).1 with
    | error failure =>
      rw [hresult] at hmarked
      exact hmarked
    | ok outcome =>
      rw [hresult] at hmarked
      cases outcome <;> exact hmarked
  | memoryBuffer handle => exact e.memoryBuffer_marked h handle
  | memorySize handle memory => exact .keep [] rfl rfl rfl
  | memoryRead handle memory start stop => exact .keep [] rfl rfl rfl

end Engine

/-- An operation that an engine has performed on a thread, and what came of it. -/
structure EngineEvent where
  engine : Engine
  thread : Thread
  call : EngineCall
  reply : Except Failure EngineReply
  /-- The diagnostics that were recorded while it ran. -/
  recorded : List String

/-- What an event did to the diagnostic of its engine and thread. -/
def EngineEvent.mark (event : EngineEvent) : Mark := event.call.mark event.reply

/-- The state after an operation of an engine on a thread. -/
def Engine.hostAfter (e : Engine) (thread : Thread) (call : EngineCall) (h : Host) : Host :=
  ((call.run e).run.run (h.onThread thread)).2

/-- The event of an operation of an engine on a thread. -/
def Engine.eventOf (e : Engine) (thread : Thread) (call : EngineCall) (h : Host) : EngineEvent :=
  ⟨e, thread, call, ((call.run e).run.run (h.onThread thread)).1,
    h.diagnosticsBetween (e.hostAfter thread call h)⟩

/-- The events of a process so far, and its state after them: engines have performed operations on
threads, in any order, and meanwhile everything but the diagnostics may have changed. -/
inductive EngineHistory : List EngineEvent → Host → Prop
  | start (context : SettingsContext) (files : Files.Tree) :
      EngineHistory [] (Host.fresh context files)
  | call {events : List EngineEvent} {h : Host} (past : EngineHistory events h) (e : Engine)
      (thread : Thread) (call : EngineCall) :
      EngineHistory (events ++ [e.eventOf thread call h]) (e.hostAfter thread call h)
  | elsewhere {events : List EngineEvent} {h after : Host} (past : EngineHistory events h)
      (hdiagnostics : after.diagnostics = h.diagnostics) : EngineHistory events after

/-- Whether an event left a mark on the diagnostic of an engine and a thread. -/
def EngineEvent.marks (event : EngineEvent) (e : Engine) (thread : Thread) : Bool :=
  event.engine.serial = e.serial ∧ event.thread = thread ∧ event.mark ≠ .kept

/-- The last of some events that left a mark on the diagnostic of an engine and a thread. -/
def Engine.lastMarking (e : Engine) (thread : Thread) (events : List EngineEvent) :
    Option EngineEvent :=
  (events.filter (·.marks e thread)).getLast?

/-- What there is to read after the last event that left a mark: nothing if there was no such event
or it cleared the diagnostic, and else the one diagnostic that was recorded during it. -/
inductive Leaves : Option EngineEvent → Option String → Prop
  | untouched : Leaves none none
  | cleared {event : EngineEvent} (hmark : event.mark = .cleared) : Leaves (some event) none
  | recorded {event : EngineEvent} {diagnostic : String} (hmark : event.mark = .recorded)
      (hrecorded : event.recorded = [diagnostic]) : Leaves (some event) (some diagnostic)

/-- The operations that never touch a diagnostic, whatever they give. -/
def EngineCall.silent : EngineCall → Bool
  | lastError | fetchBytes _ | exportNames _ | functionNames _ | makeValue _ _
  | memorySize _ _ | memoryRead _ _ _ _ => true
  | _ => false

omit [Guest.Runtime] in
theorem EngineCall.mark_of_silent {call : EngineCall} (h : call.silent)
    (reply : Except Failure EngineReply) : call.mark reply = .kept := by
  cases call <;> first | rfl | cases h

namespace Engine

variable (e : Engine) (thread : Thread)

omit [Guest.Runtime] in
theorem lastMarking_append_of_marks {event : EngineEvent} (h : event.marks e thread)
    (events : List EngineEvent) : e.lastMarking thread (events ++ [event]) = some event := by
  rw [lastMarking, List.filter_append, List.filter_cons, if_pos h, List.filter_nil,
    List.getLast?_concat]

omit [Guest.Runtime] in
theorem lastMarking_append_of_not_marks {event : EngineEvent} (h : ¬event.marks e thread)
    (events : List EngineEvent) :
    e.lastMarking thread (events ++ [event]) = e.lastMarking thread events := by
  rw [lastMarking, List.filter_append, List.filter_cons, if_neg h, List.filter_nil,
    List.append_nil, lastMarking]

theorem eventOf_marked (call : EngineCall) (h : Host) :
    Marked e thread h (e.hostAfter thread call h) (e.eventOf thread call h).mark :=
  e.call_marked (h.onThread thread) call

-- A silent operation, and any operation of another engine or thread, leaves a diagnostic.
theorem diagnosticOn_hostAfter_of_other {other : Engine} {t : Thread} {call : EngineCall}
    (hother : other.serial ≠ e.serial ∨ t ≠ thread ∨ call.silent) (h : Host) :
    e.diagnosticOn (other.hostAfter t call h) thread = e.diagnosticOn h thread := by
  have hmarked := other.eventOf_marked t call h
  rcases hother with hserial | hthread | hsilent
  · exact hmarked.elsewhere fun hsame => hserial hsame.1.symm
  · exact hmarked.elsewhere fun hsame => hthread hsame.2.symm
  · have hkept : (other.eventOf t call h).mark = .kept := call.mark_of_silent hsilent _
    rw [hkept] at hmarked
    exact hmarked.of_kept e thread

end Engine

/-- Over a whole history, the diagnostic of an engine and a thread is the one that the last event
to leave a mark there has left. -/
theorem EngineHistory.leaves {events : List EngineEvent} {h : Host}
    (history : EngineHistory events h) (e : Engine) (thread : Thread) :
    Leaves (e.lastMarking thread events) (e.diagnosticOn h thread) := by
  -- by induction on the history; the last event decides, and if it leaves no mark the rest does
  induction history with
  | start context files => exact .untouched
  -- the diagnostics are not changed in between
  | elsewhere past hdiagnostics ih =>
    rw [Engine.diagnosticOn, hdiagnostics]
    exact ih
  | @call events h past other t call ih =>
    have hmarked := other.eventOf_marked t call h
    by_cases hmarks : (other.eventOf t call h).marks e thread
    -- the event leaves a mark here: what was there before does not matter
    · rw [e.lastMarking_append_of_marks thread hmarks]
      obtain ⟨hserial, rfl, hkept⟩ := of_decide_eq_true hmarks
      have hsame : e.diagnosticOn (other.hostAfter t call h) t =
          other.diagnosticOn (other.hostAfter t call h) t := by
        rw [Engine.diagnosticOn, Engine.diagnosticOn]
        exact congrArg (fun serial => Cells.get _ (serial, t)) hserial.symm
      cases hmark : (other.eventOf t call h).mark with
      | kept => exact absurd hmark hkept
      | cleared =>
        rw [hmark] at hmarked
        have hread := hsame.trans hmarked.of_cleared
        exact hread ▸ .cleared hmark
      | recorded =>
        rw [hmark] at hmarked
        obtain ⟨diagnostic, hrecorded, hdiagnostic⟩ := hmarked.of_recorded
        have hread := hsame.trans hdiagnostic
        exact hread ▸ .recorded hmark hrecorded
    -- it leaves none: it kept the diagnostic, or belongs to another engine or thread
    · rw [e.lastMarking_append_of_not_marks thread hmarks]
      have hread : e.diagnosticOn (other.hostAfter t call h) thread = e.diagnosticOn h thread := by
        by_cases hsame : e.serial = other.serial ∧ thread = t
        · have hkept : (other.eventOf t call h).mark = .kept :=
            Decidable.byContradiction fun hne =>
              hmarks (decide_eq_true ⟨hsame.1.symm, hsame.2.symm, hne⟩)
          rw [hkept] at hmarked
          exact hmarked.of_kept e thread
        · exact hmarked.elsewhere hsame
      rw [hread]
      exact ih

/-- On every thread `lastError` gives what the last operation of that thread on the engine that
left a mark has left: nothing after a success, and after a failure the diagnostic recorded by that
very operation. Other threads and engines and the silent operations do not change it. -/
theorem EngineHistory.lastError_leaves {events : List EngineEvent} {h : Host}
    (history : EngineHistory events h) (e : Engine) (thread : Thread) :
    Leaves (e.lastMarking thread events) (e.lastError.run (h.onThread thread)).1 ∧
      ∀ (other : Engine) (t : Thread) (call : EngineCall),
        other.serial ≠ e.serial ∨ t ≠ thread ∨ call.silent →
          (e.lastError.run ((other.hostAfter t call h).onThread thread)).1 =
            (e.lastError.run (h.onThread thread)).1 := by
  refine ⟨history.leaves e thread, fun other t call hother => ?_⟩
  exact e.diagnosticOn_hostAfter_of_other thread hother h

end Runtime

section Machine

attribute [local instance] Guest.machine

/-- After a call of an export that is missing, on thread 1, and a request for the memory, on
thread 2, thread 1 still reads the diagnostic of its call. -/
theorem lastError_leaves_missing_export :
    let e : Engine := ⟨1, ⟨0, .default⟩⟩
    let handle : Handle := ⟨3, ⟨2, ⟨.empty, false, false⟩⟩⟩
    let missing := EngineCall.invokeFunction handle "f" []
    let h₀ := Host.fresh ⟨.empty, none⟩ ⟨[]⟩
    let h₁ := e.hostAfter 1 missing h₀
    let h₂ := e.hostAfter 2 (.memoryBuffer handle) h₁
    EngineHistory [e.eventOf 1 missing h₀, e.eventOf 2 (.memoryBuffer handle) h₁] h₂ ∧
      Leaves (some (e.eventOf 1 missing h₀)) (e.lastError.run (h₂.onThread 1)).1 ∧
      (e.lastError.run (h₂.onThread 1)).1 =
        some "Call error: no exported function named `f`" := by
  intro e handle missing h₀ h₁ h₂
  have history : EngineHistory
      [e.eventOf 1 missing h₀, e.eventOf 2 (.memoryBuffer handle) h₁] h₂ :=
    .call (.call (.start _ _) e 1 missing) e 2 (.memoryBuffer handle)
  exact ⟨history, (history.lastError_leaves e 1).1, rfl⟩

end Machine

end WasmHost
