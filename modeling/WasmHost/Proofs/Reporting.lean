import WasmHost.Proofs.Channel
/-!
The rule for diagnostics, and the one operation that does not keep it.

An operation that reports a failure has to leave the diagnostic that it recorded itself, and one
that succeeds has to leave none, so that no diagnostic of an earlier operation is read after it.
Making a value leaves no mark at all. What is read after it is what an earlier operation has left.
-/
namespace WasmHost

/-- Whether an operation has reported success or failure by what it gave. The request for the
signature of a missing export reports neither, nor does an operation that ends with a fault. -/
def EngineCall.success? : EngineCall → Except Failure EngineReply → Option Bool
  | compile _, .ok (.artifact artifact) => some artifact.isSome
  | serialize _, .ok (.serialized data) => some data.isSome
  | deserialize _, .ok (.artifact artifact) => some artifact.isSome
  | newInstance _, .ok (.handle handle) => some handle.isSome
  | newInstanceFromBytes _, .ok (.handle handle) => some handle.isSome
  | functionSignature _ _, .ok (.signature (some _)) => some true
  | functionSignature handle name, .ok (.signature none) =>
    if handle.program.exportNames.contains name then some false else none
  | makeValue _ _, .ok (.value value) => some value.isSome
  | invokeFunction _ _ _, .ok (.outcome (.returned _)) => some true
  | invokeFunction _ _ _, .ok (.outcome .failed) => some false
  | _, _ => none

/-- Whether a call makes a value. -/
def EngineCall.makesValue : EngineCall → Bool
  | makeValue _ _ => true
  | _ => false

namespace EngineEvent

/-- Whether an event has reported success or failure. -/
def success? (event : EngineEvent) : Option Bool := event.call.success? event.reply

/-- The rule for what is read after an event: nothing after a success, and after a failure the
diagnostic that was recorded while it ran. -/
inductive Obeys (event : EngineEvent) : Option String → Prop
  | success (reported : event.success? = some true) : Obeys event none
  | failure {diagnostic : String} (reported : event.success? = some false)
      (recorded : event.recorded = [diagnostic]) : Obeys event (some diagnostic)

variable {event : EngineEvent}

theorem mark_of_success? {success : Bool} (reported : event.success? = some success)
    (other : event.call.makesValue = false) : event.mark = .ofSuccess success := by
  obtain ⟨e, thread, call, reply, recorded⟩ := event
  unfold success? EngineCall.success? at reported
  dsimp only at reported
  split at reported
  -- only of a missing export more than the reply decides whether a failure is reported
  case h_7 handle name =>
    by_cases hexport : handle.program.exportNames.contains name = true
    · rw [if_pos hexport] at reported
      cases reported
      change Mark.ofSuccess (false || !handle.program.exportNames.contains name) = _
      rw [hexport]
      rfl
    · rw [if_neg hexport] at reported
      cases reported
  case h_8 => cases other
  case h_11 => cases reported
  all_goals
    cases reported
    rfl

theorem mark_of_makesValue (makes : event.call.makesValue = true) : event.mark = .kept := by
  obtain ⟨e, thread, call, reply, recorded⟩ := event
  cases call <;> first | rfl | cases makes

-- What is left by an event that reports something, and that leaves the mark of it, obeys the rule.
theorem obeys_of_leaves {success : Bool} {read : Option String}
    (reported : event.success? = some success) (hmark : event.mark = .ofSuccess success)
    (leaves : Leaves (some event) read) : event.Obeys read := by
  cases leaves with
  | cleared hcleared =>
    rw [hmark] at hcleared
    cases success with
    | true => exact .success reported
    | false => cases hcleared
  | recorded hrecorded hdiagnostic =>
    rw [hmark] at hrecorded
    cases success with
    | true => cases hrecorded
    | false => exact .failure reported hdiagnostic

end EngineEvent

section

variable [Guest.Runtime]

theorem EngineHistory.recorded_of_kept {events : List EngineEvent} {h : Host}
    (history : EngineHistory events h) {event : EngineEvent} (hevent : event ∈ events)
    (hkept : event.mark = .kept) : event.recorded = [] := by
  induction history with
  | start context files => cases hevent
  | elsewhere past hdiagnostics ih => exact ih hevent
  | @call events h past e thread call ih =>
    rcases List.mem_append.mp hevent with hpast | hlast
    · exact ih hpast
    · obtain rfl := List.mem_singleton.mp hlast
      have hmarked := e.eventOf_marked thread call h
      rw [hkept] at hmarked
      obtain ⟨new, hnew, hnone, -⟩ := hmarked
      change h.diagnosticsBetween (e.hostAfter thread call h) = []
      rw [Host.diagnosticsBetween_eq hnew, hnone, List.reverse_nil]

namespace Engine

variable (e : Engine) (thread : Thread)

omit [Guest.Runtime] in
theorem lastMarking_append_of_quiet (events : List EngineEvent) {later : List EngineEvent}
    (quiet : ∀ event ∈ later, event.marks e thread = false) :
    e.lastMarking thread (events ++ later) = e.lastMarking thread events := by
  have hnone : later.filter (·.marks e thread) = [] := by
    apply List.filter_eq_nil_iff.mpr
    intro event hevent
    rw [quiet event hevent]
    exact Bool.false_ne_true
  rw [lastMarking, List.filter_append, hnone, List.append_nil, lastMarking]

end Engine

/-- Over a whole history, and as long as no later operation of the engine and the thread leaves a
mark, what is read after an operation that has reported success or failure obeys the rule, for every
operation but making a value. After making a value there is still to read what was there before it:
the rule is kept only when it succeeded and nothing was left to read. -/
theorem EngineHistory.rule_kept_but_for_values {earlier later : List EngineEvent}
    {event : EngineEvent} {h : Host} (history : EngineHistory (earlier ++ event :: later) h)
    (quiet : ∀ next ∈ later, next.marks event.engine event.thread = false) :
    let read := (event.engine.lastError.run (h.onThread event.thread)).1
    (event.call.makesValue = false → ∀ success, event.success? = some success →
      event.Obeys read) ∧
    (event.call.makesValue = true →
      Leaves (event.engine.lastMarking event.thread earlier) read ∧
        (event.Obeys read ↔ event.success? = some true ∧ read = none)) := by
  intro read
  have hleaves : Leaves (event.engine.lastMarking event.thread (earlier ++ event :: later)) read :=
    history.leaves event.engine event.thread
  rw [List.append_cons, event.engine.lastMarking_append_of_quiet event.thread _ quiet] at hleaves
  constructor
  · intro other success reported
    have hmark := EngineEvent.mark_of_success? reported other
    -- the operation leaves a mark, so it is the last one that counts
    have hmarks : event.marks event.engine event.thread = true := by
      refine decide_eq_true ⟨rfl, rfl, ?_⟩
      rw [hmark]
      exact Mark.ofSuccess_ne_kept success
    rw [event.engine.lastMarking_append_of_marks event.thread hmarks] at hleaves
    exact EngineEvent.obeys_of_leaves reported hmark hleaves
  · intro makes
    have hkept := EngineEvent.mark_of_makesValue makes
    -- making a value does not count, so the last one that does came before it
    have hmarks : ¬event.marks event.engine event.thread := by
      intro hmarks
      exact (of_decide_eq_true hmarks).2.2 hkept
    rw [event.engine.lastMarking_append_of_not_marks event.thread hmarks] at hleaves
    refine ⟨hleaves, ?_⟩
    have hsilent : event.recorded = [] :=
      history.recorded_of_kept (List.mem_append_right earlier List.mem_cons_self) hkept
    constructor
    · intro obeys
      generalize read = diagnostic at obeys
      cases obeys with
      | success reported => exact ⟨reported, rfl⟩
      | failure reported recorded => cases hsilent.symm.trans recorded
    · rintro ⟨reported, hread⟩
      rw [hread]
      exact .success reported

end

section

attribute [local instance] Guest.machine

/-- What a failed call of a missing export has recorded is read after it, and still after a word is
made on the same thread. -/
theorem rule_kept_but_for_values_missing_export :
    let e : Engine := ⟨1, ⟨0, .default⟩⟩
    let missing := EngineCall.invokeFunction ⟨3, ⟨2, ⟨.empty, false, false⟩⟩⟩ "f" []
    let word := EngineCall.makeValue (.ofNumeric .i32) (.integer 5)
    let h₀ := Host.fresh ⟨.empty, none⟩ ⟨[]⟩
    let h₁ := e.hostAfter 1 missing h₀
    let h₂ := e.hostAfter 1 word h₁
    EngineHistory ([] ++ e.eventOf 1 missing h₀ :: [e.eventOf 1 word h₁]) h₂ ∧
      (∀ next ∈ [e.eventOf 1 word h₁], next.marks e 1 = false) ∧
      (e.eventOf 1 missing h₀).success? = some false ∧
      (e.eventOf 1 missing h₀).Obeys (e.lastError.run (h₂.onThread 1)).1 := by
  intro e missing word h₀ h₁ h₂
  have history : EngineHistory ([] ++ e.eventOf 1 missing h₀ :: [e.eventOf 1 word h₁]) h₂ :=
    .call (.call (.start _ _) e 1 missing) e 1 word
  have quiet : ∀ next ∈ [e.eventOf 1 word h₁], next.marks e 1 = false := by
    intro next hnext
    obtain rfl := List.mem_singleton.mp hnext
    decide
  have reported : (e.eventOf 1 missing h₀).success? = some false := rfl
  exact ⟨history, quiet, reported, (history.rule_kept_but_for_values quiet).1 rfl false reported⟩

/-- A word is made, and what is read after it is the diagnostic of the call before. -/
theorem stale_diagnostic_after_value :
    let e : Engine := ⟨1, ⟨0, .default⟩⟩
    let missing := EngineCall.invokeFunction ⟨3, ⟨2, ⟨.empty, false, false⟩⟩⟩ "f" []
    let word := EngineCall.makeValue (.ofNumeric .i32) (.integer 5)
    let h₀ := Host.fresh ⟨.empty, none⟩ ⟨[]⟩
    let h₁ := e.hostAfter 1 missing h₀
    let h₂ := e.hostAfter 1 word h₁
    EngineHistory [e.eventOf 1 missing h₀, e.eventOf 1 word h₁] h₂ ∧
      (e.eventOf 1 word h₁).success? = some true ∧
      (e.lastError.run (h₂.onThread 1)).1 =
        some "Call error: no exported function named `f`" ∧
      ¬(e.eventOf 1 word h₁).Obeys (e.lastError.run (h₂.onThread 1)).1 := by
  intro e missing word h₀ h₁ h₂
  have history : EngineHistory [e.eventOf 1 missing h₀, e.eventOf 1 word h₁] h₂ :=
    .call (.call (.start _ _) e 1 missing) e 1 word
  have hread : (e.lastError.run (h₂.onThread 1)).1 =
      some "Call error: no exported function named `f`" := rfl
  have reported : (e.eventOf 1 word h₁).success? = some true := rfl
  refine ⟨history, reported, hread, ?_⟩
  rw [hread]
  intro obeys
  cases obeys with
  | failure failed recorded => cases reported.symm.trans failed

end

end WasmHost
