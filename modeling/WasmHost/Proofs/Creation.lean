import WasmHost.Proofs.Instances
/-!
New instances.

An instance is made under a number that nothing is kept under yet. So it has handed out no callables
when it is made, the slot of its memory view is empty, and no thread has its lock.
-/
namespace WasmHost

/-- Nothing is kept of an instance besides the state of its guest. -/
structure Instance.Untouched (i : Instance) (h : Host) : Prop where
  wrappers : i.wrappers h = []
  slot : i.viewSlot h = .unset
  free : h.viewLocks.get i.serial = none

theorem MakesAnew.untouched {used K : Set Object} {a : HostAction Instance} {parts : List HostPart}
    {h h' : Host} {i : Instance} (anew : MakesAnew used a)
    (issues : Issues used a.run (onOk fun i => {.running i})) (touches : Touches parts a.run)
    (hparts : ∀ part ∈ [HostPart.wrappers, .views, .viewLocks], part ∉ parts) (ledger : Ledger h K)
    (hused : used ⊆ K) (hrun : a.run.run h = (.ok i, h')) :
    h.nextSerial ≤ i.serial ∧ i.Untouched h' := by
  have hnew := anew h K ledger hused i (congrArg Prod.fst hrun)
  obtain ⟨K', grows, -, hgiven⟩ := issues h K ledger hused
  have same := touches.run h
  change Host.SameBut parts h (a.run.run h).2 at same
  change onOk _ (a.run.run h).1 ⊆ K' at hgiven
  rw [hrun] at hgiven same
  have hserial : h.nextSerial ≤ i.serial := by
    rcases grows.new (hgiven rfl) with hold | hlater
    -- an instance that was known before has a handle that was known before
    · exact absurd hnew (Nat.not_le.mpr (ledger.handle_issued hold))
    · exact hlater
  have hunused := ledger.unused hserial
  have hwrappers : h'.wrappers = h.wrappers := same.same .wrappers (hparts _ (by decide))
  have hviews : h'.views = h.views := same.same .views (hparts _ (by decide))
  have hlocks : h'.viewLocks = h.viewLocks := same.same .viewLocks (hparts _ (by decide))
  refine ⟨hserial, ?_, ?_, ?_⟩
  · rw [Instance.wrappers, hwrappers, hunused.wrappers]
  · rw [Instance.viewSlot, hviews, hunused.views]
  · rw [hlocks, ledger.unlocked]

variable [Platform]

/-- The operations that answer with an instance that they have made, by their actions. -/
inductive Operation.Making : Operation → HostAction Instance → Prop where
  | newInstance (m : CompiledModule) : Making (.newInstance m) m.newInstance
  | ofFile (path : String) (engine : Option Engine) :
      Making (.instanceOfFile path engine) (Instance.ofFile path engine)
  | ofBytes (data : Guest.Image) (engine : Option Engine) :
      Making (.instanceOfBytes data engine) (Instance.ofBytes data engine)

theorem Operation.Making.anew {op : Operation} {a : HostAction Instance} (making : op.Making a) :
    MakesAnew op.objects a := by
  cases making with
  | newInstance m => exact .newInstance m
  | ofFile path engine => exact .ofFile (of_optional fun _ ho => ho) path
  | ofBytes data engine => exact .ofBytes (of_optional fun _ ho => ho) data

-- An answer that is an instance is the result of one of the actions that make instances.
theorem Operation.making_of_running {op : Operation} {thread : Thread} {h : Host} {i : Instance}
    (made : op.outcome thread h = .ok (.running i)) :
    ∃ a, op.Making a ∧ a.run.run (h.onThread thread) = (.ok i, op.after thread h) := by
  have result {a : HostAction Instance} (hperform : op.perform = do return .running (← a)) :
      a.run.run (h.onThread thread) = (.ok i, op.after thread h) := by
    obtain ⟨j, hrun, hj⟩ := run_of_outcome hperform made
    cases hj
    exact hrun
  cases op with
  | newInstance m => exact ⟨_, .newInstance m, result rfl⟩
  | instanceOfFile path engine => exact ⟨_, .ofFile path engine, result rfl⟩
  | instanceOfBytes data engine => exact ⟨_, .ofBytes data engine, result rfl⟩
  | view v request =>
    unfold outcome perform at made
    rw [Action.run_get_bind] at made
    split at made <;> cases made
  | resetSettings | cacheClear c => cases made
  | _ =>
    obtain ⟨x, -, hx⟩ := Action.ok_of_map made
    cases hx

/-- An instance that is made has a later handle than all that are known. -/
theorem History.made_later {events : List Event} {h : Host} (past : History events h)
    {op : Operation} (known : op.objects ⊆ Known events) {thread : Thread} {i : Instance}
    (made : op.outcome thread h = .ok (.running i)) {j : Instance}
    (hj : .running j ∈ Known events) : j.handle.serial < i.handle.serial := by
  obtain ⟨K, ledger, hknown⟩ := past.ledger
  obtain ⟨a, making, hrun⟩ := Operation.making_of_running made
  have hnew : h.nextSerial ≤ i.handle.serial :=
    making.anew _ K (ledger.onThread thread) (fun _ ho => hknown (known ho)) i
      (congrArg Prod.fst hrun)
  exact Nat.lt_of_lt_of_le (ledger.handle_issued (hknown hj)) hnew

/-- Nothing is kept of an instance after the operation that has made it. -/
theorem Operation.made_untouched {h : Host} {K : Set Object} (ledger : Ledger h K) {op : Operation}
    (hop : op.objects ⊆ K) (thread : Thread) {i : Instance}
    (made : op.outcome thread h = .ok (.running i)) : i.Untouched (op.after thread h) := by
  obtain ⟨a, making, hrun⟩ := making_of_running made
  have untouched {parts : List HostPart}
      (issues : Issues op.objects a.run (onOk fun i => {.running i}))
      (touches : Touches parts a.run)
      (hparts : ∀ part ∈ [HostPart.wrappers, .views, .viewLocks], part ∉ parts) :
      i.Untouched (op.after thread h) :=
    (making.anew.untouched issues touches hparts (ledger.onThread thread) hop hrun).2
  cases making with
  | newInstance m =>
    exact untouched (CompiledModule.newInstance_issues (Set.mem_singleton _)) m.newInstance_touches
      (by decide)
  | ofFile path engine =>
    exact untouched (Instance.ofFile_issues (of_optional fun _ ho => ho) path)
      (Instance.ofFile_touches path engine) (by decide)
  | ofBytes data engine =>
    exact untouched (Instance.ofBytes_issues (of_optional fun _ ho => ho) data)
      (Instance.ofBytes_touches data engine) (by decide)

end WasmHost
