import WasmHost.Proofs.Ledger
/-!
What the operations of the host enter in its ledger.

An operation uses objects that are in the ledger, and gives objects that are in the ledger after it.
So nothing is ever given that has not been issued, and nothing stored is lost or mixed up.
-/
namespace WasmHost

variable {α β : Type}

/-- An operation that uses some objects extends any ledger that has them, with what it gives. -/
def Issues (used : Set Object) (a : HostM α) (given : α → Set Object) : Prop :=
  ∀ h K, Ledger h K → used ⊆ K →
    ∃ K', Grows h K (a.run h).2 K' ∧ Ledger (a.run h).2 K' ∧ given (a.run h).1 ⊆ K'

/-- What an action gives: nothing when it fails. -/
def onOk (given : α → Set Object) : Except Failure α → Set Object
  | .ok x => given x
  | .error _ => ∅

theorem onOk_empty (r : Except Failure α) : onOk (fun _ => ∅) r = ∅ := by
  cases r <;> rfl

/-- The object in an optional result. -/
def optional (object : α → Object) : Option α → Set Object
  | some x => {object x}
  | none => ∅

/-- The objects in a set and the ones they are made of. -/
inductive Comprises (objects : Set Object) : Object → Prop where
  | self {o : Object} (ho : o ∈ objects) : Comprises objects o
  | part {o p : Object} (ho : Comprises objects o) (hp : p ∈ o.parts) : Comprises objects p

theorem Ledger.comprises {h : Host} {K objects : Set Object} (ledger : Ledger h K)
    (hobjects : objects ⊆ K) {o : Object} (ho : Comprises objects o) : o ∈ K := by
  induction ho with
  | self ho => exact hobjects ho
  | part _ hp ih => exact ledger.parts ih hp

namespace Issues

variable {used : Set Object} {M given : α → Set Object} {given' : β → Set Object}

theorem pure {x : α} (hx : given x ⊆ used) : Issues used (Pure.pure x) given :=
  fun _ K ledger hused => ⟨K, .refl K rfl, ledger, fun _ ho => hused (hx ho)⟩

theorem bind {a : HostM α} {f : α → HostM β} (ha : Issues used a M)
    (hf : ∀ h, Issues (used ∪ M (a.run h).1) (f (a.run h).1) given') :
    Issues used (a >>= f) given' := by
  intro h K ledger hused
  obtain ⟨K₁, grows₁, ledger₁, hmid⟩ := ha h K ledger hused
  have hused₁ : used ∪ M (a.run h).1 ⊆ K₁ :=
    Set.union_subset (fun _ ho => grows₁.kept (hused ho)) hmid
  obtain ⟨K₂, grows₂, ledger₂, hgiven⟩ := hf h _ K₁ ledger₁ hused₁
  exact ⟨K₂, grows₁.trans grows₂, ledger₂, hgiven⟩

theorem mono {a : HostM α} {more : Set Object} (ha : Issues used a given) (hsub : used ⊆ more) :
    Issues more a given :=
  fun h K ledger hmore => ha h K ledger fun _ ho => hmore (hsub ho)

theorem seq {a : HostM α} {f : α → HostM β} (ha : Issues used a fun _ => ∅)
    (hf : ∀ h, Issues used (f (a.run h).1) given') : Issues used (a >>= f) given' :=
  ha.bind fun h => (hf h).mono Set.subset_union_left

theorem get_bind {f : Host → HostM β} (hf : ∀ h, Issues (used ∪ {o | h.Holds o}) (f h) given') :
    Issues used (MonadState.get >>= f) given' :=
  fun h K ledger hused => hf h h K ledger (Set.union_subset hused fun _ ho => ledger.held ho)

theorem modify {g : Host → Host} (hg : ∀ h K, Ledger h K → used ⊆ K → Ledger (g h) K)
    (hs : ∀ h, (g h).nextSerial = h.nextSerial) :
    Issues used (modify g : HostM PUnit) fun _ => ∅ :=
  fun h K ledger hused => ⟨K, .refl K (hs h), hg h K ledger hused, Set.empty_subset K⟩

/-- What touches neither objects nor what is stored under them issues nothing. -/
theorem of_touches {a : HostM α} (ha : Touches [.operations, .notices] a) :
    Issues used a fun _ => ∅ := by
  intro h K ledger _
  have same := ha.run h
  have hd : (a.run h).2.diagnostics = h.diagnostics := same.same .diagnostics (by decide)
  have hg : (a.run h).2.guests = h.guests := same.same .guests (by decide)
  refine ⟨K, .refl K (same.same .nextSerial (by decide)), ?_, Set.empty_subset K⟩
  exact ledger.transfer (same.mono (by decide)) (fun n hn => hd ▸ (ledger.unused hn).diagnostics)
    fun n hn => hg ▸ (ledger.unused hn).guests

theorem newSerial (object : Nat → Object) (hserial : ∀ n, (object n).serial = n)
    (hparts : ∀ n, ∀ p ∈ (object n).parts, p ∈ used) (hsound : ∀ n, (object n).Sound) :
    Issues used Host.newSerial fun n => {object n} := by
  intro h K ledger hused
  obtain ⟨ledger', grows⟩ := ledger.issue (hserial h.nextSerial)
    (fun p hp => hused (hparts _ p hp)) (hsound h.nextSerial)
  exact ⟨_, grows, ledger', fun o ho => Or.inl ho⟩

theorem new {make : Nat → α} {object : Nat → Object} (hgiven : ∀ n, given (make n) = {object n})
    (hserial : ∀ n, (object n).serial = n) (hparts : ∀ n, ∀ p ∈ (object n).parts, p ∈ used)
    (hsound : ∀ n, (object n).Sound) :
    Issues used (Host.newSerial >>= fun n => Pure.pure (make n)) given :=
  (newSerial object hserial hparts hsound).bind fun _ => pure (hgiven _ ▸ Set.subset_union_right)

-- An operation may use the parts of the objects that it uses.
theorem of_comprises {a : HostM α} (ha : Issues {o | Comprises used o} a given) :
    Issues used a given :=
  fun h K ledger hused => ha h K ledger fun _ ho => ledger.comprises hused ho

theorem action {a : HostAction α} (ha : Issues used a.run fun _ => ∅) :
    Issues used a.run (onOk fun _ => ∅) := by
  intro h K ledger hused
  obtain ⟨K', grows, ledger', hgiven⟩ := ha h K ledger hused
  refine ⟨K', grows, ledger', ?_⟩
  rw [onOk_empty]
  exact hgiven

theorem action_pure {x : α} (hx : given x ⊆ used) :
    Issues used (Pure.pure x : HostAction α).run (onOk given) := pure hx

theorem action_fail (fault : Fault) :
    Issues used (Action.fail fault : HostAction α).run (onOk given) :=
  fun _ K ledger _ => ⟨K, .refl K rfl, ledger, Set.empty_subset K⟩

theorem action_lift {a : HostM α} (ha : Issues used a given) :
    Issues used (liftM a : HostAction α).run (onOk given) := ha

theorem action_bind {a : HostAction α} {f : α → HostAction β} (ha : Issues used a.run (onOk M))
    (hf : ∀ h x, (a.run.run h).1 = .ok x → Issues (used ∪ M x) (f x).run (onOk given')) :
    Issues used (a >>= f).run (onOk given') := by
  intro h K ledger hused
  obtain ⟨K₁, grows₁, ledger₁, hmid⟩ := ha h K ledger hused
  rw [Action.run_bind]
  rcases hrun : a.run.run h with ⟨r, h₁⟩
  rw [hrun] at grows₁ ledger₁ hmid
  cases r with
  | error failure => exact ⟨K₁, grows₁, ledger₁, Set.empty_subset K₁⟩
  | ok x =>
    have hused₁ : used ∪ M x ⊆ K₁ :=
      Set.union_subset (fun _ ho => grows₁.kept (hused ho)) hmid
    obtain ⟨K₂, grows₂, ledger₂, hgiven⟩ :=
      hf h x (congrArg Prod.fst hrun) h₁ K₁ ledger₁ hused₁
    exact ⟨K₂, grows₁.trans grows₂, ledger₂, hgiven⟩

theorem action_seq {a : HostAction α} {f : α → HostAction β}
    (ha : Issues used a.run (onOk fun _ => ∅))
    (hf : ∀ h x, (a.run.run h).1 = .ok x → Issues used (f x).run (onOk given')) :
    Issues used (a >>= f).run (onOk given') :=
  action_bind ha fun h x hx => (hf h x hx).mono Set.subset_union_left

theorem action_new {make : Nat → α} {object : Nat → Object}
    (hgiven : ∀ n, given (make n) = {object n}) (hserial : ∀ n, (object n).serial = n)
    (hparts : ∀ n, ∀ p ∈ (object n).parts, p ∈ used) (hsound : ∀ n, (object n).Sound) :
    Issues used ((do return make (← Host.newSerial) : HostAction α)).run (onOk given) :=
  action_bind (action_lift (newSerial object hserial hparts hsound)) fun _ _ _ =>
    action_pure (hgiven _ ▸ Set.subset_union_right)

theorem action_get_bind {f : Host → HostAction β}
    (hf : ∀ h, Issues (used ∪ {o | h.Holds o}) (f h).run (onOk given')) :
    Issues used ((MonadState.get : HostAction Host) >>= f).run (onOk given') := by
  intro h K ledger hused
  rw [Action.run_get_bind]
  exact hf h h K ledger (Set.union_subset hused fun _ ho => ledger.held ho)

/-- From a state on, a ledger is kept, or extended. -/
def Extends (h₀ : Host) (K : Set Object) (h : Host) : Prop :=
  ∃ K', Grows h₀ K h K' ∧ Ledger h K'

/-- An operation that gives nothing extends ledgers exactly when it keeps them extended. -/
theorem iff_preserves {a : HostM α} :
    Issues used a (fun _ => ∅) ↔ ∀ h₀ K, used ⊆ K → Preserves (Extends h₀ K) a := by
  constructor
  · intro ha h₀ K hused h ⟨K₁, grows₁, ledger₁⟩
    obtain ⟨K₂, grows₂, ledger₂, -⟩ := ha h K₁ ledger₁ fun _ ho => grows₁.kept (hused ho)
    exact ⟨K₂, grows₁.trans grows₂, ledger₂⟩
  · intro ha h K ledger hused
    obtain ⟨K', grows, ledger'⟩ := ha h K hused h ⟨K, .refl K rfl, ledger⟩
    exact ⟨K', grows, ledger', Set.empty_subset K'⟩

end Issues
end WasmHost
