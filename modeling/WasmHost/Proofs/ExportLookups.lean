import WasmHost.Proofs.ExportAccess
import WasmHost.Proofs.Share
/-!
How the exports of an instance are looked up by name.

There are three ways to a callable: to ask the instance, to take an item of its namespace, and to
take an attribute. An item is what the instance gives for the same name. An attribute is what it
gives for the export that the name stands for. In all three ways there is one callable an export as
long as the instance lives, because what an instance has handed out it keeps.
-/
namespace WasmHost

/-- The export that an attribute stands for, by the functions in their order: the function of this
name, or else the first one that has it for its safe name, or else the name itself. -/
inductive StandsFor (functions : List String) (name : String) : String → Prop where
  | named (present : name ∈ functions) : StandsFor functions name name
  | safe {before after : List String} {target : String} (absent : name ∉ functions)
      (split : functions = before ++ target :: after) (same : safeName target = name)
      (first : ∀ other ∈ before, safeName other ≠ name) : StandsFor functions name target
  | itself (absent : name ∉ functions) (unlike : ∀ other ∈ functions, safeName other ≠ name) :
      StandsFor functions name name

/-- An export that is no function never stands in the way of one: a safe name of functions stands
for a function. -/
theorem StandsFor.mem {functions : List String} {name target other : String}
    (stands : StandsFor functions name target) (hother : other ∈ functions)
    (same : safeName other = name) : target ∈ functions := by
  cases stands with
  | named present => exact present
  | safe absent split _ _ =>
    rw [split]
    exact List.mem_append_right _ List.mem_cons_self
  | itself absent unlike => exact absurd same (unlike other hother)

/-- The name of a function stands for this function and for no other. -/
theorem StandsFor.eq_of_mem {functions : List String} {name target : String}
    (stands : StandsFor functions name target) (present : name ∈ functions) : target = name := by
  cases stands with
  | safe absent _ _ _ => exact absurd present absent
  | named _ | itself _ _ => rfl

/-- A name that does not resolve is that of no export, or of one without a signature. -/
theorem Guest.Program.resolution_eq_error {p : Program} {name : String} {failure : Failure}
    (hname : p.resolution name = .error failure) :
    (name ∉ p.exportNames ∧ failure = ⟨.unknownFunction name, none⟩) ∨
      ∃ diagnostic, Uncallable p name ∧
        failure = ⟨.unresolvedSignature name (some diagnostic), none⟩ := by
  -- the engine answers without a signature in two ways
  unfold resolution at hname
  rcases p.signatureFor_cases name with
    ⟨htold, absent⟩ | ⟨diagnostic, htold, uncallable⟩ | ⟨signature, htold, -⟩
  · rw [htold] at hname
    cases hname
    exact Or.inl ⟨absent, rfl⟩
  · rw [htold] at hname
    cases hname
    exact Or.inr ⟨diagnostic, uncallable, rfl⟩
  · rw [htold] at hname
    cases hname

section

variable [Platform]

namespace Instance

variable (i : Instance) {name target : String} {h h' : Host} {f : ExportedFunction}
  {failure : Failure}

omit [Platform] in
theorem exportName_eq_iff :
    i.exportName name = target ↔ StandsFor i.functionNames name target := by
  unfold exportName
  by_cases hexact : i.functionNames.contains name = true
  · have present : name ∈ i.functionNames := List.contains_iff_mem.mp hexact
    rw [if_pos hexact]
    exact ⟨fun hsame => hsame ▸ .named present, fun stands => (stands.eq_of_mem present).symm⟩
  -- no function has the name itself, so that the first one with this safe name is taken
  have absent : name ∉ i.functionNames := fun hmem => hexact (List.contains_iff_mem.mpr hmem)
  rw [if_neg hexact]
  constructor
  · rintro rfl
    cases hfound : i.functionNames.find? (safeName · = name) with
    | none =>
      refine .itself absent fun other hother => ?_
      simpa using List.find?_eq_none.mp hfound other hother
    | some target =>
      obtain ⟨hsafe, before, after, hsplit, hfirst⟩ := List.find?_eq_some_iff_append.mp hfound
      refine .safe absent hsplit (of_decide_eq_true hsafe) fun other hother => ?_
      simpa using hfirst other hother
  · intro stands
    cases stands with
    | named present => exact absurd present absent
    | @safe before after target _ split same first =>
      have hfound : i.functionNames.find? (safeName · = name) = some target := by
        refine List.find?_eq_some_iff_append.mpr ⟨decide_eq_true same, before, after, split, ?_⟩
        intro other hother
        simpa using first other hother
      rw [hfound, Option.getD_some]
    | itself _ unlike =>
      have hnone : i.functionNames.find? (safeName · = name) = none := by
        refine List.find?_eq_none.mpr fun other hother => ?_
        simpa using unlike other hother
      rw [hnone, Option.getD_none]

theorem function_remembers (hrun : (i.function name).run.run h = (.ok f, h')) :
    (i.wrappers h').lookup name = some f := by
  cases hfound : (i.wrappers h).lookup name with
  | some g =>
    cases (i.function_run_of_found hfound).symm.trans hrun
    exact hfound
  | none =>
    cases i.function_looksUp hrun with
    | found hf => exact nomatch hfound.symm.trans hf
    | resolved _ hasked hf =>
      -- a resolved name is stored behind what there is, and no entry had it before
      have same := ((i.engine.functionSignature_touches i.handle name).run h).same .wrappers
        (by decide)
      change _ = h.wrappers at same
      rw [hasked] at same
      unfold wrappers at hfound ⊢
      rw [Cells.get_set_self, same, List.lookup_append, hfound]
      simp

/-- A look-up that fails has put nothing in store. -/
theorem function_stores_nothing
    (hrun : (i.function name).run.run h = (.error failure, h')) : h'.wrappers = h.wrappers := by
  cases i.function_looksUp hrun with
  | unresolved _ =>
    exact ((i.engine.functionSignature_touches i.handle name).run h).same .wrappers (by decide)

-- A look-up fails only as its name does not resolve.
theorem function_error (hrun : ((i.function name).run.run h).1 = .error failure) :
    i.handle.program.resolution name = .error failure := by
  obtain ⟨h', hrun⟩ : ∃ h', (i.function name).run.run h = (.error failure, h') :=
    ⟨_, Prod.ext hrun rfl⟩
  cases i.function_looksUp hrun with
  | unresolved hname => exact hname

theorem function_keeps {n : Nat} {key : String}
    (hkept : (h.wrappers.get n).lookup key = some f) :
    (((i.function name).run.run h).2.wrappers.get n).lookup key = some f := by
  have same := ((i.engine.functionSignature_touches i.handle name).run h).same .wrappers
    (by decide)
  change _ = h.wrappers at same
  rcases hrun : (i.function name).run.run h with ⟨result, h'⟩
  cases i.function_looksUp hrun with
  | found _ => exact hkept
  | unresolved _ => rwa [same]
  | resolved _ hasked _ =>
    rw [hasked] at same
    dsimp only
    rw [Cells.get_set]
    -- a new callable goes behind what its own instance has in store, so it never hides any of it
    split
    · next howner =>
      subst howner
      unfold wrappers
      rw [same, List.lookup_append, hkept]
      rfl
    · rwa [same]

-- An attribute is looked up as the export that it stands for, unless it belongs to the namespace
-- itself or is refused, which leaves the state as it is.
theorem attributeOf_run (name : String) (h : Host) :
    (((i.attributeOf name).run.run h).2 = h ∧
      ∀ f, ((i.attributeOf name).run.run h).1 ≠ .ok (.exported f)) ∨
    (i.attributeOf name).run.run h =
      (asAttribute name ((i.function (i.exportName name)).run.run h).1,
        ((i.function (i.exportName name)).run.run h).2) := by
  rw [i.attributeOf_eq]
  split
  · exact Or.inl ⟨rfl, fun _ hgiven => nomatch hgiven⟩
  split
  · exact Or.inl ⟨rfl, fun _ hgiven => nomatch hgiven⟩
  split
  · exact Or.inl ⟨rfl, fun _ hgiven => nomatch hgiven⟩
  · exact Or.inr (i.exportedAttribute_run name h)

theorem attributeOf_stores_nothing
    (hfailed : ((i.attributeOf name).run.run h).1 = .error failure) :
    ((i.attributeOf name).run.run h).2.wrappers = h.wrappers := by
  rcases i.attributeOf_run name h with ⟨hsame, -⟩ | hlooked
  · rw [hsame]
  · rw [hlooked] at hfailed ⊢
    rcases hrun : (i.function (i.exportName name)).run.run h with ⟨failure' | f, h'⟩
    · exact i.function_stores_nothing hrun
    · rw [hrun] at hfailed
      cases hfailed

theorem attributeOf_remembers (hgiven : ((i.attributeOf name).run.run h).1 = .ok (.exported f)) :
    (i.wrappers ((i.attributeOf name).run.run h).2).lookup (i.exportName name) = some f := by
  have hfunction := function_of_attribute hgiven
  rcases i.attributeOf_run name h with ⟨-, hother⟩ | hlooked
  · exact absurd hgiven (hother f)
  · rw [hlooked]
    exact i.function_remembers (Prod.ext hfunction rfl)

theorem attributeOf_keeps {n : Nat} {key : String}
    (hkept : (h.wrappers.get n).lookup key = some f) :
    (((i.attributeOf name).run.run h).2.wrappers.get n).lookup key = some f := by
  rcases i.attributeOf_run name h with ⟨hsame, -⟩ | hlooked
  · rwa [hsame]
  · rw [hlooked]
    exact i.function_keeps hkept

end Instance

namespace Operation

theorem after_keeps (op : Operation) (thread : Thread) {h : Host} {n : Nat} {key : String}
    {f : ExportedFunction} (hkept : (h.wrappers.get n).lookup key = some f) :
    ((op.after thread h).wrappers.get n).lookup key = some f := by
  -- most operations do not have the stored callables among their parts
  have untouched (hparts : .wrappers ∉ .thread :: op.parts) :
      ((op.after thread h).wrappers.get n).lookup key = some f := by
    have same : (op.after thread h).wrappers = h.wrappers :=
      (op.after_sameBut thread h).same .wrappers hparts
    rwa [same]
  cases op with
  | function i name =>
    rw [after_of_perform rfl]
    exact i.function_keeps hkept
  | getItem i name =>
    rw [after_of_perform rfl, i.itemOf_run]
    exact i.function_keeps hkept
  | getAttribute i name =>
    rw [after_of_perform rfl]
    exact i.attributeOf_keeps hkept
  | hasAttribute i name =>
    rw [after_of_perform (a := liftM (i.hasAttribute name)) rfl, Action.run_lift,
      i.hasAttribute_run]
    exact i.attributeOf_keeps hkept
  | _ => exact untouched (of_decide_eq_true rfl)

-- The failure of an operation comes from the action that it answers from.
theorem run_of_failure {op : Operation} {α : Type} {a : HostAction α} {f : α → Answer}
    (hperform : op.perform = do return f (← a)) {thread : Thread} {h : Host} {failure : Failure}
    (hfailed : op.outcome thread h = .error failure) :
    a.run.run (h.onThread thread) = (.error failure, op.after thread h) := by
  unfold outcome at hfailed
  rw [hperform] at hfailed
  exact Prod.ext (Action.error_of_map hfailed) (after_of_perform hperform thread h).symm

end Operation

theorem Event.Hands.remembers {event : Event} {i : Instance} {name : String} {f : ExportedFunction}
    (hands : event.Hands i name f)
    (hevent : event = event.operation.event event.thread event.before) :
    (i.wrappers event.after).lookup name = some f := by
  -- whatever handed it out, the callable came from a look-up of the name
  have hrun : (i.function name).run.run (event.before.onThread event.thread) = (.ok f, _) :=
    Prod.ext (hands.function_run hevent).2 rfl
  have hkept := i.function_remembers hrun
  have houtcome : event.outcome = event.operation.outcome event.thread event.before :=
    congrArg Event.outcome hevent
  have hafter : event.after = event.operation.after event.thread event.before :=
    congrArg Event.after hevent
  cases hands with
  | function asked given =>
    rw [hafter, asked, Operation.after_of_perform rfl]
    exact hkept
  | item asked given =>
    rw [hafter, asked, Operation.after_of_perform rfl, i.itemOf_run]
    exact hkept
  | @exported attr asked hname given =>
    subst hname
    rw [asked, given] at houtcome
    obtain ⟨found, hfound, hsame⟩ := Action.ok_of_map houtcome.symm
    cases hsame
    rw [hafter, asked, Operation.after_of_perform rfl]
    exact i.attributeOf_remembers hfound

-- A callable that an event has handed out is in store ever since: the event has put it there, and
-- later ones leave it.
theorem History.handed_in_store {events : List Event} {h : Host} (history : History events h)
    {event : Event} (hevent : event ∈ events) {i : Instance} {name : String}
    {f : ExportedFunction} (hands : event.Hands i name f) :
    (i.wrappers h).lookup name = some f := by
  obtain ⟨-, -, -, hsame⟩ := history.past hevent
  exact history.since (P := fun g => (i.wrappers g).lookup name = some f) hevent
    (hands.remembers hsame) (fun {_ _ op} thread _ _ _ hkept => op.after_keeps thread hkept)
    fun _ _ _ hkept => hkept

end

/-- What an instance gives for a name, and with it what its namespace gives as the item of the
name: the same callable, or that there is no such item. -/
inductive ItemAgrees (name : String) : Except Failure Answer → Except Failure Answer → Prop where
  | found (f : ExportedFunction) : ItemAgrees name (.ok (.function f)) (.ok (.function f))
  | missing (failure : Failure) :
      ItemAgrees name (.error failure) (.error ⟨.plain (.noItem name), some failure.fault⟩)

theorem ItemAgrees.keyFault {name : String} {given : Except Failure Answer} {failure : Failure}
    (agrees : ItemAgrees name given (.error failure)) : .keyFault ∈ failure.fault.lineage := by
  generalize hresult : (.error failure : Except Failure Answer) = result at agrees
  cases agrees with
  | found _ => cases hresult
  | missing _ =>
    cases hresult
    exact of_decide_eq_true rfl

/-- There is no item of a name exactly if the instance fails to give anything for it. -/
theorem ItemAgrees.missing_iff {name : String} {given item : Except Failure Answer}
    (agrees : ItemAgrees name given item) :
    (∃ failure, given = .error failure) ↔ ∃ failure, item = .error failure := by
  cases agrees with
  | found f => exact ⟨fun ⟨_, h⟩ => (nomatch h), fun ⟨_, h⟩ => nomatch h⟩
  | missing failure => exact ⟨fun _ => ⟨_, rfl⟩, fun _ => ⟨_, rfl⟩⟩

/-- What an instance gives for an export, and with it what its namespace gives as the attribute of a
name that stands for the export: the same callable, or that the export is unknown, or in place of
the reason why an export has no signature that there is no such attribute. -/
inductive AttributeAgrees (i : Instance) (name target : String) :
    Except Failure Answer → Except Failure Answer → Prop where
  | found {f : ExportedFunction} (wraps : i.Wraps target f) :
      AttributeAgrees i name target (.ok (.function f)) (.ok (.found i (.exported f)))
  | unknown (absent : target ∉ i.exportNames) :
      AttributeAgrees i name target (.error ⟨.unknownFunction target, none⟩)
        (.error ⟨.unknownFunction target, none⟩)
  | uncallable (uncallable : Uncallable i.handle.program target) (diagnostic : String) :
      AttributeAgrees i name target
        (.error ⟨.unresolvedSignature target (some diagnostic), none⟩)
        (.error ⟨.plain (.noAttribute name),
          some (.unresolvedSignature target (some diagnostic))⟩)

/-- An attribute that cannot be had is always reported as a missing attribute. -/
theorem AttributeAgrees.attributeFault {i : Instance} {name target : String}
    {given : Except Failure Answer} {failure : Failure}
    (agrees : AttributeAgrees i name target given (.error failure)) :
    .attributeFault ∈ failure.fault.lineage := by
  generalize hresult : (.error failure : Except Failure Answer) = result at agrees
  cases agrees with
  | found _ => cases hresult
  | unknown _ | uncallable _ _ =>
    cases hresult
    exact of_decide_eq_true rfl

section

variable [Platform]

namespace Instance

variable (i : Instance) {name target : String} (thread : Thread) {h : Host}

theorem getItem_agrees (name : String) (h : Host) :
    ItemAgrees name ((Operation.function i name).outcome thread h)
      ((Operation.getItem i name).outcome thread h) := by
  rw [Operation.outcome_of_perform rfl, Operation.outcome_of_perform rfl, i.itemOf_run]
  cases hrun : ((i.function name).run.run (h.onThread thread)).1 with
  | ok f => exact .found f
  | error failure =>
    -- both kinds of failure are among those that an item turns into a missing key
    rcases Guest.Program.resolution_eq_error (i.function_error hrun) with
      ⟨-, rfl⟩ | ⟨diagnostic, -, rfl⟩
    · exact .missing _
    · exact .missing _

theorem getItem_after (name : String) (h : Host) :
    (Operation.getItem i name).after thread h = (Operation.function i name).after thread h := by
  rw [Operation.after_of_perform rfl, Operation.after_of_perform rfl, i.itemOf_run]

theorem getAttribute_agrees {K : Set Object} (ledger : Ledger h K) (hi : Object.running i ∈ K)
    (hhead : name.toList.head? ≠ some '_') (stands : StandsFor i.functionNames name target) :
    AttributeAgrees i name target ((Operation.function i target).outcome thread h)
        ((Operation.getAttribute i name).outcome thread h) ∧
      (Operation.getAttribute i name).after thread h =
        (Operation.function i target).after thread h := by
  -- the attribute is the export that the name stands for, handed out with its instance
  cases i.exportName_eq_iff.mpr stands
  rw [Operation.outcome_of_perform rfl, Operation.outcome_of_perform rfl,
    Operation.after_of_perform rfl, Operation.after_of_perform rfl,
    i.attributeOf_of_head hhead, i.exportedAttribute_run]
  refine ⟨?_, rfl⟩
  cases hrun : ((i.function (i.exportName name)).run.run (h.onThread thread)).1 with
  | ok f => exact .found (wraps_of_function (ledger.onThread thread) hi (Prod.ext hrun rfl))
  | error failure =>
    -- an unknown export is a missing attribute already, and only the other failure is replaced
    rcases Guest.Program.resolution_eq_error (i.function_error hrun) with
      ⟨absent, rfl⟩ | ⟨diagnostic, uncallable, rfl⟩
    · exact .unknown absent
    · exact .uncallable uncallable diagnostic

/-- A name is looked up among the exports of an instance, in a state with its past: what its item
and its attribute are, that they leave the state as asking the instance does, and what is in store
for it. -/
structure LooksUpExports (events : List Event) (h : Host) (thread : Thread) (name : String) :
    Prop where
  itsItem : ItemAgrees name ((Operation.function i name).outcome thread h)
    ((Operation.getItem i name).outcome thread h)
  missingItem {failure : Failure}
    (failed : (Operation.getItem i name).outcome thread h = .error failure) :
    .keyFault ∈ failure.fault.lineage
  sameAfterItem : (Operation.getItem i name).after thread h =
    (Operation.function i name).after thread h
  stands : ∃! target, StandsFor i.functionNames name target
  itsAttribute (hhead : name.toList.head? ≠ some '_') {target : String}
    (stands : StandsFor i.functionNames name target) :
    AttributeAgrees i name target ((Operation.function i target).outcome thread h)
        ((Operation.getAttribute i name).outcome thread h) ∧
      (Operation.getAttribute i name).after thread h =
        (Operation.function i target).after thread h
  named (present : name ∈ i.functionNames) {target : String}
    (stands : StandsFor i.functionNames name target) : target = name
  unhidden {other : String} (hother : other ∈ i.functionNames) (same : safeName other = name)
    {target : String} (stands : StandsFor i.functionNames name target) : target ∈ i.functionNames
  missingAttribute (hhead : name.toList.head? ≠ some '_') {failure : Failure}
    (failed : (Operation.getAttribute i name).outcome thread h = .error failure) :
    .attributeFault ∈ failure.fault.lineage
  handed {event : Event} (hevent : event ∈ events) {f : ExportedFunction}
    (hands : event.Hands i name f) : f.bound.name = name ∧
      (Operation.function i name).outcome thread h = .ok (.function f) ∧
      (Operation.function i name).after thread h = h.onThread thread
  single {first second : Event} (hfirst : first ∈ events) (hsecond : second ∈ events)
    {f g : ExportedFunction} (given : first.Hands i name f) (again : second.Hands i name g) : f = g
  storesNothing {op : Operation}
    (hop : op ∈ [.function i name, .getItem i name, .getAttribute i name]) {failure : Failure}
    (failed : op.outcome thread h = .error failure) : (op.after thread h).wrappers = h.wrappers

end Instance

/-- In every state that a process comes to, on any thread, for every instance and every name: the
item of the name is what the instance gives for it, and the attribute is what it gives for the
export that the name stands for, or is missing. What has been handed out for a name at any earlier
time is given again, and a look-up that fails puts nothing in store. -/
theorem History.looks_up_exports {events : List Event} {h : Host} (history : History events h)
    {i : Instance} (known : Object.running i ∈ Known events) (thread : Thread) (name : String) :
    i.LooksUpExports events h thread name := by
  obtain ⟨K, ledger, hknown⟩ := history.ledger
  -- the name stands for one export, which item and attribute both look up
  have hstands : StandsFor i.functionNames name (i.exportName name) := i.exportName_eq_iff.mp rfl
  have itsItem := i.getItem_agrees thread name h
  have itsAttribute (hhead : name.toList.head? ≠ some '_') {target : String}
      (stands : StandsFor i.functionNames name target) :=
    i.getAttribute_agrees thread ledger (hknown known) hhead stands
  have found {event : Event} (hevent : event ∈ events) {f : ExportedFunction}
      (hands : event.Hands i name f) := history.handed_in_store hevent hands
  refine {
    itsItem
    itsAttribute
    missingItem {failure} failed := ?_
    sameAfterItem := i.getItem_after thread name h
    stands := ⟨_, hstands, fun target stands => (i.exportName_eq_iff.mpr stands).symm⟩
    named present _ stands := stands.eq_of_mem present
    unhidden hother same _ stands := stands.mem hother same
    missingAttribute hhead {failure} failed := ?_
    handed {event} hevent {f} hands := ?_
    single hfirst hsecond _ _ given again :=
      Option.some.inj ((found hfirst given).symm.trans (found hsecond again))
    storesNothing {op} hop {failure} failed := ?_ }
  · rw [failed] at itsItem
    exact itsItem.keyFault
  · have agrees := (itsAttribute hhead hstands).1
    rw [failed] at agrees
    exact agrees.attributeFault
  · have hrun := i.function_run_of_found (h := h.onThread thread) (found hevent hands)
    exact ⟨(hands.wraps history hevent).sameName, Operation.outcome_of_run rfl hrun⟩
  -- three operations look names up, and each leaves what its look-up leaves
  · have hmembers : op = .function i name ∨ op = .getItem i name ∨ op = .getAttribute i name := by
      simpa using hop
    rcases hmembers with rfl | rfl | rfl
    · exact i.function_stores_nothing (h := h.onThread thread) (Operation.run_of_failure rfl failed)
    · -- an item fails only as the look-up does, and leaves the same state
      obtain ⟨reason, hfunction⟩ := itsItem.missing_iff.mpr ⟨_, failed⟩
      rw [i.getItem_after thread name h]
      exact i.function_stores_nothing (h := h.onThread thread)
        (Operation.run_of_failure rfl hfunction)
    · have hrun : (i.attributeOf name).run.run (h.onThread thread) = (.error failure, _) :=
        Operation.run_of_failure rfl failed
      have hstored := i.attributeOf_stores_nothing (congrArg Prod.fst hrun)
      rw [hrun] at hstored
      exact hstored

end

section

attribute [local instance] Platform.machine

/-- A global has the safe name of a function that was handed out on another thread. The attribute of
this name is the same callable, and a function of two results is a missing attribute. -/
theorem looks_up_exports_global :
    let p : Guest.Program := ⟨[], [], [], none, [
      ⟨"add_one", .globalCell .i32 (.integer 1)⟩,
      ⟨"add-one", .function ⟨[.i32], [.i32], .increment⟩⟩,
      ⟨"pair", .function ⟨[], [.i32, .i32], .nop⟩⟩]⟩
    let e : Engine := ⟨2, ⟨1, .default⟩⟩
    let i : Instance := ⟨6, e, ⟨4, ⟨3, ⟨p, false, false⟩⟩⟩, ⟨5, e, ⟨3, ⟨p, false, false⟩⟩, none⟩⟩
    let f : ExportedFunction := ⟨7, e, ⟨i.handle, "add-one", ⟨[.ofNumeric .i32], .ofNumeric .i32⟩⟩⟩
    let make := Operation.instanceOfBytes (.ofProgram p) none
    let h₀ := Host.fresh ⟨.empty, none⟩ ⟨[]⟩
    let h₁ := make.after 0 h₀
    let h := (Operation.function i "add-one").after 0 h₁
    let events := [make.event 0 h₀, (Operation.function i "add-one").event 0 h₁]
    i.LooksUpExports events h 1 "add_one" ∧ i.LooksUpExports events h 1 "pair" ∧
      (Operation.getAttribute i "add_one").outcome 1 h = .ok (.found i (.exported f)) ∧
      ∃ failure, (Operation.getAttribute i "pair").outcome 1 h = .error failure ∧
        .attributeFault ∈ failure.fault.lineage := by
  intro p e i f make h₀ h₁ h events
  have hmade : Object.running i ∈ onOk Answer.objects (make.event 0 h₀).outcome := rfl
  have hknown : Object.running i ∈ Known [make.event 0 h₀] := .given List.mem_cons_self hmade
  have history : History events h :=
    .perform (.perform (.start _ _) 0 (Set.empty_subset _)) 0 fun _ ho => ho ▸ hknown
  have looks := history.looks_up_exports (.given List.mem_cons_self hmade) 1
  have hgiven := ((looks "add-one").handed (List.mem_cons_of_mem _ List.mem_cons_self)
    (f := f) (.function rfl rfl)).2.1
  have stands : StandsFor i.functionNames "add_one" "add-one" :=
    @StandsFor.safe _ _ [] ["pair"] _ (by decide) rfl (by decide +kernel) (by simp)
  have agrees := ((looks "add_one").itsAttribute (by decide +kernel) stands).1
  rw [hgiven] at agrees
  have hattribute : (Operation.getAttribute i "add_one").outcome 1 h =
      .ok (.found i (.exported f)) := by
    generalize (Operation.getAttribute i "add_one").outcome 1 h = given at agrees
    cases agrees
    rfl
  have hpair : (Operation.getAttribute i "pair").outcome 1 h =
    .error ⟨.plain (.noAttribute "pair"), some (.unresolvedSignature "pair"
      (some "export `pair` returns 2 values, only a single return value is supported"))⟩ := by
    rfl
  exact ⟨looks "add_one", looks "pair", hattribute, _, hpair,
    (looks "pair").missingAttribute (by decide +kernel) hpair⟩

end

end WasmHost
