import Mathlib.Data.List.Nodup
import WasmHost.Host.Exports
import WasmHost.Proofs.Callables
/-!
What the namespace of an instance lists, and what it gives as attributes.

The listing goes by the functions that are exported, and attributes go by the names that are asked
for. The two agree on all safe names but those that begin with a low line: these the namespace keeps
to itself, and lists them all the same.
-/
namespace WasmHost

theorem safeName_safeName (name : String) : safeName (safeName name) = safeName name := by
  unfold safeName
  rw [String.toList_ofList, List.map_map]
  congr 2
  funext c
  by_cases hc : c = '-'
  · rw [Function.comp_apply, if_pos hc]
    rfl
  · rw [Function.comp_apply, if_neg hc, if_neg hc]

namespace Guest.Program

variable {p : Program} {name : String}

theorem mem_functionNames : name ∈ p.functionNames ↔ ∃ f, ⟨name, .function f⟩ ∈ p.exports := by
  unfold functionNames
  rw [List.mem_filterMap]
  constructor
  · rintro ⟨⟨found, item⟩, hmem, hname⟩
    cases item with
    | function f => exact ⟨f, Option.some.inj hname ▸ hmem⟩
    | _ => cases hname
  · rintro ⟨f, hmem⟩
    exact ⟨⟨name, .function f⟩, hmem, rfl⟩

-- Where no two exports have one name, each of them is the export of its name.
theorem export?_of_mem (distinct : p.exportNames.Nodup) {item : ExportItem}
    (hmem : ⟨name, item⟩ ∈ p.exports) : p.export? name = some item := by
  unfold export?
  cases hfound : p.exports.find? (·.name = name) with
  | none =>
    have hnone := List.find?_eq_none.mp hfound ⟨name, item⟩ hmem
    simp at hnone
  -- two exports of one name are one export, since the names are different
  | some e =>
    have hname : e.name = name := by simpa using List.find?_some hfound
    have heq : e = ⟨name, item⟩ :=
      List.inj_on_of_nodup_map distinct (List.mem_of_find?_eq_some hfound) hmem hname
    rw [heq]
    rfl

end Guest.Program

section

variable [Platform]

namespace Instance

variable (i : Instance) {name s : String}

/-- A name that does not begin with a low line is looked up among the exports, since all members of
the namespace itself begin with one. -/
theorem attributeOf_of_head (hs : s.toList.head? ≠ some '_') :
    i.attributeOf s = i.exportedAttribute s := by
  have howner : s ≠ ownerName := fun heq => hs (heq ▸ by decide)
  have hown : ¬ownMembers.contains s = true := by
    intro hcontains
    have hall : ∀ member ∈ ownMembers, member.toList.head? = some '_' := by decide
    exact hs (hall s (List.contains_iff_mem.mp hcontains))
  rw [i.attributeOf_eq, if_neg howner, if_neg hown, if_neg hs]

omit [Platform] in
-- A safe name of exported functions stands for one of them.
theorem exportName_of_safeName (hname : name ∈ i.functionNames) :
    i.exportName (safeName name) ∈ i.functionNames ∧
      safeName (i.exportName (safeName name)) = safeName name := by
  unfold exportName
  -- the safe name is itself the name of a function, or the first function with it is found
  by_cases hexact : i.functionNames.contains (safeName name) = true
  · rw [if_pos hexact]
    exact ⟨List.contains_iff_mem.mp hexact, safeName_safeName name⟩
  · rw [if_neg hexact]
    cases hfound : i.functionNames.find? (safeName · = safeName name) with
    | none =>
      have hnone := List.find?_eq_none.mp hfound name hname
      simp at hnone
    | some target =>
      have hsafe := List.find?_some hfound
      exact ⟨List.mem_of_find?_eq_some hfound, of_decide_eq_true hsafe⟩

omit [Platform] in
theorem mem_attributeNames : s ∈ i.attributeNames ↔
    ∃ name ∈ i.functionNames, safeName name = s ∧ Text.isIdentifier s = true := by
  unfold attributeNames
  rw [List.mem_mergeSort, List.mem_filter, List.mem_map]
  constructor
  · rintro ⟨⟨name, hname, rfl⟩, hidentifier⟩
    exact ⟨name, hname, rfl, hidentifier⟩
  · rintro ⟨name, hname, rfl, hidentifier⟩
    exact ⟨⟨name, hname, rfl⟩, hidentifier⟩

-- A name that resolves can be had as a callable.
theorem function_of_resolution {signature : Signature} {h : Host}
    (hname : i.handle.program.resolution name = .ok signature) :
    ∃ f h', (i.function name).run.run h = (.ok f, h') := by
  rcases hrun : (i.function name).run.run h with ⟨result, h'⟩
  cases i.function_looksUp hrun with
  | found hfound => exact ⟨_, _, rfl⟩
  | unresolved hfailed => exact nomatch hfailed.symm.trans hname
  | resolved _ _ _ => exact ⟨_, _, rfl⟩

/-- The listing and attribute access of the namespace of an instance agree in a state, as far as
safe names are admitted as attributes. -/
structure AccessAgrees (i : Instance) (admitted : String → Prop) (h : Host) : Prop where
  listed {name : String} (hname : name ∈ i.functionNames)
    (hidentifier : Text.isIdentifier (safeName name) = true) : safeName name ∈ i.attributeNames
  given {name : String} (hname : name ∈ i.functionNames)
    (hidentifier : Text.isIdentifier (safeName name) = true) (hadmitted : admitted (safeName name))
    (single : ∀ other f, ⟨other, .function f⟩ ∈ i.handle.program.exports →
      safeName other = safeName name → f.results.length ≤ 1) (thread : Thread) :
    ∃ f target, (Operation.getAttribute i (safeName name)).outcome thread h =
        .ok (.found i (.exported f)) ∧
      i.Wraps target f ∧ target ∈ i.functionNames ∧ safeName target = safeName name
  safe {s : String} (hlisted : s ∈ i.attributeNames) : ∃ name ∈ i.functionNames, safeName name = s

end Instance

/-- In every state that a process comes to, for an instance whose exports have different names: the
namespace lists the safe name of every function if it is an identifier, and nothing else; and unless
it begins with a low line, it gives a callable for one of the functions of that safe name if all of
them have at most one result. -/
theorem History.access_agrees {events : List Event} {h : Host} (history : History events h)
    {i : Instance} (known : Object.running i ∈ Known events) (distinct : i.exportNames.Nodup) :
    i.AccessAgrees (fun s => s.toList.head? ≠ some '_') h := by
  obtain ⟨K, ledger, hknown⟩ := history.ledger
  refine ⟨fun {name} hname hidentifier => ?_, fun {name} hname _ hadmitted single thread => ?_,
    fun {s} hlisted => ?_⟩
  · exact i.mem_attributeNames.mpr ⟨name, hname, rfl, hidentifier⟩
  -- whatever function the safe name stands for, it has at most one result and so a signature
  · obtain ⟨htarget, hsafe⟩ := i.exportName_of_safeName hname
    obtain ⟨f, hexported⟩ := Guest.Program.mem_functionNames.mp htarget
    have hresults : f.results.length ≤ 1 := single _ f hexported hsafe
    have hexport : i.handle.program.export? (i.exportName (safeName name)) = some (.function f) :=
      Guest.Program.export?_of_mem distinct hexported
    have hsignature : ∃ signature, Engine.signatureOf? f = some signature := by
      rcases Engine.signatureOf?_cases f with ⟨signature, hsome, -⟩ | ⟨-, hseveral⟩
      · exact ⟨signature, hsome⟩
      · omega
    obtain ⟨signature, hsome⟩ := hsignature
    have hresolved := Guest.Program.resolution_eq_ok.mpr ⟨f, hexport, hsome⟩
    obtain ⟨g, h', hrun⟩ := i.function_of_resolution (h := h.onThread thread) hresolved
    have hwraps : i.Wraps (i.exportName (safeName name)) g :=
      Instance.wraps_of_function (ledger.onThread thread) (hknown known) hrun
    refine ⟨g, _, ?_, hwraps, htarget, hsafe⟩
    have hattribute : ((i.attributeOf (safeName name)).run.run (h.onThread thread)).1 =
        .ok (.exported g) := by
      rw [i.attributeOf_of_head hadmitted, i.exportedAttribute_run, hrun]
      rfl
    unfold Operation.outcome Operation.perform
    rw [Action.run_bind_pure, hattribute]
    rfl
  · obtain ⟨name, hname, hsafe, -⟩ := i.mem_attributeNames.mp hlisted
    exact ⟨name, hname, hsafe⟩

end

section

attribute [local instance] Platform.machine

/-- A function whose name has a minus is listed by its safe name and can be had under it. -/
theorem access_agrees_minus :
    let p : Guest.Program :=
      ⟨[], [], [], none, [⟨"add-one", .function ⟨[.i32], [.i32], .increment⟩⟩]⟩
    let e : Engine := ⟨2, ⟨1, .default⟩⟩
    let i : Instance := ⟨6, e, ⟨4, ⟨3, ⟨p, false, false⟩⟩⟩, ⟨5, e, ⟨3, ⟨p, false, false⟩⟩, none⟩⟩
    let make := Operation.instanceOfBytes (.ofProgram p) none
    let h₀ := Host.fresh ⟨.empty, none⟩ ⟨[]⟩
    let h := make.after 0 h₀
    i.exportNames.Nodup ∧ i.AccessAgrees (fun s => s.toList.head? ≠ some '_') h ∧
      "add_one" ∈ i.attributeNames ∧
      ∃ f, (Operation.getAttribute i "add_one").outcome 1 h = .ok (.found i (.exported f)) ∧
        i.Wraps "add-one" f := by
  intro p e i make h₀ h
  have hmade : Object.running i ∈ onOk Answer.objects (make.event 0 h₀).outcome := rfl
  have history : History [make.event 0 h₀] h := .perform (.start _ _) 0 (Set.empty_subset _)
  have distinct : i.exportNames.Nodup := by decide
  have agrees := history.access_agrees (.given List.mem_cons_self hmade) distinct
  have hname : "add-one" ∈ i.functionNames := List.mem_cons_self
  have hsafe : safeName "add-one" = "add_one" := by decide +kernel
  have hidentifier : Text.isIdentifier (safeName "add-one") = true := by decide +kernel
  have hlisted := agrees.listed hname hidentifier
  obtain ⟨f, target, hgiven, hwraps, htarget, -⟩ :=
    agrees.given hname hidentifier (by decide +kernel) (fun other f hmem _ => by
      obtain ⟨-, hf⟩ := Guest.Export.mk.inj (List.mem_singleton.mp hmem)
      cases hf
      exact Nat.le_refl 1) 1
  have honly : target = "add-one" := List.mem_singleton.mp htarget
  rw [hsafe] at hlisted hgiven
  exact ⟨distinct, agrees, hlisted, f, hgiven, honly ▸ hwraps⟩

/-- A function whose name begins with a low line is listed, and cannot be had as an attribute. -/
theorem access_disagrees_start :
    let p : Guest.Program := ⟨[], [], [], none, [⟨"_start", .function ⟨[], [], .nop⟩⟩]⟩
    let e : Engine := ⟨2, ⟨1, .default⟩⟩
    let i : Instance := ⟨6, e, ⟨4, ⟨3, ⟨p, false, false⟩⟩⟩, ⟨5, e, ⟨3, ⟨p, false, false⟩⟩, none⟩⟩
    let make := Operation.instanceOfBytes (.ofProgram p) none
    let h₀ := Host.fresh ⟨.empty, none⟩ ⟨[]⟩
    let h := make.after 0 h₀
    History [make.event 0 h₀] h ∧ Object.running i ∈ Known [make.event 0 h₀] ∧
      i.exportNames.Nodup ∧ "_start" ∈ i.attributeNames ∧ ¬i.AccessAgrees (fun _ => True) h := by
  intro p e i make h₀ h
  have hmade : Object.running i ∈ onOk Answer.objects (make.event 0 h₀).outcome := rfl
  have history : History [make.event 0 h₀] h := .perform (.start _ _) 0 (Set.empty_subset _)
  have hname : "_start" ∈ i.functionNames := List.mem_cons_self
  have hsafe : safeName "_start" = "_start" := by decide +kernel
  have hidentifier : Text.isIdentifier (safeName "_start") = true := by decide +kernel
  have hlisted : "_start" ∈ i.attributeNames :=
    i.mem_attributeNames.mpr ⟨"_start", hname, hsafe, hsafe ▸ hidentifier⟩
  refine ⟨history, .given List.mem_cons_self hmade, by decide, hlisted, fun agrees => ?_⟩
  obtain ⟨f, target, hgiven, -⟩ :=
    agrees.given hname hidentifier trivial (fun other f hmem _ => by
      obtain ⟨-, hf⟩ := Guest.Export.mk.inj (List.mem_singleton.mp hmem)
      cases hf
      exact Nat.zero_le 1) 0
  have hmissing : (Operation.getAttribute i "_start").outcome 0 h =
      .error ⟨.plain (.noAttribute "_start"), none⟩ := rfl
  rw [hsafe, hmissing] at hgiven
  cases hgiven

end

end WasmHost
