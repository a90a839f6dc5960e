import WasmHost.Proofs.Channel
import WasmHost.Proofs.Dispatch
/-!
What resolving a name comes to.

The answer depends on the exports of the instance alone, and with it the diagnostic that is there
afterwards, whatever diagnostic there was before.
-/
namespace WasmHost

/-- The same state, except for what has been reported. -/
def Host.reporting (h : Host) (diagnostics : Cells (Nat × Thread) (Option String))
    (operations : List (Nat × EngineOperation)) (notices : List Notice) : Host :=
  { h with diagnostics, operations, notices }

/-- What there is to say of a name: the signature of its export, or the diagnostic that tells why
the export has none, or neither if nothing is exported under the name. -/
def Guest.Program.signatureFor (p : Program) (name : String) : Option Signature × Option String :=
  match p.export? name with
  | none => (none, none)
  | some (.function f) => match Engine.signatureOf? f with
    | some signature => (some signature, none)
    | none => (none, some ("export `" ++ name ++ "` returns " ++ toString f.results.length ++
        " values, only a single return value is supported"))
  | some _ => (none, some ("export `" ++ name ++ "` is not a function"))

/-- What it comes to that a name is resolved. -/
def Guest.Program.resolution (p : Program) (name : String) : Except Failure Signature :=
  match p.signatureFor name with
  | (some signature, _) => .ok signature
  | (none, none) => .error ⟨.unknownFunction name, none⟩
  | (none, some diagnostic) => .error ⟨.unresolvedSignature name (some diagnostic), none⟩

/-- A name resolves to the signature of an exported function, with the declared kinds. -/
structure ResolvesTo (p : Guest.Program) (name : String) (signature : Signature) : Prop where
  exported : ∃ f, p.export? name = some (.function f) ∧ f.results.length ≤ 1 ∧
    signature.params = f.params.map (·.kind) ∧
    signature.result = (f.results.head?.map (·.kind)).getD .void ∧
    (signature.result = .void ↔ f.results = [])

/-- A name is that of an export without a signature: of no function, or of several results. -/
def Uncallable (p : Guest.Program) (name : String) : Prop :=
  name ∈ p.exportNames ∧ ∀ f, p.export? name = some (.function f) → 2 ≤ f.results.length

theorem Guest.ValueType.kind_ne_void (t : ValueType) : t.kind ≠ .void := by
  cases t <;> decide

theorem Guest.Program.mem_exportNames {p : Program} {name : String} :
    name ∈ p.exportNames ↔ ∃ item, p.export? name = some item := by
  rw [← List.contains_iff_mem, p.contains_exportNames, Option.isSome_iff_exists]

namespace Engine

theorem signatureOf?_cases (f : Guest.Function) :
    (∃ signature, signatureOf? f = some signature ∧ f.results.length ≤ 1 ∧
      signature.params = f.params.map (·.kind) ∧
      signature.result = (f.results.head?.map (·.kind)).getD .void ∧
      (signature.result = .void ↔ f.results = [])) ∨
    signatureOf? f = none ∧ 2 ≤ f.results.length := by
  unfold signatureOf?
  rcases f.results with _ | ⟨result, _ | ⟨second, rest⟩⟩
  · exact Or.inl ⟨_, rfl, by decide, rfl, rfl, by simp⟩
  · exact Or.inl ⟨_, rfl, Nat.le_refl 1, rfl, rfl, by simpa using result.kind_ne_void⟩
  · refine Or.inr ⟨rfl, ?_⟩
    rw [List.length_cons, List.length_cons]
    omega

variable (e : Engine) (handle : Handle) (name : String) (h : Host)

/-- Asking for a signature gives what there is to say of the name and leaves the diagnostic that
there is to say of it. Besides, only that it was asked is recorded. -/
theorem functionSignature_run : ∃ notices, (e.functionSignature handle name).run h =
    ((handle.program.signatureFor name).1,
      h.reporting (h.diagnostics.set (e.serial, h.thread) (handle.program.signatureFor name).2)
        ((e.serial, .functionSignature) :: h.operations) notices) := by
  unfold functionSignature Guest.Program.signatureFor
  cases handle.program.export? name with
  | none => exact ⟨_, rfl⟩
  | some item =>
    cases item with
    | function f =>
      dsimp only
      cases signatureOf? f <;> exact ⟨_, rfl⟩
    | _ => exact ⟨_, rfl⟩

theorem functionSignature_tells :
    ((e.functionSignature handle name).run h).1 = (handle.program.signatureFor name).1 ∧
      e.diagnosticOn ((e.functionSignature handle name).run h).2 h.thread =
        (handle.program.signatureFor name).2 := by
  obtain ⟨notices, hrun⟩ := e.functionSignature_run handle name h
  rw [hrun]
  exact ⟨rfl, Cells.get_set_self ..⟩

variable [Guest.Runtime]

theorem resolve_eq : (e.invoker.resolve handle name).run.run h =
    (handle.program.resolution name, ((e.functionSignature handle name).run h).2) := by
  obtain ⟨notices, hrun⟩ := e.functionSignature_run handle name h
  have hasked : (e.invoker.signature? handle name).run h =
      (e.functionSignature handle name).run h := rfl
  have hlast (d : Option String) (operations : List (Nat × EngineOperation)) :
      e.invoker.lastError.run (h.reporting (h.diagnostics.set (e.serial, h.thread) d) operations
        notices) = (d, h.reporting (h.diagnostics.set (e.serial, h.thread) d) operations notices) :=
    Prod.ext (Cells.get_set_self ..) rfl
  rw [e.invoker.resolve_run, hasked, hrun, Guest.Program.resolution]
  rcases handle.program.signatureFor name with ⟨answer, diagnostic⟩
  cases answer with
  | some signature => rfl
  | none =>
    dsimp only
    rw [hlast]
    cases diagnostic <;> rfl

end Engine

theorem Guest.Program.signatureFor_cases (p : Program) (name : String) :
    p.signatureFor name = (none, none) ∧ name ∉ p.exportNames ∨
    (∃ diagnostic, p.signatureFor name = (none, some diagnostic) ∧ Uncallable p name) ∨
    ∃ signature, p.signatureFor name = (some signature, none) ∧ ResolvesTo p name signature := by
  unfold signatureFor
  cases hexport : p.export? name with
  | none =>
    refine Or.inl ⟨rfl, fun hmem => ?_⟩
    obtain ⟨item, hitem⟩ := mem_exportNames.mp hmem
    exact nomatch hexport.symm.trans hitem
  | some item =>
    have hmem : name ∈ p.exportNames := mem_exportNames.mpr ⟨item, hexport⟩
    cases item with
    | function f =>
      dsimp only
      rcases Engine.signatureOf?_cases f with ⟨signature, hsome, hdeclared⟩ | ⟨hnone, hseveral⟩
      · rw [hsome]
        exact Or.inr (Or.inr ⟨signature, rfl, ⟨f, hexport, hdeclared⟩⟩)
      · rw [hnone]
        refine Or.inr (Or.inl ⟨_, rfl, hmem, fun g hg => ?_⟩)
        cases hexport.symm.trans hg
        exact hseveral
    | _ => exact Or.inr (Or.inl ⟨_, rfl, hmem, fun g hg => nomatch hexport.symm.trans hg⟩)

namespace Guest.Program

/-- A name resolves to a signature if it is that of an export which has this signature. -/
theorem resolution_eq_ok {p : Program} {name : String} {signature : Signature} :
    p.resolution name = .ok signature ↔
      ∃ f, p.export? name = some (.function f) ∧ Engine.signatureOf? f = some signature := by
  unfold resolution signatureFor
  cases p.export? name with
  | none => exact ⟨fun h => (nomatch h), fun ⟨_, hexport, _⟩ => nomatch hexport⟩
  | some item =>
    cases item with
    | function f =>
      dsimp only
      constructor
      · intro h
        cases hsignature : Engine.signatureOf? f with
        | some found =>
          rw [hsignature] at h
          cases h
          exact ⟨f, rfl, hsignature⟩
        | none =>
          rw [hsignature] at h
          cases h
      · rintro ⟨g, hexport, hsignature⟩
        cases hexport
        rw [hsignature]
    | _ => exact ⟨fun h => (nomatch h), fun ⟨_, hexport, _⟩ => nomatch hexport⟩

theorem signatureFor_of_signature {p : Program} {name : String} {f : Function}
    {signature : Signature} (hexport : p.export? name = some (.function f))
    (hsignature : Engine.signatureOf? f = some signature) :
    p.signatureFor name = (some signature, none) := by
  rw [signatureFor, hexport]
  dsimp only
  rw [hsignature]

end Guest.Program
end WasmHost
