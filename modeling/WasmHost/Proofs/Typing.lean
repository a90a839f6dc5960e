import Mathlib.Data.List.Forall2
import WasmHost.Host.Engine
/-!
Types of the guest.

A runtime keeps to the types of a program if its exported functions, called with values of the types
of their parameters, give values of the types of their results. On the machine this is a matter of
bodies: each goes with types of parameters and results, and only functions whose body goes with
their types have a binary form.
-/
namespace WasmHost

theorem mapM_eq_ok_iff {ε α β : Type} {f : α → Except ε β} {xs : List α} {ys : List β} :
    xs.mapM f = .ok ys ↔ List.Forall₂ (fun x y => f x = .ok y) xs ys := by
  induction xs generalizing ys with
  | nil => cases ys <;> simp [pure, Except.pure]
  | cons x xs ih =>
    rw [List.mapM_cons]
    cases hx : f x with
    | error fault => cases ys <;> simp [bind, Except.bind, hx]
    | ok y =>
      cases hxs : xs.mapM f <;> cases ys <;>
        simp [bind, Except.bind, pure, Except.pure, ← ih, hxs, hx]

namespace Guest

/-- A value is of a type. -/
inductive GuestValue.HasType : GuestValue → ValueType → Prop where
  | i32 (w : BitVec 32) : HasType (.i32 w) .i32
  | i64 (w : BitVec 64) : HasType (.i64 w) .i64
  | f32 (x : Floating .single) : HasType (.f32 x) .f32
  | f64 (x : Double) : HasType (.f64 x) .f64
  | functionReference : HasType .null .functionReference
  | externalReference : HasType .null .externalReference

/-- What the exported functions of a program give is of the types of their results. -/
def Program.ReturnsTyped [Runtime] (p : Program) : Prop :=
  ∀ {name : String} {f : Function}, p.export? name = some (.function f) →
    ∀ {args results : List GuestValue} {s : State},
      List.Forall₂ GuestValue.HasType args f.params →
      (Guest.call p f args s).1 = .ok results → List.Forall₂ GuestValue.HasType results f.results

/-- A body goes with types of parameters and results. -/
inductive Body.Typed : Body → List ValueType → List ValueType → Prop where
  | nop {params : List ValueType} : Typed .nop params []
  | unreachable {params results : List ValueType} : Typed .unreachable params results
  | parameter {params : List ValueType} {t : ValueType} {i : Nat} (hi : params[i]? = some t) :
      Typed (.parameter i) params [t]
  | constants {params results : List ValueType} {values : List Constant}
      (count : values.length = results.length) : Typed (.constants values) params results
  | combine {params : List ValueType} {t : ValueType} (op : Operator) :
      Typed (.combine op) (t :: t :: params) [t]
  | sumDoubles {params : List ValueType} : Typed .sumDoubles params [.f64]
  | grow {params : List ValueType} : Typed .grow params [.i32]
  | pages {params : List ValueType} : Typed .pages params [.i32]
  | load {params : List ValueType} : Typed .load params [.i32]
  | store {params : List ValueType} : Typed .store params []
  | increment {params : List ValueType} : Typed .increment params [.i32]
  | loop {params results : List ValueType} : Typed .loop params results
  | recurse {params results : List ValueType} : Typed .recurse params results
  | truncate {params : List ValueType} : Typed .truncate params [.i32]
  | nullFunction {params : List ValueType} : Typed .nullReference params [.functionReference]
  | nullExternal {params : List ValueType} : Typed .nullReference params [.externalReference]

/-- The body of a function goes with its type. -/
def Function.Typed (f : Function) : Prop := f.body.Typed f.params f.results

/-- The functions that a program exports go with their types. -/
def Program.Typed (p : Program) : Prop :=
  ∀ e ∈ p.exports, ∀ f, e.item = .function f → f.Typed

theorem Program.Typed.export? {p : Program} (typed : p.Typed) {name : String} {f : Function}
    (hexport : p.export? name = some (.function f)) : f.Typed := by
  obtain ⟨e, hfound, hitem⟩ := Option.map_eq_some_iff.mp hexport
  exact typed e (List.mem_of_find?_eq_some hfound) f hitem

theorem GuestValue.ofConstant_hasType (t : ValueType) (c : Constant) :
    (ofConstant t c).HasType t := by
  cases t <;> cases c <;> constructor

theorem ofConstants_hasType {types : List ValueType} {values : List Constant}
    (count : values.length = types.length) :
    List.Forall₂ GuestValue.HasType (types.zipWith GuestValue.ofConstant values) types := by
  induction types generalizing values with
  | nil => simp
  | cons t types ih =>
    cases values with
    | nil => simp at count
    | cons c values =>
      have hrest : values.length = types.length := by simpa using count
      exact .cons (GuestValue.ofConstant_hasType t c) (ih hrest)

theorem getD_hasType {args : List GuestValue} {params : List ValueType} {t : ValueType} {i : Nat}
    (hargs : List.Forall₂ GuestValue.HasType args params) (hi : params[i]? = some t) :
    (args.getD i .null).HasType t := by
  -- on the parameters and their types in step
  induction hargs generalizing i with
  | nil => simp at hi
  | cons first rest ih =>
    cases i with
    | zero =>
      simp only [List.getElem?_cons_zero, Option.some.injEq] at hi
      exact hi ▸ first
    | succ i =>
      simp only [List.getElem?_cons_succ] at hi
      exact ih hi

theorem ok_of_map {ε α β : Type} {run : Except ε α} {f : α → β} {y : β}
    (h : run.map f = .ok y) : ∃ x, run = .ok x ∧ f x = y := by
  cases run with
  | error fault => cases h
  | ok x => exact ⟨x, rfl, Except.ok.inj h⟩

theorem Operator.apply_hasType {op : Operator} {x y z : GuestValue} {t : ValueType}
    (hx : x.HasType t) (hy : y.HasType t) (hz : op.apply x y = .ok z) : z.HasType t := by
  -- an operator on words gives a word of the same width, if it gives one
  have hword {w : Nat} {a b : BitVec w} {make : BitVec w → GuestValue}
      (hmake : ∀ c, (make c).HasType t) (h : (op.onWords a b).map make = .ok z) : z.HasType t := by
    obtain ⟨c, -, rfl⟩ := ok_of_map h
    exact hmake c
  cases hx with
  | i32 a =>
    cases hy
    exact hword .i32 hz
  | i64 a =>
    cases hy
    exact hword .i64 hz
  | f32 a =>
    cases hy
    cases hz
    exact .f32 _
  | f64 a =>
    cases hy
    cases hz
    exact .f64 _
  | functionReference =>
    cases hz
    exact .functionReference
  | externalReference =>
    cases hz
    exact .externalReference

theorem typed_single {v : GuestValue} {t : ValueType} (hv : v.HasType t) :
    List.Forall₂ GuestValue.HasType [v] [t] := .cons hv .nil

namespace Machine

/-- What a body gives on parameters of their types is of the types of the results. -/
theorem runBody_typed {p : Program} {f : Function} {args results : List GuestValue} {s : State}
    (typed : f.Typed) (hargs : List.Forall₂ GuestValue.HasType args f.params)
    (hrun : (runBody p f args s).1 = .ok results) :
    List.Forall₂ GuestValue.HasType results f.results := by
  obtain ⟨params, types, body⟩ := f
  unfold Function.Typed at typed
  dsimp only at typed hargs ⊢
  cases typed with
  -- these give nothing, or no results
  | unreachable | loop | recurse => cases hrun
  | nop =>
    cases hrun
    exact .nil
  | store =>
    dsimp only [runBody] at hrun
    split at hrun
    · cases hrun
      exact .nil
    · cases hrun
  -- these give what the parameters or the constants are
  | parameter hi =>
    cases hrun
    exact typed_single (getD_hasType hargs hi)
  | constants count =>
    cases hrun
    exact ofConstants_hasType count
  | combine op =>
    cases hargs with
    | cons hx rest =>
      cases rest with
      | cons hy rest =>
        obtain ⟨z, hz, hgiven⟩ := ok_of_map hrun
        exact hgiven ▸ typed_single (Operator.apply_hasType hx hy hz)
  -- and these a number that they make themselves
  | sumDoubles =>
    cases hrun
    exact typed_single (.f64 _)
  | grow | pages | increment =>
    cases hrun
    exact typed_single (.i32 _)
  | load =>
    dsimp only [runBody] at hrun
    split at hrun
    · cases hrun
      exact typed_single (.i32 _)
    · cases hrun
  | truncate =>
    obtain ⟨w, -, hgiven⟩ := ok_of_map hrun
    exact hgiven ▸ typed_single (.i32 w)
  | nullFunction =>
    cases hrun
    exact typed_single .functionReference
  | nullExternal =>
    cases hrun
    exact typed_single .externalReference

theorem call_typed {p : Program} {f : Function} {args results : List GuestValue} {s : State}
    (typed : f.Typed) (hargs : List.Forall₂ GuestValue.HasType args f.params)
    (hcall : (call p f args s).1 = .ok results) :
    List.Forall₂ GuestValue.HasType results f.results := by
  unfold call at hcall
  split at hcall
  · exact runBody_typed typed hargs hcall
  · cases hcall
  · exact runBody_typed typed hargs hcall

/-- The machine keeps to the types of programs whose functions go with theirs. -/
theorem returnsTyped {p : Program} (typed : p.Typed) : @Program.ReturnsTyped machine p := by
  intro name f hexport args results s hargs hcall
  have hrun : (call p f args s).1 = .ok results :=
    congrArg Prod.fst (machine_call_eq_ok_iff.mp (Prod.ext hcall rfl))
  exact call_typed (typed.export? hexport) hargs hrun

end Machine
end Guest

namespace Engine

open Guest (GuestValue ValueType)

theorem guestValue_hasType {v : Value} {t : ValueType} {word : GuestValue}
    (hkind : v.kind = t.kind) (hword : guestValue v = .ok (some word)) : word.HasType t := by
  -- the word is made by the constructor of its type
  have hgiven {α : Type} {made : Except PlainFault α} {make : α → GuestValue}
      (hmake : ∀ x, (make x).HasType t) (h : (made.map fun x => some (make x)) = .ok (some word)) :
      word.HasType t := by
    obtain ⟨x, -, hx⟩ := Guest.ok_of_map h
    exact Option.some.inj hx ▸ hmake x
  unfold guestValue at hword
  rw [hkind] at hword
  cases t with
  | i32 => exact hgiven (fun _ => .i32 _) hword
  | i64 => exact hgiven (fun _ => .i64 _) hword
  | f32 => exact hgiven (fun _ => .f32 _) hword
  | f64 => exact hgiven .f64 hword
  -- no value of a reference kind becomes a word
  | functionReference | externalReference =>
    obtain ⟨x, -, hx⟩ := Guest.ok_of_map hword
    cases hx

theorem guestValues_hasType {types : List ValueType} {values : List Value} {words : List GuestValue}
    (hkinds : values.map (·.kind) = types.map (·.kind))
    (hwords : values.mapM guestValue = .ok (words.map some)) :
    List.Forall₂ GuestValue.HasType words types := by
  rw [mapM_eq_ok_iff, List.forall₂_map_right_iff] at hwords
  -- on the values and their words in step
  induction hwords generalizing types with
  | nil =>
    obtain rfl : types = [] := by simpa using hkinds
    exact .nil
  | cons hword _ ih =>
    cases types with
    | nil => simp at hkinds
    | cons t types =>
      simp only [List.map_cons, List.cons.injEq] at hkinds
      exact .cons (guestValue_hasType hkinds.1 hword) (ih hkinds.2)

end Engine
end WasmHost
