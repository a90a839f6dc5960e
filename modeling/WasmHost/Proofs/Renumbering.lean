import Mathlib.Order.Monotone.Basic
import WasmHost.Proofs.Share
/-!
The numbers of objects do not matter.

If other things have happened in a host, then new objects get other numbers. Shares of an instance
that are the same except for such numbers stay so: whatever acts on both gives the same answers, in
which only the numbers differ.
-/
namespace WasmHost

variable {σ τ : Nat → Nat}

/-- The same callable under another number. -/
def ExportedFunction.renumber (σ : Nat → Nat) (f : ExportedFunction) : ExportedFunction :=
  { f with serial := σ f.serial }

/-- The same view under another number. -/
def MemoryView.renumber (σ : Nat → Nat) (v : MemoryView) : MemoryView :=
  { v with serial := σ v.serial }

def ViewSlot.renumber (σ : Nat → Nat) : ViewSlot → ViewSlot
  | unset => unset
  | holds view => holds (view.map (MemoryView.renumber σ))

theorem ExportedFunction.renumber_congr {f : ExportedFunction} (same : σ f.serial = τ f.serial) :
    f.renumber σ = f.renumber τ := by
  unfold renumber
  rw [same]

theorem MemoryView.renumber_congr {v : MemoryView} (same : σ v.serial = τ v.serial) :
    v.renumber σ = v.renumber τ := by
  unfold renumber
  rw [same]

theorem ViewSlot.renumber_congr {slot : ViewSlot}
    (same : ∀ v, slot = .holds (some v) → σ v.serial = τ v.serial) :
    slot.renumber σ = slot.renumber τ := by
  match slot with
  | unset | holds none => rfl
  | holds (some v) =>
    exact congrArg (fun w => holds (some w)) (MemoryView.renumber_congr (same v rfl))

namespace Answer

/-- The same answer, with another number for the callable or the view in it. -/
def renumber (σ : Nat → Nat) : Answer → Answer
  | function f => function (f.renumber σ)
  | found i (.exported f) => found i (.exported (f.renumber σ))
  | view v => view (v.map (MemoryView.renumber σ))
  | answer => answer

/-- The number of the callable or the view in an answer. -/
def number? : Answer → Option Nat
  | function f => some f.serial
  | found _ (.exported f) => some f.serial
  | view v => v.map MemoryView.serial
  | _ => none

theorem renumber_congr {answer : Answer} (same : ∀ n ∈ answer.number?, σ n = τ n) :
    answer.renumber σ = answer.renumber τ := by
  -- only callables and views have a number
  cases answer with
  | function f => exact congrArg function (ExportedFunction.renumber_congr (same _ rfl))
  | found i attr =>
    cases attr with
    | exported f =>
      exact congrArg (fun g => found i (.exported g))
        (ExportedFunction.renumber_congr (same _ rfl))
    | _ => rfl
  | view v =>
    cases v with
    | some v => exact congrArg (fun w => view (some w)) (MemoryView.renumber_congr (same _ rfl))
    | none => rfl
  | _ => rfl

theorem renumber_of_plain {answer : Answer} (plain : answer.number? = none) :
    answer.renumber σ = answer := by
  cases answer with
  | function f => cases plain
  | found i attr =>
    cases attr with
    | exported f => cases plain
    | _ => rfl
  | view v =>
    cases v with
    | some v => cases plain
    | none => rfl
  | _ => rfl

end Answer

/-- The same callables under other numbers. -/
def renumbered (σ : Nat → Nat) (entries : List (String × ExportedFunction)) :
    List (String × ExportedFunction) :=
  entries.map fun entry => (entry.1, entry.2.renumber σ)

theorem renumbered_append (first second : List (String × ExportedFunction)) :
    renumbered σ (first ++ second) = renumbered σ first ++ renumbered σ second := List.map_append

theorem renumbered_congr {entries : List (String × ExportedFunction)}
    (same : ∀ name f, (name, f) ∈ entries → σ f.serial = τ f.serial) :
    renumbered σ entries = renumbered τ entries := by
  refine List.map_congr_left fun entry hentry => ?_
  rw [ExportedFunction.renumber_congr (same _ _ hentry)]

theorem lookup_map_snd {α β : Type} (g : α → β) (name : String) (entries : List (String × α)) :
    (entries.map fun entry => (entry.1, g entry.2)).lookup name = (entries.lookup name).map g := by
  induction entries with
  | nil => rfl
  | cons entry entries ih =>
    rw [List.map_cons, List.lookup_cons, List.lookup_cons, ih]
    cases name == entry.1 <;> rfl

theorem lookup_renumbered (σ : Nat → Nat) (name : String)
    (entries : List (String × ExportedFunction)) :
    (renumbered σ entries).lookup name = (entries.lookup name).map (·.renumber σ) :=
  lookup_map_snd (ExportedFunction.renumber σ) name entries

namespace Share

/-- A share is another one in which objects have other numbers, in the same order. The numbers that
are still to be given out stand for each other one by one. -/
structure Follows (σ : Nat → Nat) (s t : Share) : Prop where
  guest : s.guest = t.guest
  wrappers : s.wrappers = renumbered σ t.wrappers
  slot : s.slot = t.slot.renumber σ
  free : s.lock = none
  free' : t.lock = none
  increasing : StrictMono σ
  ahead (n : Nat) : σ (t.next + n) = s.next + n
  wrapper {name : String} {f : ExportedFunction} (hf : (name, f) ∈ t.wrappers) : f.serial < t.next
  view {v : MemoryView} (hv : t.slot = .holds (some v)) : v.serial < t.next

/-- What acts on shares goes along with other numbers: it gives the same answers in which only
numbers differ, and leaves shares in which only numbers differ. The number in an answer is one that
has been given out. -/
structure Natural (act : Share → Except Failure Answer × Share) : Prop where
  gives {σ : Nat → Nat} {s t : Share} (follows : Follows σ s t) :
    (act s).1 = (act t).1.map (Answer.renumber σ)
  leaves {σ : Nat → Nat} {s t : Share} (follows : Follows σ s t) : Follows σ (act s).2 (act t).2
  later (t : Share) : t.next ≤ (act t).2.next
  issued {σ : Nat → Nat} {s t : Share} (follows : Follows σ s t) {answer : Answer}
    (hanswer : (act t).1 = .ok answer) : ∀ n ∈ answer.number?, n < (act t).2.next
  free {s : Share} (hs : s.lock = none) : (act s).2.lock = none

namespace Follows

variable {s t : Share} (follows : Follows σ s t)

include follows

theorem next : σ t.next = s.next := follows.ahead 0

theorem below {n : Nat} (hn : n < t.next) : σ n < s.next :=
  follows.next ▸ follows.increasing hn

theorem setGuest (guest : Guest.State) : Follows σ { s with guest } { t with guest } :=
  { follows with guest := rfl }

theorem ahead_succ (n : Nat) : σ (t.next + 1 + n) = s.next + 1 + n := by
  rw [Nat.add_assoc, Nat.add_assoc]
  exact follows.ahead (1 + n)

theorem setWrapper (name : String) {f g : ExportedFunction} (hserial : g.serial = t.next)
    (hf : f = g.renumber σ) :
    Follows σ { s with wrappers := s.wrappers ++ [(name, f)], next := s.next + 1 }
      { t with wrappers := t.wrappers ++ [(name, g)], next := t.next + 1 } := by
  refine { follows with wrappers := ?_, ahead := follows.ahead_succ, wrapper := ?_, view := ?_ }
  · dsimp only
    rw [renumbered_append, follows.wrappers, hf]
    rfl
  · intro name' f' hf'
    rcases List.mem_append.mp hf' with hold | hnew
    · exact Nat.lt_succ_of_lt (follows.wrapper hold)
    · cases List.mem_singleton.mp hnew
      exact Nat.lt_succ_of_le (Nat.le_of_eq hserial)
  · exact fun hv => Nat.lt_succ_of_lt (follows.view hv)

theorem setView {v w : MemoryView} (hserial : w.serial = t.next) (hv : v = w.renumber σ) :
    Follows σ { s with slot := .holds (some v), next := s.next + 1 }
      { t with slot := .holds (some w), next := t.next + 1 } := by
  refine { follows with slot := ?_, ahead := follows.ahead_succ, wrapper := ?_, view := ?_ }
  · rw [hv]
    rfl
  · exact fun hf => Nat.lt_succ_of_lt (follows.wrapper hf)
  · rintro v' hv'
    cases hv'
    exact Nat.lt_succ_of_le (Nat.le_of_eq hserial)

theorem function (i : Instance) (name : String) :
    (Share.function i name s).1 = (Share.function i name t).1.map (·.renumber σ) ∧
      Follows σ (Share.function i name s).2 (Share.function i name t).2 ∧
      ∀ f, (Share.function i name t).1 = .ok f → f.serial < (Share.function i name t).2.next := by
  have hlookup : s.wrappers.lookup name = (t.wrappers.lookup name).map (·.renumber σ) := by
    rw [follows.wrappers, lookup_renumbered]
  unfold Share.function
  rw [hlookup]
  -- by what was handed out under the name before
  cases hfound : t.wrappers.lookup name with
  | some f =>
    refine ⟨rfl, follows, fun g hg => ?_⟩
    cases hg
    exact follows.wrapper (mem_of_lookup_eq_some hfound)
  | none =>
    rw [Option.map_none]
    cases i.handle.program.resolution name with
    | error failure => exact ⟨rfl, follows, fun g hg => nomatch hg⟩
    | ok signature =>
      -- both are new and get the next number
      have hnew : (⟨s.next, i.engine, ⟨i.handle, name, signature⟩⟩ : ExportedFunction) =
          ExportedFunction.renumber σ ⟨t.next, i.engine, ⟨i.handle, name, signature⟩⟩ := by
        unfold ExportedFunction.renumber
        rw [follows.next]
      refine ⟨congrArg Except.ok hnew, follows.setWrapper name rfl hnew, fun g hg => ?_⟩
      cases hg
      exact Nat.lt_succ_self _

theorem memoryBuffer (i : Instance) :
    (Share.memoryBuffer i s).1 = (Share.memoryBuffer i t).1.map (·.renumber σ) ∧
      Follows σ (Share.memoryBuffer i s).2 (Share.memoryBuffer i t).2 ∧
      ∀ v, (Share.memoryBuffer i t).1 = some v → v.serial < (Share.memoryBuffer i t).2.next := by
  unfold Share.memoryBuffer
  rw [follows.slot]
  -- by what the slot holds
  cases hslot : t.slot with
  | holds view =>
    refine ⟨rfl, follows, fun v hv => ?_⟩
    cases hv
    exact follows.view hslot
  | unset =>
    unfold ViewSlot.renumber
    cases i.handle.program.exposedMemory? with
    | none => exact ⟨rfl, { follows with slot := rfl, view := nofun }, nofun⟩
    | some memory =>
      -- a new view gets the next number in both
      have hnew : (⟨s.next, i.handle, memory⟩ : MemoryView) =
          MemoryView.renumber σ ⟨t.next, i.handle, memory⟩ := by
        unfold MemoryView.renumber
        rw [follows.next]
      refine ⟨congrArg some hnew, follows.setView rfl hnew, fun v hv => ?_⟩
      cases hv
      exact Nat.lt_succ_self _

-- If numbers are given out that have nothing to do with a share, then those that follow are
-- different, and those that were given out before are not.
theorem skip {next : Nat} (later : s.next ≤ next) :
    ∃ σ', (∀ n < t.next, σ' n = σ n) ∧ Follows σ' { s with next } t := by
  -- numbers that are not given out yet start anew from the next one
  let σ' (n : Nat) := if n < t.next then σ n else next + (n - t.next)
  have hold {n : Nat} (hn : n < t.next) : σ' n = σ n := if_pos hn
  have hnew {n : Nat} (hn : ¬n < t.next) : σ' n = next + (n - t.next) := if_neg hn
  refine ⟨σ', fun n => hold, { follows with
    wrappers := ?_, slot := ?_, increasing := ?_, ahead := ?_ }⟩
  · exact follows.wrappers.trans
      (renumbered_congr fun name f hf => (hold (follows.wrapper hf)).symm)
  · exact follows.slot.trans
      (ViewSlot.renumber_congr fun v hv => (hold (follows.view hv)).symm)
  · intro m n hmn
    by_cases hn : n < t.next
    · rw [hold hn, hold (hmn.trans hn)]
      exact follows.increasing hmn
    · rw [hnew hn]
      by_cases hm : m < t.next
      -- an old number is below the former next one
      · have hbelow : σ m < s.next := follows.below hm
        rw [hold hm]
        omega
      · rw [hnew hm]
        omega
  · intro n
    rw [hnew (Nat.not_lt.mpr (Nat.le_add_right _ _)), Nat.add_sub_cancel_left]

end Follows

namespace Natural

-- What depends on the guest alone goes along with other numbers if it gives none itself.
theorem ofGuest (run : Guest.State → Except Failure Answer × Guest.State)
    (plain : ∀ {guest answer}, (run guest).1 = .ok answer → answer.number? = none) :
    Natural (Share.ofGuest run) where
  gives {σ s t} follows := by
    unfold Share.ofGuest
    rw [follows.guest]
    dsimp only
    cases hresult : (run t.guest).1 with
    | error failure => rfl
    | ok answer => exact congrArg Except.ok (Answer.renumber_of_plain (plain hresult)).symm
  leaves follows := by
    unfold Share.ofGuest
    rw [follows.guest]
    exact follows.setGuest _
  later _ := Nat.le_refl _
  issued {σ s t} _ answer hanswer n hn := by
    rw [plain hanswer] at hn
    cases hn
  free hs := hs

theorem lookUp (i : Instance) (name : String)
    {f : Except Failure ExportedFunction → Except Failure Answer} {make : ExportedFunction → Answer}
    (makes : ∀ g, f (.ok g) = .ok (make g))
    (plain : ∀ {failure answer}, f (.error failure) = .ok answer → answer.number? = none)
    (renumbers : ∀ (σ : Nat → Nat) g, make (g.renumber σ) = (make g).renumber σ)
    (numbers : ∀ {g n}, (make g).number? = some n → g.serial = n) :
    Natural fun s => (f (Share.function i name s).1, (Share.function i name s).2) where
  gives {σ s t} follows := by
    dsimp only
    rw [(follows.function i name).1]
    cases (Share.function i name t).1 with
    | ok g =>
      calc f (.ok (g.renumber σ)) = .ok (make (g.renumber σ)) := makes _
        _ = .ok ((make g).renumber σ) := by rw [renumbers]
        _ = (f (.ok g)).map (Answer.renumber σ) := by rw [makes, Except.map]
    | error failure =>
      -- a failure is the same in both, and so is what is made of it
      have hmap : (Except.error failure : Except Failure ExportedFunction).map (·.renumber σ) =
        .error failure := rfl
      rw [hmap]
      cases hresult : f (.error failure) with
      | error _ => rfl
      | ok answer => exact congrArg Except.ok (Answer.renumber_of_plain (plain hresult)).symm
  leaves follows := (follows.function i name).2.1
  later t := by
    unfold Share.function
    dsimp only
    split
    · exact Nat.le_refl _
    · exact Nat.le_refl _
    · exact Nat.le_succ _
  issued {σ s t} follows answer hanswer n hn := by
    dsimp only at hanswer
    cases hresult : (Share.function i name t).1 with
    | ok g =>
      rw [hresult, makes] at hanswer
      cases hanswer
      exact numbers hn ▸ (follows.function i name).2.2 g hresult
    | error failure =>
      rw [hresult] at hanswer
      cases (plain hanswer).symm.trans hn
  free {s} hs := by
    unfold Share.function
    dsimp only
    split <;> exact hs

theorem memoryBuffer (i : Instance) :
    Natural fun s => (.ok (.view (Share.memoryBuffer i s).1), (Share.memoryBuffer i s).2) where
  gives follows := congrArg (fun v => Except.ok (Answer.view v)) (follows.memoryBuffer i).1
  leaves follows := (follows.memoryBuffer i).2.1
  later t := by
    unfold Share.memoryBuffer
    dsimp only
    split
    · exact Nat.le_refl _
    · exact Nat.le_refl _
    · exact Nat.le_succ _
  issued {σ s t} follows answer hanswer n hn := by
    cases hanswer
    obtain ⟨v, hv, rfl⟩ := Option.map_eq_some_iff.mp hn
    exact (follows.memoryBuffer i).2.2 v hv
  free {s} hs := by
    unfold Share.memoryBuffer
    dsimp only
    split <;> exact hs

theorem value (run : Guest.State → Except Failure HostValue × Guest.State) :
    Natural fun s => ((Share.ofGuest run s).1.map Answer.value, (Share.ofGuest run s).2) := by
  refine ofGuest (fun guest => ((run guest).1.map Answer.value, (run guest).2)) ?_
  intro guest answer hanswer
  dsimp only at hanswer
  cases hresult : (run guest).1 with
  | error failure =>
    rw [hresult] at hanswer
    cases hanswer
  | ok value =>
    rw [hresult] at hanswer
    cases hanswer
    rfl

theorem fixed (result : Except Failure Answer)
    (plain : ∀ {answer}, result = .ok answer → answer.number? = none) :
    Natural (Share.ofGuest fun guest => (result, guest)) :=
  ofGuest _ plain

theorem function (i : Instance) (name : String) :
    Natural fun s => ((Share.function i name s).1.map .function, (Share.function i name s).2) :=
  lookUp i name (f := Except.map .function) (fun _ => rfl) (fun h => nomatch h) (fun _ _ => rfl)
    Option.some.inj

theorem item (i : Instance) (name : String) :
    Natural fun s => ((Instance.asItem name (Share.function i name s).1).map .function,
      (Share.function i name s).2) := by
  refine lookUp i name (f := fun result => (Instance.asItem name result).map .function)
    (fun _ => rfl) ?_ (fun _ _ => rfl) Option.some.inj
  rintro ⟨fault, cause⟩ answer hanswer
  cases fault <;> cases hanswer

theorem exported (i : Instance) (attr name : String) :
    Natural fun s => ((Instance.asAttribute attr (Share.function i name s).1).map (.found i),
      (Share.function i name s).2) := by
  refine lookUp i name (f := fun result => (Instance.asAttribute attr result).map (.found i))
    (fun _ => rfl) ?_ (fun _ _ => rfl) Option.some.inj
  rintro ⟨fault, cause⟩ answer hanswer
  cases fault <;> cases hanswer

theorem truth (i : Instance) (attr name : String) :
    Natural fun s => (.ok (.truth (Instance.asAttribute attr (Share.function i name s).1).isOk),
      (Share.function i name s).2) := by
  refine lookUp i name (f := fun result => .ok (.truth (Instance.asAttribute attr result).isOk))
    (fun _ => rfl) ?_ (fun _ _ => rfl) fun hn => nomatch hn
  intro failure answer hanswer
  cases hanswer
  rfl

end Natural
end Share
end WasmHost
