import Mathlib.Tactic.WLOG
import WasmHost.Guest.Runtime
/-!
Fuel decides whether the guest runs, and nothing else.

A runtime meters its instances if whatever succeeds with some fuel also succeeds with more, and does
the same with it. Then an instance that has more fuel than another, and is otherwise in the same
state, does all that the other does; and how much an instance was made with can be told from the
state it begins in. The machine meters its instances.
-/
namespace WasmHost.Guest

namespace State

/-- The same state with other fuel. -/
def withFuel (s : State) (fuel : Option Nat) : State := { s with fuel }

variable (s : State) (fuel : Option Nat)

@[simp] theorem fuel_withFuel : (s.withFuel fuel).fuel = fuel := rfl

@[simp] theorem withFuel_withFuel (other : Option Nat) :
    (s.withFuel fuel).withFuel other = s.withFuel other := rfl

@[simp] theorem memory_withFuel (i : Nat) : (s.withFuel fuel).memory i = s.memory i := rfl

@[simp] theorem setMemory_withFuel (i : Nat) (m : LinearMemory) :
    (s.withFuel fuel).setMemory i m = (s.setMemory i m).withFuel fuel := rfl

theorem withFuel_self : s.withFuel s.fuel = s := rfl

/-- Both states are metered, and but for its fuel, of which it has no more, the first is the
second. -/
inductive Behind : State → State → Prop where
  | intro (s : State) {m n : Nat} (hle : m ≤ n) : Behind (s.withFuel (some m)) (s.withFuel (some n))

end State

variable {p : Program} {f : Function} {args : List GuestValue} {s s' t : State}
  {results : List GuestValue}

section Runtime

variable [Runtime]

/-- More fuel changes nothing but what is left of it. -/
structure Metering : Prop where
  /-- A call that succeeds also succeeds with more fuel, and leaves all that there is more. -/
  call {p : Program} {f : Function} {args results : List GuestValue} {s s' : State} {m : Nat}
    (hmetered : s.fuel = some m) (hcall : Guest.call p f args s = (.ok results, s')) :
    ∃ left, s'.fuel = some left ∧ ∀ extra, Guest.call p f args (s.withFuel (some (m + extra))) =
      (.ok results, s'.withFuel (some (left + extra)))
  /-- An instance that can be made can also be made with more fuel, and has all that more left. -/
  instantiate {p : Program} {s : State} {m : Nat}
    (hmade : Guest.instantiate p (some m) = .ok s) :
    ∃ left, s.fuel = some left ∧ ∀ extra, Guest.instantiate p (some (m + extra)) =
      .ok (s.withFuel (some (left + extra)))

theorem State.Behind.call (metering : Metering) (behind : Behind s t)
    (hcall : Guest.call p f args s = (.ok results, s')) :
    ∃ t', Guest.call p f args t = (.ok results, t') ∧ Behind s' t' := by
  cases behind with
  | @intro s m n hle =>
    obtain ⟨left, hleft, hsame⟩ := metering.call rfl hcall
    have hmore := hsame (n - m)
    rw [State.withFuel_withFuel, Nat.add_sub_cancel' hle] at hmore
    -- what the second has more in the beginning it has more in the end
    have hs' : s' = s'.withFuel (some left) := hleft ▸ s'.withFuel_self.symm
    refine ⟨_, hmore, ?_⟩
    rw [hs', State.withFuel_withFuel]
    exact .intro s' (Nat.le_add_right left (n - m))

/-- An instance begins in a state if it is given a number of units of fuel. -/
def StartsWith (p : Program) (n : Nat) (s : State) : Prop := Guest.instantiate p (some n) = .ok s

theorem StartsWith.unique (metering : Metering) {m n : Nat} (starts : StartsWith p m s)
    (starts' : StartsWith p n s) : m = n := by
  wlog hle : m ≤ n generalizing m n
  · exact (this starts' starts (Nat.le_of_not_le hle)).symm
  obtain ⟨left, hleft, hsame⟩ := metering.instantiate starts
  have hmore := hsame (n - m)
  rw [Nat.add_sub_cancel' hle, starts'] at hmore
  -- what there is more of would be left in a state that has no more
  have hnone : some left = some (left + (n - m)) :=
    hleft.symm.trans (congrArg State.fuel (Except.ok.inj hmore))
  have := Option.some.inj hnone
  omega

/-- If an instance can be made with a budget, it can be made with a larger one. -/
theorem instantiate_behind (metering : Metering) {m n : Nat} (hle : m ≤ n)
    (hmade : Guest.instantiate p (some m) = .ok s) :
    ∃ t, Guest.instantiate p (some n) = .ok t ∧ s.Behind t := by
  obtain ⟨left, hleft, hsame⟩ := metering.instantiate hmade
  have hmore := hsame (n - m)
  rw [Nat.add_sub_cancel' hle] at hmore
  refine ⟨_, hmore, ?_⟩
  have hs : s = s.withFuel (some left) := hleft ▸ s.withFuel_self.symm
  rw [hs, State.withFuel_withFuel]
  exact .intro s (Nat.le_add_right left (n - m))

end Runtime

namespace Machine

theorem grow_withFuel (p : Program) (s : State) (fuel : Option Nat) (pages : Nat) :
    grow p (s.withFuel fuel) pages = ((grow p s pages).1, (grow p s pages).2.withFuel fuel) := by
  have hempty : (s.withFuel fuel).memories.isEmpty = s.memories.isEmpty := rfl
  unfold grow
  rw [s.memory_withFuel, hempty]
  dsimp only
  split <;> rfl

-- Only a function that runs for ever looks at the fuel.
theorem runBody_withFuel (hbody : f.body ≠ .loop) (p : Program) (args : List GuestValue) (s : State)
    (fuel : Option Nat) : runBody p f args (s.withFuel fuel) =
      ((runBody p f args s).1, (runBody p f args s).2.withFuel fuel) := by
  unfold runBody
  -- growing, loading and storing look at the memories, which are the same
  cases hf : f.body with
  | loop => exact absurd hf hbody
  | grow =>
    dsimp only
    rw [grow_withFuel]
  | load | store =>
    dsimp only
    rw [s.memory_withFuel]
    split <;> rfl
  | _ => rfl

/-- A call of a metered instance that succeeds takes one unit of fuel. With any fuel it does the
same. -/
theorem call_metered {m : Nat} (hmetered : s.fuel = some m)
    (hcall : call p f args s = (.ok results, s')) :
    ∃ k, m = k + 1 ∧ s'.fuel = some k ∧ ∀ n,
      call p f args (s.withFuel (some (n + 1))) = (.ok results, s'.withFuel (some n)) := by
  unfold call at hcall ⊢
  rw [hmetered] at hcall
  -- without fuel the call traps; otherwise one unit is taken before the body runs
  cases m with
  | zero => cases hcall
  | succ k =>
    change runBody p f args (s.withFuel (some k)) = _ at hcall
    -- one that runs for ever never succeeds, and no other looks at the fuel
    have hbody : f.body ≠ .loop := by
      intro hloop
      unfold runBody at hcall
      rw [hloop] at hcall
      cases hcall
    rw [runBody_withFuel hbody] at hcall
    obtain ⟨hresult, rfl⟩ := Prod.mk.inj hcall
    refine ⟨k, rfl, rfl, fun n => ?_⟩
    change runBody p f args (s.withFuel (some n)) = _
    rw [runBody_withFuel hbody, hresult, State.withFuel_withFuel]

theorem writeSegments_withFuel (segments : List DataSegment) (s : State) (fuel : Option Nat) :
    writeSegments segments (s.withFuel fuel) =
      (writeSegments segments s).map (·.withFuel fuel) := by
  -- the state changes from segment to segment, and its fuel is the same at each
  induction segments generalizing s with
  | nil => rfl
  | cons d segments ih =>
    unfold writeSegments
    dsimp only
    rw [s.memory_withFuel]
    split
    · rw [State.setMemory_withFuel]
      exact ih _
    · rfl

theorem runStart_eq_ok {before : State} : runStart p before = .ok s ↔
    (p.start = none ∧ s = before) ∨ ∃ action results, p.start = some action ∧
      call p (startFunction action) [] before = (.ok results, s) := by
  unfold runStart
  cases p.start with
  | none => simp [eq_comm]
  | some action =>
    rcases hcall : call p (startFunction action) [] before with ⟨_ | results, s'⟩ <;> simp [hcall]

/-- An instance can be made if there are no imports, any fuel that code needs, and room for the
data, and if the start action succeeds. -/
theorem instantiate_eq_ok {fuel : Option Nat} : instantiate p fuel = .ok s ↔
    p.imports.isEmpty = true ∧ ¬(fuel = some 0 ∧ runsCode p = true) ∧ ∃ written,
      writeSegments p.segments ⟨blankMemories p, 0, none⟩ = some written ∧
      runStart p (written.withFuel fuel) = .ok s := by
  -- a blank state differs from one without fuel only in its fuel
  have hblank : (⟨blankMemories p, 0, fuel⟩ : State) =
      State.withFuel ⟨blankMemories p, 0, none⟩ fuel := rfl
  unfold instantiate
  rw [hblank, writeSegments_withFuel]
  -- each check that fails is one of the conditions that are listed
  by_cases himports : p.imports.isEmpty = true
  · by_cases hfuel : fuel = some 0 ∧ runsCode p = true
    · simp [himports, hfuel]
    · cases writeSegments p.segments ⟨blankMemories p, 0, none⟩ <;> simp [himports, hfuel]
  · simp [himports]

/-- A start action that succeeds also succeeds with more fuel, and leaves all that there is more. -/
theorem runStart_metered {m : Nat} (hmetered : s.fuel = some m) (hstart : runStart p s = .ok s') :
    ∃ left, s'.fuel = some left ∧ ∀ extra, runStart p (s.withFuel (some (m + extra))) =
      .ok (s'.withFuel (some (left + extra))) := by
  rcases runStart_eq_ok.mp hstart with ⟨hnone, rfl⟩ | ⟨action, results, hsome, hcall⟩
  · exact ⟨m, hmetered, fun extra => runStart_eq_ok.mpr (Or.inl ⟨hnone, rfl⟩)⟩
  · obtain ⟨k, rfl, hleft, hsame⟩ := call_metered hmetered hcall
    refine ⟨k, hleft, fun extra => runStart_eq_ok.mpr (Or.inr ⟨action, results, hsome, ?_⟩)⟩
    rw [Nat.add_right_comm]
    exact hsame (k + extra)

/-- The machine meters its instances. -/
theorem metering : @Metering machine :=
  -- with more fuel a call takes one unit as before, and so does the start action
  letI := machine
  { call := fun {p f args results s s' m} hmetered hcall => by
      obtain ⟨k, rfl, hleft, hsame⟩ := call_metered hmetered (machine_call_eq_ok_iff.mp hcall)
      refine ⟨k, hleft, fun extra => machine_call_eq_ok_iff.mpr ?_⟩
      rw [Nat.add_right_comm]
      exact hsame (k + extra)
    instantiate := fun {p s m} hmade => by
      obtain ⟨himports, hfuel, written, hwritten, hstart⟩ := instantiate_eq_ok.mp hmade
      obtain ⟨left, hleft, hsame⟩ := runStart_metered rfl hstart
      refine ⟨left, hleft, fun extra => instantiate_eq_ok.mpr
        ⟨himports, fun hnone => hfuel ?_, written, hwritten, hsame extra⟩⟩
      -- with no fuel in the larger budget there is none in the smaller
      have hsum : m + extra = 0 := Option.some.inj hnone.1
      exact ⟨congrArg some (Nat.eq_zero_of_add_eq_zero_right hsum), hnone.2⟩ }

end Machine
end WasmHost.Guest
