import WasmHost.Proofs.MemoryBounds
import WasmHost.Signature
/-!
Slices of a memory, and what slices of a sequence select.

In a sequence a negative bound counts from the end, and bounds are moved into the sequence. A memory
takes its bounds as they are: it reports a range that is not inside it, and a stop before the start
gives the empty range. So whatever it returns is what the slice of its content selects, with one
exception: a negative stop is always before the start, also where the position that it counts to
lies behind the start.
-/
namespace WasmHost

/-- The items that a slice selects; a step of zero selects nothing that could be named. -/
def Slice.select? {α : Type} (s : Slice) (items : List α) : Option (List α) :=
  (s.positions? items.length).map fun positions => positions.filterMap (items[·]?)

/-- A stop counts from the end to a position behind the start. -/
def CountsPastStart (size : Nat) (start stop : Option Int) : Prop :=
  ∃ last, stop = some last ∧ last < 0 ∧ start.getD 0 < size + last

namespace Slice

variable {α : Type} {start stop step : Option Int}

theorem clampBound_of_inside {size n : Int} (hn : 0 ≤ n) (hsize : n ≤ size) :
    clampBound size 0 size n = n := by
  unfold clampBound
  rw [if_neg (by omega)]
  omega

-- Consecutive positions select a part of the items, as far as there are any.
theorem filterMap_range_add (items : List α) (first count : Nat) :
    ((List.range count).map (first + ·)).filterMap (items[·]?) =
      (items.drop first).take count := by
  induction count with
  | zero => simp
  | succ count ih =>
    have hnext : (items.drop first)[count]? = items[first + count]? := by
      rw [List.getElem?_drop]
    rw [List.range_succ, List.map_append, List.filterMap_append, ih, List.take_add_one, hnext]
    cases hitem : items[first + count]? <;> simp [hitem]

-- Without a step, a slice selects the items between its bounds, each of which counts from the end
-- when it is negative and is moved into the items.
theorem select?_of_free (free : step.getD 1 = 1) (items : List α) :
    let size : Int := items.length
    let first := (start.map (clampBound size 0 size)).getD 0
    let last := (stop.map (clampBound size 0 size)).getD size
    select? ⟨start, stop, step⟩ items =
      some ((items.drop first.toNat).take (last - first).toNat) := by
  intro size first last
  -- a bound that is moved into the items is not below zero
  have hfirst : 0 ≤ first := by
    dsimp only [first]
    cases start with
    | none => simp
    | some n =>
      simp only [Option.map_some, Option.getD_some, clampBound]
      omega
  -- for a step of one the positions are those from the first bound up to the last
  have hpositions : positions? ⟨start, stop, step⟩ items.length =
      some ((List.range ((last - first + (1 : Int).natAbs - 1).tdiv (1 : Int).natAbs).toNat).map
        fun i : Nat => (first + 1 * (i : Int)).toNat) := by
    simp only [positions?, free, one_ne_zero, ↓reduceIte, zero_lt_one]
    rfl
  have hcount : (last - first + (1 : Int).natAbs - 1).tdiv (1 : Int).natAbs = last - first := by
    simp
  have hposition : (fun i : Nat => (first + 1 * (i : Int)).toNat) = (first.toNat + ·) := by
    funext i
    omega
  rw [select?, hpositions, hcount, hposition, Option.map_some, filterMap_range_add]

end Slice

namespace LinearMemory

variable (m : LinearMemory) {start stop step : Option Int}

theorem slice_of_free (free : step.getD 1 = 1) :
    m.slice start stop step =
      m.read (start.getD 0) (max (stop.getD m.toList.length - start.getD 0) 0) := by
  rw [slice, if_neg (not_not.mpr free), m.length_toList]

theorem slice_eq_ok_iff {bytes : List UInt8} :
    let first := start.getD 0
    let count := max (stop.getD m.toList.length - first) 0
    m.slice start stop step = .ok bytes ↔
      step.getD 1 = 1 ∧ ¬Outside m.toList first count ∧
        bytes = (m.toList.drop first.toNat).take count.toNat := by
  intro first count
  by_cases free : step.getD 1 = 1
  · rw [m.slice_of_free free]
    by_cases hin : m.covers first count = true
    · have hinside : ¬Outside m.toList first count := by
        rw [m.outside_iff]
        exact not_not.mpr hin
      rw [m.read_of_covers hin, Except.ok.injEq]
      constructor
      · intro hbytes
        exact ⟨free, hinside, hbytes.symm⟩
      · rintro ⟨-, -, hbytes⟩
        exact hbytes.symm
    · rw [m.read_of_not_covers hin]
      constructor
      · intro hok
        cases hok
      · rintro ⟨-, hinside, -⟩
        exact absurd (m.outside_iff.mpr hin) hinside
  · constructor
    · intro hok
      rw [slice, if_pos free] at hok
      cases hok
    · rintro ⟨hfree, -⟩
      exact absurd hfree free

/-- What a memory returns for a slice is what the slice of its content selects, unless the stop
counts from the end to a position behind the start: then nothing is returned. -/
theorem slice_right_iff (m : LinearMemory) (start stop step : Option Int) :
    ((∃ bytes, m.slice start stop step = .ok bytes) ↔
      step.getD 1 = 1 ∧
        ¬Outside m.toList (start.getD 0) (max (stop.getD m.toList.length - start.getD 0) 0)) ∧
    (∀ bytes, m.slice start stop step = .ok bytes →
      (Slice.select? ⟨start, stop, step⟩ m.toList = some bytes ↔
        ¬CountsPastStart m.toList.length start stop) ∧
      (CountsPastStart m.toList.length start stop → bytes = [])) := by
  constructor
  · constructor
    · rintro ⟨bytes, hok⟩
      obtain ⟨free, hinside, -⟩ := m.slice_eq_ok_iff.mp hok
      exact ⟨free, hinside⟩
    · rintro ⟨free, hinside⟩
      exact ⟨_, m.slice_eq_ok_iff.mpr ⟨free, hinside, rfl⟩⟩
  intro bytes hok
  obtain ⟨free, hinside, hbytes⟩ := m.slice_eq_ok_iff.mp hok
  unfold Outside at hinside
  have hselect := @Slice.select?_of_free _ start stop step free m.toList
  -- the start is inside the memory, so that nothing moves it
  have hfirst : (start.map (Slice.clampBound m.toList.length 0 m.toList.length)).getD 0 =
      start.getD 0 := by
    cases start with
    | none => rfl
    | some n =>
      simp only [Option.getD_some] at hinside
      simp only [Option.map_some, Option.getD_some]
      apply Slice.clampBound_of_inside <;> omega
  simp only [hfirst] at hselect
  rw [hselect, Option.some.injEq]
  by_cases hpast : CountsPastStart m.toList.length start stop
  · obtain ⟨last, rfl, hnegative, hbehind⟩ := id hpast
    simp only [Option.getD_some] at hbytes hinside
    have hnothing : bytes = [] := by
      rw [hbytes, Int.max_eq_right (by omega)]
      simp
    refine ⟨iff_of_false ?_ (not_not.mpr hpast), fun _ => hnothing⟩
    -- the slice selects at least the byte at the start
    intro hequal
    have hlength := congrArg List.length (hequal.trans hnothing)
    simp only [Option.map_some, Option.getD_some, Slice.clampBound, if_pos hnegative,
      List.length_take, List.length_drop, List.length_nil] at hlength
    omega
  · refine ⟨iff_of_true ?_ hpast, fun h => absurd h hpast⟩
    rw [hbytes]
    congr 1
    cases stop with
    | none =>
      simp only [Option.map_none, Option.getD_none]
      omega
    | some last =>
      simp only [Option.getD_some] at hinside
      have hback : last < 0 → m.toList.length + last ≤ start.getD 0 := by
        intro hnegative
        by_contra hbehind
        exact hpast ⟨last, rfl, hnegative, by omega⟩
      simp only [Option.map_some, Option.getD_some, Slice.clampBound]
      split <;> omega

/-- The slice that ends before the last of two bytes selects the first one, and nothing is returned:
there is neither a fault nor the right answer. -/
theorem negative_stop_returns_nothing :
    let m := (LinearMemory.zeroed 2).write 0 [1, 2]
    m.slice none (some (-1)) none = .ok [] ∧
      Slice.select? ⟨none, some (-1), none⟩ m.toList = some [1] ∧
      ¬((∃ fault, m.slice none (some (-1)) none = .error fault) ∨
        ∃ bytes, m.slice none (some (-1)) none = .ok bytes ∧
          Slice.select? ⟨none, some (-1), none⟩ m.toList = some bytes) := by
  intro m
  have hslice : m.slice none (some (-1)) none = .ok [] := by decide +kernel
  have hselect : Slice.select? ⟨none, some (-1), none⟩ m.toList = some [1] := by decide +kernel
  refine ⟨hslice, hselect, ?_⟩
  rw [hslice, hselect]
  rintro (⟨fault, hfails⟩ | ⟨bytes, hok, hbytes⟩)
  · cases hfails
  · cases hok
    cases hbytes

end LinearMemory
end WasmHost
