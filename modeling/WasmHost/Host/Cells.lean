/-!
Cells: one value for every key, almost all of them the same.
-/
namespace WasmHost

/-- A total assignment of values to keys that differs from a default at finitely many. -/
structure Cells (κ α : Type) where
  initial : α
  changed : List (κ × α)

namespace Cells

variable {κ α : Type} [DecidableEq κ]

/-- The same value everywhere. -/
def all (value : α) : Cells κ α := ⟨value, []⟩

def get (c : Cells κ α) (key : κ) : α :=
  match c.changed.find? (·.1 = key) with
  | some entry => entry.2
  | none => c.initial

def set (c : Cells κ α) (key : κ) (value : α) : Cells κ α :=
  ⟨c.initial, (key, value) :: c.changed.filter (·.1 ≠ key)⟩

@[simp] theorem get_all (value : α) (key : κ) : (all value).get key = value := rfl

@[simp] theorem get_set_self (c : Cells κ α) (key : κ) (value : α) :
    (c.set key value).get key = value := by simp [set, get]

theorem get_set_of_ne (c : Cells κ α) {key other : κ} (h : other ≠ key) (value : α) :
    (c.set key value).get other = c.get other := by
  have hk : ¬key = other := fun h' => h h'.symm
  have hp : ∀ e : κ × α, (e.1 ≠ key ∧ e.1 = other) = (e.1 = other) := fun e =>
    propext ⟨And.right, fun he => ⟨fun hk' => h (he.symm.trans hk'), he⟩⟩
  simp only [get, set, List.find?_cons, hk, decide_false, List.find?_filter, decide_eq_true_eq, hp]

theorem get_set (c : Cells κ α) (key other : κ) (value : α) :
    (c.set key value).get other = if other = key then value else c.get other := by
  by_cases h : other = key
  · rw [if_pos h, h, get_set_self]
  · rw [if_neg h, get_set_of_ne c h]

end Cells
end WasmHost
