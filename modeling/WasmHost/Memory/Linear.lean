import WasmHost.Memory.ByteTree
/-!
Linear memory: a size and bytes, zero from the start.

Only what was written is stored, so that growing costs nothing, and nothing is stored past the end.
-/
namespace WasmHost

/-- A byte-addressed memory. -/
structure LinearMemory where
  size : Nat
  stored : ByteTree
  /-- Past the end all bytes are zero. -/
  get_stored : ∀ i, size ≤ i → stored.get i = 0
  deriving DecidableEq

namespace LinearMemory

/-- The bytes of a page. -/
def pageSize : Nat := 65536

/-- A memory of a size that holds zeros. -/
def zeroed (size : Nat) : LinearMemory := ⟨size, .zeros, fun i _ => ByteTree.get_zeros i⟩

/-- The byte at an address, zero past the end. -/
def byteAt (m : LinearMemory) (i : Nat) : UInt8 := m.stored.get i

/-- The bytes from one address up to another. -/
def bytes (m : LinearMemory) (start stop : Nat) : List UInt8 :=
  (List.range' start (stop - start)).map m.byteAt

/-- The whole content. -/
def toList (m : LinearMemory) : List UInt8 := m.bytes 0 m.size

def pages (m : LinearMemory) : Nat := m.size / pageSize

/-- The memory with a byte replaced; an address outside changes nothing. -/
def set (m : LinearMemory) (i : Nat) (b : UInt8) : LinearMemory :=
  if h : i < m.size then
    ⟨m.size, m.stored.set i b, fun j hj => by
      rw [ByteTree.get_set, if_neg (by omega), m.get_stored j hj]⟩
  else m

/-- The memory with bytes written from an address on, as far as it reaches. -/
def write (m : LinearMemory) (start : Nat) (data : List UInt8) : LinearMemory :=
  match data with
  | [] => m
  | b :: rest => (m.set start b).write (start + 1) rest

/-- The memory cut or extended with zeros to a size. -/
def resize (m : LinearMemory) (size : Nat) : LinearMemory :=
  if h : m.size ≤ size then ⟨size, m.stored, fun i hi => m.get_stored i (by omega)⟩
  else
    ⟨size, m.stored.keep (· < size), fun i hi => by
      rw [ByteTree.get_keep, if_neg (by simpa using hi)]⟩

/-- The memory whose bytes from `start` on are replaced by data, over as many bytes as the data
has and as there are: past its end the memory becomes longer. -/
def splice (m : LinearMemory) (start : Nat) (data : List UInt8) : LinearMemory :=
  let start := min start m.size
  (m.resize (max m.size (start + data.length))).write start data

@[simp] theorem size_set (m : LinearMemory) (i : Nat) (b : UInt8) : (m.set i b).size = m.size := by
  unfold set
  split <;> rfl

@[simp] theorem size_resize (m : LinearMemory) (size : Nat) : (m.resize size).size = size := by
  unfold resize
  split <;> rfl

theorem byteAt_eq_zero (m : LinearMemory) {i : Nat} (h : m.size ≤ i) : m.byteAt i = 0 :=
  m.get_stored i h

theorem byteAt_set (m : LinearMemory) {i : Nat} (h : i < m.size) (b : UInt8) (j : Nat) :
    (m.set i b).byteAt j = if j = i then b else m.byteAt j := by
  simp only [set, h, ↓reduceDIte, byteAt]
  exact m.stored.get_set i b j

/-- Cutting a memory drops the bytes past the new end, and extending it adds zeros. -/
theorem byteAt_resize (m : LinearMemory) (size i : Nat) :
    (m.resize size).byteAt i = if i < size then m.byteAt i else 0 := by
  unfold resize
  split
  · rename_i h
    by_cases hi : i < size
    · rw [if_pos hi]
      rfl
    · rw [if_neg hi]
      exact m.get_stored i (by omega)
  · simp only [byteAt, ByteTree.get_keep, decide_eq_true_eq]

@[simp] theorem length_bytes (m : LinearMemory) (start stop : Nat) :
    (m.bytes start stop).length = stop - start := by simp [bytes]

@[simp] theorem length_toList (m : LinearMemory) : m.toList.length = m.size := by simp [toList]

/-- A part of a memory is that part of its content. -/
theorem bytes_eq_drop_take (m : LinearMemory) {start stop : Nat} (h : stop ≤ m.size) :
    m.bytes start stop = (m.toList.drop start).take (stop - start) := by
  apply List.ext_getElem
  · simp
    omega
  · intro i h₁ h₂
    simp [bytes, toList, List.getElem_range']

end LinearMemory
end WasmHost
