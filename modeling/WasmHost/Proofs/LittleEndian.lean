import Mathlib.Algebra.BigOperators.Ring.Finset
import WasmHost.Scalar
/-!
Numbers as bytes, the least significant byte first.

The number of some bytes is below the number of words of their width, and as many bytes are those of
one such number each.
-/
namespace WasmHost

theorem wordCount_byte (width : Nat) :
    wordCount (8 * (width + 1)) = 256 * wordCount (8 * width) := by
  unfold wordCount
  rw [Nat.mul_succ, Nat.pow_add, Nat.mul_comm]

theorem littleEndian_cons (b : UInt8) (bytes : List UInt8) :
    littleEndian (b :: bytes) = b.toNat + 256 * littleEndian bytes := rfl

theorem littleEndian_lt (bytes : List UInt8) :
    littleEndian bytes < wordCount (8 * bytes.length) := by
  induction bytes with
  | nil => exact wordCount_pos _
  | cons b bytes ih =>
    have hb : b.toNat < 256 := b.toNat_lt
    rw [littleEndian_cons, List.length_cons, wordCount_byte]
    omega

@[simp] theorem length_littleEndianBytes (width n : Nat) :
    (littleEndianBytes width n).length = width := by
  induction width generalizing n with
  | zero => rfl
  | succ width ih => rw [littleEndianBytes, List.length_cons, ih]

theorem littleEndian_littleEndianBytes (width n : Nat) :
    littleEndian (littleEndianBytes width n) = n % wordCount (8 * width) := by
  induction width generalizing n with
  | zero => exact (Nat.mod_one n).symm
  | succ width ih =>
    rw [littleEndianBytes, littleEndian_cons, ih, wordCount_byte, Nat.mod_mul, UInt8.toNat_ofNat']

theorem littleEndianBytes_littleEndian (bytes : List UInt8) :
    littleEndianBytes bytes.length (littleEndian bytes) = bytes := by
  induction bytes with
  | nil => rfl
  | cons b bytes ih =>
    have hb : b.toNat < 256 := b.toNat_lt
    have hfirst : UInt8.ofNat (b.toNat + 256 * littleEndian bytes) = b := by
      apply UInt8.toNat_inj.mp
      rw [UInt8.toNat_ofNat']
      omega
    have hrest : (b.toNat + 256 * littleEndian bytes) / 256 = littleEndian bytes := by omega
    rw [littleEndian_cons, List.length_cons, littleEndianBytes, hfirst, hrest, ih]

-- Each byte counts 256 times what the byte before it counts.
theorem littleEndian_eq_sum (f : Nat → UInt8) (start width : Nat) :
    littleEndian ((List.range' start width).map f) =
      ∑ i ∈ Finset.range width, (f (start + i)).toNat * 256 ^ i := by
  induction width generalizing start with
  | zero => rfl
  | succ width ih =>
    rw [List.range'_succ, List.map_cons, littleEndian_cons, ih, Finset.sum_range_succ',
      Finset.mul_sum, Nat.add_comm]
    simp only [Nat.pow_zero, Nat.mul_one, Nat.add_zero]
    congr 1
    apply Finset.sum_congr rfl
    intro i _
    have hnext : start + 1 + i = start + (i + 1) := by omega
    rw [hnext, Nat.pow_succ, Nat.mul_comm 256, Nat.mul_assoc]

end WasmHost
