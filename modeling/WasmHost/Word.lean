/-!
Machine words: how many there are of a width in bits, and which integers they stand for.

Here and in the modules above `a ^ n` is the power of the core library, also where another one is in
reach.
-/
namespace WasmHost

attribute [scoped instance (2000)] instPowNat

/-- The number of words of a width. -/
def wordCount (width : Nat) : Nat := 2 ^ width

/-- The number of words of a width whose highest bit is clear. -/
def halfWordCount (width : Nat) : Nat := 2 ^ (width - 1)

/-- Whether an integer is that of a signed word. -/
def isSignedWord (width : Nat) (n : Int) : Bool :=
  -(halfWordCount width : Int) ≤ n && n < halfWordCount width

theorem wordCount_pos (width : Nat) : 0 < wordCount width := Nat.two_pow_pos width

/-- Half of the words of a width have a clear highest bit. -/
theorem wordCount_eq {width : Nat} (h : 0 < width) :
    wordCount width = 2 * halfWordCount width := by
  obtain ⟨w, rfl⟩ : ∃ w, width = w + 1 := ⟨width - 1, by omega⟩
  simp only [wordCount, halfWordCount, Nat.add_sub_cancel, Nat.pow_succ]
  omega

end WasmHost
