/-!
Trees of bytes: a byte for every number, almost all of them zero.

The root holds the byte of zero. Of the other numbers the odd ones are below its left branch and the
even ones below its right branch, halved, so that a path is as long as the number has binary digits.
Main statements: `get_set` and `get_keep` give the bytes of the trees that the operations make.
-/
namespace WasmHost

/-- A tree of bytes. -/
inductive ByteTree where
  | zeros
  | node (byte : UInt8) (odd even : ByteTree)
  deriving DecidableEq

namespace ByteTree

/-- The byte of a number. -/
def get : ByteTree → Nat → UInt8
  | zeros, _ => 0
  | node b _ _, 0 => b
  | node _ odd even, n + 1 => if n % 2 = 0 then odd.get (n / 2) else even.get (n / 2)

/-- The byte at the root. -/
def byte : ByteTree → UInt8
  | zeros => 0
  | node b _ _ => b

/-- The branch of the odd numbers. -/
def odd : ByteTree → ByteTree
  | zeros => zeros
  | node _ o _ => o

/-- The branch of the even numbers. -/
def even : ByteTree → ByteTree
  | zeros => zeros
  | node _ _ e => e

/-- Replaces the byte at the end of a path that is shorter than `depth`. -/
def setWithin : Nat → ByteTree → Nat → UInt8 → ByteTree
  | 0, t, _, _ => t
  | _ + 1, t, 0, b => node b t.odd t.even
  | depth + 1, t, n + 1, b =>
    if n % 2 = 0 then node t.byte (t.odd.setWithin depth (n / 2) b) t.even
    else node t.byte t.odd (t.even.setWithin depth (n / 2) b)

/-- The tree with the byte of a number replaced. -/
def set (t : ByteTree) (n : Nat) (b : UInt8) : ByteTree := t.setWithin (n + 1) n b

/-- The tree with zero for every number outside a set. -/
def keep (kept : Nat → Bool) : ByteTree → ByteTree
  | zeros => zeros
  | node b odd even =>
    node (if kept 0 then b else 0) (odd.keep fun n => kept (2 * n + 1))
      (even.keep fun n => kept (2 * n + 2))

@[simp] theorem get_zeros (n : Nat) : zeros.get n = 0 := by simp [get]

theorem get_zero (t : ByteTree) : t.get 0 = t.byte := by cases t <;> rfl

theorem get_succ (t : ByteTree) (n : Nat) :
    t.get (n + 1) = if n % 2 = 0 then t.odd.get (n / 2) else t.even.get (n / 2) := by
  cases t with
  | zeros => simp [odd, even]
  | node b o e => simp [get, odd, even]

theorem get_setWithin (b : UInt8) (depth : Nat) (t : ByteTree) (n m : Nat) (h : n < depth) :
    (t.setWithin depth n b).get m = if m = n then b else t.get m := by
  induction depth generalizing t n m with
  | zero => omega
  | succ depth ih =>
    cases n with
    | zero =>
      cases m with
      | zero => simp [setWithin, get]
      | succ m => simp [setWithin, get_succ, odd, even]
    | succ n =>
      have hn : n / 2 < depth := by omega
      by_cases hp : n % 2 = 0
      · simp only [setWithin, hp, ↓reduceIte]
        cases m with
        | zero => simp [get, get_zero]
        | succ m =>
          simp only [get, get_succ, ih t.odd (n / 2) (m / 2) hn]
          by_cases hm : m % 2 = 0
          · have he : m / 2 = n / 2 ↔ m + 1 = n + 1 := by omega
            simp [hm, he]
          · have he : ¬m + 1 = n + 1 := by omega
            simp only [hm, ↓reduceIte, if_neg he]
      · simp only [setWithin, hp, ↓reduceIte]
        cases m with
        | zero => simp [get, get_zero]
        | succ m =>
          simp only [get, get_succ, ih t.even (n / 2) (m / 2) hn]
          by_cases hm : m % 2 = 0
          · have he : ¬m + 1 = n + 1 := by omega
            simp only [hm, ↓reduceIte, if_neg he]
          · have he : m / 2 = n / 2 ↔ m + 1 = n + 1 := by omega
            simp [hm, he]

/-- Replacing a byte changes the byte of that number alone. -/
theorem get_set (t : ByteTree) (n : Nat) (b : UInt8) (m : Nat) :
    (t.set n b).get m = if m = n then b else t.get m :=
  get_setWithin b (n + 1) t n m (Nat.lt_succ_self n)

/-- What is kept is unchanged and the rest is zero. -/
theorem get_keep (kept : Nat → Bool) (t : ByteTree) (n : Nat) :
    (t.keep kept).get n = if kept n then t.get n else 0 := by
  induction t generalizing kept n with
  | zeros => simp [keep]
  | node b o e ho he =>
    cases n with
    | zero => simp [keep, get]
    | succ n =>
      simp only [keep, get, ho, he]
      by_cases hn : n % 2 = 0
      · have h : 2 * (n / 2) + 1 = n + 1 := by omega
        simp [hn, h]
      · have h : 2 * (n / 2) + 2 = n + 1 := by omega
        simp [hn, h]

end ByteTree
end WasmHost
