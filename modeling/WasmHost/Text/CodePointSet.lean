/-!
Sets of code points, given by the ascending list of the points where membership changes.
-/
namespace WasmHost.Text

/-- A set of code points. A point belongs to it when an odd number of the bounds lie at or below
the point, so the first bound opens a range, the second closes it, and so on. -/
structure CodePointSet where
  bounds : List Nat

namespace CodePointSet

def contains (s : CodePointSet) (c : Nat) : Bool := s.bounds.countP (· ≤ c) % 2 = 1

end CodePointSet
end WasmHost.Text
