import WasmHost.Fault
import WasmHost.Memory.Layout
/-!
The names of layouts.

Which names there are, and why others are none, is left to whoever gives the layouts. What is fixed
are the names of the integer types: a long one, and short ones, before which a byte order may stand.
It is ignored there, since elements are read with the least significant byte first.
-/
namespace WasmHost

namespace IntegerType

/-- The integer types with names. -/
def all : List IntegerType := [1, 2, 4, 8].flatMap fun bytes => [⟨true, bytes⟩, ⟨false, bytes⟩]

theorem bytes_pos_of_mem_all : ∀ t ∈ all, 0 < t.bytes := by decide

/-- The names of one letter. -/
def letters : IntegerType → List String
  | ⟨true, 1⟩ => ["b"]
  | ⟨false, 1⟩ => ["B"]
  | ⟨true, 2⟩ => ["h"]
  | ⟨false, 2⟩ => ["H"]
  | ⟨true, 4⟩ => ["i"]
  | ⟨false, 4⟩ => ["I"]
  | ⟨true, 8⟩ => ["l", "q", "p", "n"]
  | ⟨false, 8⟩ => ["L", "Q", "P", "N"]
  | _ => []

/-- The short names: a letter and the width, or one letter. -/
def shortNames (t : IntegerType) : List String :=
  ((if t.signed then "i" else "u") ++ toString t.bytes) :: t.letters

/-- The marks of a byte order. -/
def byteOrders : List String := ["<", ">", "=", "|"]

/-- The names of a type: the long one, and the short ones with a byte order or without. -/
def names (t : IntegerType) : List String :=
  (ElementType.integer t).name :: t.shortNames ++
    byteOrders.flatMap fun order => t.shortNames.map (order ++ ·)

end IntegerType

/-- What names of layouts denote. -/
class Layout.Names where
  named : String → Except LayoutFault Layout
  integer {t : IntegerType} (ht : t ∈ IntegerType.all) {name : String} (hname : name ∈ t.names) :
    named name = .ok (.single (.integer t))
  /-- Before a long name no byte order can stand. -/
  ordered {t : IntegerType} (ht : t ∈ IntegerType.all) {order : String}
    (horder : order ∈ IntegerType.byteOrders) :
    named (order ++ (ElementType.integer t).name) =
      .error (.unknown (order ++ (ElementType.integer t).name))

end WasmHost
