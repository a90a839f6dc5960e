import WasmHost.Fault
/-!
What a fault carries besides its message.

A caller that catches a fault can ask it for the path, the function, the position or the counts that
its message speaks of, each under a name of its own.
-/
namespace WasmHost

/-- A single detail of a fault. -/
inductive FaultDetail where
  | text (value : String)
  | optionalText (value : Option String)
  | number (value : Int)
  deriving DecidableEq, Repr

namespace Fault

/-- The details of a fault by name. The count of a wrong number of arguments is how many are missing
or in excess. -/
def details : Fault → List (String × FaultDetail)
  | general _ | plain _ => []
  | missingFile path | unreadableFile path _ => [("path", .text path)]
  | engine _ _ diagnostic => [("diagnostic", .optionalText diagnostic)]
  | invocation function _ | unknownFunction function => [("function", .text function)]
  | unresolvedSignature function diagnostic | trapped function diagnostic =>
    [("function", .text function), ("diagnostic", .optionalText diagnostic)]
  | unsupportedKind function position kind | argumentType function position kind _ =>
    [("function", .text function), ("position", .number position), ("kind", .text kind)]
  | arity function _ count expected given => counts function count expected given
  | missingArguments function expected given => counts function (expected - given) expected given
  | extraArguments function expected given => counts function (given - expected) expected given
  | outOfBounds offset length size =>
    [("offset", .number offset), ("length", .number length), ("size", .number size)]
where
  counts (function : String) (count expected given : Int) : List (String × FaultDetail) :=
    [("function", .text function), ("count", .number count), ("expected", .number expected),
      ("given", .number given)]

end Fault
end WasmHost
