import WasmHost.Value
/-!
Notices: what the parts of the host report while they work.
-/
namespace WasmHost

/-- The part of the host that a notice comes from. -/
inductive Component where
  | engine
  | dispatch
  | cache
  deriving DecidableEq, Repr

/-- How much a notice matters. -/
inductive NoticeLevel where
  | debug
  | info
  deriving DecidableEq, Repr

/-- Something worth reporting. -/
inductive Notice where
  | engineError (diagnostic : String)
  | compiling
  | instantiated (exports : Nat)
  | invoking (function : String) (values : List Value)
  | invocationFailed (function : String) (diagnostic : Option String)
  | cacheHit (identifier : String)
  | cacheCleared (count : Nat)

namespace Notice

def component : Notice → Component
  | engineError _ | compiling | instantiated _ | invoking _ _ => .engine
  | invocationFailed _ _ => .dispatch
  | cacheHit _ | cacheCleared _ => .cache

def level : Notice → NoticeLevel
  | cacheCleared _ => .info
  | _ => .debug

/-- The text of a notice; a number sign stands in for the size of what is compiled. -/
def message : Notice → String
  | engineError diagnostic => "Engine error: " ++ diagnostic
  | compiling => "Compiling # bytes"
  | instantiated exports => "Instantiated module with " ++ toString exports ++ " exports"
  | invoking function values =>
    "Invoking " ++ function ++ (Value.tupleText? values).getD ""
  | invocationFailed function diagnostic =>
    "Invocation of " ++ function ++ " failed: " ++ diagnostic.getD "None"
  | cacheHit identifier => "Module cache hit for " ++ Text.quoted identifier
  | cacheCleared count => "Cleared " ++ toString count ++ " cached module(s)"

end Notice
end WasmHost
