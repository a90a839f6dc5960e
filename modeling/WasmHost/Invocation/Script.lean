import WasmHost.Invocation
/-!
An engine that answers from a script and records what it is asked to invoke.
-/
namespace WasmHost

/-- Fixed answers of an engine. -/
structure Script where
  signature : Option Signature
  lastError : Option String
  rejectedKinds : List ValueKind
  outcome : Outcome

/-- A script together with the invocations made under it. -/
structure ScriptRun where
  script : Script
  invoked : List (String × List Value)

namespace ScriptRun

/-- The engine that answers from the script of its state. -/
def invoker : Invoker ScriptRun Unit where
  signature? _ _ := return (← get).script.signature
  lastError := return (← get).script.lastError
  makeValue kind argument := do
    if (← get).script.rejectedKinds.contains kind then return none
    else match Value.ofHost kind argument with
      | .ok value => return value
      | .error fault => Action.fail (.plain (.coercion fault))
  invoke _ name values := do
    modify fun run => { run with invoked := run.invoked ++ [(name, values)] }
    return (← get).script.outcome
  noteFailure _ _ := return ()

end ScriptRun
end WasmHost
