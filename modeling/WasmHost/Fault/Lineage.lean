import WasmHost.Fault
/-!
The family of the faults: which branches a fault belongs to, the most specific first.

A fault of the embedding layer first lists its ancestors in the layer, then the general classes that
it also stands for, so that it can be caught as either.
-/
namespace WasmHost

/-- A class of faults that can be caught as one. -/
inductive FaultClass where
  | wasm
  | missingFile
  | unreadableFile
  | engine
  | validate
  | compile
  | instantiate
  | serialize
  | deserialize
  | invocation
  | unknownFunction
  | unresolvedSignature
  | unsupportedKind
  | arity
  | missingArguments
  | extraArguments
  | argumentType
  | trapped
  | outOfBounds
  | any
  | osFault
  | fileNotFound
  | permission
  | attributeFault
  | typeFault
  | syntaxFault
  | valueFault
  | textFault
  | lookupFault
  | indexFault
  | keyFault
  | arithmeticFault
  | overflowFault
  | settingsFault
  | readOnlyField
  deriving DecidableEq, Repr

namespace FaultClass

/-- The class above a class of the layer, inside the layer. -/
def parent? : FaultClass → Option FaultClass
  | missingFile | unreadableFile | engine | invocation | outOfBounds => some wasm
  | validate | compile | instantiate | serialize | deserialize => some engine
  | unknownFunction | unresolvedSignature | unsupportedKind | arity | argumentType | trapped =>
    some invocation
  | missingArguments | extraArguments => some arity
  | _ => none

/-- The general classes that a class stands for, the class itself included when it is one. -/
def general : FaultClass → List FaultClass
  | missingFile => [fileNotFound, osFault, any]
  | unreadableFile => [permission, osFault, any]
  | unknownFunction => [attributeFault, any]
  | arity | missingArguments | extraArguments | argumentType => [typeFault, any]
  | outOfBounds => [indexFault, lookupFault, any]
  | osFault => [osFault, any]
  | fileNotFound => [fileNotFound, osFault, any]
  | permission => [permission, osFault, any]
  | attributeFault => [attributeFault, any]
  | typeFault => [typeFault, any]
  | syntaxFault => [syntaxFault, any]
  | valueFault => [valueFault, any]
  | textFault => [textFault, valueFault, any]
  | lookupFault => [lookupFault, any]
  | indexFault => [indexFault, lookupFault, any]
  | keyFault => [keyFault, lookupFault, any]
  | arithmeticFault => [arithmeticFault, any]
  | overflowFault => [overflowFault, arithmeticFault, any]
  | settingsFault => [settingsFault, valueFault, any]
  | readOnlyField => [readOnlyField, attributeFault, any]
  | _ => [any]

/-- The classes of the layer that a class belongs to, itself first; the layer is three deep below
its root. -/
def inLayer (c : FaultClass) : List FaultClass :=
  let rec climb : Nat → FaultClass → List FaultClass
    | 0, c => if c = wasm then [c] else []
    | n + 1, c => match c.parent? with
      | some p => c :: climb n p
      | none => if c = wasm then [c] else []
  climb 3 c

/-- All classes of a class, the most specific first. -/
def lineage (c : FaultClass) : List FaultClass := c.inLayer ++ c.general

end FaultClass

namespace CoercionFault

def faultClass : CoercionFault → FaultClass
  | integerFromType _ | floatFromType _ | severalElements => .typeFault
  | integerFromInfinity | floatFromLargeInteger => .overflowFault
  | notAnInteger _ | notAFloat _ | integerTextTooLong _ | integerFromNaN => .valueFault

end CoercionFault

def ComparisonFault.faultClass : ComparisonFault → FaultClass
  | integerTooLarge | integerTooWide => .overflowFault
  | noAnswer | severalAnswers | unlikeAxes _ _ | ragged _ => .valueFault

def LayoutFault.faultClass : LayoutFault → FaultClass
  | unknown _ => .typeFault
  | unreadablePart _ _ | unlikeOrders _ _ => .valueFault
  | unreadableCounts _ => .syntaxFault

def CodecFault.faultClass : CodecFault → FaultClass
  | notText _ => .lookupFault
  | refused _ => .textFault

namespace PlainFault

def faultClass : PlainFault → FaultClass
  | emptySignature | zeroStep | memoryStep | integerTooLong | opaqueElement | emptyElement
  | zeroInName | noCharacter _ | unknownLevel _ => .valueFault
  | indexOutOfRange | indexTooLarge => .indexFault
  | countTooLarge => .overflowFault
  | coercion fault => fault.faultClass
  | comparison fault => fault.faultClass
  | layout fault => fault.faultClass
  | codec fault => fault.faultClass
  | environment .noName => .osFault
  | environment _ => .valueFault
  | unknownEncoding _ => .lookupFault
  | expectedInteger | expectedFloat | wrongValue => .typeFault
  | readOnlyField _ => .readOnlyField
  | settings _ => .settingsFault
  | noAttribute _ => .attributeFault
  | noItem _ => .keyFault
  | fileNameTooLong _ | input _ => .osFault

end PlainFault

namespace Fault

/-- The most specific class of a fault. -/
def faultClass : Fault → FaultClass
  | general _ => .wasm
  | missingFile _ => .missingFile
  | unreadableFile _ _ => .unreadableFile
  | engine .unspecified _ _ => .engine
  | engine .validate _ _ => .validate
  | engine .compile _ _ => .compile
  | engine .instantiate _ _ => .instantiate
  | engine .serialize _ _ => .serialize
  | engine .deserialize _ _ => .deserialize
  | invocation _ _ => .invocation
  | unknownFunction _ => .unknownFunction
  | unresolvedSignature _ _ => .unresolvedSignature
  | unsupportedKind _ _ _ => .unsupportedKind
  | arity _ _ _ _ _ => .arity
  | missingArguments _ _ _ => .missingArguments
  | extraArguments _ _ _ => .extraArguments
  | argumentType _ _ _ _ => .argumentType
  | trapped _ _ => .trapped
  | outOfBounds _ _ _ => .outOfBounds
  | plain fault => fault.faultClass

/-- All classes that a fault can be caught as, the most specific first. -/
def lineage (fault : Fault) : List FaultClass := fault.faultClass.lineage

/-- Whether a fault belongs to the embedding layer. -/
def isOfLayer (fault : Fault) : Bool := fault.lineage.contains .wasm

end Fault
end WasmHost
