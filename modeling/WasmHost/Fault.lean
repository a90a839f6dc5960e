import WasmHost.Decimal.Reading
import WasmHost.Text.Quoted
import WasmHost.Text.Indent
import WasmHost.ValueKind
/-!
Faults: everything that can go wrong, as causes, with the text of each in one place.

The faults of the embedding layer are a family with common ancestors, so that a caller can catch a
whole branch. Below them stand the plain faults of values, names and memory elements.
-/
namespace WasmHost

/-- Why a host value is no payload of a kind. -/
inductive CoercionFault where
  | notAnInteger (form : String)
  | notAFloat (form : String)
  | integerTextTooLong (digits : Nat)
  | integerFromType (type : String)
  | floatFromType (type : String)
  | integerFromInfinity
  | integerFromNaN
  | floatFromLargeInteger
  | severalElements
  deriving DecidableEq, Repr

/-- Why a comparison has no single answer. -/
inductive ComparisonFault where
  | noAnswer
  | severalAnswers
  | unlikeAxes (left right : List Nat)
  | ragged (axes : List Nat)
  | integerTooLarge
  | integerTooWide
  deriving DecidableEq, Repr

/-- Why a name denotes no layout of array elements. -/
inductive LayoutFault where
  | unknown (name : String)
  | unreadablePart (number : Nat) (name : String)
  | unlikeOrders (first second : Char)
  | unreadableCounts (problem : String)
  deriving DecidableEq, Repr

/-- Why a codec that there is gives no text: it is none for texts, or it cannot replace what it
cannot decode. -/
inductive CodecFault where
  | notText (name : String)
  | refused (problem : String)
  deriving DecidableEq, Repr

/-- Why a variable of the environment cannot be set. -/
inductive VariableFault where
  | zeroByte
  | equalsInName
  | noName
  deriving DecidableEq, Repr

/-- Why the raw value of a setting is refused. -/
inductive SettingFault where
  | unknownWord
  | notATruth
  | unreadableTruth
  | notAnInteger
  | unreadableInteger
  | fractionalInteger
  | notFinite
  | integerTooLarge
  | negative
  deriving DecidableEq, Repr

/-- The fields of the engine settings. -/
inductive SettingField where
  | optLevel
  | debugInfo
  | consumeFuel
  | fuel
  deriving DecidableEq, Repr

/-- A fault that does not belong to the family of the embedding layer. -/
inductive PlainFault where
  | emptySignature
  | zeroStep
  | indexOutOfRange
  | indexTooLarge
  | memoryStep
  | integerTooLong
  | coercion (fault : CoercionFault)
  | comparison (fault : ComparisonFault)
  | unknownEncoding (name : String)
  | codec (fault : CodecFault)
  | zeroInName
  | layout (fault : LayoutFault)
  | opaqueElement
  | emptyElement
  | countTooLarge
  | noCharacter (code : Nat)
  | environment (fault : VariableFault)
  | unknownLevel (form : String)
  | readOnlyField (name : String)
  | settings (faults : List (SettingField × SettingFault))
  | noAttribute (name : String)
  | noItem (name : String)
  | fileNameTooLong (path : String)
  | input (reason : String)
  | expectedInteger
  | expectedFloat
  | wrongValue
  deriving DecidableEq, Repr

/-- The stage of the engine that an engine fault comes from. -/
inductive EngineStage where
  | unspecified
  | validate
  | compile
  | instantiate
  | serialize
  | deserialize
  deriving DecidableEq, Repr

/-- What can go wrong. -/
inductive Fault where
  | general (texts : List String)
  | missingFile (path : String)
  | unreadableFile (path : String) (reason : Option String)
  | engine (stage : EngineStage) (headline : String) (diagnostic : Option String)
  | invocation (function message : String)
  | unknownFunction (function : String)
  | unresolvedSignature (function : String) (diagnostic : Option String)
  | unsupportedKind (function : String) (position : Int) (kind : String)
  | arity (function headline : String) (count expected given : Int)
  | missingArguments (function : String) (expected given : Int)
  | extraArguments (function : String) (expected given : Int)
  | argumentType (function : String) (position : Int) (kind : String) (reason : Option String)
  | trapped (function : String) (diagnostic : Option String)
  | outOfBounds (offset length size : Int)
  | plain (fault : PlainFault)
  deriving DecidableEq, Repr

/-- A fault as it reaches the caller, with the fault that it replaced, if any. -/
structure Failure where
  fault : Fault
  cause : Option Fault
  deriving DecidableEq, Repr

instance : Coe Fault Failure := ⟨fun fault => ⟨fault, none⟩⟩

instance : Coe PlainFault Failure := ⟨fun fault => ⟨.plain fault, none⟩⟩

/-- An action on a state that may fail; the state is kept when it does. -/
abbrev Action (σ : Type) := ExceptT Failure (StateM σ)

/-- Gives up with a fault. -/
def Action.fail {σ α : Type} (fault : Fault) : Action σ α := throw ⟨fault, none⟩

namespace CoercionFault

def message : CoercionFault → String
  | notAnInteger form =>
    "invalid literal for int() with base 10: " ++ String.ofList (form.toList.take 200)
  | notAFloat form => "could not convert string to float: " ++ form
  | integerTextTooLong digits =>
    "Exceeds the limit (4300 digits) for integer string conversion: value has " ++
      toString digits ++ " digits; use sys.set_int_max_str_digits() to increase the limit"
  | integerFromType type =>
    "int() argument must be a string, a bytes-like object or a real number, not '" ++ type ++ "'"
  | floatFromType type =>
    "float() argument must be a string or a real number, not '" ++ type ++ "'"
  | integerFromInfinity => "cannot convert float infinity to integer"
  | integerFromNaN => "cannot convert float NaN to integer"
  | floatFromLargeInteger => "int too large to convert to float"
  | severalElements => "only 0-dimensional arrays can be converted to Python scalars"

end CoercionFault

namespace ComparisonFault

/-- The lengths along the axes of an array, with a separator between them. -/
def axesText (separator : String) (axes : List Nat) : String :=
  "(" ++ separator.intercalate (axes.map toString) ++ if axes.length = 1 then ",)" else ")"

def message : ComparisonFault → String
  | noAnswer =>
    "The truth value of an empty array is ambiguous. " ++
      "Use `array.size > 0` to check that an array is not empty."
  | severalAnswers =>
    "The truth value of an array with more than one element is ambiguous. Use a.any() or a.all()"
  | unlikeAxes left right =>
    "operands could not be broadcast together with shapes " ++ axesText "," left ++ " " ++
      axesText "," right ++ " "
  | ragged axes =>
    "setting an array element with a sequence. The requested array has an inhomogeneous shape " ++
      "after " ++ toString axes.length ++ " dimensions. The detected shape was " ++
      axesText ", " axes ++ " + inhomogeneous part."
  | integerTooLarge => "int too large to convert to float"
  | integerTooWide => "Python int too large to convert to C long"

end ComparisonFault

namespace LayoutFault

def message : LayoutFault → String
  | unknown name => "data type " ++ Text.quoted name ++ " not understood"
  | unreadablePart number name =>
    "format number " ++ toString number ++ " of \"" ++ name ++ "\" is not recognized"
  | unlikeOrders first second =>
    "inconsistent byte-order specification " ++ String.ofList [first] ++ " and " ++
      String.ofList [second]
  | unreadableCounts problem => problem ++ " (<unknown>, line 1)"

end LayoutFault

def CodecFault.message : CodecFault → String
  | notText name =>
    Text.quoted name ++
      " is not a text encoding; use codecs.decode() to handle arbitrary codecs"
  | refused problem => problem

namespace SettingFault

/-- The short name of a setting fault. -/
def code : SettingFault → String
  | unknownWord => "enum"
  | notATruth => "bool_type"
  | unreadableTruth => "bool_parsing"
  | notAnInteger => "int_type"
  | unreadableInteger => "int_parsing"
  | fractionalInteger => "int_from_float"
  | notFinite => "finite_number"
  | integerTooLarge => "int_parsing_size"
  | negative => "greater_than_equal"

def message : SettingFault → String
  | unknownWord => "Input should be 'none', 'speed' or 'speed_and_size'"
  | notATruth => "Input should be a valid boolean"
  | unreadableTruth => "Input should be a valid boolean, unable to interpret input"
  | notAnInteger => "Input should be a valid integer"
  | unreadableInteger =>
    "Input should be a valid integer, unable to parse string as an integer"
  | fractionalInteger =>
    "Input should be a valid integer, got a number with a fractional part"
  | notFinite => "Input should be a finite number"
  | integerTooLarge => "Unable to parse input string as an integer, exceeded maximum size"
  | negative => "Input should be greater than or equal to 0"

end SettingFault

namespace SettingField

/-- The name of a field, as keywords and variables spell it. -/
def name : SettingField → String
  | optLevel => "OPT_LEVEL"
  | debugInfo => "DEBUG_INFO"
  | consumeFuel => "CONSUME_FUEL"
  | fuel => "FUEL"

def all : List SettingField := [.optLevel, .debugInfo, .consumeFuel, .fuel]

end SettingField

namespace PlainFault

def message : PlainFault → String
  | emptySignature => "A signature always has at least a return kind"
  | zeroStep => "slice step cannot be zero"
  | indexOutOfRange => "tuple index out of range"
  | indexTooLarge => "cannot fit 'int' into an index-sized integer"
  | memoryStep => "Memory slices do not support a step"
  | integerTooLong =>
    "Exceeds the limit (4300 digits) for integer string conversion; " ++
      "use sys.set_int_max_str_digits() to increase the limit"
  | coercion fault => fault.message
  | comparison fault => fault.message
  | unknownEncoding name => "unknown encoding: " ++ name
  | codec fault => fault.message
  | zeroInName => "embedded null character"
  | layout fault => fault.message
  | opaqueElement => "cannot create an OBJECT array from memory buffer"
  | emptyElement => "itemsize cannot be zero in type"
  | countTooLarge => "Python int too large to convert to C ssize_t"
  | noCharacter code =>
    "character U+" ++ String.ofList (Text.hexadecimal 1 code) ++
      " is not in range [U+0000; U+10ffff]"
  | environment .zeroByte => "embedded null byte"
  | environment .equalsInName => "illegal environment variable name"
  | environment .noName => "[Errno 22] Invalid argument"
  | unknownLevel form => form ++ " is not a valid OptLevel"
  | readOnlyField name => "cannot assign to field '" ++ name ++ "'"
  | settings _ => "invalid settings"
  | noAttribute name => name
  | noItem name => Text.quoted name
  | fileNameTooLong path => "[Errno 36] File name too long: " ++ Text.quoted path
  | input reason => reason
  | expectedInteger => "expected an integer"
  | expectedFloat => "expected a float"
  | wrongValue => "wrong type of `Val` provided"

end PlainFault

namespace Fault

/-- The message of a count of arguments that does not fit. -/
def arityMessage (function headline : String) (expected given : Int) : String :=
  headline ++ " when calling `" ++ function ++ "`: Expect " ++ toString expected ++
    " arguments, given " ++ toString given ++ "."

/-- The text of a fault. -/
def message : Fault → String
  | general [] => ""
  | general [message] => message
  | general texts => "(" ++ ", ".intercalate (texts.map Text.quoted) ++ ")"
  | missingFile path => "File path to Wasm binary `" ++ path ++ "` does not exist."
  | unreadableFile path reason =>
    let headline := "File `" ++ path ++ "` is not readable."
    match reason with
    | none => headline
    | some "" => headline
    | some reason => headline ++ " " ++ reason
  | engine _ headline diagnostic => Text.withDiagnostic headline diagnostic
  | invocation _ message => message
  | unknownFunction function => "Function `" ++ function ++ "` does not exist."
  | unresolvedSignature function diagnostic =>
    "Cannot invoke the function `" ++ function ++ "` because: " ++
      Text.indentDiagnostic diagnostic Text.standardIndent ++ "."
  | unsupportedKind function position kind =>
    "Unknown argument type `" ++ kind ++ "` at position #" ++ toString position ++
      " of `" ++ function ++ "`."
  | arity function headline _ expected given => arityMessage function headline expected given
  | missingArguments function expected given =>
    let headline := "Missing " ++ toString (expected - given) ++ " argument(s)"
    arityMessage function headline expected given
  | extraArguments function expected given =>
    let headline := "Given " ++ toString (given - expected) ++ " extra argument(s)"
    arityMessage function headline expected given
  | argumentType function position kind reason =>
    let headline :=
      "Argument #" ++ toString position ++ " of `" ++ function ++ "` must be a `" ++ kind ++ "`"
    match reason with
    | none => headline ++ "."
    | some "" => headline ++ "."
    | some reason => headline ++ " (" ++ reason ++ ")."
  | trapped function diagnostic =>
    Text.withDiagnostic ("Got an error when invoking `" ++ function ++ "`.") diagnostic
  | outOfBounds offset length size =>
    "Memory read of " ++ toString length ++ " byte(s) at offset " ++ toString offset ++
      " is out of bounds (memory size is " ++ toString size ++ " bytes)"
  | plain fault => fault.message

/-- The integers that the message of a fault writes out. -/
def integers : Fault → List Int
  | unsupportedKind _ position _ => [position]
  | arity _ _ _ expected given => [expected, given]
  | missingArguments _ expected given => [expected - given, expected, given]
  | extraArguments _ expected given => [given - expected, expected, given]
  | argumentType _ position _ _ => [position]
  | outOfBounds offset length size => [length, offset, size]
  | _ => []

/-- The fault that is raised in place of this one: itself, unless its message would have to write
an integer that is too long. -/
def raised (fault : Fault) : Fault :=
  if fault.integers.all isWritable then fault else .plain .integerTooLong

/-- A fault is raised as itself exactly when all integers of its message can be written. -/
theorem raised_eq_self {fault : Fault} (h : ∀ n ∈ fault.integers, isWritable n = true) :
    fault.raised = fault := by
  simp [raised, List.all_eq_true.2 h]

end Fault
end WasmHost
