import WasmHost.Settings.WholeNumber
import WasmHost.Value
/-!
Engine settings and the rules that turn raw values into them.

A raw value is a host value; values from the environment are texts. Each field has its own rule and
is looked at alone.
-/
namespace WasmHost

/-- How hard the code generator works. -/
inductive OptLevel where
  | none
  | speed
  | speedAndSize
  deriving DecidableEq, Repr

namespace OptLevel

def name : OptLevel → String
  | none => "none"
  | speed => "speed"
  | speedAndSize => "speed_and_size"

/-- The level of a name, which has to be exact. -/
def named? (name : String) : Option OptLevel :=
  if name = "none" then some none
  else if name = "speed" then some speed
  else if name = "speed_and_size" then some speedAndSize
  else Option.none

def all : List OptLevel := [none, speed, speedAndSize]

/-- The level that a host value names. -/
def ofHost (value : HostValue) : Except PlainFault OptLevel := do
  let isNamed (level : OptLevel) : Except PlainFault Bool :=
    ((HostValue.text level.name).equal value).mapError .comparison
  match ← all.findM? isNamed, value.text? with
  | some level, _ => .ok level
  | Option.none, some form => .error (.unknownLevel form)
  | Option.none, Option.none => .error .integerTooLong

end OptLevel

/-- The settings that an engine is built from. -/
structure Settings where
  optLevel : OptLevel
  debugInfo : Bool
  consumeFuel : Bool
  fuel : Nat
  deriving DecidableEq, Repr

namespace Settings

/-- The settings without any source. -/
def default : Settings := ⟨.speed, false, false, 0⟩

/-- The words for true, in lower case. -/
def trueWords : List String := ["1", "true", "t", "y", "yes", "on"]

/-- The words for false, in lower case. -/
def falseWords : List String := ["0", "false", "f", "n", "no", "off"]

/-- A truth value from a word, in any case. -/
def readTruth (s : String) : Except SettingFault Bool :=
  let word := String.ofList (s.toList.map Char.toLower)
  if trueWords.contains word then .ok true
  else if falseWords.contains word then .ok false
  else .error .unreadableTruth

/-- A truth value from the integers zero and one. -/
def truthOfInt (n : Int) : Except SettingFault Bool :=
  if n = 0 then .ok false
  else if n = 1 then .ok true
  else .error .unreadableTruth

/-- The integer of a finite float without a fraction, strictly inside the range of a signed word. -/
def floatInteger (x : Double) : Except SettingFault Int :=
  if !x.isFinite then .error .notFinite
  else if !x.isWhole then .error .fractionalInteger
  else
    let n := x.truncate
    if n ≠ -(halfWordCount 64) && isSignedWord 64 n then .ok n else .error .integerTooLarge

/-- The text that bytes spell, if they are well formed. -/
def spelled? (bytes : List UInt8) : Option String := String.fromUTF8? ⟨bytes.toArray⟩

/-- The integer that a raw value is without any conversion. -/
def exactInteger? : HostValue → Option Int
  | .array ⟨_, false, [.integer _ n]⟩ => some n
  | v => v.toInteger?

/-- A truth value from a raw value. -/
def truth (raw : HostValue) : Except SettingFault Bool :=
  match raw with
  | .truth b => .ok b
  | .text s => readTruth s
  | .bytes b => match spelled? b with
    | some s => readTruth s
    | none => .error .unreadableTruth
  | v => match (exactInteger? v).filter (isSignedWord 64) with
    | some n => truthOfInt n
    | none => match v.asFloat.mapError (fun _ => SettingFault.notATruth) >>= floatInteger with
      | .ok n => truthOfInt n
      | .error _ => .error .notATruth

/-- An integer from a raw value; what is neither an integer nor a text is taken as a float. -/
def integer (raw : HostValue) : Except SettingFault Int :=
  match raw with
  | .truth b => .ok (if b then 1 else 0)
  | .integer n => .ok n
  | .text s => readInteger s
  | .bytes b => match spelled? b with
    | some s => readInteger s
    | none => .error .unreadableInteger
  | v => match v.asFloat with
    | .ok x => floatInteger x
    | .error _ => .error .notAnInteger

/-- A fuel budget from a raw value. -/
def fuelOf (raw : HostValue) : Except SettingFault Nat := do
  let n ← integer raw
  if n < 0 then .error .negative else return n.toNat

/-- An optimization level from a raw value. -/
def levelOf (raw : HostValue) : Except SettingFault OptLevel :=
  let name? := match raw with
    | .text s => some s
    | .bytes b => spelled? b
    | _ => none
  match name?.bind OptLevel.named? with
  | some level => .ok level
  | none => .error .unknownWord

/-- A field from the raw value that was found for it, or its default. -/
def field {α : Type} (rule : HostValue → Except SettingFault α) (default : α) :
    Option HostValue → Except SettingFault α
  | some raw => rule raw
  | none => .ok default

/-- The fault of a field, if it has one. -/
def faultOf {α : Type} (f : SettingField) :
    Except SettingFault α → List (SettingField × SettingFault)
  | .ok _ => []
  | .error fault => [(f, fault)]

/-- Settings from the raw values found for the fields. Every field is looked at, and all faults are
reported together. -/
def ofRaw (raw? : SettingField → Option HostValue) :
    Except (List (SettingField × SettingFault)) Settings :=
  let level := field levelOf default.optLevel (raw? .optLevel)
  let debug := field truth default.debugInfo (raw? .debugInfo)
  let consume := field truth default.consumeFuel (raw? .consumeFuel)
  let fuel := field fuelOf default.fuel (raw? .fuel)
  match level, debug, consume, fuel with
  | .ok level, .ok debug, .ok consume, .ok fuel => .ok ⟨level, debug, consume, fuel⟩
  | level, debug, consume, fuel =>
    .error (faultOf .optLevel level ++ faultOf .debugInfo debug ++ faultOf .consumeFuel consume ++
      faultOf .fuel fuel)

end Settings
end WasmHost
