import WasmHost.Settings
import WasmHost.Settings.Dotenv
/-!
Where settings come from: keywords, the environment, and a file of bindings, in this order.

Names in the environment and in the file carry a fixed beginning and are compared without regard to
case; keywords are exact. A field takes the first value that a source gives, and names of no field
are ignored. Keywords that begin with a low line are none of settings: such names are kept for
options of the reading itself, as another file or another beginning of the names.
-/
namespace WasmHost

/-- Variables in the order in which they were first set. -/
structure Environment where
  bindings : List (String × String)
  deriving DecidableEq, Repr

namespace Environment

def empty : Environment := ⟨[]⟩

def get? (e : Environment) (name : String) : Option String := e.bindings.lookup name

/-- Sets a variable; one that is there keeps its place. -/
def set (e : Environment) (name value : String) : Environment :=
  if e.bindings.any (·.1 = name) then
    ⟨e.bindings.map fun b => if b.1 = name then (name, value) else b⟩
  else ⟨e.bindings ++ [(name, value)]⟩

/-- Sets a variable if it has a name without an equals sign, and no zero in its name or value. -/
def set? (e : Environment) (name value : String) : Except VariableFault Environment :=
  if name.contains '\x00' || value.contains '\x00' then .error .zeroByte
  else if name.contains '=' then .error .equalsInName
  else if name.isEmpty then .error .noName
  else .ok (e.set name value)

def unset (e : Environment) (name : String) : Environment :=
  ⟨e.bindings.filter (·.1 ≠ name)⟩

/-- Sets and unsets variables in order, up to the first that cannot be set. -/
def update (e : Environment) : List (String × Option String) → Environment × Option VariableFault
  | [] => (e, none)
  | (name, none) :: rest => (e.unset name).update rest
  | (name, some value) :: rest =>
    match e.set? name value with
    | .ok e => e.update rest
    | .error fault => (e, some fault)

end Environment

/-- What surrounds the making of settings: the environment, and the statements of the file of
bindings if there is one. -/
structure SettingsContext where
  environment : Environment
  file : Option (List Dotenv.Binding)
  deriving DecidableEq, Repr

/-- Keywords of settings. -/
structure Keywords where
  entries : List (String × HostValue)
  /-- None of them is an option of how the sources are read. -/
  plain : ∀ entry ∈ entries, entry.1.toList.head? ≠ some '_'

namespace Keywords

/-- No keywords. -/
def empty : Keywords := ⟨[], by simp⟩

/-- Keywords of a list that holds no others. -/
def ofList? (entries : List (String × HostValue)) : Option Keywords :=
  if plain : ∀ entry ∈ entries, entry.1.toList.head? ≠ some '_' then some ⟨entries, plain⟩ else none

def get? (k : Keywords) (name : String) : Option HostValue := k.entries.lookup name

end Keywords

namespace Settings

/-- The beginning of all variable names of settings, in lower case. -/
def variableStart : String := "wasm_embed_"

def lower (s : String) : String := String.ofList (s.toList.map Char.toLower)

/-- The name of the variable of a field, in lower case. -/
def variableName (field : SettingField) : String := variableStart ++ lower field.name

/-- The value of a name that is compared without regard to case; the last of several counts. -/
def lookupFolded {α : Type} (bindings : List (String × α)) (name : String) : Option α :=
  (bindings.reverse.find? (lower ·.1 = name)).map (·.2)

/-- The raw value of a field in the environment. -/
def ofEnvironment (context : SettingsContext) (field : SettingField) : Option HostValue :=
  (lookupFolded context.environment.bindings (variableName field)).map .text

/-- The raw value of a field in the file of bindings. -/
def ofFile (context : SettingsContext) (field : SettingField) : Option HostValue :=
  let bindings := match context.file with
    | some statements => Dotenv.read context.environment.get? statements
    | none => []
  ((lookupFolded bindings (variableName field)).join).map .text

/-- The raw value of a field: the first that a source gives. -/
def raw? (context : SettingsContext) (keywords : Keywords) (field : SettingField) :
    Option HostValue :=
  (keywords.get? field.name <|> ofEnvironment context field) <|> ofFile context field

/-- The settings of keywords in their surroundings. -/
def make (context : SettingsContext) (keywords : Keywords) :
    Except (List (SettingField × SettingFault)) Settings :=
  ofRaw (raw? context keywords)

end Settings
end WasmHost
