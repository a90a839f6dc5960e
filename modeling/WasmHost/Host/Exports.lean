import WasmHost.Host.Instance
import WasmHost.Text.Identifier
/-!
The exports of an instance as a namespace.

As items exports have their own names. As attributes they can also be reached with every minus of
their name written as a low line, an exact name coming before such a safe one, and the first of
several safe ones before the others. Names that begin with a low line belong to the namespace
itself.
-/
namespace WasmHost

/-- A name in which every minus is a low line. -/
def safeName (name : String) : String :=
  String.ofList (name.toList.map fun c => if c = '-' then '_' else c)

/-- Whether a text comes before another in the order of their characters. -/
def precedes (s t : String) : Bool := s.toList.lex t.toList fun c d => c.toNat < d.toNat

/-- What an attribute of the namespace is. -/
inductive Attribute where
  /-- An export. -/
  | exported (f : ExportedFunction)
  /-- The instance behind the namespace. -/
  | owner
  /-- Another member of the namespace itself. -/
  | ownMember (name : String)

namespace Instance

variable [Guest.Runtime]

/-- The attribute under which the namespace keeps its instance. -/
def ownerName : String := "_instance"

/-- The members that the namespace has like every other object, and the one that finds exports. -/
def ownMembers : List String :=
  ["_export_name", "__class__", "__delattr__", "__dict__", "__dir__", "__doc__", "__eq__",
   "__format__", "__ge__", "__getattr__", "__getattribute__", "__getitem__", "__getstate__",
   "__gt__", "__hash__", "__init__", "__init_subclass__", "__le__", "__lt__", "__module__",
   "__ne__", "__new__", "__reduce__", "__reduce_ex__", "__repr__", "__setattr__", "__sizeof__",
   "__str__", "__subclasshook__", "__weakref__"]

/-- The export that a name stands for: the function of that name, else the first function of that
safe name, else the name itself. -/
def exportName (i : Instance) (name : String) : String :=
  if i.functionNames.contains name then name
  else (i.functionNames.find? (safeName · = name)).getD name

/-- The attribute of a name. An export that cannot be resolved is a missing attribute. -/
def attributeOf (i : Instance) (name : String) : HostAction Attribute :=
  if name = ownerName then pure .owner
  else if ownMembers.contains name then pure (.ownMember name)
  else if name.toList.head? = some '_' then Action.fail (.plain (.noAttribute name))
  else ExceptT.mk do
    match ← (i.function (i.exportName name)).run with
    | .ok f => return .ok (.exported f)
    | .error failure =>
      -- the failure of asking for the signature becomes the cause of the missing attribute
      match failure.fault with
      | .unresolvedSignature _ _ =>
        return .error ⟨.plain (.noAttribute name), some failure.fault⟩
      | _ => return .error failure

/-- Whether the namespace has an attribute of a name. -/
def hasAttribute (i : Instance) (name : String) : HostM Bool := do
  match ← (i.attributeOf name).run with
  | .ok _ => return true
  | .error _ => return false

/-- The item of a name. An export that cannot be resolved is a missing item. -/
def itemOf (i : Instance) (name : String) : HostAction ExportedFunction := ExceptT.mk do
  match ← (i.function name).run with
  | .ok f => return .ok f
  | .error failure =>
    match failure.fault with
    | .unknownFunction _ | .unresolvedSignature _ _ =>
      return .error ⟨.plain (.noItem name), some failure.fault⟩
    | _ => return .error failure

/-- The safe names that can be written as attributes, in the order of their characters; a name that
several functions share is listed as often. -/
def attributeNames (i : Instance) : List String :=
  ((i.functionNames.map safeName).filter Text.isIdentifier).mergeSort
    fun a b => !precedes b a

end Instance
end WasmHost
