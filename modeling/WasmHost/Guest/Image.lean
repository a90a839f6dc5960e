import WasmHost.Guest.Binary
/-!
Byte strings as the engine takes them: modules in binary form and compiled modules in native form.

The binary form of a program and the native form of a compiled one are not spelled out. Their octets
are told apart only by what they are part of and by their place, which is all that can be seen of
them: that bytes are or are not the untouched form of something.
-/
namespace WasmHost.Guest

/-- A compiled program and the settings that its native code depends on. -/
structure Compiled where
  program : Program
  consumeFuel : Bool
  debugInfo : Bool
  deriving DecidableEq

/-- An octet of a byte string. -/
inductive Octet where
  /-- A known byte. -/
  | byte (b : UInt8)
  /-- What follows the header in the binary form of a program, as one. -/
  | code (p : Program)
  /-- A place in the native form of a compiled program. -/
  | native (c : Compiled) (index : Nat)
  deriving DecidableEq

/-- A byte string. -/
abbrev Image := List Octet

namespace Image

def ofBytes (bytes : List UInt8) : Image := bytes.map .byte

/-- The bytes of a byte string all of whose octets are known. -/
def bytes? (image : Image) : Option (List UInt8) :=
  image.mapM fun
    | .byte b => some b
    | _ => none

/-- The binary form of a program. -/
def ofProgram (p : Program) : Image := ofBytes Binary.header ++ [.code p]

/-- The program whose binary form a byte string is. -/
def program? (image : Image) : Option Program :=
  match image.getLast? with
  | some (.code p) => if image = ofProgram p then some p else none
  | _ => none

/-- The known bytes at the beginning of a byte string. -/
def knownBytes : Image → List UInt8
  | .byte b :: rest => b :: knownBytes rest
  | _ => []

@[simp] theorem program?_ofProgram (p : Program) : (ofProgram p).program? = some p := by
  simp [program?, ofProgram]

end Image

namespace Machine

/-- The least size of a native form. -/
def leastNative : Nat := 64

/-- The size that native forms are given here. -/
def nativeSize : Nat := 2 * leastNative

/-- The native form of a compiled program. -/
def native (c : Compiled) : Image := (List.range nativeSize).map (.native c)

/-- The compiled program whose native form a byte string is. -/
def compiled? (image : Image) : Option Compiled :=
  match image with
  | .native c _ :: _ => if image = native c then some c else none
  | _ => none

/-- The diagnostic of validating a byte string, if it is not valid. -/
def validate (image : Image) : Option String :=
  match image.program? with
  | some _ => none
  | none => Binary.validate image.knownBytes

/-- The program that a byte string spells, or why it spells none. The octets of a native form are no
text. -/
def compile (image : Image) : Except String Program :=
  match image.program?, image.bytes? with
  | some p, _ => .ok p
  | none, some bytes => Binary.compile bytes
  | none, none => .error Binary.notText

/-- The diagnostic of a setting that a native form and the engine that loads it disagree on. -/
def mismatch (feature : String) (compiled : Bool) : String :=
  if compiled then
    "Module was compiled with " ++ feature ++ " support but it is not enabled for the host"
  else "Module was compiled without " ++ feature ++ " support but it is enabled for the host"

/-- Loads a native form into an engine with the given settings. -/
def load (consumeFuel debugInfo : Bool) (image : Image) : Except String Program :=
  match compiled? image with
  | some c =>
    if c.debugInfo ≠ debugInfo then .error (mismatch "native debug information" c.debugInfo)
    else if c.consumeFuel ≠ consumeFuel then .error (mismatch "fuel" c.consumeFuel)
    else .ok c.program
  | none => .error ("failed to parse precompiled artifact as an ELF\n\nCaused by:\n" ++
      "    Invalid ELF header size or alignment\n")

@[simp] theorem compiled?_native (c : Compiled) : compiled? (native c) = some c := by
  have h : native c = .native c 0 :: (List.range' 1 (nativeSize - 1)).map (.native c) := by
    simp [native, List.range_eq_range', nativeSize, leastNative, List.range'_succ]
  rw [compiled?.eq_def]
  conv => lhs; rw [h]
  simp [← h]

end Machine
end WasmHost.Guest
