import WasmHost.HostValue
/-!
Layouts: how the elements of an array lie in memory, and the host values that their bytes denote.

Numbers stand with their least significant byte first. A record holds its parts one after the other,
and a block repeats one part.
-/
namespace WasmHost

/-- The layout of an element. -/
inductive Layout where
  /-- A truth value or a number that scalars have. -/
  | single (type : ElementType)
  /-- Two floating-point numbers, the real part first. -/
  | complex (parts : Layout)
  /-- A text of bytes, which ends before its trailing zeros. -/
  | bytes (size : Nat)
  /-- A text of characters of four bytes, which ends before its trailing zeros. -/
  | characters (count : Nat)
  /-- Bytes as they are. -/
  | raw (size : Nat)
  /-- A value of another type, known by its bytes alone. -/
  | foreign (code : String) (size : Nat)
  /-- A reference to an object of the host, which has no bytes to be read. -/
  | reference
  | block (count : Nat) (part : Layout)
  /-- A record of one part and the parts after it. -/
  | record (part rest : Layout)
  /-- A record without parts. -/
  | nothing
  deriving DecidableEq, Repr

namespace Layout

/-- The size of an element in bytes. -/
def size : Layout → Nat
  | single type => type.size
  | complex parts => 2 * parts.size
  | bytes n | raw n | foreign _ n => n
  | characters n => 4 * n
  | reference => 8
  | block n part => n * part.size
  | record part rest => part.size + rest.size
  | nothing => 0

/-- The short name of a layout: its byte order, where it has one, a letter, and its size. A block is
named for its part. -/
def code : Layout → String
  | single type => type.code
  | complex parts => "<c" ++ toString (2 * parts.size)
  | bytes n => "|S" ++ toString n
  | characters n => "<U" ++ toString n
  | raw n => "|V" ++ toString n
  | foreign code _ => code
  | reference => "|O"
  | block _ part => part.code
  | record part rest => "|V" ++ toString (part.size + rest.size)
  | nothing => "|V0"

/-- Whether an element holds references. -/
def hasReference : Layout → Bool
  | reference => true
  | complex part | block _ part => part.hasReference
  | record part rest => part.hasReference || rest.hasReference
  | _ => false

/-- Bytes without their trailing zeros. -/
def withoutZeros (bs : List UInt8) : List UInt8 := (bs.reverse.dropWhile (· = 0)).reverse

/-- Cuts bytes into pieces of one size. -/
def pieces (size : Nat) : Nat → List UInt8 → List (List UInt8)
  | 0, _ => []
  | count + 1, bs => bs.take size :: pieces size count (bs.drop size)

/-- The text of characters of four bytes, or the first number that is no character. -/
def readCharacters (codes : List Nat) : Except Nat String :=
  match codes.find? fun n => !n.isValidChar with
  | some n => .error n
  | none => .ok (String.ofList (codes.map Char.ofNat))

/-- The host value that the bytes of an element denote, or the number that stands in the place of a
character but is none. -/
def read : Layout → List UInt8 → Except Nat HostValue
  | single type, bs => .ok (.scalar (.ofBytes type bs))
  | complex parts, bs => do
    let real ← parts.read (bs.take parts.size)
    let imaginary ← parts.read (bs.drop parts.size)
    let number (v : HostValue) : Double := v.toFloat?.getD (.zero .double false)
    return .complex (number real) (number imaginary)
  | bytes _, bs => .ok (.bytes (withoutZeros bs))
  | characters n, bs =>
    let codes := (pieces 4 n bs).map littleEndian
    (readCharacters (codes.reverse.dropWhile (· = 0)).reverse).map .text
  | raw _, bs | foreign _ _, bs => .ok (.bytes bs)
  | reference, _ | nothing, _ => .ok (.list [])
  | block n part, bs => return .list (← (pieces part.size n bs).mapM part.read)
  | record part rest, bs => do
    let first ← part.read (bs.take part.size)
    match ← rest.read (bs.drop part.size) with
    | .list others => return .list (first :: others)
    | _ => return .list [first]

end Layout
end WasmHost
