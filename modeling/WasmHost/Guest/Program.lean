import WasmHost.Floating.Number
import WasmHost.ValueKind
/-!
Guest programs: what a module declares and what its functions do.

A program is a description, not code. A function body is one of a fixed choice of behaviours, from
doing nothing to running for ever.
-/
namespace WasmHost.Guest

/-- The value types of the guest. -/
inductive ValueType where
  | i32
  | i64
  | f32
  | f64
  | functionReference
  | externalReference
  deriving DecidableEq, Repr

namespace ValueType

/-- The kind under which the engine reports a type. -/
def kind : ValueType → ValueKind
  | i32 => .ofNumeric .i32
  | i64 => .ofNumeric .i64
  | f32 => .ofNumeric .f32
  | f64 => .ofNumeric .f64
  | functionReference => ⟨"funcref"⟩
  | externalReference => ⟨"anyref"⟩

/-- The type that a module spells by a name. -/
def named? (name : String) : Option ValueType :=
  match name with
  | "i32" => some i32
  | "i64" => some i64
  | "f32" => some f32
  | "f64" => some f64
  | "funcref" => some functionReference
  | "externref" => some externalReference
  | _ => none

end ValueType

/-- The binary operators of both integers and floats. -/
inductive Operator where
  | add
  | sub
  | mul
  | div
  | divSigned
  | divUnsigned
  | remSigned
  | remUnsigned
  | and
  | or
  | xor
  | shiftLeft
  | shiftRightSigned
  | shiftRightUnsigned
  deriving DecidableEq, Repr

namespace Operator

/-- The operator of an instruction, named without its type. -/
def named? (name : String) : Option Operator :=
  match name with
  | "add" => some add
  | "sub" => some sub
  | "mul" => some mul
  | "div" => some div
  | "div_s" => some divSigned
  | "div_u" => some divUnsigned
  | "rem_s" => some remSigned
  | "rem_u" => some remUnsigned
  | "and" => some and
  | "or" => some or
  | "xor" => some xor
  | "shl" => some shiftLeft
  | "shr_s" => some shiftRightSigned
  | "shr_u" => some shiftRightUnsigned
  | _ => none

end Operator

/-- A constant as it is written in a program. -/
inductive Constant where
  | integer (n : Int)
  | float (x : Double)
  deriving DecidableEq

/-- What a function does. -/
inductive Body where
  /-- Nothing. -/
  | nop
  /-- Traps. -/
  | unreachable
  /-- Returns one of its parameters. -/
  | parameter (index : Nat)
  /-- Returns constants, one for each result. -/
  | constants (values : List Constant)
  /-- Combines its two parameters. -/
  | combine (operator : Operator)
  /-- Adds its parameters up as doubles, from left to right. -/
  | sumDoubles
  /-- Grows the first memory by as many pages as its parameter says; returns the former number of
  pages, or minus one. -/
  | grow
  /-- Returns the number of pages of the first memory. -/
  | pages
  /-- Returns the byte at the address that its parameter says. -/
  | load
  /-- Stores the low byte of its second parameter at the address in its first. -/
  | store
  /-- Increments the hidden counter and returns it. -/
  | increment
  /-- Runs for ever. -/
  | loop
  /-- Calls itself for ever. -/
  | recurse
  /-- Returns the integer part of its parameter. -/
  | truncate
  /-- Returns a null reference. -/
  | nullReference
  deriving DecidableEq

/-- A function: its type and what it does. -/
structure Function where
  params : List ValueType
  results : List ValueType
  body : Body
  deriving DecidableEq

/-- What an export stands for. -/
inductive ExportItem where
  | function (f : Function)
  | memory (index : Nat)
  | globalCell (type : ValueType) (value : Constant)
  | table
  deriving DecidableEq

structure Export where
  name : String
  item : ExportItem
  deriving DecidableEq

/-- The declared sizes of a memory, in pages. -/
structure MemoryType where
  least : Nat
  most : Option Nat
  deriving DecidableEq

/-- Bytes that are written to a memory when an instance is made. -/
structure DataSegment where
  memory : Nat
  offset : Nat
  bytes : List UInt8
  deriving DecidableEq

/-- What an instance does when it is made. -/
inductive StartAction where
  | unreachable
  | loop
  | increment
  deriving DecidableEq

/-- A program: what a module imports, holds and exports. -/
structure Program where
  imports : List (String × String)
  memories : List MemoryType
  segments : List DataSegment
  start : Option StartAction
  exports : List Export
  deriving DecidableEq

namespace Program

/-- The program that holds nothing. -/
def empty : Program := ⟨[], [], [], none, []⟩

def exportNames (p : Program) : List String := p.exports.map (·.name)

/-- The first export of a name. -/
def export? (p : Program) (name : String) : Option ExportItem :=
  (p.exports.find? (·.name = name)).map (·.item)

/-- The names of the exports that are functions. -/
def functionNames (p : Program) : List String :=
  p.exports.filterMap fun e => match e.item with
    | .function _ => some e.name
    | _ => none

/-- The index of the memory that is exported as `memory`, or else of the first exported memory. -/
def exposedMemory? (p : Program) : Option Nat :=
  let first := p.exports.findSome? fun e => match e.item with
    | .memory i => some i
    | _ => none
  match p.export? "memory" with
  | some (.memory i) => some i
  | _ => first

end Program
end WasmHost.Guest
