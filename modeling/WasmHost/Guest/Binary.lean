import WasmHost.Guest.Program
import WasmHost.Text.Quoted
/-!
Raw bytes as modules: which of them are valid, and what the engine says of the others.

Bytes that begin with a zero, or that are empty, are read as the binary format. Compiling also takes
other bytes, as the text format; validating does not. Of the flaws that lie behind the header only
the ones listed here are told apart.
-/
namespace WasmHost.Guest.Binary

/-- The bytes that every binary begins with. -/
def magic : List UInt8 := [0x00, 0x61, 0x73, 0x6d]

/-- The magic bytes and the version of a core module. -/
def header : List UInt8 := magic ++ [0x01, 0x00, 0x00, 0x00]

/-- What is wrong with a binary. -/
inductive Flaw where
  /-- Its structure, with what is found and where. -/
  | structure (problem : String) (offset : Nat)
  /-- The type of the body of its first function. -/
  | typing (problem : String) (offset : Nat)
  /-- It is a component and no core module. -/
  | component
  /-- It does not begin with the magic bytes. -/
  | magic (found : List UInt8)

/-- Bytes in a column, one a line. -/
def byteColumn (bytes : List UInt8) : String :=
  "[\n" ++ String.join (bytes.map fun b => "    " ++ Text.hexNumber b.toNat ++ ",\n") ++ "]"

/-- A problem with the offset where it is found. -/
def located (problem : String) (offset : Nat) : String :=
  problem ++ " (at offset " ++ Text.hexNumber offset ++ ")"

namespace Flaw

/-- The diagnostic of validating a flawed binary. -/
def validation : Flaw → String
  | .structure problem offset => located problem offset
  | .typing problem offset => located problem offset
  | .component => "component passed to module validation"
  | .magic found =>
    located ("magic header not detected: bad magic number - expected=" ++ byteColumn Binary.magic ++
      " actual=" ++ byteColumn found) 0

/-- The diagnostic of a binary that cannot be parsed. -/
def unparsed (cause : String) : String :=
  "failed to parse WebAssembly module\n\nCaused by:\n    " ++ cause ++ "\n"

/-- The diagnostic of compiling a flawed binary. -/
def compilation : Flaw → String
  | .typing problem offset =>
    "failed to compile: wasm[0]::function[0]\n\nCaused by:\n" ++
      "    0: WebAssembly translation error\n" ++
      "    1: Invalid input WebAssembly code at offset " ++ toString offset ++ ": " ++
      problem ++ "\n"
  | .component =>
    unparsed "expected a WebAssembly module but was given a WebAssembly component"
  | flaw => unparsed flaw.validation

end Flaw

def endOfFile (offset : Nat) : Flaw := .structure "unexpected end-of-file" offset

/-- What is wrong behind the header of a core module, for the bodies that are told apart. -/
def flawsOfBodies : List (List UInt8 × Flaw) :=
  [([0x01], endOfFile 0x9),
   ([0x01, 0x04, 0x01, 0x60, 0x00, 0x00, 0x03, 0x02, 0x01, 0x00, 0x0a, 0x07, 0x01, 0x05, 0x00, 0x20,
      0x00, 0x1a, 0x0b], .typing "unknown local 0: local index out of bounds" 0x17),
   ([0x01, 0x04, 0x01, 0x60, 0x00, 0x00, 0x03, 0x03, 0x02, 0x00, 0x00, 0x07, 0x09, 0x02, 0x01, 0x61,
      0x00, 0x00, 0x01, 0x61, 0x00, 0x01, 0x0a, 0x07, 0x02, 0x02, 0x00, 0x0b, 0x02, 0x00, 0x0b],
    .structure "duplicate export name `a` already defined" 0x1a),
   ([0x01, 0x05, 0x01, 0x60, 0x00, 0x01, 0x7f, 0x03, 0x02, 0x01, 0x00, 0x0a, 0x04, 0x01, 0x02, 0x00,
      0x0b], .typing "type mismatch: expected i32 but nothing on stack" 0x18),
   ([0x01, 0x05, 0x01, 0x60, 0x00, 0x01, 0x7f, 0x03, 0x02, 0x01, 0x00, 0x0a, 0x06, 0x01, 0x04, 0x00,
      0x42, 0x01, 0x0b], .typing "type mismatch: expected i32, found i64" 0x1a),
   ([0x0a], endOfFile 0xa),
   ([0x07, 0x05, 0x01, 0x01, 0x61, 0x00, 0x03],
    .structure "unknown function 3: exported function index out of bounds" 0xb),
   ([0xff, 0x00], .structure "malformed section id" 0x8)]

/-- What is wrong with bytes taken as a binary, if anything is. -/
def flaw? (bytes : List UInt8) : Option Flaw :=
  let version := (bytes.drop 4).take 4
  let body := bytes.drop 8
  if bytes.length < 4 then some (endOfFile 0)
  else if bytes.take 4 ≠ magic then some (.magic (bytes.take 4))
  else if bytes.length < 8 then some (endOfFile 4)
  else if version = [0x0d, 0x00, 0x01, 0x00] then some .component
  else if version ≠ [0x01, 0x00, 0x00, 0x00] then
    let number := Text.hexNumber ((version.headD 0).toNat + 256 * ((version.drop 1).headD 0).toNat)
    let blanks := String.ofList (List.replicate (10 - number.length) ' ')
    some (.structure ("unknown binary version: " ++ blanks ++ number) 4)
  else if body.isEmpty then none
  else match flawsOfBodies.lookup body with
    | some flaw => some flaw
    | none => some (endOfFile bytes.length)

/-- The text format of the module that holds nothing. -/
def emptyText : List UInt8 := [0x28, 0x6d, 0x6f, 0x64, 0x75, 0x6c, 0x65, 0x29]

/-- The diagnostic of a text: what is wrong, and a picture of the place in its only line. -/
def textDiagnostic (problem : String) (column : Nat) (line : String) : String :=
  problem ++ "\n     --> <anon>:1:" ++ toString column ++ "\n      |\n    1 | " ++ line ++
    "\n      | " ++ String.ofList (List.replicate (column - 1) ' ') ++ "^"

/-- The diagnostic of bytes that are no text at all. -/
def notText : String := "input was not valid utf-8"

/-- What is wrong with bytes taken as the text format of a module. Text that does not begin with a
parenthesis or a control character lacks one; text that does lacks its end. -/
def textProblem (bytes : List UInt8) : String :=
  match String.fromUTF8? ⟨bytes.toArray⟩ with
  | none => notText
  | some line =>
    match line.toList with
    | '(' :: _ => textDiagnostic "expected `)`" (line.length + 1) line
    | c :: _ =>
      if c.toNat < 0x20 then
        let code := "\\u\x7b" ++ String.ofList (Text.hexadecimal 1 c.toNat) ++ "\x7d"
        textDiagnostic ("unexpected character '" ++ code ++ "'") 1 line
      else textDiagnostic "expected `(`" 1 line
    | [] => textDiagnostic "expected `(`" 1 line

/-- The diagnostic of validating bytes; there is none when they are valid. -/
def validate (bytes : List UInt8) : Option String := (flaw? bytes).map Flaw.validation

/-- Compiles bytes, in either format. The only module that raw bytes spell holds nothing. -/
def compile (bytes : List UInt8) : Except String Program :=
  if (bytes.headD 0) = 0 then
    match flaw? bytes with
    | none => .ok .empty
    | some flaw => .error flaw.compilation
  else if bytes = emptyText then .ok .empty
  else .error (textProblem bytes)

end WasmHost.Guest.Binary
