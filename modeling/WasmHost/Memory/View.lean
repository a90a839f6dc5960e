import WasmHost.Fault
import WasmHost.Memory.Layout.Names
import WasmHost.Memory.Linear
import WasmHost.Text.Encoding
/-!
Reading linear memory with bounds checks.

Every read looks at the memory as it is at that moment. A range is readable when it begins and has a
length at or above zero and ends within the memory; offsets and lengths are integers of any size.
-/
namespace WasmHost

/-- Elements of one layout, under its short name. -/
structure ElementArray where
  code : String
  items : List HostValue

namespace LinearMemory

/-- The fault of a range that is not inside a memory. -/
def outOfBounds (m : LinearMemory) (offset length : Int) : Fault :=
  (Fault.outOfBounds offset length m.size).raised

/-- Whether a range is inside the memory. -/
def covers (m : LinearMemory) (offset length : Int) : Bool :=
  0 ≤ offset && 0 ≤ length && offset + length ≤ m.size

/-- The bytes of a range. -/
def read (m : LinearMemory) (offset length : Int) : Except Fault (List UInt8) :=
  if m.covers offset length then .ok (m.bytes offset.toNat (offset + length).toNat)
  else .error (m.outOfBounds offset length)

/-- The byte at an index. -/
def index (m : LinearMemory) (i : Int) : Except Fault UInt8 := do
  let bytes ← m.read i 1
  return bytes.headD 0

/-- The bytes from a start to a stop, which default to the ends of the memory; a stop before the
start gives the empty range at the start. There are no steps but one. -/
def slice (m : LinearMemory) (start stop step : Option Int) : Except Fault (List UInt8) :=
  if step.getD 1 ≠ 1 then .error (.plain .memoryStep)
  else
    let first := start.getD 0
    m.read first (max (stop.getD m.size - first) 0)

/-- The bytes of a read that looks for the end of a text. -/
def chunkSize : Nat := 256

/-- Collects the bytes before the first zero at or after a position, reading chunk by chunk. The
flag tells whether a zero was found before the end of the memory. -/
def collect (m : LinearMemory) (chunk : Nat) (position : Nat) (collected : List UInt8) :
    List UInt8 × Bool :=
  if _h : position < m.size ∧ 0 < chunk then
    let bytes := m.bytes position (min (position + chunk) m.size)
    if bytes.contains 0 then (collected ++ bytes.takeWhile (· != 0), true)
    else m.collect chunk (position + chunk) (collected ++ bytes)
  else (collected, false)
termination_by m.size - position

section
variable [Text.Codecs]

/-- Decodes bytes in a named encoding; the name is looked at only when there is something to
decode. -/
def decodeNamed (encoding : String) (bytes : List UInt8) : Except Fault String :=
  if encoding.contains '\x00' then .error (.plain .zeroInName)
  else if bytes.isEmpty then .ok ""
  else match Text.Codecs.decoder? encoding with
    | some decode => (decode bytes).mapError fun e => .plain (.codec e)
    | none => .error (.plain (.unknownEncoding encoding))

/-- Decoding fails because of the name, or as the codec says. -/
theorem decodeNamed_error_cases {encoding : String} {bytes : List UInt8} {fault : Fault}
    (fails : decodeNamed encoding bytes = .error fault) :
    fault = .plain .zeroInName ∨ fault = .plain (.unknownEncoding encoding) ∨
      ∃ problem, fault = .plain (.codec problem) := by
  unfold decodeNamed at fails
  split at fails
  · cases fails
    exact Or.inl rfl
  · split at fails
    · cases fails
    · cases hdecoder : Text.Codecs.decoder? encoding with
      | none =>
        rw [hdecoder] at fails
        cases fails
        exact Or.inr (Or.inl rfl)
      | some decode =>
        rw [hdecoder] at fails
        change (decode bytes).mapError _ = _ at fails
        cases hdecoded : decode bytes with
        | ok text =>
          rw [hdecoded] at fails
          cases fails
        | error problem =>
          rw [hdecoded] at fails
          cases fails
          exact Or.inr (Or.inr ⟨problem, rfl⟩)

/-- The text from an offset up to the next zero byte. -/
def readText (m : LinearMemory) (offset : Int) (encoding : String) : Except Fault String :=
  if m.covers offset 0 then
    -- the name of the encoding is not looked at before the end of the text is found
    let (bytes, found) := m.collect chunkSize offset.toNat []
    if found then decodeNamed encoding bytes
    else .error (m.outOfBounds offset (bytes.length + 1))
  else .error (m.outOfBounds offset 0)

end

/-- The encoding of texts unless another is named. -/
def defaultEncoding : String := "utf-8"

/-- The elements of a named layout from an offset on. -/
def readArray [Layout.Names] (m : LinearMemory) (name : String) (offset count : Int) :
    Except Fault ElementArray := do
  let layout ← (Layout.Names.named name).mapError fun e => .plain (.layout e)
  -- bounds come before the layouts that have no array form
  let bytes ← m.read offset (layout.size * count)
  if layout.hasReference then .error (.plain .opaqueElement)
  else if layout.size = 0 then
    .error (.plain (if isSignedWord 64 count then .emptyElement else .countTooLarge))
  else match (Layout.pieces layout.size count.toNat bytes).mapM layout.read with
    | .ok items => return ⟨layout.code, items⟩
    | .error n => .error (.plain (.noCharacter n))

/-- The written form of a view of the memory. -/
def viewText (m : LinearMemory) : String := "<MemoryView " ++ toString m.size ++ " bytes>"

end LinearMemory
end WasmHost
