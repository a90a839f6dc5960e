import WasmHost.Guest.Arithmetic
import WasmHost.Memory.Linear
/-!
Instances of guest programs: their state, and a machine that makes and runs them.

The state of an instance is its memories, what else it keeps, and the fuel it has left, if it is
metered. On the machine it keeps a counter besides its memories; entering a function takes one unit
of fuel, and a function that runs for ever takes all. Everything the guest reads and writes is in
this state.
-/
namespace WasmHost.Guest

/-- The state of an instance. -/
structure State where
  memories : List LinearMemory
  /-- Everything that is kept besides the memories, as one number. -/
  hidden : Nat
  fuel : Option Nat
  deriving DecidableEq

/-- What running guest code comes to: results or a trap, and the state it leaves. -/
abbrev Run := Except Trap (List GuestValue) × State

namespace State

def empty : State := ⟨[], 0, none⟩

def memory (s : State) (i : Nat) : LinearMemory := s.memories.getD i (.zeroed 0)

def setMemory (s : State) (i : Nat) (m : LinearMemory) : State :=
  { s with memories := s.memories.set i m }

end State

namespace Machine

/-- What running code on the machine comes to: results or a reason to stop, and the state it
leaves. -/
abbrev Result := Except Stop (List GuestValue) × State

/-- The most pages that any memory has. -/
def pageLimit : Nat := 65536

/-- Grows the first memory by a number of pages. -/
def grow (p : Program) (s : State) (pages : Nat) : Int × State :=
  let m := s.memory 0
  let most := min pageLimit (((p.memories.head?).bind (·.most)).getD pageLimit)
  -- nothing is grown without a memory, or past what the program or the machine allows
  if s.memories.isEmpty || most < m.pages + pages then (-1, s)
  else (m.pages, s.setMemory 0 (m.resize ((m.pages + pages) * LinearMemory.pageSize)))

/-- The address in a parameter, taken as unsigned. -/
def address : GuestValue → Nat
  | .i32 w => w.toNat
  | .i64 w => w.toNat
  | _ => 0

/-- The low byte of a parameter. -/
def lowByte : GuestValue → UInt8
  | .i32 w => UInt8.ofNat w.toNat
  | .i64 w => UInt8.ofNat w.toNat
  | _ => 0

/-- What running out of time comes to: a metered instance burns all its fuel, and one without a
meter would never answer. -/
def burn (s : State) : Result :=
  (.error .fuelExhausted, { s with fuel := s.fuel.map fun _ => 0 })

def runBody (p : Program) (f : Function) (args : List GuestValue) (s : State) : Result :=
  let first := args.getD 0 .null
  let second := args.getD 1 .null
  let m := s.memory 0
  match f.body with
  | .nop => (.ok [], s)
  | .unreachable => (.error .unreachable, s)
  | .parameter i => (.ok [args.getD i .null], s)
  | .constants values => (.ok (f.results.zipWith GuestValue.ofConstant values), s)
  | .combine op => ((op.apply first second).map fun v => [v], s)
  | .sumDoubles => (.ok [.f64 (sumDoubles (args.map GuestValue.toDouble))], s)
  | .grow =>
    let (former, s') := grow p s (address first)
    (.ok [.i32 (BitVec.ofInt 32 former)], s')
  | .pages => (.ok [.i32 (BitVec.ofNat 32 m.pages)], s)
  | .load =>
    let a := address first
    if a < m.size then (.ok [.i32 (BitVec.ofNat 32 (m.byteAt a).toNat)], s)
    else (.error (.memoryFault a m.size), s)
  | .store =>
    let a := address first
    if a < m.size then (.ok [], s.setMemory 0 (m.set a (lowByte second)))
    else (.error (.memoryFault a m.size), s)
  | .increment =>
    -- the counter wraps around like a word
    let counter := (s.hidden + 1) % wordCount 32
    (.ok [.i32 (BitVec.ofNat 32 counter)], { s with hidden := counter })
  | .loop => burn s
  | .recurse => (.error .stackExhausted, s)
  | .truncate => ((truncateToWord first.toDouble).map fun w => [.i32 w], s)
  | .nullReference => (.ok [.null], s)

/-- Calls a function. Without fuel left it traps before it does anything. -/
def call (p : Program) (f : Function) (args : List GuestValue) (s : State) : Result :=
  match s.fuel with
  | none => runBody p f args s
  | some 0 => (.error .fuelExhausted, s)
  | some (n + 1) => runBody p f args { s with fuel := some n }

/-- The memories of a program before anything is written to them. -/
def blankMemories (p : Program) : List LinearMemory :=
  p.memories.map fun t => .zeroed (t.least * LinearMemory.pageSize)

/-- The length from which on sparse data are not laid out beforehand. -/
def imageLimit : Nat := 256 * LinearMemory.pageSize

/-- Whether the data of one memory can be laid out beforehand: they are more than half of the range
that they span, or that range is short. -/
def isCompact (segments : List DataSegment) : Bool :=
  let written := segments.filter (!·.bytes.isEmpty)
  let first := (written.map (·.offset)).min?.getD 0
  let last := (written.map fun d => d.offset + d.bytes.length).max?.getD 0
  let count := written.foldl (fun n d => n + d.bytes.length) 0
  last - first < 2 * count || last - first < imageLimit

/-- Whether the data of a program are laid out when it is compiled, which they are if all of them
fit. Otherwise guest code writes them when an instance is made. -/
def isLaidOut (p : Program) : Bool :=
  let sizes := (blankMemories p).map (·.size)
  p.segments.all (fun d => d.offset + d.bytes.length ≤ sizes.getD d.memory 0) &&
    (List.range sizes.length).all fun i => isCompact (p.segments.filter (·.memory = i))

/-- Writes the data of a program, segment by segment; one that does not fit its memory traps. -/
def writeSegments : List DataSegment → State → Option State
  | [], s => some s
  | d :: rest, s =>
    let m := s.memory d.memory
    if d.offset + d.bytes.length ≤ m.size then
      writeSegments rest (s.setMemory d.memory (m.write d.offset d.bytes))
    else none

/-- The function that a start action runs. -/
def startFunction : StartAction → Function
  | .unreachable => ⟨[], [], .unreachable⟩
  | .loop => ⟨[], [], .loop⟩
  | .increment => ⟨[], [], .increment⟩

def runStart (p : Program) (s : State) : Except String State :=
  match p.start with
  | none => .ok s
  | some action =>
    match call p (startFunction action) [] s with
    | (.ok _, s') => .ok s'
    | (.error stop, _) => .error stop.trap.diagnostic

/-- Whether guest code runs when an instance is made: to write data or to start. -/
def runsCode (p : Program) : Bool := !isLaidOut p || p.start.isSome

/-- Makes an instance with a fuel budget, or says why there is none. The host provides no
imports. -/
def instantiate (p : Program) (fuel : Option Nat) : Except String State :=
  if p.imports.isEmpty then
    -- outside every function there is no backtrace
    if fuel = some 0 && runsCode p then .error Stop.fuelExhausted.bareDiagnostic
    else match writeSegments p.segments ⟨blankMemories p, 0, fuel⟩ with
      | none => .error (Stop.memoryFault 0 0).bareDiagnostic
      | some s => runStart p s
  else .error ("expected " ++ toString p.imports.length ++ " imports, found 0")

end Machine
end WasmHost.Guest
