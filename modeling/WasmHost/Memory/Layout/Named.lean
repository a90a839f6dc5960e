import WasmHost.Memory.Layout.Names
/-!
A reader of names of layouts.

A name is a long name, a single letter, or a letter and a size. A byte order may stand before a
letter. Names separated by commas make a record, and a number before a name a block. Of the times
and durations only the names in one unit are read.
-/
namespace WasmHost
namespace Layout

def integers (signed : Bool) (size : Nat) : Layout := single (.integer ⟨signed, size⟩)

def floats (width : FloatWidth) : Layout := single (.float width)

/-- The layouts with long names. -/
def ofLongName? (name : String) : Option Layout :=
  match name with
  | "bool_" => some (single .truth)
  | "byte" => some (integers true 1)
  | "short" => some (integers true 2)
  | "intc" => some (integers true 4)
  | "int" | "long" | "longlong" | "intp" | "int_" => some (integers true 8)
  | "ubyte" => some (integers false 1)
  | "ushort" => some (integers false 2)
  | "uintc" => some (integers false 4)
  | "uint" | "ulong" | "ulonglong" | "uintp" => some (integers false 8)
  | "half" => some (floats .half)
  | "single" => some (floats .single)
  | "float" | "double" => some (floats .double)
  | "complex64" | "csingle" => some (complex (floats .single))
  | "complex128" | "cdouble" | "complex" => some (complex (floats .double))
  | "complex256" | "clongdouble" => some (complex (floats .extended))
  | "object" | "object_" => some reference
  | "bytes" | "bytes_" | "a" => some (bytes 0)
  | "str" | "str_" | "unicode" => some (characters 0)
  | "void" => some (raw 0)
  | name => (ElementType.named? name).map single

/-- The layouts with a name of one letter. -/
def ofLetter? (c : Char) : Option Layout :=
  if c = '?' then some (single .truth)
  else if c = 'b' then some (integers true 1)
  else if c = 'B' then some (integers false 1)
  else if c = 'h' then some (integers true 2)
  else if c = 'H' then some (integers false 2)
  else if c = 'i' then some (integers true 4)
  else if c = 'I' then some (integers false 4)
  else if c = 'l' || c = 'q' || c = 'p' || c = 'n' then some (integers true 8)
  else if c = 'L' || c = 'Q' || c = 'P' || c = 'N' then some (integers false 8)
  else if c = 'e' then some (floats .half)
  else if c = 'f' then some (floats .single)
  else if c = 'd' then some (floats .double)
  else if c = 'g' then some (floats .extended)
  else if c = 'F' then some (complex (floats .single))
  else if c = 'D' then some (complex (floats .double))
  else if c = 'G' then some (complex (floats .extended))
  else if c = 'S' then some (bytes 0)
  else if c = 'c' then some (bytes 1)
  else if c = 'U' then some (characters 0)
  else if c = 'V' then some (raw 0)
  else if c = 'O' then some reference
  else none

/-- The layouts with a name of a letter and a size. -/
def ofSized? (letter : Char) (size : Nat) : Option Layout :=
  let isInteger := [1, 2, 4, 8].contains size
  if letter = 'i' && isInteger then some (integers true size)
  else if letter = 'u' && isInteger then some (integers false size)
  else if letter = 'f' && size = 2 then some (floats .half)
  else if letter = 'f' && size = 4 then some (floats .single)
  else if letter = 'f' && size = 8 then some (floats .double)
  else if letter = 'f' && size = 16 then some (floats .extended)
  else if letter = 'c' && size = 8 then some (complex (floats .single))
  else if letter = 'c' && size = 16 then some (complex (floats .double))
  else if letter = 'c' && size = 32 then some (complex (floats .extended))
  else if letter = 'b' && size = 1 then some (single .truth)
  else if letter = 'S' || letter = 'a' then some (bytes size)
  else if letter = 'U' then some (characters size)
  else if letter = 'V' then some (raw size)
  else if letter = 'O' && size = 8 then some reference
  else none

/-- The marks of a byte order. -/
def isByteOrder (c : Char) : Bool := c = '<' || c = '>' || c = '=' || c = '|'

/-- Reads the size behind a letter: blanks, a sign and digits, of which there may be none. -/
def readSize? (cs : List Char) : Option Int :=
  let (negative, ds) := Numeral.splitSign (cs.dropWhile Numeral.isAsciiBlank)
  if ds.all Char.isDigit then some (Numeral.signed negative (Numeral.digitsValue ds)) else none

/-- The layout of a short name without a byte order. -/
def ofCode? : List Char → Option Layout
  | [] => none
  | [c] => ofLetter? c
  | c :: rest => match (readSize? rest).filter fun n => 0 ≤ n && isSignedWord 32 n with
    | some n => ofSized? c n.toNat
    | none => none

/-- The units of times and durations. -/
def timeUnits : List String :=
  ["Y", "M", "W", "D", "h", "m", "s", "ms", "us", "ns", "ps", "fs", "as"]

/-- The short and the long names of times and durations, with their codes. -/
def shortTimes : List (String × String) :=
  [("M", "<M8"), ("M8", "<M8"), ("m", "<m8"), ("m8", "<m8")]

def longTimes : List (String × String) := [("datetime64", "<M8"), ("timedelta64", "<m8")]

/-- The layout of one of some names of times, which may have a unit in square brackets. -/
def ofTime? (names : List (String × String)) (cs : List Char) : Option Layout :=
  let kind := String.ofList (cs.takeWhile (· ≠ '['))
  let unit := String.ofList (cs.dropWhile (· ≠ '['))
  if unit = "" || timeUnits.any (unit = "[" ++ · ++ "]") then
    (names.lookup kind).map fun code => foreign (code ++ unit) 8
  else none

/-- The layout of a single name. -/
def ofName (name : String) : Except LayoutFault Layout :=
  let code := match name.toList with
    | c :: rest => if isByteOrder c then rest else c :: rest
    | [] => []
  match ofCode? code <|> ofTime? shortTimes code <|> ofTime? longTimes name.toList <|>
      ofLongName? name with
  | some layout => .ok layout
  | none => .error (.unknown name)

/-- A part of a compound name: its number of repetitions, if it has one, and a single name. -/
structure NamedPart where
  repeats : Option (List Nat)
  /-- Whether the number is written without a comma. -/
  isSingle : Bool
  name : String

/-- Whether a name is compound: it begins with a number or an empty list of counts, after a byte
order at most, or has a comma outside square brackets. -/
def isCompound (cs : List Char) : Bool :=
  let start := match cs with
    | c :: rest => if isByteOrder c then rest else cs
    | [] => []
  let hasComma := cs.foldl (fun (found, depth) c =>
    (found || c = ',' && depth = 0,
      if c = '[' then depth + 1 else if c = ']' then depth - 1 else depth)) (false, (0 : Int))
  (start.head?.map Char.isDigit).getD false || ['(', ')'].isPrefixOf start || hasComma.1

/-- Splits off a byte order. -/
def splitOrder : List Char → Option Char × List Char
  | c :: rest => if isByteOrder c then (some c, rest) else (none, c :: rest)
  | [] => (none, [])

/-- Splits off the number of repetitions: blanks, an opening parenthesis, counts, a closing one, and
blanks, each of which may be missing. -/
def splitRepeats (cs : List Char) : List Char × List Char :=
  let isBlank (c : Char) : Bool := c = ' '
  let isCount (c : Char) : Bool := c = ' ' || c = ',' || c.isDigit
  let past (c : Char) (cs : List Char) : List Char := if cs.head? = some c then cs.drop 1 else cs
  let rest := past '(' (cs.dropWhile isBlank)
  let rest := (past ')' (rest.dropWhile isCount)).dropWhile isBlank
  (cs.take (cs.length - rest.length), rest)

/-- Splits off a single name, with a part in square brackets at its end. -/
def splitName (cs : List Char) : List Char × List Char :=
  let rest := cs.dropWhile fun c => c.isAlphanum || c = '.' || c = '?'
  let rest := match rest with
    | '[' :: more =>
      match more.dropWhile fun c => c.isAlphanum || c = '.' || c = ',' with
      | ']' :: more => more
      | _ => rest
    | _ => rest
  (cs.take (cs.length - rest.length), rest)

/-- The byte order of two marks, of which both, one or none may be given; the native one is not
written. -/
def mergeOrders (first second : Option Char) : Except LayoutFault (List Char) :=
  let native (c : Char) : Char := if c = '=' then '<' else c
  let written (c : Char) : List Char := if c = '>' then [c] else []
  match first, second with
  | none, none => .ok []
  | some c, none | none, some c => .ok (written c)
  | some c, some d =>
    if native c = native d then .ok (written c) else .error (.unlikeOrders (native c) (native d))

/-- Reads a count, around which there may be blanks. It is no expression without digits or with
blanks between them, and no number with a zero in front of others. -/
def readCount (cs : List Char) : Except LayoutFault Nat :=
  let ds := ((cs.dropWhile (· = ' ')).reverse.dropWhile (· = ' ')).reverse
  if ds.isEmpty || !ds.all Char.isDigit then .error (.unreadableCounts "invalid syntax")
  else if ds.head? = some '0' && ds.any (· ≠ '0') then
    .error (.unreadableCounts ("leading zeros in decimal integer literals are not permitted; " ++
      "use an 0o prefix for octal integers"))
  else .ok (Numeral.digitsValue ds)

/-- The counts of a number of repetitions: either with both parentheses or with none, and with
commas between them and perhaps behind the last. Between parentheses there may be no count. -/
def readCounts (cs : List Char) : Except LayoutFault (List Nat) :=
  let isBlank (s : String) : Bool := s.toList.all (· = ' ')
  if cs.contains '(' != cs.contains ')' then .error (.unreadableCounts "invalid syntax")
  else match (String.ofList (cs.filter fun c => c != '(' && c != ')')).splitOn "," with
    | [only] => if cs.contains '(' && isBlank only then .ok [] else return [← readCount only.toList]
    | numbers =>
      let isClosed := numbers.getLast?.any isBlank
      (if isClosed then numbers.dropLast else numbers).mapM fun s => readCount s.toList

/-- Splits a compound name into its parts. The flag tells whether there are commas between or behind
them. -/
def splitParts (whole : String) (fuel number : Nat) (cs : List Char) :
    Except LayoutFault (List NamedPart × Bool) :=
  match fuel, cs with
  | 0, _ | _, [] => .ok ([], false)
  | fuel + 1, cs => do
    let (first, rest) := splitOrder cs
    let (repeats, rest) := splitRepeats rest
    let (second, rest) := splitOrder rest
    let (name, rest) := splitName rest
    let isBlank (c : Char) : Bool := Text.isBlank c || (0x1c ≤ c.toNat && c.toNat ≤ 0x1f)
    let (isList, rest) ← match rest.dropWhile isBlank with
      | [] => pure (false, [])
      | ',' :: more => pure (true, more.dropWhile isBlank)
      | _ => .error (.unreadablePart number whole)
    let order ← mergeOrders first second
    let counts ← if repeats.isEmpty then pure none else some <$> readCounts repeats
    let part : NamedPart := ⟨counts, !repeats.contains ',', String.ofList (order ++ name)⟩
    let (parts, isList') ← splitParts whole fuel (number + 1) rest
    return (part :: parts, isList || isList')

/-- A layout repeated. A layout without a size of its own takes the number for its size instead, and
one repetition without a comma is no block. -/
def repeated (layout : Layout) (counts : List Nat) (isSingle : Bool) : Layout :=
  match layout, counts with
  | bytes 0, [n] => bytes n
  | characters 0, [n] => characters n
  | raw 0, [n] => raw n
  | layout, [1] => if isSingle then layout else block 1 layout
  | layout, counts => counts.foldr block layout

/-- The layout of a part. -/
def ofPart (part : NamedPart) : Except LayoutFault Layout := do
  let layout ← ofName part.name
  return part.repeats.elim layout (layout.repeated · part.isSingle)

/-- The layout of a name. -/
def parse (name : String) : Except LayoutFault Layout :=
  if !isCompound name.toList then ofName name
  else do
    let (parts, isList) ← splitParts name name.length 1 name.toList
    match parts, isList with
    | [part], false => ofPart part
    | parts, _ =>
      -- a byte order alone may end the list
      let isLast := (parts.getLast?.map fun p => p.repeats.isNone && p.name = "").getD false
      return (← (if isLast then parts.dropLast else parts).mapM ofPart).foldr record nothing

/-- What names denote can be compared. -/
instance : DecidableEq (Except LayoutFault Layout)
  | .ok a, .ok b => decidable_of_iff (a = b) (by rw [Except.ok.injEq])
  | .error e, .error f => decidable_of_iff (e = f) (by rw [Except.error.injEq])
  | .ok _, .error _ => isFalse nofun
  | .error _, .ok _ => isFalse nofun

theorem parse_of_mem_names :
    ∀ t ∈ IntegerType.all, ∀ name ∈ t.names, parse name = .ok (.single (.integer t)) := by
  decide +kernel

theorem parse_ordered : ∀ t ∈ IntegerType.all, ∀ order ∈ IntegerType.byteOrders,
    parse (order ++ (ElementType.integer t).name) =
      .error (.unknown (order ++ (ElementType.integer t).name)) := by
  decide +kernel

/-- The names that are read here. -/
@[reducible]
def Names.parsed : Names where
  named := parse
  integer ht _ hname := parse_of_mem_names _ ht _ hname
  ordered ht _ horder := parse_ordered _ ht _ horder

end Layout
end WasmHost
