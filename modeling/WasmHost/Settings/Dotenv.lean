/-!
Files of environment bindings: statements `NAME=value`, one behind the other.

Which statements a text has is left to a reader of such files. A name alone is bound to nothing, and
`${NAME}` or `${NAME:-default}` in a value stands for the value of another name: the one that it has
been bound to before, or else the one of the environment.
-/
namespace WasmHost.Dotenv

/-- A name and what it is bound to; the value is missing when the line has no equals sign. -/
abbrev Binding := String × Option String

/-- A part of a value: literal text, or a name with a default. -/
inductive Piece where
  | literal (cs : List Char)
  | reference (name : String) (default : Option String)

/-- Reads a name between braces, with a default after a colon and a minus. -/
def readReference? (cs : List Char) : Option (Piece × List Char) :=
  let inName (c : Char) : Bool := c != '\x7d' && c != ':'
  let name := String.ofList (cs.takeWhile inName)
  match cs.dropWhile inName with
  | '\x7d' :: rest => some (.reference name none, rest)
  | ':' :: '-' :: rest =>
    let value := rest.takeWhile (· != '\x7d')
    match rest.dropWhile (· != '\x7d') with
    | _ :: rest => some (.reference name (some (String.ofList value)), rest)
    | [] => none
  | _ => none

/-- Splits a value into its parts. -/
def readPieces (cs : List Char) : List Piece :=
  match cs with
  | [] => []
  | c :: rest =>
    match if c = '$' && rest.head? = some '\x7b' then readReference? (rest.drop 1) else none with
    | some (piece, rest') =>
      if _h : rest'.length ≤ rest.length then piece :: readPieces rest' else [piece]
    | none => .literal [c] :: readPieces rest
termination_by cs.length

/-- The text of a part, given the values of names; an unknown name is empty unless it has a
default. -/
def Piece.expand (value? : String → Option (Option String)) : Piece → List Char
  | literal cs => cs
  | reference name default =>
    match value? name with
    | some value => (value.getD "").toList
    | none => (default.getD "").toList

/-- A binding put into a list in the place of an earlier one of the same name, else at its end. -/
def put (bindings : List Binding) (binding : Binding) : List Binding :=
  if bindings.any (·.1 = binding.1) then
    bindings.map fun b => if b.1 = binding.1 then binding else b
  else bindings ++ [binding]

/-- What statements bind, each name once, with references replaced: a name bound by an earlier one
comes before one of the environment. -/
def read (environment : String → Option String) (statements : List Binding) : List Binding :=
  statements.foldl (fun bound (name, value) =>
    let value? (n : String) : Option (Option String) :=
      match bound.lookup n with
      | some v => some v
      | none => (environment n).map some
    let expanded := value.map fun v =>
      String.ofList ((readPieces v.toList).flatMap (Piece.expand value?))
    put bound (name, expanded)) []

end WasmHost.Dotenv
