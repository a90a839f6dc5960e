/-!
File paths: their parts and their normal form.

Empty parts and parts of a single dot are dropped, and parts of two dots are kept. A path may begin
at the root, which is written with one slash, or with exactly two.
-/
namespace WasmHost.Files

/-- The text before the root of a path: nothing, or one or two slashes. -/
inductive Root where
  | none
  | single
  | double
  deriving DecidableEq, Repr

namespace Root

def text : Root → String
  | none => ""
  | single => "/"
  | double => "//"

end Root

/-- A path in normal form. -/
structure Path where
  root : Root
  parts : List String
  deriving DecidableEq, Repr

namespace Path

/-- Splits characters at slashes. -/
def splitSlashes : List Char → List (List Char)
  | [] => [[]]
  | c :: rest =>
    if c = '/' then [] :: splitSlashes rest
    else match splitSlashes rest with
      | part :: parts => (c :: part) :: parts
      | [] => [[c]]

/-- The root that a text begins at. -/
def rootOf (cs : List Char) : Root :=
  match (cs.takeWhile (· = '/')).length with
  | 0 => .none
  | 2 => .double
  | _ => .single

/-- The steps that a text takes, one after the other. A slash at the end is a step of a single dot,
which only a directory can take. -/
def steps (cs : List Char) : List String :=
  let parts := (splitSlashes cs).map String.ofList
  parts.filter (· ≠ "") ++ if parts.getLast? = some "" then ["."] else []

/-- The path that a text denotes. -/
def ofString (s : String) : Path :=
  let cs := s.toList
  ⟨rootOf cs, (steps cs).filter (· ≠ ".")⟩

/-- The normal form of a path as text. -/
def toString (p : Path) : String :=
  let body := "/".intercalate p.parts
  if p.root = .none && p.parts.isEmpty then "." else p.root.text ++ body

end Path
end WasmHost.Files
