import WasmHost.Settings.Dotenv
import WasmHost.Text.Blank
/-!
A reader of files of environment bindings.

A line may begin with `export`, may have blanks around the equals sign and a comment at its end. A
value is bare, or quoted and then free to hold line breaks and escapes. A line that does not have
this form is skipped.
-/
namespace WasmHost.Dotenv

/-- Blank characters, the separators of ASCII among them. -/
def isSpace (c : Char) : Bool := Text.isBlank c || (0x1c ≤ c.toNat && c.toNat ≤ 0x1f)

def isLineEnd (c : Char) : Bool := c = '\n' || c = '\r'

/-- Blank characters inside a line. -/
def isInner (c : Char) : Bool := isSpace c && !isLineEnd c

/-- Turns every line ending into a line feed. -/
def normalizeLines : List Char → List Char
  | [] => []
  | '\r' :: '\n' :: rest => '\n' :: normalizeLines rest
  | c :: rest => (if c = '\r' then '\n' else c) :: normalizeLines rest

/-- Removes the word `export` and the blanks after it. -/
def dropExport (cs : List Char) : List Char :=
  let word := "export".toList
  let rest := cs.drop word.length
  if word.isPrefixOf cs && (rest.head?.map isInner).getD false then rest.dropWhile isInner else cs

/-- Reads up to a closing quote. A backslash protects the character after it, also a quote behind
which nothing else closes the value. -/
def readQuoted (quote : Char) : List Char → Option (List Char × List Char)
  | [] => none
  | '\\' :: c :: rest =>
    (readQuoted quote rest).map fun (value, rest') => ('\\' :: c :: value, rest')
  | c :: rest =>
    if c = quote then some ([], rest)
    else (readQuoted quote rest).map fun (value, rest') => (c :: value, rest')

/-- The character that an escape in double quotes stands for. -/
def escaped? (c : Char) : Option Char :=
  if c = '\\' || c = '\x27' || c = '\x22' then some c
  else if c = 'a' then some '\x07'
  else if c = 'b' then some '\x08'
  else if c = 'f' then some '\x0c'
  else if c = 'n' then some '\n'
  else if c = 'r' then some '\r'
  else if c = 't' then some '\t'
  else if c = 'v' then some '\x0b'
  else none

/-- The character that an escape in single quotes stands for. -/
def escapedPlain? (c : Char) : Option Char :=
  if c = '\\' || c = '\x27' then some c else none

/-- Replaces escapes by what they stand for. -/
def unescape (escape? : Char → Option Char) : List Char → List Char
  | [] => []
  | '\\' :: c :: rest =>
    match escape? c with
    | some d => d :: unescape escape? rest
    | none => '\\' :: unescape escape? (c :: rest)
  | c :: rest => c :: unescape escape? rest

/-- A bare value: it ends before a comment that blanks set off, also when nothing but blanks stands
before that, and has no blanks around it. -/
def bareValue (cs : List Char) : List Char :=
  let rec cut : List Char → List Char
    | [] => []
    | c :: rest => if isSpace c && (rest.dropWhile isSpace).head? = some '#' then []
      else c :: cut rest
  Text.trim isSpace (cut cs)

/-- Reads the value after an equals sign. -/
def readValue (cs : List Char) : Option (List Char × List Char) :=
  match cs.dropWhile isInner with
  | '\x27' :: rest => (readQuoted '\x27' rest).map fun (v, r) => (unescape escapedPlain? v, r)
  | '\x22' :: rest => (readQuoted '\x22' rest).map fun (v, r) => (unescape escaped? v, r)
  | _ => some (bareValue (cs.takeWhile (!isLineEnd ·)), cs.dropWhile (!isLineEnd ·))

/-- The rest after a comment and the end of the line, if nothing else stands there. -/
def endLine? (cs : List Char) : Option (List Char) :=
  let rest := cs.dropWhile isInner
  let rest := if rest.head? = some '#' then rest.dropWhile (!isLineEnd ·) else rest
  match rest with
  | [] => some []
  | c :: rest => if isLineEnd c then some rest else none

/-- The rest after the current line. -/
def skipLine (cs : List Char) : List Char := (cs.dropWhile (!isLineEnd ·)).drop 1

/-- Reads the name of a binding: quoted, or bare up to a blank, an equals sign or a comment. A line
that is all comment has none. -/
def readName (cs : List Char) : Option (Option String × List Char) :=
  match cs with
  | [] => none
  | c :: rest =>
    if c = '#' then some (none, cs)
    else if c = '\x27' then
      let name := rest.takeWhile (· != '\x27')
      match name, rest.dropWhile (· != '\x27') with
      | _ :: _, _ :: rest => some (some (String.ofList name), rest)
      | _, _ => none
    else
      let inName (d : Char) : Bool := d != '=' && d != '#' && !isSpace d
      let name := cs.takeWhile inName
      if name.isEmpty then none else some (some (String.ofList name), cs.dropWhile inName)

/-- Reads one statement and gives what stands after it. -/
def readStatement (cs : List Char) : Option Binding × List Char :=
  let cs := dropExport cs
  match readName cs with
  | none => (none, skipLine cs)
  | some (name, rest) =>
    let rest := rest.dropWhile isInner
    let value : Option (Option String × List Char) := match rest with
      | '=' :: rest => (readValue rest).map fun (v, r) => (some (String.ofList v), r)
      | rest => some (none, rest)
    match value with
    | none => (none, skipLine rest)
    | some (value, rest) =>
      match endLine? rest with
      | some rest => (name.map fun n => (n, value), rest)
      | none => (none, skipLine rest)

/-- The statements of a text, in order. -/
def readStatements (cs : List Char) : List Binding :=
  match cs.dropWhile isSpace with
  | [] => []
  | start =>
    let (binding, rest) := readStatement start
    if _h : rest.length < cs.length then binding.toList ++ readStatements rest else binding.toList
termination_by cs.length

/-- The characters of a file, without the mark that may stand at its beginning. -/
def characters (text : String) : List Char :=
  match text.toList with
  | '\ufeff' :: rest => normalizeLines rest
  | cs => normalizeLines cs

/-- The statements of a text. -/
def statements (text : String) : List Binding := readStatements (characters text)

end WasmHost.Dotenv
