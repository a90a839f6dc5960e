import WasmHost.Text.Printable
/-!
Quoted text: the written form of a text or of bytes as a literal.

The quote is a single one, unless the text holds a single quote and no double one. The quote, the
backslash and whatever is not printable are escaped; every other character stands for itself.
-/
namespace WasmHost.Text

def singleQuote : Char := '\x27'

def doubleQuote : Char := '\x22'

/-- A number in lower-case hexadecimal, with zeros in front up to a width. -/
def hexadecimal (width n : Nat) : List Char :=
  let ds := Nat.toDigits 16 n
  List.replicate (width - ds.length) '0' ++ ds

/-- A number in lower-case hexadecimal behind its mark. -/
def hexNumber (n : Nat) : String := "0x" ++ String.ofList (hexadecimal 1 n)

/-- The quote to put around a text. -/
def quoteFor (cs : List Char) : Char :=
  if cs.contains singleQuote && !cs.contains doubleQuote then doubleQuote else singleQuote

/-- The escape that names a character by its number, as short as the number allows. -/
def escapeCode (n : Nat) : List Char :=
  if n < 0x100 then '\\' :: 'x' :: hexadecimal 2 n
  else if n < 0x10000 then '\\' :: 'u' :: hexadecimal 4 n
  else '\\' :: 'U' :: hexadecimal 8 n

/-- A character between quotes. -/
def escapeChar (quote c : Char) : List Char :=
  if c = quote || c = '\\' then ['\\', c]
  else if c = '\n' then ['\\', 'n']
  else if c = '\r' then ['\\', 'r']
  else if c = '\t' then ['\\', 't']
  else if isPrintable c then [c]
  else escapeCode c.toNat

/-- A byte between quotes: the printable ASCII characters stand for themselves. -/
def escapeByte (quote : Char) (b : UInt8) : List Char :=
  if 0x7f ≤ b then escapeCode b.toNat else escapeChar quote (Char.ofNat b.toNat)

def quotedChars (s : String) : List Char :=
  let quote := quoteFor s.toList
  quote :: s.toList.flatMap (escapeChar quote) ++ [quote]

/-- A text as a literal. -/
def quoted (s : String) : String := String.ofList (quotedChars s)

/-- Bytes as a literal. -/
def quotedBytes (bytes : List UInt8) : String :=
  let quote := quoteFor (bytes.map fun b => Char.ofNat b.toNat)
  String.ofList ('b' :: quote :: bytes.flatMap (escapeByte quote) ++ [quote])

/-- Texts between brackets, separated by commas. -/
def bracketed (items : List String) : String := "[" ++ ", ".intercalate items ++ "]"

end WasmHost.Text
