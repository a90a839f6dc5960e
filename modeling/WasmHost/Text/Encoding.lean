import WasmHost.Fault
/-!
Character encodings and the decoding of bytes with replacement.

Bytes that no character has are replaced: in UTF-8 each longest beginning of a well-formed sequence
becomes one replacement character, in UTF-16 each unpaired surrogate and a last odd byte, in ASCII
each byte above the range. A byte order mark is a character like any other. What other encodings
there are is left to a registry of codecs.
-/
namespace WasmHost.Text

/-- The character that stands for undecodable bytes. -/
def replacement : Char := '\ufffd'

/-- The encodings whose decoding is spelled out. -/
inductive Encoding where
  | utf8
  | utf16le
  | latin1
  | ascii
  deriving DecidableEq, Repr

namespace Encoding

/-- A name for comparison: the words of letters, digits and points in lower case, joined by low
lines whatever stood between them. -/
def foldName (cs : List Char) : List Char :=
  let rec fold (gap begun : Bool) : List Char → List Char
    | [] => []
    | c :: rest =>
      if c.isAlphanum || c = '.' then
        let folded := c.toLower :: fold false true rest
        if gap && begun then '_' :: folded else folded
      else fold true begun rest
  fold false false cs

/-- The folded names of each encoding. -/
def names : Encoding → List String
  | utf8 => ["utf_8", "utf8", "utf8_ucs2", "utf8_ucs4", "u8", "utf", "cp65001"]
  | utf16le => ["utf_16_le", "utf_16le", "unicodelittleunmarked"]
  | latin1 => ["latin_1", "latin1", "latin", "l1", "iso_8859_1", "iso_8859_1_1987", "iso8859_1",
      "iso8859", "8859", "iso_ir_100", "csisolatin1", "cp819", "ibm819"]
  | ascii => ["ascii", "us_ascii", "us", "646", "iso646_us", "iso_646.irv_1991", "iso_ir_6",
      "ansi_x3.4_1968", "ansi_x3.4_1986", "ansi_x3_4_1968", "csascii", "cp367", "ibm367"]

def all : List Encoding := [utf8, utf16le, latin1, ascii]

/-- The encoding of a name in any of its spellings: a point may stand for a low line, unless the
name is the first one of its encoding. -/
def named? (name : String) : Option Encoding :=
  let folded := foldName name.toList
  let pointless := folded.map fun c => if c = '.' then '_' else c
  match all.find? fun e => e.names.contains (String.ofList folded) with
  | some e => some e
  | none => all.find? fun e => e.names.tail.contains (String.ofList pointless)

end Encoding

/-- A byte after the lead byte of a sequence. -/
def isContinuation (b : UInt8) : Bool := 0x80 ≤ b && b ≤ 0xbf

/-- Whether a byte may follow a lead byte of three: the exceptions keep out overlong forms and
surrogates. -/
def isSecondOfThree (lead b : UInt8) : Bool :=
  (if lead = 0xe0 then 0xa0 else 0x80) ≤ b && b ≤ (if lead = 0xed then 0x9f else 0xbf)

/-- Whether a byte may follow a lead byte of four: the exceptions keep out overlong forms and
numbers past the last code point. -/
def isSecondOfFour (lead b : UInt8) : Bool :=
  (if lead = 0xf0 then 0x90 else 0x80) ≤ b && b ≤ (if lead = 0xf4 then 0x8f else 0xbf)

/-- The low six bits of a byte after the lead byte. -/
def payloadBits (b : UInt8) : Nat := b.toNat % 64

/-- Decodes UTF-8. -/
def decodeUtf8 : List UInt8 → List Char
  | [] => []
  | a :: rest =>
    if a < 0x80 then Char.ofNat a.toNat :: decodeUtf8 rest
    else if 0xc2 ≤ a && a ≤ 0xdf then
      match rest with
      | [] => [replacement]
      | b :: rest' =>
        if isContinuation b then
          Char.ofNat (a.toNat % 32 * 64 + payloadBits b) :: decodeUtf8 rest'
        else replacement :: decodeUtf8 (b :: rest')
    else if 0xe0 ≤ a && a ≤ 0xef then
      match rest with
      | [] => [replacement]
      | b :: rest' =>
        if isSecondOfThree a b then
          match rest' with
          | [] => [replacement]
          | c :: rest'' =>
            if isContinuation c then
              Char.ofNat ((a.toNat % 16 * 64 + payloadBits b) * 64 + payloadBits c) ::
                decodeUtf8 rest''
            else replacement :: decodeUtf8 (c :: rest'')
        else replacement :: decodeUtf8 (b :: rest')
    else if 0xf0 ≤ a && a ≤ 0xf4 then
      match rest with
      | [] => [replacement]
      | b :: rest' =>
        if isSecondOfFour a b then
          match rest' with
          | [] => [replacement]
          | c :: rest'' =>
            if isContinuation c then
              match rest'' with
              | [] => [replacement]
              | d :: rest''' =>
                if isContinuation d then
                  Char.ofNat (((a.toNat % 8 * 64 + payloadBits b) * 64 + payloadBits c) * 64 +
                    payloadBits d) :: decodeUtf8 rest'''
                else replacement :: decodeUtf8 (d :: rest''')
            else replacement :: decodeUtf8 (c :: rest'')
        else replacement :: decodeUtf8 (b :: rest')
    else replacement :: decodeUtf8 rest

def isHighSurrogate (unit : Nat) : Bool := 0xd800 ≤ unit && unit < 0xdc00

def isLowSurrogate (unit : Nat) : Bool := 0xdc00 ≤ unit && unit < 0xe000

/-- Decodes UTF-16 with the low byte of each unit first. -/
def decodeUtf16 : List UInt8 → List Char
  | [] => []
  | [_] => [replacement]
  | a :: b :: rest =>
    let unit := a.toNat + 256 * b.toNat
    if isHighSurrogate unit then
      match rest with
      | c :: d :: rest' =>
        let second := c.toNat + 256 * d.toNat
        if isLowSurrogate second then
          Char.ofNat (0x10000 + (unit - 0xd800) * 0x400 + (second - 0xdc00)) :: decodeUtf16 rest'
        -- the unit after an unpaired high surrogate is decoded on its own
        else replacement :: decodeUtf16 (c :: d :: rest')
      -- at the end the surrogate and an odd byte after it are replaced together
      | _ => [replacement]
    else if isLowSurrogate unit then replacement :: decodeUtf16 rest
    else Char.ofNat unit :: decodeUtf16 rest

namespace Encoding

/-- The text that bytes denote, undecodable bytes being replaced. -/
def decode : Encoding → List UInt8 → List Char
  | utf8, bs => decodeUtf8 bs
  | utf16le, bs => decodeUtf16 bs
  | latin1, bs => bs.map fun b => Char.ofNat b.toNat
  | ascii, bs => bs.map fun b => if b < 0x80 then Char.ofNat b.toNat else replacement

end Encoding

/-- A registry of codecs: under which names bytes are decoded, and into which text or why into none,
undecodable bytes being replaced. The encodings here are registered in it under all of their names.
-/
class Codecs where
  decoder? : String → Option (List UInt8 → Except CodecFault String)
  standard {name : String} {e : Encoding} (known : Encoding.named? name = some e) :
    decoder? name = some fun bytes => .ok (String.ofList (e.decode bytes))

/-- The registry of no other encodings than the ones here. -/
@[reducible]
def Codecs.least : Codecs where
  decoder? name :=
    (Encoding.named? name).map fun e bytes => .ok (String.ofList (e.decode bytes))
  standard known := by rw [known, Option.map_some]

end WasmHost.Text
