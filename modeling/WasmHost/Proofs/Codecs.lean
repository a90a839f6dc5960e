import WasmHost.Proofs.LittleEndian
import WasmHost.Text.Encoding
/-!
Encoding and decoding undo each other.

The bytes of each character are told by the encoding. In UTF-8 and in UTF-16 they form a sequence,
which is decoded as this character whatever follows, and bytes that begin with no sequence are
decoded with a replacement. So a text is got back from its bytes, and bytes are got back from their
text unless there is a replacement in it.
-/
namespace WasmHost.Text

theorem toNat_charOfNat {n : Nat} (valid : n.isValidChar) : (Char.ofNat n).toNat = n := by
  rw [Char.ofNat, dif_pos valid]
  rfl

/-- The bytes of a number in UTF-8: what may follow a byte depends on the first one, so that there
is neither an overlong form nor a surrogate. -/
inductive Utf8Sequence : List UInt8 → Nat → Prop where
  | one {a : UInt8} {n : Nat} (lead : a.toNat < 0x80) (number : n = a.toNat) : Utf8Sequence [a] n
  | two {a b : UInt8} {n : Nat} (lead : 0xc2 ≤ a.toNat ∧ a.toNat ≤ 0xdf)
      (second : isContinuation b = true) (number : n = a.toNat % 32 * 64 + payloadBits b) :
      Utf8Sequence [a, b] n
  | three {a b c : UInt8} {n : Nat} (lead : 0xe0 ≤ a.toNat ∧ a.toNat ≤ 0xef)
      (second : isSecondOfThree a b = true) (third : isContinuation c = true)
      (number : n = (a.toNat % 16 * 64 + payloadBits b) * 64 + payloadBits c) :
      Utf8Sequence [a, b, c] n
  | four {a b c d : UInt8} {n : Nat} (lead : 0xf0 ≤ a.toNat ∧ a.toNat ≤ 0xf4)
      (second : isSecondOfFour a b = true) (third : isContinuation c = true)
      (fourth : isContinuation d = true)
      (number : n = ((a.toNat % 8 * 64 + payloadBits b) * 64 + payloadBits c) * 64 +
        payloadBits d) : Utf8Sequence [a, b, c, d] n

section Utf8

variable {a b : UInt8} {bytes : List UInt8} {n : Nat}

theorem isContinuation_iff : isContinuation b = true ↔ 0x80 ≤ b.toNat ∧ b.toNat ≤ 0xbf := by
  simp [isContinuation, UInt8.le_iff_toNat_le]

theorem isSecondOfThree_iff : isSecondOfThree a b = true ↔
    (if a.toNat = 0xe0 then 0xa0 else 0x80) ≤ b.toNat ∧
      b.toNat ≤ if a.toNat = 0xed then 0x9f else 0xbf := by
  unfold isSecondOfThree
  simp [UInt8.le_iff_toNat_le, ← UInt8.toNat_inj, apply_ite UInt8.toNat]

theorem isSecondOfFour_iff : isSecondOfFour a b = true ↔
    (if a.toNat = 0xf0 then 0x90 else 0x80) ≤ b.toNat ∧
      b.toNat ≤ if a.toNat = 0xf4 then 0x8f else 0xbf := by
  unfold isSecondOfFour
  simp [UInt8.le_iff_toNat_le, ← UInt8.toNat_inj, apply_ite UInt8.toNat]

theorem isContinuation_of_isSecondOfThree (second : isSecondOfThree a b = true) :
    isContinuation b = true := by
  rw [isSecondOfThree_iff] at second
  rw [isContinuation_iff]
  split at second <;> split at second <;> omega

theorem isContinuation_of_isSecondOfFour (second : isSecondOfFour a b = true) :
    isContinuation b = true := by
  rw [isSecondOfFour_iff] at second
  rw [isContinuation_iff]
  split at second <;> split at second <;> omega

theorem byte_range_iff {low high : UInt8} :
    (decide (low ≤ a) && decide (a ≤ high)) = true ↔
      low.toNat ≤ a.toNat ∧ a.toNat ≤ high.toNat := by
  rw [Bool.and_eq_true, decide_eq_true_eq, decide_eq_true_eq, UInt8.le_iff_toNat_le,
    UInt8.le_iff_toNat_le]

/-- A sequence is decoded as one character, whatever follows. -/
theorem Utf8Sequence.decode_append (sequence : Utf8Sequence bytes n) (rest : List UInt8) :
    decodeUtf8 (bytes ++ rest) = Char.ofNat n :: decodeUtf8 rest := by
  -- by the number of bytes; the lead byte excludes the shorter sequences
  cases sequence with
  | one lead number =>
    subst number
    rw [List.singleton_append, decodeUtf8.eq_def]
    exact if_pos lead
  | two lead second number =>
    subst number
    simp only [List.cons_append, List.nil_append]
    rw [decodeUtf8.eq_def]
    simp only [byte_range_iff, UInt8.lt_iff_toNat_lt, UInt8.reduceToNat]
    rw [if_neg (by omega), if_pos lead, if_pos second]
  | three lead second third number =>
    subst number
    simp only [List.cons_append, List.nil_append]
    rw [decodeUtf8.eq_def]
    simp only [byte_range_iff, UInt8.lt_iff_toNat_lt, UInt8.reduceToNat]
    rw [if_neg (by omega), if_neg (by omega), if_pos lead, if_pos second, if_pos third]
  | four lead second third fourth number =>
    subst number
    simp only [List.cons_append, List.nil_append]
    rw [decodeUtf8.eq_def]
    simp only [byte_range_iff, UInt8.lt_iff_toNat_lt, UInt8.reduceToNat]
    rw [if_neg (by omega), if_neg (by omega), if_neg (by omega), if_pos lead, if_pos second,
      if_pos third, if_pos fourth]

/-- Bytes begin with a sequence, or are decoded with a replacement. -/
theorem utf8Sequence_or_replacement (bs : List UInt8) (hbs : bs ≠ []) :
    (∃ bytes n rest, Utf8Sequence bytes n ∧ bs = bytes ++ rest) ∨ replacement ∈ decodeUtf8 bs := by
  fun_cases decodeUtf8 bs with
  | case1 => exact absurd rfl hbs
  | case2 a rest lead => exact Or.inl ⟨_, _, rest, .one lead rfl, rfl⟩
  | case4 a _ lead b rest second =>
    exact Or.inl ⟨_, _, rest, .two (byte_range_iff.mp lead) second rfl, rfl⟩
  | case8 a _ _ lead b second c rest third =>
    exact Or.inl ⟨_, _, rest, .three (byte_range_iff.mp lead) second third rfl, rfl⟩
  | case14 a _ _ _ lead b second c third d rest fourth =>
    exact Or.inl ⟨_, _, rest, .four (byte_range_iff.mp lead) second third fourth rfl, rfl⟩
  -- in all other cases a replacement comes first
  | _ => exact Or.inr List.mem_cons_self

-- The bytes of a number in UTF-8.
theorem utf8EncodeChar_ofNat (valid : n.isValidChar) :
    String.utf8EncodeChar (Char.ofNat n) =
      if n ≤ 0x7f then [UInt8.ofNat n]
      else if n ≤ 0x7ff then [UInt8.ofNat (n / 64 % 32 + 0xc0), UInt8.ofNat (n % 64 + 0x80)]
      else if n ≤ 0xffff then
        [UInt8.ofNat (n / 4096 % 16 + 0xe0), UInt8.ofNat (n / 64 % 64 + 0x80),
          UInt8.ofNat (n % 64 + 0x80)]
      else
        [UInt8.ofNat (n / 262144 % 8 + 0xf0), UInt8.ofNat (n / 4096 % 64 + 0x80),
          UInt8.ofNat (n / 64 % 64 + 0x80), UInt8.ofNat (n % 64 + 0x80)] := by
  have hn : (Char.ofNat n).val.toNat = n := toNat_charOfNat valid
  unfold String.utf8EncodeChar
  simp only [hn]

theorem toNat_byteOfNat {k : Nat} (hk : k < 256) : (UInt8.ofNat k).toNat = k := by
  rw [UInt8.toNat_ofNat', Nat.mod_eq_of_lt hk]

/-- The byte that holds the low six bits of a number. -/
theorem isContinuation_payload (k : Nat) :
    isContinuation (UInt8.ofNat (k % 64 + 0x80)) = true ∧
      payloadBits (UInt8.ofNat (k % 64 + 0x80)) = k % 64 := by
  rw [isContinuation_iff, payloadBits, toNat_byteOfNat (by omega)]
  omega

theorem utf8Sequence_encodeChar (valid : n.isValidChar) :
    Utf8Sequence (String.utf8EncodeChar (Char.ofNat n)) n := by
  rw [utf8EncodeChar_ofNat valid]
  unfold Nat.isValidChar at valid
  obtain ⟨hlast, hlow⟩ := isContinuation_payload n
  obtain ⟨hmiddle, hmid⟩ := isContinuation_payload (n / 64)
  obtain ⟨hupper, hup⟩ := isContinuation_payload (n / 4096)
  -- by the size of the number, in seven, eleven, sixteen or twenty-one bits
  split
  · have lead := toNat_byteOfNat (k := n) (by omega)
    exact .one (by omega) lead.symm
  split
  · have lead := toNat_byteOfNat (k := n / 64 % 32 + 0xc0) (by omega)
    exact .two (by omega) hlast (by omega)
  split
  · have lead := toNat_byteOfNat (k := n / 4096 % 16 + 0xe0) (by omega)
    have second := toNat_byteOfNat (k := n / 64 % 64 + 0x80) (by omega)
    refine .three (by omega) ?_ hlast (by omega)
    rw [isSecondOfThree_iff, lead, second]
    split <;> split <;> omega
  · have lead := toNat_byteOfNat (k := n / 262144 % 8 + 0xf0) (by omega)
    have second := toNat_byteOfNat (k := n / 4096 % 64 + 0x80) (by omega)
    refine .four (by omega) ?_ hmiddle hlast (by omega)
    rw [isSecondOfFour_iff, lead, second]
    split <;> split <;> omega

theorem Utf8Sequence.encodeChar_eq (sequence : Utf8Sequence bytes n) :
    n.isValidChar ∧ String.utf8EncodeChar (Char.ofNat n) = bytes := by
  -- a byte is determined by its number
  have hbyte {k : Nat} {b : UInt8} (hk : k = b.toNat) : UInt8.ofNat k = b := by
    rw [hk, UInt8.ofNat_toNat]
  cases sequence with
  | one lead number =>
    have valid : n.isValidChar := Or.inl (by omega)
    rw [utf8EncodeChar_ofNat valid, if_pos (by omega), hbyte number]
    exact ⟨valid, rfl⟩
  | @two a b _ lead second number =>
    have hb := isContinuation_iff.mp second
    unfold payloadBits at number
    have valid : n.isValidChar := Or.inl (by omega)
    have hfirst : n / 64 % 32 + 0xc0 = a.toNat := by omega
    have hsecond : n % 64 + 0x80 = b.toNat := by omega
    rw [utf8EncodeChar_ofNat valid, if_neg (by omega), if_pos (by omega), hbyte hfirst,
      hbyte hsecond]
    exact ⟨valid, rfl⟩
  | @three a b c _ lead second third number =>
    have hb := isContinuation_iff.mp (isContinuation_of_isSecondOfThree second)
    have hc := isContinuation_iff.mp third
    rw [isSecondOfThree_iff] at second
    unfold payloadBits at number
    -- neither an overlong form nor a surrogate
    have hrange : 0x800 ≤ n ∧ (n < 0xd800 ∨ 0xdfff < n) ∧ n ≤ 0xffff := by
      split at second <;> split at second <;> omega
    clear second
    have valid : n.isValidChar := by
      unfold Nat.isValidChar
      omega
    have hfirst : n / 4096 % 16 + 0xe0 = a.toNat := by omega
    have hsecond : n / 64 % 64 + 0x80 = b.toNat := by omega
    have hthird : n % 64 + 0x80 = c.toNat := by omega
    rw [utf8EncodeChar_ofNat valid, if_neg (by omega), if_neg (by omega), if_pos (by omega),
      hbyte hfirst, hbyte hsecond, hbyte hthird]
    exact ⟨valid, rfl⟩
  | @four a b c d _ lead second third fourth number =>
    have hb := isContinuation_iff.mp (isContinuation_of_isSecondOfFour second)
    have hc := isContinuation_iff.mp third
    have hd := isContinuation_iff.mp fourth
    rw [isSecondOfFour_iff] at second
    unfold payloadBits at number
    -- neither an overlong form nor a number past the last code point
    have hrange : 0x10000 ≤ n ∧ n < 0x110000 := by
      split at second <;> split at second <;> omega
    clear second
    have valid : n.isValidChar := Or.inr ⟨by omega, hrange.2⟩
    have hfirst : n / 262144 % 8 + 0xf0 = a.toNat := by omega
    have hsecond : n / 4096 % 64 + 0x80 = b.toNat := by omega
    have hthird : n / 64 % 64 + 0x80 = c.toNat := by omega
    have hfourth : n % 64 + 0x80 = d.toNat := by omega
    rw [utf8EncodeChar_ofNat valid, if_neg (by omega), if_neg (by omega), if_neg (by omega),
      hbyte hfirst, hbyte hsecond, hbyte hthird, hbyte hfourth]
    exact ⟨valid, rfl⟩

-- Only the sequence of zero has a zero byte.
theorem Utf8Sequence.zero_not_mem (sequence : Utf8Sequence bytes n) (hn : n ≠ 0) : 0 ∉ bytes := by
  have hpos {b : UInt8} (hb : 0 < b.toNat) : 0 ≠ b := by
    intro hzero
    rw [← hzero] at hb
    exact absurd hb (by decide)
  -- no byte behind the first one is below 0x80
  have hlater {b : UInt8} (hb : isContinuation b = true) : 0 ≠ b := by
    rw [isContinuation_iff] at hb
    exact hpos (by omega)
  cases sequence with
  | one lead number =>
    rw [List.mem_singleton]
    exact hpos (by omega)
  | two lead second number =>
    simp only [List.mem_cons, List.not_mem_nil, or_false, not_or]
    exact ⟨hpos (by omega), hlater second⟩
  | three lead second third number =>
    simp only [List.mem_cons, List.not_mem_nil, or_false, not_or]
    exact ⟨hpos (by omega), hlater (isContinuation_of_isSecondOfThree second), hlater third⟩
  | four lead second third fourth number =>
    simp only [List.mem_cons, List.not_mem_nil, or_false, not_or]
    exact ⟨hpos (by omega), hlater (isContinuation_of_isSecondOfFour second), hlater third,
      hlater fourth⟩

end Utf8

/-- The bytes of a number in UTF-16: a unit that is no surrogate, or a pair of surrogates. -/
inductive Utf16Sequence : List UInt8 → Nat → Prop where
  | unit {a b : UInt8} {n : Nat} (number : n = a.toNat + 256 * b.toNat)
      (notHigh : ¬isHighSurrogate n = true) (notLow : ¬isLowSurrogate n = true) :
      Utf16Sequence [a, b] n
  | pair {a b c d : UInt8} {n : Nat} (high : isHighSurrogate (a.toNat + 256 * b.toNat) = true)
      (low : isLowSurrogate (c.toNat + 256 * d.toNat) = true)
      (number : n = 0x10000 + (a.toNat + 256 * b.toNat - 0xd800) * 0x400 +
        (c.toNat + 256 * d.toNat - 0xdc00)) : Utf16Sequence [a, b, c, d] n

/-- The bytes of a character in UTF-16. -/
def utf16EncodeChar (c : Char) : List UInt8 :=
  if c.toNat < 0x10000 then littleEndianBytes 2 c.toNat
  else littleEndianBytes 2 (0xd800 + (c.toNat - 0x10000) / 0x400) ++
    littleEndianBytes 2 (0xdc00 + (c.toNat - 0x10000) % 0x400)

section Utf16

variable {bytes : List UInt8} {n : Nat}

theorem isHighSurrogate_iff : isHighSurrogate n = true ↔ 0xd800 ≤ n ∧ n < 0xdc00 := by
  rw [isHighSurrogate, Bool.and_eq_true, decide_eq_true_eq, decide_eq_true_eq]

theorem isLowSurrogate_iff : isLowSurrogate n = true ↔ 0xdc00 ≤ n ∧ n < 0xe000 := by
  rw [isLowSurrogate, Bool.and_eq_true, decide_eq_true_eq, decide_eq_true_eq]

-- A sequence is decoded as one character, whatever follows.
theorem Utf16Sequence.decode_append (sequence : Utf16Sequence bytes n) (rest : List UInt8) :
    decodeUtf16 (bytes ++ rest) = Char.ofNat n :: decodeUtf16 rest := by
  cases sequence with
  | unit number notHigh notLow =>
    -- a unit that is no surrogate stands for itself
    subst number
    simp only [List.cons_append, List.nil_append]
    rw [decodeUtf16.eq_def]
    dsimp only
    rw [if_neg notHigh, if_neg notLow]
  | pair high low number =>
    rw [number]
    simp only [List.cons_append, List.nil_append]
    rw [decodeUtf16.eq_def]
    dsimp only
    rw [if_pos high, if_pos low]

-- Bytes begin with a sequence, or are decoded with a replacement.
theorem utf16Sequence_or_replacement (bs : List UInt8) (hbs : bs ≠ []) :
    (∃ bytes n rest, Utf16Sequence bytes n ∧ bs = bytes ++ rest) ∨
      replacement ∈ decodeUtf16 bs := by
  fun_cases decodeUtf16 bs with
  | case1 => exact absurd rfl hbs
  | case3 a b unit high c d rest second low => exact Or.inl ⟨_, _, rest, .pair high low rfl, rfl⟩
  | case7 a b rest unit notHigh notLow =>
    exact Or.inl ⟨_, _, rest, .unit rfl notHigh notLow, rfl⟩
  | _ => exact Or.inr List.mem_cons_self

/-- The two bytes of a unit. -/
theorem littleEndianBytes_unit {k : Nat} (hk : k < 0x10000) :
    ∃ a b : UInt8, littleEndianBytes 2 k = [a, b] ∧ a.toNat + 256 * b.toNat = k := by
  refine ⟨UInt8.ofNat k, UInt8.ofNat (k / 256), rfl, ?_⟩
  rw [UInt8.toNat_ofNat', UInt8.toNat_ofNat']
  omega

theorem littleEndianBytes_of_unit (a b : UInt8) :
    littleEndianBytes 2 (a.toNat + 256 * b.toNat) = [a, b] :=
  littleEndianBytes_littleEndian [a, b]

theorem utf16EncodeChar_ofNat (valid : n.isValidChar) : utf16EncodeChar (Char.ofNat n) =
    if n < 0x10000 then littleEndianBytes 2 n
    else littleEndianBytes 2 (0xd800 + (n - 0x10000) / 0x400) ++
      littleEndianBytes 2 (0xdc00 + (n - 0x10000) % 0x400) := by
  rw [utf16EncodeChar, toNat_charOfNat valid]

theorem utf16Sequence_encodeChar (valid : n.isValidChar) :
    Utf16Sequence (utf16EncodeChar (Char.ofNat n)) n := by
  rw [utf16EncodeChar_ofNat valid]
  unfold Nat.isValidChar at valid
  -- one unit below 0x10000, and a pair of surrogates above
  split
  · obtain ⟨a, b, hbytes, hunit⟩ := littleEndianBytes_unit (k := n) (by omega)
    rw [hbytes]
    apply Utf16Sequence.unit hunit.symm
    · rw [isHighSurrogate_iff]
      omega
    · rw [isLowSurrogate_iff]
      omega
  · obtain ⟨a, b, hfirst, hhigh⟩ :=
      littleEndianBytes_unit (k := 0xd800 + (n - 0x10000) / 0x400) (by omega)
    obtain ⟨c, d, hsecond, hlow⟩ :=
      littleEndianBytes_unit (k := 0xdc00 + (n - 0x10000) % 0x400) (by omega)
    rw [hfirst, hsecond]
    apply Utf16Sequence.pair
    · rw [hhigh, isHighSurrogate_iff]
      omega
    · rw [hlow, isLowSurrogate_iff]
      omega
    · rw [hhigh, hlow]
      omega

theorem Utf16Sequence.encodeChar_eq (sequence : Utf16Sequence bytes n) :
    n.isValidChar ∧ utf16EncodeChar (Char.ofNat n) = bytes := by
  cases sequence with
  | @unit a b _ number notHigh notLow =>
    rw [isHighSurrogate_iff] at notHigh
    rw [isLowSurrogate_iff] at notLow
    have ha := a.toNat_lt
    have hb := b.toNat_lt
    have valid : n.isValidChar := by
      unfold Nat.isValidChar
      omega
    rw [utf16EncodeChar_ofNat valid, if_pos (by omega), number, littleEndianBytes_of_unit]
    exact ⟨number ▸ valid, rfl⟩
  | @pair a b c d _ high low number =>
    rw [isHighSurrogate_iff] at high
    rw [isLowSurrogate_iff] at low
    have valid : n.isValidChar := Or.inr (by omega)
    have hfirst : 0xd800 + (n - 0x10000) / 0x400 = a.toNat + 256 * b.toNat := by omega
    have hsecond : 0xdc00 + (n - 0x10000) % 0x400 = c.toNat + 256 * d.toNat := by omega
    rw [utf16EncodeChar_ofNat valid, if_neg (by omega), hfirst, hsecond, littleEndianBytes_of_unit,
      littleEndianBytes_of_unit]
    exact ⟨valid, rfl⟩

end Utf16

namespace Encoding

/-- The bytes of a character, if an encoding has it. -/
def encodeChar? : Encoding → Char → Option (List UInt8)
  | utf8, c => some (String.utf8EncodeChar c)
  | utf16le, c => some (utf16EncodeChar c)
  | latin1, c => if c.toNat < 0x100 then some [UInt8.ofNat c.toNat] else none
  | ascii, c => if c.toNat < 0x80 then some [UInt8.ofNat c.toNat] else none

/-- The bytes of a text, if an encoding has all its characters. -/
def encode? (e : Encoding) : List Char → Option (List UInt8)
  | [] => some []
  | c :: rest =>
    match e.encodeChar? c, e.encode? rest with
    | some bytes, some others => some (bytes ++ others)
    | _, _ => none

variable {e : Encoding} {c : Char} {cs : List Char} {bytes : List UInt8}

theorem encode?_cons_eq_some : e.encode? (c :: cs) = some bytes ↔
    ∃ first others, e.encodeChar? c = some first ∧ e.encode? cs = some others ∧
      bytes = first ++ others := by
  rw [encode?]
  cases e.encodeChar? c with
  | none => simp
  | some first =>
    cases e.encode? cs with
    | none => simp
    | some others => simp [eq_comm]

theorem encodeChar?_byte {limit : Nat} (hlimit : limit ≤ 0x100)
    (encoded : (if c.toNat < limit then some [UInt8.ofNat c.toNat] else none) = some bytes) :
    ∃ b : UInt8, bytes = [b] ∧ b.toNat < limit ∧ c = Char.ofNat b.toNat := by
  by_cases hc : c.toNat < limit
  · rw [if_pos hc, Option.some.injEq] at encoded
    have hb : (UInt8.ofNat c.toNat).toNat = c.toNat := toNat_byteOfNat (by omega)
    refine ⟨UInt8.ofNat c.toNat, encoded.symm, by omega, ?_⟩
    rw [hb, Char.ofNat_toNat]
  · rw [if_neg hc] at encoded
    cases encoded

-- The bytes of a character are decoded as this character, whatever follows.
theorem decode_append (encoded : e.encodeChar? c = some bytes) (rest : List UInt8) :
    e.decode (bytes ++ rest) = c :: e.decode rest := by
  have valid : c.toNat.isValidChar := c.valid
  have hself : Char.ofNat c.toNat = c := Char.ofNat_toNat c
  -- each codec decodes what it has encoded for one character
  cases e with
  | utf8 =>
    injection encoded with hbytes
    have sequence := utf8Sequence_encodeChar valid
    rw [hself, hbytes] at sequence
    rw [decode, decode, sequence.decode_append, hself]
  | utf16le =>
    injection encoded with hbytes
    have sequence := utf16Sequence_encodeChar valid
    rw [hself, hbytes] at sequence
    rw [decode, decode, sequence.decode_append, hself]
  | latin1 =>
    obtain ⟨b, rfl, -, hc⟩ := encodeChar?_byte (Nat.le_refl _) encoded
    rw [hc]
    rfl
  | ascii =>
    obtain ⟨b, rfl, hb, hc⟩ := encodeChar?_byte (by decide) encoded
    have hlow : b < 0x80 := UInt8.lt_iff_toNat_lt.mpr hb
    rw [hc, decode, decode, List.singleton_append, List.map_cons, if_pos hlow]

theorem encodeChar?_ne_nil (encoded : e.encodeChar? c = some bytes) : bytes ≠ [] := by
  intro hnone
  -- nothing would be decoded as one character more than nothing is
  have hlength := congrArg List.length (decode_append encoded [])
  rw [hnone, List.nil_append, List.length_cons] at hlength
  omega

-- Bytes begin with those of a character, or are decoded with a replacement.
theorem encodeChar?_or_replacement (e : Encoding) {bs : List UInt8} (hbs : bs ≠ []) :
    (∃ c bytes rest, e.encodeChar? c = some bytes ∧ bs = bytes ++ rest) ∨
      replacement ∈ e.decode bs := by
  -- a byte is the number of the character that it stands for
  have hbyte {b : UInt8} : (Char.ofNat b.toNat).toNat = b.toNat := by
    have hlt := b.toNat_lt
    exact toNat_charOfNat (Or.inl (by omega))
  cases e with
  | utf8 =>
    rcases utf8Sequence_or_replacement bs hbs with ⟨bytes, n, rest, sequence, hsplit⟩ | hreplaced
    · exact Or.inl ⟨_, bytes, rest, congrArg some sequence.encodeChar_eq.2, hsplit⟩
    · exact Or.inr hreplaced
  | utf16le =>
    rcases utf16Sequence_or_replacement bs hbs with ⟨bytes, n, rest, sequence, hsplit⟩ | hreplaced
    · exact Or.inl ⟨_, bytes, rest, congrArg some sequence.encodeChar_eq.2, hsplit⟩
    · exact Or.inr hreplaced
  | latin1 =>
    obtain ⟨b, rest, rfl⟩ := List.exists_cons_of_ne_nil hbs
    refine Or.inl ⟨Char.ofNat b.toNat, [b], rest, ?_, rfl⟩
    rw [encodeChar?, hbyte, if_pos b.toNat_lt, UInt8.ofNat_toNat]
  | ascii =>
    obtain ⟨b, rest, rfl⟩ := List.exists_cons_of_ne_nil hbs
    by_cases hlow : b < 0x80
    · refine Or.inl ⟨Char.ofNat b.toNat, [b], rest, ?_, rfl⟩
      have hlt : b.toNat < 0x80 := UInt8.lt_iff_toNat_lt.mp hlow
      rw [encodeChar?, hbyte, if_pos hlt, UInt8.ofNat_toNat]
    · right
      rw [decode, List.map_cons, if_neg hlow]
      exact List.mem_cons_self

theorem decode_of_encode? (encoded : e.encode? cs = some bytes) : e.decode bytes = cs := by
  induction cs generalizing bytes with
  | nil =>
    injection encoded with hbytes
    subst hbytes
    cases e <;> rfl
  | cons c cs ih =>
    obtain ⟨first, others, hfirst, hothers, rfl⟩ := encode?_cons_eq_some.mp encoded
    rw [decode_append hfirst, ih hothers]

theorem encode?_decode {bs : List UInt8} (hnone : replacement ∉ e.decode bs) :
    e.encode? (e.decode bs) = some bs := by
  -- the bytes behind the first character are fewer
  induction hlength : bs.length using Nat.strongRecOn generalizing bs with
  | ind length ih =>
    subst hlength
    by_cases hbs : bs = []
    · subst hbs
      cases e <;> rfl
    rcases e.encodeChar?_or_replacement hbs with ⟨c, first, rest, hfirst, rfl⟩ | hreplaced
    · have hpos : 0 < first.length := List.length_pos_iff.mpr (encodeChar?_ne_nil hfirst)
      rw [decode_append hfirst] at hnone ⊢
      have hrest := ih rest.length (by rw [List.length_append]; omega)
        (fun hmem => hnone (List.mem_cons_of_mem c hmem)) rfl
      exact encode?_cons_eq_some.mpr ⟨first, rest, hfirst, hrest, rfl⟩
    · exact absurd hreplaced hnone

-- Where units are bytes, only the character of number zero has a zero byte.
theorem zero_not_mem_encodeChar? (he : e ≠ utf16le) (hc : c ≠ '\x00')
    (encoded : e.encodeChar? c = some bytes) : 0 ∉ bytes := by
  have hnumber : c.toNat ≠ 0 := by
    intro hzero
    exact hc (Char.toNat_inj.mp hzero)
  -- where characters are bytes, only the zero character is encoded as zero
  have hsingle {b : UInt8} (hb : c = Char.ofNat b.toNat) : 0 ∉ [b] := by
    rw [List.mem_singleton]
    rintro rfl
    exact hc hb
  cases e with
  | utf8 =>
    injection encoded with hbytes
    have valid : c.toNat.isValidChar := c.valid
    have sequence := utf8Sequence_encodeChar valid
    rw [Char.ofNat_toNat, hbytes] at sequence
    exact sequence.zero_not_mem hnumber
  | utf16le => exact absurd rfl he
  | latin1 =>
    obtain ⟨b, rfl, -, hb⟩ := encodeChar?_byte (Nat.le_refl _) encoded
    exact hsingle hb
  | ascii =>
    obtain ⟨b, rfl, -, hb⟩ := encodeChar?_byte (by decide) encoded
    exact hsingle hb

theorem zero_not_mem_encode? (he : e ≠ utf16le) (hcs : '\x00' ∉ cs)
    (encoded : e.encode? cs = some bytes) : 0 ∉ bytes := by
  -- by induction on the text: none of its characters gives a zero byte
  induction cs generalizing bytes with
  | nil =>
    injection encoded with hbytes
    subst hbytes
    exact List.not_mem_nil
  | cons c cs ih =>
    obtain ⟨first, others, hfirst, hothers, rfl⟩ := encode?_cons_eq_some.mp encoded
    rw [List.mem_cons, not_or] at hcs
    rw [List.mem_append]
    rintro (hmem | hmem)
    · exact zero_not_mem_encodeChar? he (Ne.symm hcs.1) hfirst hmem
    · exact ih hcs.2 hothers hmem

end Encoding
end WasmHost.Text
