import WasmHost.Proofs.StoredTexts
/-!
Texts of two-byte units that are stored in a memory.

The end of a text is the first zero byte, whatever the encoding. In UTF-16 a unit below 256 has a
zero for its high byte and a multiple of 256 one for its low byte, and a text with such a unit ends
inside of it. So a text is read back exactly if none of its units is of this kind.
-/
namespace WasmHost

open Text (Encoding replacement)

namespace Text

variable {c : Char} {cs : List Char} {bytes : List UInt8} {n : Nat}

/-- A text as it is read when its end is taken to be the first zero byte. It goes up to the first
character with a zero byte; if there are bytes of this character in front of the zero, they are
replaced. -/
def cutAtZero : List Char → List Char
  | [] => []
  | c :: rest =>
    if 0 ∈ utf16EncodeChar c then
      if (utf16EncodeChar c).head? = some 0 then [] else [replacement]
    else c :: cutAtZero rest

theorem byte_eq_zero_iff {b : UInt8} : 0 = b ↔ b.toNat = 0 := by
  rw [eq_comm, ← UInt8.toNat_inj]
  rfl

/-- Which bytes of a sequence can be zero: either byte of a single unit, and the low bytes of a
pair. -/
theorem Utf16Sequence.zero_mem_iff (sequence : Utf16Sequence bytes n) :
    0 ∈ bytes ↔ n < 0x100 ∨ n % 0x100 = 0 ∨ 0x10000 ≤ n ∧ (n - 0x10000) / 0x400 % 0x100 = 0 := by
  -- the zero byte is the high or the low one of a unit; surrogates have none as their high byte
  cases sequence with
  | @unit a b _ number notHigh notLow =>
    have ha := a.toNat_lt
    have hb := b.toNat_lt
    simp only [List.mem_cons, List.not_mem_nil, or_false, byte_eq_zero_iff]
    omega
  | @pair a b c d _ high low number =>
    rw [isHighSurrogate_iff] at high
    rw [isLowSurrogate_iff] at low
    have ha := a.toNat_lt
    have hc := c.toNat_lt
    simp only [List.mem_cons, List.not_mem_nil, or_false, byte_eq_zero_iff]
    omega

/-- What there is in front of the first zero of a sequence is nothing, or is decoded as one
replacement: it is a single byte, or a surrogate without the other one of its pair. -/
theorem Utf16Sequence.cut (sequence : Utf16Sequence bytes n) (hzero : 0 ∈ bytes) :
    ∃ first rest, bytes = first ++ 0 :: rest ∧ 0 ∉ first ∧
      decodeUtf16 first = if bytes.head? = some 0 then [] else [replacement] := by
  cases sequence with
  | @unit a b _ number notHigh notLow =>
    -- the zero is the low byte of the unit, or the high one behind a low byte that is not zero
    by_cases ha : a = 0
    · subst ha
      exact ⟨[], [b], rfl, List.not_mem_nil, rfl⟩
    · have hb : b = 0 := by simpa [Ne.symm ha, eq_comm] using hzero
      subst hb
      refine ⟨[a], [], rfl, by simpa [eq_comm] using ha, ?_⟩
      rw [List.head?_cons, if_neg (by simpa using ha)]
      rfl
  | @pair a b c d _ high low number =>
    -- the high bytes of surrogates lie between 0xd8 and 0xdf
    have hb : b ≠ 0 := by
      rintro rfl
      rw [isHighSurrogate_iff] at high
      have ha := a.toNat_lt
      simp at high
      omega
    have hd : d ≠ 0 := by
      rintro rfl
      rw [isLowSurrogate_iff] at low
      have hc := c.toNat_lt
      simp at low
      omega
    by_cases ha : a = 0
    · subst ha
      exact ⟨[], [b, c, d], rfl, List.not_mem_nil, rfl⟩
    · have hc : c = 0 := by simpa [Ne.symm ha, Ne.symm hb, Ne.symm hd, eq_comm] using hzero
      subst hc
      refine ⟨[a, b], [d], rfl, by simp [Ne.symm ha, Ne.symm hb], ?_⟩
      rw [List.head?_cons, if_neg (by simpa using ha), decodeUtf16.eq_def]
      exact if_pos high

theorem utf16Sequence_encode (c : Char) : Utf16Sequence (utf16EncodeChar c) c.toNat := by
  have sequence := utf16Sequence_encodeChar (n := c.toNat) c.valid
  rwa [Char.ofNat_toNat] at sequence

/-- The bytes of a text with a zero character behind it end in front of their first zero, and what
is decoded from there is the text, cut. -/
theorem encode?_cut (encoded : Encoding.utf16le.encode? (cs ++ ['\x00']) = some bytes) :
    ∃ stored rest, bytes = stored ++ 0 :: rest ∧ 0 ∉ stored ∧
      decodeUtf16 stored = cutAtZero cs := by
  -- by induction on the text: nothing is cut off before the first character with a zero byte
  induction cs generalizing bytes with
  | nil =>
    obtain rfl : [0, 0] = bytes := Option.some.inj encoded
    exact ⟨[], [0], rfl, List.not_mem_nil, rfl⟩
  | cons c cs ih =>
    obtain ⟨first, others, hfirst, hothers, rfl⟩ := Encoding.encode?_cons_eq_some.mp encoded
    obtain rfl : utf16EncodeChar c = first := Option.some.inj hfirst
    rw [cutAtZero]
    by_cases hzero : 0 ∈ utf16EncodeChar c
    -- the character has a zero byte, so that the text is cut within it
    · obtain ⟨before, after, hbytes, hnone, hdecoded⟩ := (utf16Sequence_encode c).cut hzero
      rw [if_pos hzero]
      refine ⟨before, after ++ others, ?_, hnone, hdecoded⟩
      rw [hbytes, List.append_assoc, List.cons_append]
    -- it has none, so that it is read, and the rest is cut
    · obtain ⟨stored, rest, rfl, hnone, hdecoded⟩ := ih hothers
      rw [if_neg hzero]
      refine ⟨utf16EncodeChar c ++ stored, rest, (List.append_assoc ..).symm, ?_, ?_⟩
      · rw [List.mem_append, not_or]
        exact ⟨hzero, hnone⟩
      · rw [← hdecoded]
        exact Encoding.decode_append hfirst stored

/-- A text is cut unless none of its characters has a zero byte: a replacement would be one that has
none. -/
theorem cutAtZero_eq_self_iff : cutAtZero cs = cs ↔ ∀ c ∈ cs, 0 ∉ utf16EncodeChar c := by
  -- by induction on the text; a cut leaves a replacement, which has no zero byte itself
  induction cs with
  | nil => simp [cutAtZero]
  | cons c cs ih =>
    rw [cutAtZero, List.forall_mem_cons]
    by_cases hzero : 0 ∈ utf16EncodeChar c
    · rw [if_pos hzero]
      refine iff_of_false ?_ fun hnone => hnone.1 hzero
      split
      · exact (List.cons_ne_nil c cs).symm
      · intro hsame
        rw [← (List.cons.inj hsame).1] at hzero
        exact absurd hzero (by decide)
    · rw [if_neg hzero, List.cons.injEq, ih]
      exact ⟨fun h => ⟨hzero, h.2⟩, fun h => ⟨rfl, h.2⟩⟩

end Text

namespace LinearMemory

variable {m : LinearMemory} {name : String} {s : String} {bytes : List UInt8} {start : Nat}

section

variable [Text.Codecs]

theorem readText_wide (known : Encoding.named? name = some .utf16le)
    (nonzero : name.contains '\x00' = false)
    (encoded : Encoding.utf16le.encode? (s.toList ++ ['\x00']) = some bytes)
    (holds : bytes <+: m.toList.drop start) :
    m.readText start name = .ok (String.ofList (Text.cutAtZero s.toList)) := by
  obtain ⟨stored, rest, rfl, hnone, hdecoded⟩ := Text.encode?_cut encoded
  have hstored : stored ++ [0] <+: m.toList.drop start := by
    refine List.IsPrefix.trans ?_ holds
    exact ⟨rest, by rw [List.append_assoc, List.singleton_append]⟩
  obtain ⟨ends, hextract⟩ := EndsAt.of_stored hnone hstored
  rw [m.readText_of_ends known nonzero ends, hextract, ← hdecoded]
  rfl

/-- Under every name of UTF-16, a text that is stored with a zero character behind it is read,
without any fault, up to its first character with a zero byte. So the text is read back exactly if
the numbers of its characters are neither below 256 nor multiples of 256, and no pair of surrogates
begins with a multiple of 256. -/
theorem wide_text_read_iff (known : Encoding.named? name = some .utf16le)
    (nonzero : name.contains '\x00' = false)
    (encoded : Encoding.utf16le.encode? (s.toList ++ ['\x00']) = some bytes)
    (holds : bytes <+: m.toList.drop start) :
    m.readText start name = .ok (String.ofList (Text.cutAtZero s.toList)) ∧
      (m.readText start name = .ok s ↔ ∀ c ∈ s.toList,
        ¬(c.toNat < 0x100 ∨ c.toNat % 0x100 = 0 ∨
          0x10000 ≤ c.toNat ∧ (c.toNat - 0x10000) / 0x400 % 0x100 = 0)) := by
  have hread := readText_wide known nonzero encoded holds
  refine ⟨hread, ?_⟩
  rw [hread, Except.ok.injEq, ← String.toList_inj, String.toList_ofList,
    Text.cutAtZero_eq_self_iff]
  exact forall₂_congr fun c _ => not_congr (Text.utf16Sequence_encode c).zero_mem_iff

end

section

attribute [local instance] Text.Codecs.least

/-- A text of Greek letters is read back, and a Latin letter behind one of them is replaced. -/
theorem wide_text_read_greek :
    let m := (zeroed 16).write 2 [0xb1, 0x03, 0xb2, 0x03, 0, 0, 0xb1, 0x03, 0x7a, 0, 0, 0]
    Encoding.named? "utf-16-le" = some .utf16le ∧
      m.readText 2 "utf-16-le" = .ok "αβ" ∧ m.readText 8 "utf-16-le" = .ok "α\ufffd" := by
  intro m
  have known : Encoding.named? "utf-16-le" = some .utf16le := by decide +kernel
  have nonzero : "utf-16-le".contains '\x00' = false := by simp
  have hgreek : Encoding.utf16le.encode? ("αβ".toList ++ ['\x00']) =
      some [0xb1, 0x03, 0xb2, 0x03, 0, 0] := by decide +kernel
  have hlatin : Encoding.utf16le.encode? ("αz".toList ++ ['\x00']) =
      some [0xb1, 0x03, 0x7a, 0, 0, 0] := by decide +kernel
  refine ⟨known, ?_, ?_⟩
  · refine (wide_text_read_iff (m := m) known nonzero hgreek (by decide +kernel)).2.mpr ?_
    exact List.forall_mem_cons.mpr ⟨by decide +kernel,
      List.forall_mem_singleton.mpr (by decide +kernel)⟩
  · exact (wide_text_read_iff (m := m) known nonzero hlatin (by decide +kernel)).1

/-- The text of one Latin letter is stored, with a zero character behind it, and is not read back:
the zero byte of the letter is taken for the end. -/
theorem wide_letter_replaced :
    let m := (zeroed 4).write 0 [0x61, 0, 0, 0]
    Encoding.utf16le.encode? ("a".toList ++ ['\x00']) = some m.toList ∧
      m.readText 0 "utf-16-le" = .ok "\ufffd" ∧
      ¬∀ (m : LinearMemory) (s : String) (bytes : List UInt8) (start : Nat),
        '\x00' ∉ s.toList → Encoding.utf16le.encode? (s.toList ++ ['\x00']) = some bytes →
          bytes <+: m.toList.drop start → m.readText start "utf-16-le" = .ok s := by
  intro m
  have encoded : Encoding.utf16le.encode? ("a".toList ++ ['\x00']) = some m.toList := by
    decide +kernel
  have hread : m.readText (0 : Nat) "utf-16-le" = .ok "\ufffd" :=
    readText_wide (by decide +kernel) (by simp) encoded (List.prefix_refl _)
  refine ⟨encoded, hread, fun hclaim => ?_⟩
  -- a text that is read back has its letter
  have hback := hclaim m "a" m.toList 0 (by decide +kernel) encoded (List.prefix_refl _)
  rw [hread, Except.ok.injEq] at hback
  exact absurd hback (by decide +kernel)

end

end LinearMemory
end WasmHost
