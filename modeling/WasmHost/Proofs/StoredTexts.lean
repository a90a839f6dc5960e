import WasmHost.Proofs.Codecs
import WasmHost.Proofs.TextSearch
/-!
Texts that are stored in a memory.

A text stands in a memory as its bytes and a zero behind them. Where the units of the encoding are
bytes, no character but the one of number zero has a zero byte, so that the first zero is the one
behind the text. What is read there is the text; and the other way round the bytes before a zero are
those of the text that is read, unless something had to be replaced.
-/
namespace WasmHost

open Text (Encoding replacement)

/-- Bytes without a zero and with a zero behind them end there. -/
theorem EndsAt.of_stored {content bytes : List UInt8} {start : Nat} (hbytes : 0 ∉ bytes)
    (stored : bytes ++ [0] <+: content.drop start) :
    EndsAt content start (start + bytes.length) ∧
      content.extract start (start + bytes.length) = bytes := by
  obtain ⟨rest, hrest⟩ := stored
  rw [List.append_assoc] at hrest
  -- the range from the start over the bytes is what was stored
  have hextract : content.extract start (start + bytes.length) = bytes := by
    rw [List.extract_eq_take_drop, Nat.add_sub_cancel_left, ← hrest, List.take_left]
  refine ⟨⟨Nat.le_add_right _ _, ?_, ?_⟩, hextract⟩
  · rw [← List.getElem?_drop, ← hrest, List.getElem?_append_right (Nat.le_refl _), Nat.sub_self]
    rfl
  · apply not_mem_extract_iff.mp
    rwa [hextract]

namespace LinearMemory

variable (m : LinearMemory) {name : String} {e : Encoding} {start stop : Nat}

section

variable [Text.Codecs]

theorem readText_of_ends (known : Encoding.named? name = some e)
    (nonzero : name.contains '\x00' = false) (ends : EndsAt m.toList start stop) :
    m.readText start name =
      .ok (String.ofList (e.decode (m.toList.extract start stop))) := by
  have hread : m.readText start name = decodeNamed name (m.toList.extract start stop) :=
    m.readTextBy_of_ends (by decide) ends
  rw [hread, decodeNamed_of_named known nonzero]

/-- What reading texts of an encoding under a name has to do. -/
structure ReadsTexts (m : LinearMemory) (e : Encoding) (name : String) : Prop where
  /-- A text whose bytes are in the memory, with a zero behind them, is read. -/
  stored {s : String} {bytes : List UInt8} {start : Nat} (hs : '\x00' ∉ s.toList)
    (encoded : e.encode? s.toList = some bytes) (holds : bytes ++ [0] <+: m.toList.drop start) :
    m.readText start name = .ok s
  /-- The bytes up to the first zero are those of the text that is read, if it has no replacement.
  -/
  lossless {start stop : Nat} (ends : EndsAt m.toList start stop) :
    ∃ s : String, m.readText start name = .ok s ∧
      s.toList = e.decode (m.toList.extract start stop) ∧
      (replacement ∉ s.toList → e.encode? s.toList = some (m.toList.extract start stop))

theorem readsTexts (hunits : e ≠ .utf16le) (known : Encoding.named? name = some e)
    (nonzero : name.contains '\x00' = false) : ReadsTexts m e name where
  stored := by
    intro s bytes start hs encoded holds
    -- no character but the zero has a zero byte, so that the end is the one that was stored
    have hbytes := Encoding.zero_not_mem_encode? hunits hs encoded
    obtain ⟨ends, hextract⟩ := EndsAt.of_stored hbytes holds
    rw [m.readText_of_ends known nonzero ends, hextract, Encoding.decode_of_encode? encoded,
      String.ofList_toList]
  lossless := by
    intro start stop ends
    refine ⟨_, m.readText_of_ends known nonzero ends, String.toList_ofList, ?_⟩
    rw [String.toList_ofList]
    exact Encoding.encode?_decode

/-- Texts of an encoding whose units are bytes are read back, under every name of the encoding. -/
theorem stored_text_read (m : LinearMemory) :
    (ReadsTexts m .utf8 "utf-8" ∧ ReadsTexts m .ascii "ascii" ∧
      ReadsTexts m .latin1 "latin-1") ∧
    ∀ e ∈ [Encoding.utf8, Encoding.ascii, Encoding.latin1], ∀ name,
      Encoding.named? name = some e → name.contains '\x00' = false → ReadsTexts m e name := by
  constructor
  · exact ⟨m.readsTexts (by decide) (by decide +kernel) (by simp),
      m.readsTexts (by decide) (by decide +kernel) (by simp),
      m.readsTexts (by decide) (by decide +kernel) (by simp)⟩
  · intro e he name known nonzero
    -- every encoding but the wide one has single bytes for its units
    have hunits : e ≠ .utf16le := by
      rintro rfl
      exact absurd he (by decide)
    exact m.readsTexts hunits known nonzero

end

section

attribute [local instance] Text.Codecs.least

/-- A text of characters of one to four bytes is read under two names of its encoding. -/
theorem stored_text_read_widths :
    let m := (zeroed 16).write 2 [0x61, 0xc3, 0xa9, 0xe2, 0x82, 0xac, 0xf0, 0x9d, 0x84, 0x9e, 0]
    Encoding.named? "U8" = some .utf8 ∧ "U8".contains '\x00' = false ∧
      Encoding.utf8.encode? "aé€𝄞".toList = some (m.toList.extract 2 12) ∧
      m.readText 2 "utf-8" = .ok "aé€𝄞" ∧ m.readText 2 "U8" = .ok "aé€𝄞" := by
  intro m
  have known : Encoding.named? "U8" = some .utf8 := by decide +kernel
  have nonzero : "U8".contains '\x00' = false := by simp
  have encoded : Encoding.utf8.encode? "aé€𝄞".toList = some (m.toList.extract 2 12) := by
    decide +kernel
  obtain ⟨⟨hreads, -⟩, hnamed⟩ := m.stored_text_read
  have holds : m.toList.extract 2 12 ++ [0] <+: m.toList.drop 2 := by decide +kernel
  have hread {name : String} (reads : ReadsTexts m .utf8 name) : m.readText 2 name = .ok "aé€𝄞" :=
    @ReadsTexts.stored _ _ _ _ reads _ _ 2 (by decide +kernel) encoded holds
  exact ⟨known, nonzero, encoded, hread hreads,
    hread (hnamed .utf8 (by decide) "U8" known nonzero)⟩

end

end LinearMemory
end WasmHost
