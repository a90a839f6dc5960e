import Mathlib.Logic.Function.Iterate
import WasmHost.Proofs.MemoryBounds
/-!
The search for the end of a text.

The text from an offset on ends before the next zero, and the bytes before this zero are decoded in
one go. The memory is searched chunk by chunk, and each chunk is read with the checks of every read.
What holds between two rounds is `TextSearch.Holds`: the bytes from the offset to the position that
has been reached are collected, and none of them is zero. So neither the size of a chunk nor where a
chunk ends can be seen in the outcome, which is what `TextOutcome` says by the content alone.
-/
namespace WasmHost

/-- The first zero at or after a start stands at `stop`. -/
structure EndsAt (content : List UInt8) (start stop : Nat) : Prop where
  le : start ≤ stop
  zero : content[stop]? = some 0
  first : ∀ i, start ≤ i → i < stop → content[i]? ≠ some 0

/-- How far the search for the end of a text has come. -/
inductive TextSearch where
  /-- The bytes before a position are collected, and the next chunk is to be read. -/
  | seeking (position : Nat) (collected : List UInt8)
  /-- The text has these bytes. -/
  | found (bytes : List UInt8)
  /-- The memory ends behind these bytes, before the text. -/
  | endless (bytes : List UInt8)
  /-- A chunk could not be read. -/
  | failed (fault : Fault)

namespace TextSearch

/-- The bytes that are read at a position: a chunk, or what is left. -/
def reach (m : LinearMemory) (chunk position : Nat) : Nat := min chunk (m.size - position)

/-- A round of the search. -/
def round (m : LinearMemory) (chunk : Nat) : TextSearch → TextSearch
  | seeking position collected =>
    if position < m.size then
      match m.read position (reach m chunk position) with
      | .error fault => failed fault
      | .ok bytes =>
        match bytes.idxOf? 0 with
        | some stop => found (collected ++ bytes.take stop)
        | none => seeking (position + bytes.length) (collected ++ bytes)
    else endless collected
  | search => search

/-- The search from a start after a number of rounds. -/
def after (m : LinearMemory) (chunk start rounds : Nat) : TextSearch :=
  (round m chunk)^[rounds] (seeking start [])

/-- What comes of a search that has ended: a way to decode is applied to the bytes that are found,
and a text without an end is reported as one byte more than there is. -/
def outcome? (m : LinearMemory) (decode : List UInt8 → Except Fault String) (start : Nat) :
    TextSearch → Option (Except Fault String)
  | seeking _ _ => none
  | found bytes => some (decode bytes)
  | endless bytes => some (.error (m.outOfBounds start (bytes.length + 1)))
  | failed fault => some (.error fault)

/-- What holds of a search between two rounds. -/
def Holds (content : List UInt8) (start : Nat) : TextSearch → Prop
  | seeking position collected =>
    start ≤ position ∧ position ≤ content.length ∧
      collected = content.extract start position ∧ 0 ∉ collected
  | found bytes => ∃ stop, EndsAt content start stop ∧ bytes = content.extract start stop
  | endless bytes => 0 ∉ content.drop start ∧ bytes = content.drop start
  | failed _ => False

end TextSearch

/-- What the reading of a text has to end with, by the content alone and with a way to decode. -/
structure TextOutcome (content : List UInt8) (decode : List UInt8 → Except Fault String)
    (offset : Int) (outcome : Except Fault String) : Prop where
  ended {start stop : Nat} (hstart : offset = start) (ends : EndsAt content start stop) :
    outcome = decode (content.extract start stop)
  endless {start : Nat} (hstart : offset = start) (inside : start ≤ content.length)
    (none : 0 ∉ content.drop start) :
    outcome = .error (.outOfBounds start (content.length - start + 1) content.length)
  outside (out : offset < 0 ∨ content.length < offset) :
    ∃ fault, outcome = .error fault ∧
      (isWritable offset = true → fault = .outOfBounds offset 0 content.length)

/-- What a search from a start has to do: it ends with an outcome, with one round at most for each
byte and one for the end, and later rounds change nothing; it reads only what is inside the memory,
and does not fail. -/
structure TextSearch.Succeeds (m : LinearMemory) (chunk : Nat)
    (decode : List UInt8 → Except Fault String) (start : Nat) (outcome : Except Fault String) :
    Prop where
  ends : ∃ rounds ≤ m.size - start + 1,
    ∀ later, (after m chunk start (rounds + later)).outcome? m decode start = some outcome
  inside {rounds position : Nat} {collected : List UInt8}
    (reached : after m chunk start rounds = seeking position collected) (left : position < m.size) :
    m.covers position (reach m chunk position) = true
  unfailed (rounds : Nat) (fault : Fault) : after m chunk start rounds ≠ failed fault

section Extract

variable {content : List UInt8} {start middle stop : Nat}

theorem extract_append (hle : start ≤ middle) (hle' : middle ≤ stop) :
    content.extract start middle ++ content.extract middle stop = content.extract start stop := by
  simp only [List.extract_eq_take_drop]
  have hdrop : content.drop middle = (content.drop start).drop (middle - start) := by
    rw [List.drop_drop]
    congr 1
    omega
  have hcount : stop - start = (middle - start) + (stop - middle) := by omega
  rw [hdrop, hcount, List.take_add]

theorem drop_eq_extract (hstop : content.length ≤ stop) :
    content.drop start = content.extract start stop := by
  rw [List.extract_eq_take_drop, List.take_of_length_le]
  rw [List.length_drop]
  omega

theorem drop_eq_extract_append (hle : start ≤ stop) :
    content.drop start = content.extract start stop ++ content.drop stop := by
  have hdrop (first : Nat) : content.drop first = content.extract first (content.length + stop) :=
    drop_eq_extract (Nat.le_add_right content.length stop)
  rw [hdrop start, hdrop stop, extract_append hle (Nat.le_add_left stop content.length)]

theorem not_mem_extract_iff {b : UInt8} :
    b ∉ content.extract start stop ↔ ∀ i, start ≤ i → i < stop → content[i]? ≠ some b := by
  -- a byte of the part is the byte of the whole at the shifted position
  have hget (i : Nat) (hi : i < stop - start) :
      (content.extract start stop)[i]? = content[start + i]? := by
    rw [List.extract_eq_take_drop, List.getElem?_take_of_lt hi, List.getElem?_drop]
  constructor
  · intro hnone i hfrom hto hi
    apply hnone
    apply List.mem_of_getElem? (i := i - start)
    rw [hget _ (by omega), Nat.add_sub_cancel' hfrom, hi]
  · intro hnone hmem
    obtain ⟨i, hi⟩ := List.mem_iff_getElem?.mp hmem
    have hlt : i < stop - start := by
      have hlength := (List.getElem?_eq_some_iff.mp hi).1
      rw [List.extract_eq_take_drop, List.length_take] at hlength
      omega
    rw [hget i hlt] at hi
    exact hnone (start + i) (Nat.le_add_right start i) (by omega) hi

end Extract

namespace EndsAt

variable {content : List UInt8} {start stop : Nat}

theorem lt_length (ends : EndsAt content start stop) : stop < content.length :=
  (List.getElem?_eq_some_iff.mp ends.zero).1

theorem takeWhile_eq (ends : EndsAt content start stop) :
    (content.drop start).takeWhile (· != 0) = content.extract start stop := by
  -- no byte before the end is zero, and the one at the end is
  have hnone : ∀ b ∈ content.extract start stop, (b != 0) = true := by
    intro b hb
    rw [bne_iff_ne]
    rintro rfl
    exact not_mem_extract_iff.mpr ends.first hb
  obtain ⟨hlt, hzero⟩ := List.getElem?_eq_some_iff.mp ends.zero
  rw [drop_eq_extract_append ends.le, List.takeWhile_append_of_pos hnone,
    List.drop_eq_getElem_cons hlt, hzero]
  simp

theorem mem_drop (ends : EndsAt content start stop) : 0 ∈ content.drop start := by
  obtain ⟨hlt, hzero⟩ := List.getElem?_eq_some_iff.mp ends.zero
  rw [drop_eq_extract_append ends.le, List.drop_eq_getElem_cons hlt, hzero]
  simp

end EndsAt

namespace TextSearch

variable {m : LinearMemory} {chunk start : Nat}

theorem covers_reach {position : Nat} (left : position < m.size) :
    m.covers position (reach m chunk position) = true := by
  apply m.covers_iff.mpr
  unfold reach
  rw [m.length_toList]
  omega

theorem read_reach {position : Nat} (left : position < m.size) :
    m.read position (reach m chunk position) =
      .ok (m.toList.extract position (position + reach m chunk position)) := by
  rw [m.read_of_covers (covers_reach left), List.extract_eq_take_drop, Int.toNat_natCast,
    Int.toNat_natCast, Nat.add_sub_cancel_left]

/-- A zero in a chunk is the end of the text that begins with the chunk, if it is the first one. -/
theorem endsAt_of_idxOf? {content : List UInt8} {position next index : Nat}
    (hindex : (content.extract position next).idxOf? 0 = some index) :
    (content.extract position next).take index = content.extract position (position + index) ∧
      EndsAt content position (position + index) := by
  -- the index is that of the first zero in the chunk
  obtain ⟨hlt, hzero, hfirst⟩ := List.idxOf?_eq_some_iff.mp hindex
  have hinside : index < next - position := by
    have hlength := hlt
    rw [List.extract_eq_take_drop, List.length_take] at hlength
    omega
  have hinitial : (content.extract position next).take index =
      content.extract position (position + index) := by
    simp only [List.extract_eq_take_drop, List.take_take]
    congr 1
    omega
  refine ⟨hinitial, Nat.le_add_right position index, ?_, not_mem_extract_iff.mp ?_⟩
  -- the zero is where the index says, and no byte before it is one
  · have hget := List.getElem?_eq_some_iff.mpr ⟨hlt, hzero⟩
    rwa [List.extract_eq_take_drop, List.getElem?_take_of_lt hinside, List.getElem?_drop] at hget
  · rw [← hinitial]
    intro hmem
    obtain ⟨i, hi, hbyte⟩ := List.mem_take_iff_getElem.mp hmem
    exact hfirst i (by omega) hbyte

-- A round ends at the end of the memory, or finds the first zero of the next chunk, or goes on
-- behind a chunk without a zero.
theorem round_cases (m : LinearMemory) (chunk position : Nat) (collected : List UInt8) :
    let next := position + reach m chunk position
    (m.size ≤ position ∧ round m chunk (seeking position collected) = endless collected) ∨
    (position < m.size ∧ ∃ stop, EndsAt m.toList position stop ∧
      round m chunk (seeking position collected) =
        found (collected ++ m.toList.extract position stop)) ∨
    (position < m.size ∧ 0 ∉ m.toList.extract position next ∧
      round m chunk (seeking position collected) =
        seeking next (collected ++ m.toList.extract position next)) := by
  intro next
  -- a round looks at the memory only as long as it has not come to its end
  by_cases left : position < m.size
  · right
    have hround : round m chunk (seeking position collected) =
        match (m.toList.extract position next).idxOf? 0 with
        | some stop => found (collected ++ (m.toList.extract position next).take stop)
        | none => seeking (position + (m.toList.extract position next).length)
            (collected ++ m.toList.extract position next) := by
      rw [round, if_pos left, read_reach left]
    rw [hround]
    cases hindex : (m.toList.extract position next).idxOf? 0 with
    | none =>
      right
      have hlength : (m.toList.extract position next).length = reach m chunk position := by
        rw [List.extract_eq_take_drop, List.length_take, List.length_drop, m.length_toList]
        dsimp only [next, reach]
        omega
      refine ⟨left, List.idxOf?_eq_none_iff.mp hindex, ?_⟩
      rw [hlength]
    | some index =>
      left
      obtain ⟨hinitial, ends⟩ := endsAt_of_idxOf? hindex
      refine ⟨left, position + index, ends, ?_⟩
      dsimp only
      rw [hinitial]
  · left
    refine ⟨Nat.le_of_not_lt left, ?_⟩
    rw [round, if_neg left]

/-- What holds before a round holds after it. -/
theorem Holds.round {search : TextSearch} (holds : search.Holds m.toList start) :
    (search.round m chunk).Holds m.toList start := by
  cases search with
  -- an ended search stays as it is
  | found bytes => exact holds
  | endless bytes => exact holds
  | failed fault => exact holds
  | seeking position collected =>
    -- a search that goes on holds the bytes from the start to the position, none of them zero
    obtain ⟨hfrom, hto, rfl, hnone⟩ := holds
    rw [m.length_toList] at hto
    rcases round_cases m chunk position (m.toList.extract start position) with
      ⟨hend, hround⟩ | ⟨left, ⟨stop, ends, hround⟩⟩ | ⟨left, hchunk, hround⟩
    · rw [hround]
      have hall : m.toList.drop start = m.toList.extract start position :=
        drop_eq_extract (by rw [m.length_toList]; exact hend)
      exact ⟨by rwa [hall], hall.symm⟩
    -- the zero is found behind bytes without one
    · rw [hround, extract_append hfrom ends.le]
      refine ⟨stop, ⟨hfrom.trans ends.le, ends.zero, ?_⟩, rfl⟩
      apply not_mem_extract_iff.mp
      rw [← extract_append hfrom ends.le, List.mem_append]
      rintro (hbefore | hbehind)
      · exact hnone hbefore
      · exact not_mem_extract_iff.mpr ends.first hbehind
    -- the next position is still inside, and the chunk has no zero either
    · rw [hround, extract_append hfrom (Nat.le_add_right _ _)]
      refine ⟨hfrom.trans (Nat.le_add_right _ _), ?_, rfl, ?_⟩
      · rw [m.length_toList]
        unfold reach
        omega
      · rw [← extract_append hfrom (Nat.le_add_right _ _), List.mem_append]
        rintro (hbefore | hbehind)
        · exact hnone hbefore
        · exact hchunk hbehind

theorem after_succ (rounds : Nat) :
    after m chunk start (rounds + 1) = (after m chunk start rounds).round m chunk :=
  Function.iterate_succ_apply' _ _ _

theorem holds_after (hstart : start ≤ m.size) (rounds : Nat) :
    (after m chunk start rounds).Holds m.toList start := by
  induction rounds with
  | zero =>
    refine ⟨Nat.le_refl start, by rwa [m.length_toList], ?_, List.not_mem_nil⟩
    rw [List.extract_eq_take_drop, Nat.sub_self, List.take_zero]
  | succ rounds ih =>
    rw [after_succ]
    exact ih.round

theorem seeking_of_round {search : TextSearch} {position : Nat} {collected : List UInt8}
    (reached : search.round m chunk = seeking position collected) :
    ∃ before gathered, search = seeking before gathered := by
  cases search with
  | seeking before gathered => exact ⟨before, gathered, rfl⟩
  | found bytes => cases reached
  | endless bytes => cases reached
  | failed fault => cases reached

/-- Each round that does not end the search gets at least one byte further. -/
theorem le_of_seeking (hchunk : 0 < chunk) {rounds position : Nat} {collected : List UInt8}
    (reached : after m chunk start rounds = seeking position collected) :
    start + rounds ≤ position := by
  -- by induction on the rounds; a round that goes on reaches at least one byte
  induction rounds generalizing position collected with
  | zero =>
    injection reached with hposition
    omega
  | succ rounds ih =>
    rw [after_succ] at reached
    obtain ⟨before, gathered, hbefore⟩ := seeking_of_round reached
    have hle := ih hbefore
    rw [hbefore] at reached
    rcases round_cases m chunk before gathered with
      ⟨-, hround⟩ | ⟨-, ⟨stop, -, hround⟩⟩ | ⟨left, -, hround⟩
    · cases hround.symm.trans reached
    · cases hround.symm.trans reached
    · injection hround.symm.trans reached with hposition
      unfold reach at hposition
      omega

/-- The search ends, with one round at most for each byte and one for the end. -/
theorem ended_after (hchunk : 0 < chunk) (position : Nat) (collected : List UInt8) :
    after m chunk start (m.size - start + 1) ≠ seeking position collected := by
  intro reached
  rw [after_succ] at reached
  obtain ⟨before, gathered, hbefore⟩ := seeking_of_round reached
  have hle := le_of_seeking hchunk hbefore
  rw [hbefore, round, if_neg (by omega)] at reached
  cases reached

/-- A search that has ended stays as it is. -/
theorem after_of_ended {rounds : Nat}
    (ended : ∀ position collected, after m chunk start rounds ≠ seeking position collected)
    (later : Nat) : after m chunk start (rounds + later) = after m chunk start rounds := by
  -- an ended search is left as it is by every later round
  induction later with
  | zero => rfl
  | succ later ih =>
    rw [← Nat.add_assoc, after_succ, ih]
    cases hafter : after m chunk start rounds with
    | seeking position collected => exact absurd hafter (ended position collected)
    | found bytes => rfl
    | endless bytes => rfl
    | failed fault => rfl

end TextSearch

namespace LinearMemory

variable (m : LinearMemory) {chunk : Nat}

/-- The text from an offset on, read in chunks of a size and decoded in a given way. -/
def readTextBy (chunk : Nat) (decode : List UInt8 → Except Fault String) (offset : Int) :
    Except Fault String :=
  if m.covers offset 0 then
    let (bytes, found) := m.collect chunk offset.toNat []
    if found then decode bytes else .error (m.outOfBounds offset (bytes.length + 1))
  else .error (m.outOfBounds offset 0)

variable {decode : List UInt8 → Except Fault String} {start stop : Nat}

theorem readTextBy_of_ends (hchunk : 0 < chunk) (ends : EndsAt m.toList start stop) :
    m.readTextBy chunk decode start = decode (m.toList.extract start stop) := by
  have hlt := ends.lt_length
  have hle := ends.le
  have hin : m.covers start 0 = true := m.covers_iff.mpr (by omega)
  have hfound : (m.toList.drop start).contains 0 = true := List.elem_eq_true_of_mem ends.mem_drop
  rw [readTextBy, if_pos hin, m.collect_eq hchunk, Int.toNat_natCast, hfound, ends.takeWhile_eq]
  rfl

theorem readTextBy_of_endless (hchunk : 0 < chunk) (inside : start ≤ m.size)
    (none : 0 ∉ m.toList.drop start) :
    m.readTextBy chunk decode start =
      .error (m.outOfBounds start ((m.toList.drop start).length + 1)) := by
  -- at the end of the memory nothing is covered but the empty range
  have hin : m.covers start 0 = true := m.covers_iff.mpr (by rw [m.length_toList]; omega)
  -- none of the bytes to the end is zero, so that all of them are collected
  have hmissing : (m.toList.drop start).contains 0 = false := by
    rw [← Bool.not_eq_true]
    intro hfound
    exact none (List.mem_of_elem_eq_true hfound)
  have hall : (m.toList.drop start).takeWhile (· != 0) = m.toList.drop start := by
    apply List.takeWhile_eq_self_iff.mpr
    intro b hb
    rw [bne_iff_ne]
    rintro rfl
    exact none hb
  rw [readTextBy, if_pos hin, m.collect_eq hchunk, Int.toNat_natCast, hmissing, hall]
  rfl

theorem readTextBy_of_outside {offset : Int} (hout : ¬m.covers offset 0 = true) :
    m.readTextBy chunk decode offset = .error (m.outOfBounds offset 0) := if_neg hout

-- A search that has ended gives what is read.
theorem outcome?_of_ended (hchunk : 0 < chunk) (inside : start ≤ m.size) {search : TextSearch}
    (holds : search.Holds m.toList start)
    (ended : ∀ position collected, search ≠ .seeking position collected) :
    search.outcome? m decode start = some (m.readTextBy chunk decode start) := by
  cases search with
  | seeking position collected => exact absurd rfl (ended position collected)
  | found bytes =>
    obtain ⟨stop, ends, rfl⟩ := holds
    rw [m.readTextBy_of_ends hchunk ends]
    rfl
  | endless bytes =>
    obtain ⟨none, rfl⟩ := holds
    rw [m.readTextBy_of_endless hchunk inside none]
    rfl
  | failed fault => exact holds.elim

theorem readTextBy_succeeds (hchunk : 0 < chunk) (inside : start ≤ m.size) :
    TextSearch.Succeeds m chunk decode start (m.readTextBy chunk decode start) where
  ends := by
    refine ⟨m.size - start + 1, Nat.le_refl _, fun later => ?_⟩
    have hended := @TextSearch.ended_after m chunk start hchunk
    rw [TextSearch.after_of_ended hended]
    exact m.outcome?_of_ended hchunk inside (TextSearch.holds_after inside _) hended
  inside := fun _ left => TextSearch.covers_reach left
  unfailed := fun rounds fault hfails => by
    have holds := @TextSearch.holds_after m chunk start inside rounds
    rw [hfails] at holds
    exact holds

theorem isWritable_of_le_addressSpace {n : Int} (hn : n.natAbs ≤ addressSpace) :
    isWritable n = true := by
  have hspace : isWritable addressSpace = true := by decide +kernel
  apply isWritable_of_le _ hspace
  rwa [Int.natAbs_natCast]

-- What is read is right by the content alone.
theorem readTextBy_outcome (hchunk : 0 < chunk) (fits : m.size < addressSpace) (offset : Int) :
    TextOutcome m.toList decode offset (m.readTextBy chunk decode offset) where
  ended := by
    rintro start stop rfl ends
    exact m.readTextBy_of_ends hchunk ends
  endless := by
    rintro start rfl inside none
    rw [m.length_toList] at inside
    have hlength : ((m.toList.drop start).length : Int) + 1 = m.toList.length - start + 1 := by
      rw [List.length_drop, m.length_toList]
      omega
    -- both numbers are at most the size and one more
    have hstart : isWritable start = true := isWritable_of_le_addressSpace (by omega)
    have hcount : isWritable (m.toList.length - start + 1) = true := by
      apply isWritable_of_le_addressSpace
      rw [m.length_toList]
      omega
    rw [m.readTextBy_of_endless hchunk inside none, hlength, outOfBounds_eq fits hstart hcount]
  outside := by
    intro out
    have hout : ¬m.covers offset 0 = true := by
      rw [m.covers_iff]
      omega
    refine ⟨_, m.readTextBy_of_outside hout, fun hoffset => ?_⟩
    exact outOfBounds_eq fits hoffset (isWritable_of_le_addressSpace (Nat.zero_le _))

section

variable [Text.Codecs]

/-- An unknown name of an encoding is found out only when there is something to decode. -/
theorem decodeNamed_eq_unknown_iff {encoding : String} {bytes : List UInt8} :
    decodeNamed encoding bytes = .error (.plain (.unknownEncoding encoding)) ↔
      bytes ≠ [] ∧ Text.Codecs.decoder? encoding = none ∧ encoding.contains '\x00' = false := by
  unfold decodeNamed
  -- the conversion of the name comes first, then the bytes, and the codec last
  cases hzero : encoding.contains '\x00' with
  | true => simp
  | false =>
    cases bytes with
    | nil => simp
    | cons b bytes =>
      cases Text.Codecs.decoder? encoding with
      | none => simp
      | some decode =>
        -- a codec that there is has reasons of its own to fail
        dsimp only
        cases decode (b :: bytes) with
        | error problem =>
          change Except.error (Fault.plain (.codec problem)) = _ ↔ _
          simp
        | ok text =>
          change Except.ok text = _ ↔ _
          simp

theorem ne_nil_of_lookupFault {encoding : String} {bytes : List UInt8} {fault : Fault}
    (fails : decodeNamed encoding bytes = .error fault)
    (lookup : FaultClass.lookupFault ∈ fault.lineage) : bytes ≠ [] := by
  rintro rfl
  unfold decodeNamed at fails
  split at fails
  · cases fails
    exact absurd lookup (by decide)
  · cases fails

theorem decodeNamed_of_named {name : String} {e : Text.Encoding}
    (known : Text.Encoding.named? name = some e) (nonzero : name.contains '\x00' = false)
    (bytes : List UInt8) : decodeNamed name bytes = .ok (String.ofList (e.decode bytes)) := by
  unfold decodeNamed
  rw [nonzero, Text.Codecs.standard known]
  cases bytes with
  | nil => cases e <;> rfl
  | cons b bytes => rfl

/-- However a memory is searched for the end of a text, what is read is what its content has in one
piece: the bytes from the offset up to the first zero, decoded once. The search ends, reads only
what is inside the memory, and does not fail. Whatever codecs are registered, the name of an
encoding is looked up only when there is something to decode, and then an unknown one is reported.
-/
theorem text_read_whole (m : LinearMemory) (fits : m.size < addressSpace) {chunk : Nat}
    (hchunk : 0 < chunk) (decode : List UInt8 → Except Fault String) (offset : Int) :
    TextOutcome m.toList decode offset (m.readTextBy chunk decode offset) ∧
    (∀ start : Nat, offset = start → start ≤ m.size →
      TextSearch.Succeeds m chunk decode start (m.readTextBy chunk decode offset)) ∧
    (∀ encoding, m.readText offset encoding = m.readTextBy chunk (decodeNamed encoding) offset) ∧
    (∀ (encoding : String) (start stop : Nat), offset = start → EndsAt m.toList start stop →
      (m.readText offset encoding = .error (.plain (.unknownEncoding encoding)) ↔
        start < stop ∧ Text.Codecs.decoder? encoding = none ∧
          encoding.contains '\x00' = false) ∧
      FaultClass.lookupFault ∈ (Fault.plain (.unknownEncoding encoding)).lineage ∧
      ∀ fault, m.readText offset encoding = .error fault →
        FaultClass.lookupFault ∈ fault.lineage → start < stop) := by
  have hsize : 0 < chunkSize := by decide
  refine ⟨m.readTextBy_outcome hchunk fits offset, ?_, ?_, ?_⟩
  · rintro start rfl inside
    exact m.readTextBy_succeeds hchunk inside
  · intro encoding
    -- the size of a chunk only says how the same bytes are collected
    change m.readTextBy chunkSize (decodeNamed encoding) offset = _
    simp only [readTextBy, m.collect_eq hsize, m.collect_eq hchunk]
  · rintro encoding start stop rfl ends
    -- an unknown name is a fault of its own class
    have hclass : FaultClass.lookupFault ∈ (Fault.plain (.unknownEncoding encoding)).lineage := by
      change FaultClass.lookupFault ∈ FaultClass.lookupFault.lineage
      decide
    have hread : m.readText start encoding = decodeNamed encoding (m.toList.extract start stop) :=
      m.readTextBy_of_ends hsize ends
    have hlt := ends.lt_length
    have hbytes : m.toList.extract start stop ≠ [] ↔ start < stop := by
      rw [← List.length_pos_iff, List.extract_eq_take_drop, List.length_take, List.length_drop]
      omega
    refine ⟨?_, hclass, fun fault fails lookup => ?_⟩
    · rw [hread, decodeNamed_eq_unknown_iff, hbytes]
    · rw [hread] at fails
      exact hbytes.mp (ne_nil_of_lookupFault fails lookup)

end

section

attribute [local instance] Text.Codecs.least

/-- A character of two bytes is cut by chunks of one byte, and is read in one piece. -/
theorem text_read_whole_cut :
    let m := (zeroed 4).write 0 [0xc3, 0xa9, 0, 0x61]
    m.size < addressSpace ∧ EndsAt m.toList 0 2 ∧
      m.readTextBy 1 (decodeNamed "utf-8") 0 = .ok "é" ∧ m.readText 0 "utf-8" = .ok "é" ∧
      (TextSearch.after m 1 0 1).outcome? m (decodeNamed "utf-8") 0 = none ∧
      TextSearch.Succeeds m 1 (decodeNamed "utf-8") 0 (.ok "é") := by
  intro m
  have fits : m.size < addressSpace := by decide +kernel
  have ends : EndsAt m.toList 0 2 :=
    ⟨by decide, by decide +kernel, not_mem_extract_iff.mp (by decide +kernel)⟩
  obtain ⟨hright, hsucceeds, hnamed, -⟩ :=
    m.text_read_whole fits Nat.one_pos (decodeNamed "utf-8") 0
  have known : Text.Encoding.named? "utf-8" = some .utf8 := by decide +kernel
  have hchars : Text.Encoding.utf8.decode (m.toList.extract 0 2) = ['é'] := by decide +kernel
  have hdecoded : decodeNamed "utf-8" (m.toList.extract 0 2) = .ok "é" := by
    rw [decodeNamed_of_named known (by simp), hchars]
  have hread : m.readTextBy 1 (decodeNamed "utf-8") 0 = .ok "é" :=
    (hright.ended rfl ends).trans hdecoded
  -- the text was read in chunks of one byte
  refine ⟨fits, ends, hread, (hnamed "utf-8").trans hread, rfl, ?_⟩
  exact hread ▸ hsucceeds 0 rfl (Nat.zero_le _)

end

end LinearMemory
end WasmHost
