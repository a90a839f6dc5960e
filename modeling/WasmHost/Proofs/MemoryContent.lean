import WasmHost.Proofs.Operation
/-!
The content of a memory as a list of bytes, and what views answer by it.

How the bytes are stored is nobody's concern: what a change does to the content is a change of the
list, and memories of the same content give the same answers.
-/
namespace WasmHost

/-- More bytes than any memory has: a size is a number of 64 bits. -/
def addressSpace : Nat := wordCount 64

/-- A change of a memory. -/
inductive MemoryChange where
  /-- Cut, or extended with zeros, to a size. -/
  | resize (size : Nat)
  /-- Bytes written from an address on, as far as the memory reaches. -/
  | write (start : Nat) (data : List UInt8)
  /-- Bytes written from an address on; past its end the memory becomes longer. -/
  | splice (start : Nat) (data : List UInt8)

namespace MemoryChange

/-- Makes a change. -/
def apply (m : LinearMemory) : MemoryChange → LinearMemory
  | resize size => m.resize size
  | write start data => m.write start data
  | splice start data => m.splice start data

/-- What a change makes of a content. -/
def content (before : List UInt8) : MemoryChange → List UInt8
  | resize size => before.take size ++ List.replicate (size - before.length) 0
  | write start data =>
    before.take start ++ data.take (before.length - start) ++ before.drop (start + data.length)
  | splice start data => before.take start ++ data ++ before.drop (start + data.length)

end MemoryChange

namespace LinearMemory

variable {m m' : LinearMemory}

theorem getElem?_toList (m : LinearMemory) (i : Nat) :
    m.toList[i]? = if i < m.size then some (m.byteAt i) else none := by
  unfold toList bytes
  rw [List.getElem?_map, Nat.sub_zero]
  by_cases hi : i < m.size
  · rw [if_pos hi, List.getElem?_range' hi]
    simp
  · rw [if_neg hi, List.getElem?_eq_none (by simpa using hi)]
    rfl

/-- Memories have the same content when they are of one size and agree at each address. -/
theorem toList_eq_iff : m.toList = m'.toList ↔ m.size = m'.size ∧ m.byteAt = m'.byteAt := by
  constructor
  · intro heq
    have hsize : m.size = m'.size := by
      have hlength := congrArg List.length heq
      simpa using hlength
    refine ⟨hsize, funext fun i => ?_⟩
    by_cases hi : i < m.size
    · have hi' : i < m'.size := hsize ▸ hi
      have hget := m.getElem?_toList i
      rw [heq, m'.getElem?_toList i, if_pos hi, if_pos hi'] at hget
      exact (Option.some.inj hget).symm
    · have hle : m.size ≤ i := Nat.le_of_not_lt hi
      rw [m.byteAt_eq_zero hle, m'.byteAt_eq_zero (hsize ▸ hle)]
  · rintro ⟨hsize, hbyte⟩
    unfold toList bytes
    rw [hsize, hbyte]

theorem size_write (m : LinearMemory) (start : Nat) (data : List UInt8) :
    (m.write start data).size = m.size := by
  induction data generalizing m start with
  | nil => rfl
  | cons b rest ih => rw [write, ih, size_set]

theorem byteAt_write (m : LinearMemory) (start : Nat) (data : List UInt8) {i : Nat}
    (hi : i < m.size) :
    (m.write start data).byteAt i =
      if start ≤ i ∧ i < start + data.length then data.getD (i - start) 0 else m.byteAt i := by
  -- by induction on the bytes; the first one stands at the start, the rest behind it
  induction data generalizing m start with
  | nil => rw [write, if_neg (by simp)]
  | cons b rest ih =>
    have hi' : i < (m.set start b).size := by rwa [size_set]
    rw [write, ih (m.set start b) (start + 1) hi']
    by_cases hlater : start + 1 ≤ i ∧ i < start + 1 + rest.length
    · obtain ⟨hfrom, hto⟩ := hlater
      have hnext : i - start = i - (start + 1) + 1 := by omega
      rw [if_pos ⟨hfrom, hto⟩, if_pos ⟨by omega, by simp only [List.length_cons]; omega⟩, hnext,
        List.getD_cons_succ]
    · rw [if_neg hlater]
      by_cases hfirst : i = start
      · subst hfirst
        rw [m.byteAt_set hi, if_pos rfl, if_pos ⟨Nat.le_refl i, by simp⟩, Nat.sub_self,
          List.getD_cons_zero]
      · have hout : ¬(start ≤ i ∧ i < start + (b :: rest).length) := by
          simp only [List.length_cons]
          omega
        rw [if_neg hout]
        by_cases hstart : start < m.size
        · rw [m.byteAt_set hstart, if_neg hfirst]
        · rw [set, dif_neg hstart]

theorem toList_resize (m : LinearMemory) (size : Nat) :
    (m.resize size).toList = m.toList.take size ++ List.replicate (size - m.size) 0 := by
  -- position by position, in what is kept of the memory or in the zeros behind it
  apply List.ext_getElem?
  intro i
  rw [getElem?_toList, size_resize, byteAt_resize, List.getElem?_append, List.length_take,
    length_toList, List.getElem?_take, getElem?_toList, List.getElem?_replicate]
  by_cases hsize : i < size
  · by_cases hold : i < m.size
    · have htake : i < min size m.size := by omega
      rw [if_pos hsize, if_pos hsize, if_pos htake, if_pos hsize, if_pos hold]
    · have htake : ¬i < min size m.size := by omega
      have hzero : i - min size m.size < size - m.size := by omega
      rw [if_pos hsize, if_pos hsize, if_neg htake, if_pos hzero,
        m.byteAt_eq_zero (Nat.le_of_not_lt hold)]
  · have htake : ¬i < min size m.size := by omega
    have hzero : ¬i - min size m.size < size - m.size := by omega
    rw [if_neg hsize, if_neg htake, if_neg hzero]

theorem toList_write (m : LinearMemory) (start : Nat) (data : List UInt8) :
    (m.write start data).toList = m.toList.take start ++ data.take (m.size - start) ++
      m.toList.drop (start + data.length) := by
  have hsize : m.toList.length = m.size := m.length_toList
  apply List.ext_getElem?
  intro i
  -- a position is before what is written, within it, or behind it
  by_cases hi : i < m.size
  · rw [getElem?_toList, size_write, if_pos hi, m.byteAt_write start data hi]
    by_cases hbefore : i < start
    · have htake : i < (m.toList.take start ++ data.take (m.size - start)).length := by
        simp only [List.length_append, List.length_take]
        omega
      have hhead : i < (m.toList.take start).length := by
        simp only [List.length_take]
        omega
      rw [if_neg (by omega), List.getElem?_append_left htake, List.getElem?_append_left hhead,
        List.getElem?_take, if_pos hbefore, getElem?_toList, if_pos hi]
    · have hhead : (m.toList.take start).length = start := by
        simp only [List.length_take]
        omega
      by_cases hwithin : i < start + data.length
      · have htake : i < (m.toList.take start ++ data.take (m.size - start)).length := by
          simp only [List.length_append, List.length_take]
          omega
        have hdata : i - start < data.length := by omega
        rw [if_pos ⟨by omega, hwithin⟩, List.getElem?_append_left htake,
          List.getElem?_append_right (by omega), hhead, List.getElem?_take, if_pos (by omega),
          List.getElem?_eq_getElem hdata, List.getD_eq_getElem?_getD,
          List.getElem?_eq_getElem hdata, Option.getD_some]
      · have htake : (m.toList.take start ++ data.take (m.size - start)).length =
            start + data.length := by
          simp only [List.length_append, List.length_take]
          omega
        have hthere : start + data.length + (i - (start + data.length)) = i := by omega
        rw [if_neg (by omega), List.getElem?_append_right (by omega), htake, List.getElem?_drop,
          hthere, getElem?_toList, if_pos hi]
  · have hend : (m.toList.take start ++ data.take (m.size - start) ++
        m.toList.drop (start + data.length)).length ≤ i := by
      simp only [List.length_append, List.length_take, List.length_drop]
      omega
    rw [getElem?_toList, size_write, if_neg hi, List.getElem?_eq_none hend]

theorem toList_splice (m : LinearMemory) (start : Nat) (data : List UInt8) :
    (m.splice start data).toList =
      m.toList.take start ++ data ++ m.toList.drop (start + data.length) := by
  have hsize : m.toList.length = m.size := m.length_toList
  -- what is written lies in the memory, which is as long as it has to be
  have hlonger : (m.resize (max m.size (min start m.size + data.length))).toList =
      m.toList ++ List.replicate (min start m.size + data.length - m.size) 0 := by
    rw [toList_resize, List.take_of_length_le (by omega)]
    congr 2
    omega
  unfold splice
  rw [toList_write, size_resize, hlonger, List.take_append_of_le_length (by omega),
    List.take_of_length_le (l := data) (by omega), List.drop_append]
  have hhead : m.toList.take (min start m.size) = m.toList.take start := by
    have hmin : m.toList.take start = m.toList.take (min start m.toList.length) :=
      List.take_eq_take_min
    rw [hmin, hsize]
  have htail : m.toList.drop (min start m.size + data.length) =
      m.toList.drop (start + data.length) := by
    by_cases hin : start ≤ m.size
    · rw [Nat.min_eq_left hin]
    · rw [List.drop_of_length_le (by omega), List.drop_of_length_le (by omega)]
  have hzeros : (List.replicate (min start m.size + data.length - m.size) (0 : UInt8)).drop
      (min start m.size + data.length - m.toList.length) = [] := by
    rw [List.drop_of_length_le (by simp only [List.length_replicate]; omega)]
  rw [hhead, htail, hzeros, List.append_nil]

end LinearMemory

-- What a change does to a memory it does to its content.
theorem MemoryChange.toList_apply (change : MemoryChange) (m : LinearMemory) :
    (change.apply m).toList = change.content m.toList := by
  cases change with
  | resize size =>
    rw [apply, content, m.toList_resize, m.length_toList]
  | write start data =>
    rw [apply, content, m.toList_write, m.length_toList]
  | splice start data => exact m.toList_splice start data

namespace LinearMemory

variable {m m' : LinearMemory}

section SameContent

variable (same : m.toList = m'.toList)

include same

theorem size_congr : m.size = m'.size := (toList_eq_iff.mp same).1

theorem bytes_congr : m.bytes = m'.bytes := by
  obtain ⟨-, hbyte⟩ := toList_eq_iff.mp same
  unfold bytes
  rw [hbyte]

theorem outOfBounds_congr : m.outOfBounds = m'.outOfBounds := by
  unfold outOfBounds
  rw [size_congr same]

theorem covers_congr : m.covers = m'.covers := by
  unfold covers
  rw [size_congr same]

theorem read_congr : m.read = m'.read := by
  unfold read
  rw [covers_congr same, bytes_congr same, outOfBounds_congr same]

theorem slice_congr : m.slice = m'.slice := by
  unfold slice
  rw [read_congr same, size_congr same]

theorem collect_congr (chunk position : Nat) (collected : List UInt8) :
    m.collect chunk position collected = m'.collect chunk position collected := by
  have hsize := size_congr same
  have hbytes := bytes_congr same
  -- along the chunks that are read, which are the same in both memories
  induction position, collected using collect.induct m chunk with
  | case1 position collected hin bytes hzero =>
    have hin' : position < m'.size ∧ 0 < chunk := hsize ▸ hin
    rw [collect, dif_pos hin, collect, dif_pos hin', if_pos hzero, ← hbytes, ← hsize, if_pos hzero]
  | case2 position collected hin bytes hzero ih =>
    have hin' : position < m'.size ∧ 0 < chunk := hsize ▸ hin
    rw [collect, dif_pos hin, collect, dif_pos hin', if_neg hzero, ← hbytes, ← hsize, if_neg hzero]
    exact ih
  | case3 position collected hout =>
    have hout' : ¬(position < m'.size ∧ 0 < chunk) := hsize ▸ hout
    rw [collect, dif_neg hout, collect, dif_neg hout']

variable [Platform]

theorem readText_congr : m.readText = m'.readText := by
  funext offset encoding
  unfold readText
  rw [covers_congr same, collect_congr same, outOfBounds_congr same]

theorem readArray_congr : m.readArray = m'.readArray := by
  unfold readArray
  rw [read_congr same]

theorem answer_congr (request : ViewRequest) : request.answer m = request.answer m' := by
  have hsize := size_congr same
  cases request with
  | size => rw [ViewRequest.answer, ViewRequest.answer, hsize]
  | pages => rw [ViewRequest.answer, ViewRequest.answer, pages, pages, hsize]
  | read offset length => rw [ViewRequest.answer, ViewRequest.answer, read_congr same]
  | index i => rw [ViewRequest.answer, ViewRequest.answer, index, index, read_congr same]
  | slice start stop step => rw [ViewRequest.answer, ViewRequest.answer, slice_congr same]
  | text offset encoding => rw [ViewRequest.answer, ViewRequest.answer, readText_congr same]
  | array name offset count => rw [ViewRequest.answer, ViewRequest.answer, readArray_congr same]
  | written => rw [ViewRequest.answer, ViewRequest.answer, viewText, viewText, hsize]

end SameContent

section Bounds

variable (m : LinearMemory) {offset length : Int}

theorem covers_iff : m.covers offset length = true ↔
    0 ≤ offset ∧ 0 ≤ length ∧ offset + length ≤ m.toList.length := by
  unfold covers
  rw [m.length_toList, Bool.and_eq_true, Bool.and_eq_true, decide_eq_true_eq, decide_eq_true_eq,
    decide_eq_true_eq, and_assoc]

theorem read_of_covers (hin : m.covers offset length = true) :
    m.read offset length = .ok ((m.toList.drop offset.toNat).take length.toNat) := by
  obtain ⟨hoffset, hlength, hend⟩ := m.covers_iff.mp hin
  rw [m.length_toList] at hend
  have hstop : (offset + length).toNat ≤ m.size := by omega
  have hcount : (offset + length).toNat - offset.toNat = length.toNat := by omega
  rw [read, if_pos hin, m.bytes_eq_drop_take hstop, hcount]

theorem read_of_not_covers (hout : ¬m.covers offset length = true) :
    m.read offset length = .error (m.outOfBounds offset length) := if_neg hout

/-- Inside the memory, bounds that count from the end when negative and are moved into the memory
select what is asked for: the check before has left nothing to move. -/
theorem between_of_covers (hin : m.covers offset length = true) :
    m.between offset (offset + length) = (m.toList.drop offset.toNat).take length.toNat := by
  obtain ⟨hoffset, hlength, hend⟩ := m.covers_iff.mp hin
  rw [m.length_toList] at hend
  -- both bounds lie in the memory already
  have hstart : Slice.clampBound m.size 0 m.size offset = offset := by
    unfold Slice.clampBound
    rw [if_neg (by omega)]
    omega
  have hstop : Slice.clampBound m.size 0 m.size (offset + length) = offset + length := by
    unfold Slice.clampBound
    rw [if_neg (by omega)]
    omega
  have hcount : (offset + length).toNat - offset.toNat = length.toNat := by omega
  rw [between, hstart, hstop, m.bytes_eq_drop_take (by omega), hcount]

/-- An index inside the memory gives the byte there. -/
theorem index_of_lt {i : Int} (hi : 0 ≤ i) (hend : i < m.toList.length) :
    ∃ b, m.toList[i.toNat]? = some b ∧ m.index i = .ok b := by
  have hin : m.covers i 1 = true := m.covers_iff.mpr ⟨hi, by decide, by omega⟩
  have hlt : i.toNat < m.toList.length := by omega
  have hread : (m.toList.drop i.toNat).take 1 = [m.toList[i.toNat]] := by
    rw [List.drop_eq_getElem_cons hlt, List.take_succ_cons, List.take_zero]
  refine ⟨m.toList[i.toNat], List.getElem?_eq_getElem hlt, ?_⟩
  rw [index, m.read_of_covers hin, Int.toNat_one, hread]
  rfl

theorem index_of_not_covers {i : Int} (hout : ¬m.covers i 1 = true) :
    m.index i = .error (m.outOfBounds i 1) := by
  rw [index, m.read_of_not_covers hout]
  rfl

theorem isWritable_size {m : LinearMemory} (hsize : m.size < addressSpace) :
    isWritable m.size = true := by
  have hdigits : addressSpace ≤ 10 ^ digitLimit := by
    have hsmall : addressSpace ≤ 10 ^ 20 := by decide
    exact hsmall.trans (Nat.pow_le_pow_right (by decide) (by decide))
  unfold isWritable
  rw [decide_eq_true_eq, Int.natAbs_natCast]
  exact hsize.trans_le hdigits

/-- A range that is not inside a memory is reported with its bounds and the size, where these can be
written. -/
theorem outOfBounds_eq {m : LinearMemory} (hsize : m.size < addressSpace)
    (hoffset : isWritable offset = true) (hlength : isWritable length = true) :
    m.outOfBounds offset length = .outOfBounds offset length m.toList.length := by
  rw [m.length_toList]
  apply Fault.raised_eq_self
  intro n hn
  simp only [Fault.integers, List.mem_cons, List.not_mem_nil, or_false] at hn
  rcases hn with rfl | rfl | rfl
  · exact hlength
  · exact hoffset
  · exact isWritable_size hsize

end Bounds

end LinearMemory
end WasmHost
