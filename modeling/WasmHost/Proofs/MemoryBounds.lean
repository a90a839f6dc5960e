import Mathlib.Data.List.TakeWhile
import WasmHost.Fault.Lineage
import WasmHost.Fault.Detail
import WasmHost.Proofs.MemoryRuns
import WasmHost.Proofs.Rejection
/-!
Accesses that reach outside a memory.

An access asks for a range of bytes: a range of its own, one byte, the bytes between two bounds, the
elements of an array, or the bytes up to the end of a text. When the range is not inside the memory
the access fails, and what is reported is the range and the size. Bounds are integers of any size,
and two of the lengths are computed, so that a length can be longer than anything that was given;
the message writes all three numbers, and cannot be made when one of them is too long.
-/
namespace WasmHost

namespace LinearMemory

theorem collect_eq (m : LinearMemory) {chunk : Nat} (hchunk : 0 < chunk) (position : Nat)
    (collected : List UInt8) :
    m.collect chunk position collected =
      (collected ++ (m.toList.drop position).takeWhile (· != 0),
        (m.toList.drop position).contains 0) := by
  have hlength : m.toList.length = m.size := m.length_toList
  -- what is left is the next chunk and the rest behind it, which is empty behind the end
  have hsplit (position : Nat) : m.toList.drop position =
      m.bytes position (min (position + chunk) m.size) ++ m.toList.drop (position + chunk) := by
    rw [m.bytes_eq_drop_take (Nat.min_le_right _ _), ← List.drop_drop]
    by_cases hend : position + chunk ≤ m.size
    · rw [Nat.min_eq_left hend, Nat.add_sub_cancel_left, List.take_append_drop]
    · rw [List.take_of_length_le (by rw [List.length_drop]; omega),
        List.drop_of_length_le (i := chunk) (by rw [List.length_drop]; omega), List.append_nil]
  -- along the chunks: one with a zero ends the text, and any other goes into it whole
  induction position, collected using collect.induct m chunk with
  | case1 position collected hin bytes hzero =>
    have hfound : (m.toList.drop position).takeWhile (· != 0) = bytes.takeWhile (· != 0) := by
      rw [hsplit, List.takeWhile_append, if_neg]
      intro hall
      have hself := (List.takeWhile_sublist (· != 0)).eq_of_length hall
      have hbyte := List.takeWhile_eq_self_iff.mp hself 0 (List.mem_of_elem_eq_true hzero)
      exact absurd hbyte (by decide)
    have hcontains : (m.toList.drop position).contains 0 = true := by
      rw [hsplit, List.contains_append, Bool.or_eq_true]
      exact Or.inl hzero
    rw [collect, dif_pos hin, if_pos hzero, hfound, hcontains]
  | case2 position collected hin bytes hzero ih =>
    have hnone : ∀ b ∈ bytes, (b != 0) = true := by
      intro b hb
      rw [bne_iff_ne]
      rintro rfl
      exact hzero (List.elem_eq_true_of_mem hb)
    have hcontains : (m.toList.drop position).contains 0 =
        (m.toList.drop (position + chunk)).contains 0 := by
      rw [hsplit position, List.contains_append, Bool.eq_false_of_not_eq_true hzero, Bool.false_or]
    rw [collect, dif_pos hin, if_neg hzero, ih, hcontains, hsplit position,
      List.takeWhile_append_of_pos hnone, List.append_assoc]
  | case3 position collected hout =>
    have hrest : m.toList.drop position = [] := List.drop_of_length_le (by omega)
    rw [collect, dif_neg hout, hrest, List.takeWhile_nil, List.append_nil]
    rfl

end LinearMemory

/-- A range is not inside a content: it begins or has a length below zero, or ends behind it. -/
def Outside (content : List UInt8) (offset length : Int) : Prop :=
  offset < 0 ∨ length < 0 ∨ content.length < offset + length

section

variable [Platform]

/-- An access reaches outside a content, with the range that it looks for there: where the range
begins, and its length. A text that has no end asks for one byte more than there is. -/
inductive ViewRequest.Reaches (content : List UInt8) : ViewRequest → Int → Int → Prop where
  | read {offset length : Int} (outside : Outside content offset length) :
      Reaches content (.read offset length) offset length
  | index {i : Int} (outside : Outside content i 1) : Reaches content (.index i) i 1
  | slice {start stop step : Option Int} (free : step.getD 1 = 1)
      (outside : Outside content (start.getD 0)
        (max (stop.getD content.length - start.getD 0) 0)) :
      Reaches content (.slice start stop step) (start.getD 0)
        (max (stop.getD content.length - start.getD 0) 0)
  | text {offset : Int} (encoding : String) (outside : Outside content offset 0) :
      Reaches content (.text offset encoding) offset 0
  | endless {offset : Nat} (encoding : String) (inside : offset ≤ content.length)
      (endless : 0 ∉ content.drop offset) :
      Reaches content (.text offset encoding) offset (content.length - offset + 1)
  | array {name : String} {layout : Layout} {offset count : Int}
      (known : Layout.Names.named name = .ok layout)
      (outside : Outside content offset (layout.size * count)) :
      Reaches content (.array name offset count) offset (layout.size * count)

end

/-- The three numbers of a report can be written. -/
structure ReportIsWritable (offset length size : Int) : Prop where
  offset : isWritable offset = true
  length : isWritable length = true
  size : isWritable size = true

/-- A fault for a reason that has nothing to do with where an access reaches: a step, a name, or an
element that cannot be had. -/
def Fault.IsOrdinary (fault : Fault) : Prop :=
  ∃ reason, fault = .plain reason ∧ reason ≠ .integerTooLong

namespace LinearMemory

variable (m : LinearMemory) {offset length : Int}

theorem outside_iff : Outside m.toList offset length ↔ ¬m.covers offset length = true := by
  rw [m.covers_iff, Outside]
  omega

-- A range outside a memory cannot be reported when one of its numbers or the size is too long to be
-- written.
theorem outOfBounds_eq_tooLong_iff :
    m.outOfBounds offset length = .plain .integerTooLong ↔
      ¬ReportIsWritable offset length m.size := by
  have hne : Fault.outOfBounds offset length m.size ≠ .plain .integerTooLong := by
    intro heq
    cases heq
  -- the three numbers of the report are the ones that are written
  rw [outOfBounds, Fault.raised_eq_tooLong_iff hne]
  constructor
  · rintro ⟨n, hn, hlong⟩ hnumbers
    simp only [Fault.integers, List.mem_cons, List.not_mem_nil, or_false] at hn
    have hwritable : isWritable n = true := by
      rcases hn with rfl | rfl | rfl
      · exact hnumbers.length
      · exact hnumbers.offset
      · exact hnumbers.size
    exact Bool.false_ne_true (hlong.symm.trans hwritable)
  · intro hnot
    by_contra hnone
    have hwritable {n : Int} (hn : n ∈ [length, offset, (m.size : Int)]) : isWritable n = true := by
      by_contra hlong
      exact hnone ⟨n, hn, Bool.eq_false_of_not_eq_true hlong⟩
    exact hnot ⟨hwritable (by simp), hwritable (by simp), hwritable (by simp)⟩

-- Otherwise it is reported as out of bounds, with these numbers.
theorem outOfBounds_eq_iff {offset' length' size : Int} :
    m.outOfBounds offset length = .outOfBounds offset' length' size ↔
      ReportIsWritable offset length m.size ∧
        offset' = offset ∧ length' = length ∧ size = m.size := by
  have htooLong : m.outOfBounds offset length = .plain .integerTooLong ↔
      ¬ReportIsWritable offset length m.size := m.outOfBounds_eq_tooLong_iff
  -- the report is raised as it is, or replaced because one of its numbers is too long
  rcases (Fault.outOfBounds offset length m.size).raised_or with hself | hlong
  · have hnumbers : ReportIsWritable offset length m.size := by
      by_contra hnot
      cases hself.symm.trans (htooLong.mpr hnot)
    rw [outOfBounds, hself]
    constructor
    · intro heq
      cases heq
      exact ⟨hnumbers, rfl, rfl, rfl⟩
    · rintro ⟨-, rfl, rfl, rfl⟩
      rfl
  · constructor
    · intro heq
      cases heq.symm.trans hlong
    · rintro ⟨hnumbers, -, -, -⟩
      exact absurd hnumbers (htooLong.mp hlong)

variable [Platform]

-- A text inside a memory is decoded when it has an end, and otherwise a range is reported that
-- reaches one byte behind the memory.
theorem readText_of_covers (hin : m.covers offset 0 = true) (encoding : String) :
    m.readText offset encoding =
      if 0 ∈ m.toList.drop offset.toNat then
        decodeNamed encoding ((m.toList.drop offset.toNat).takeWhile (· != 0))
      else .error (m.outOfBounds offset (m.toList.length - offset + 1)) := by
  obtain ⟨hoffset, -, hend⟩ := m.covers_iff.mp hin
  rw [readText, if_pos hin, m.collect_eq (by decide), List.nil_append]
  by_cases hzero : 0 ∈ m.toList.drop offset.toNat
  · have hfound : (m.toList.drop offset.toNat).contains 0 = true := List.elem_eq_true_of_mem hzero
    rw [if_pos hzero]
    exact if_pos hfound
  -- without a zero, everything to the end of the memory is collected
  · have hnone : (m.toList.drop offset.toNat).takeWhile (· != 0) = m.toList.drop offset.toNat := by
      apply List.takeWhile_eq_self_iff.mpr
      intro b hb
      rw [bne_iff_ne]
      rintro rfl
      exact hzero hb
    have hlength : ((m.toList.drop offset.toNat).length : Int) = m.toList.length - offset := by
      rw [List.length_drop]
      omega
    have hmissing : ¬(m.toList.drop offset.toNat).contains 0 = true := by
      intro hfound
      exact hzero (List.mem_of_elem_eq_true hfound)
    rw [if_neg hzero, hnone, ← hlength]
    exact if_neg hmissing

theorem decodeNamed_error {encoding : String} {data : List UInt8} {fault : Fault}
    (fails : decodeNamed encoding data = .error fault) : fault.IsOrdinary := by
  rcases decodeNamed_error_cases fails with rfl | rfl | ⟨problem, rfl⟩ <;> exact ⟨_, rfl, nofun⟩

theorem readArray_error {name : String} {layout : Layout} {count : Int} {fault : Fault}
    (known : Layout.Names.named name = .ok layout)
    (hin : m.covers offset (layout.size * count) = true)
    (fails : m.readArray name offset count = .error fault) : fault.IsOrdinary := by
  rw [readArray, known] at fails
  change m.read offset (layout.size * count) >>= _ = _ at fails
  rw [m.read_of_covers hin] at fails
  change (if layout.hasReference then _ else _) = _ at fails
  split at fails
  · cases fails
    exact ⟨_, rfl, nofun⟩
  · split at fails
    · cases fails
      split <;> exact ⟨_, rfl, nofun⟩
    · split at fails
      · cases fails
      · cases fails
        exact ⟨_, rfl, nofun⟩

end LinearMemory

section

variable [Platform]

namespace ViewRequest

variable {m : LinearMemory} {request : ViewRequest} {offset length : Int}

theorem Reaches.answer_eq (reaches : request.Reaches m.toList offset length) :
    request.answer m = .error (m.outOfBounds offset length) := by
  -- each access looks for one range, and it is this range that is not covered
  cases reaches with
  | read outside =>
    rw [answer, m.read_of_not_covers (m.outside_iff.mp outside)]
    rfl
  | index outside =>
    rw [answer, m.index_of_not_covers (m.outside_iff.mp outside)]
    rfl
  | slice free outside =>
    rw [m.length_toList] at outside
    rw [answer, LinearMemory.slice, if_neg (not_not.mpr free), m.length_toList]
    dsimp only
    rw [m.read_of_not_covers (m.outside_iff.mp outside)]
    rfl
  | text encoding outside =>
    rw [answer, LinearMemory.readText, if_neg (m.outside_iff.mp outside)]
    rfl
  | @endless offset encoding inside endless =>
    have hin : m.covers offset 0 = true := m.covers_iff.mpr ⟨by omega, by decide, by omega⟩
    rw [answer, m.readText_of_covers hin, Int.toNat_natCast, if_neg endless]
    rfl
  | @array name layout offset count known outside =>
    rw [answer, LinearMemory.readArray, known]
    change Except.map _ (m.read offset (layout.size * count) >>= _) = _
    rw [m.read_of_not_covers (m.outside_iff.mp outside)]
    rfl

/-- An access fails only because it reaches outside the memory, or for a reason of its own. -/
theorem reaches_or_ordinary {fault : Fault} (fails : request.answer m = .error fault) :
    (∃ offset length, request.Reaches m.toList offset length) ∨ fault.IsOrdinary := by
  by_contra hnot
  obtain ⟨hinside, hordinary⟩ := not_or.mp hnot
  -- each range that is looked for is inside the memory, or the access would reach outside
  have hcovers {offset length : Int}
      (reaches : Outside m.toList offset length → request.Reaches m.toList offset length) :
      m.covers offset length = true := by
    by_contra hout
    exact hinside ⟨offset, length, reaches (m.outside_iff.mpr hout)⟩
  cases request with
  | size => cases fails
  | pages => cases fails
  | written => cases fails
  | read offset length =>
    rw [answer, m.read_of_covers (hcovers .read)] at fails
    cases fails
  | index i =>
    rw [answer, LinearMemory.index, m.read_of_covers (hcovers .index)] at fails
    cases fails
  | slice start stop step =>
    rw [answer, LinearMemory.slice] at fails
    by_cases free : step.getD 1 = 1
    · have hrange := hcovers (@Reaches.slice _ m.toList start stop step free)
      rw [m.length_toList] at hrange
      rw [if_neg (not_not.mpr free)] at fails
      dsimp only at fails
      rw [m.read_of_covers hrange] at fails
      cases fails
    · rw [if_pos free] at fails
      cases fails
      exact hordinary ⟨_, rfl, fun h => by cases h⟩
  | text offset encoding =>
    have hin := hcovers (.text encoding)
    rw [answer, m.readText_of_covers hin] at fails
    by_cases hzero : 0 ∈ m.toList.drop offset.toNat
    · rw [if_pos hzero] at fails
      exact hordinary (LinearMemory.decodeNamed_error (exceptMap_eq_error.mp fails))
    · obtain ⟨start, rfl⟩ := Int.eq_ofNat_of_zero_le (m.covers_iff.mp hin).1
      have hend := (m.covers_iff.mp hin).2.2
      exact hinside ⟨_, _, .endless encoding (by omega) hzero⟩
  | array name offset count =>
    rw [answer] at fails
    have hfails := exceptMap_eq_error.mp fails
    cases known : Layout.Names.named name with
    | error e =>
      rw [LinearMemory.readArray, known] at hfails
      cases hfails
      exact hordinary ⟨_, rfl, fun h => by cases h⟩
    | ok layout =>
      exact hordinary (m.readArray_error known (hcovers (.array known)) hfails)

end ViewRequest

/-- In every state of a process, what an access to a memory ends with when it reaches outside: it is
reported as out of bounds, with the range that it looked for and the size of the memory, exactly
when these three numbers can be written, and otherwise it ends with the fault of an integer that is
too long. Nothing but reaching outside gives either of these. -/
theorem Operation.reaching_reported (v : MemoryView) (request : ViewRequest) (thread : Thread)
    (h : Host) :
    let content := (h.memory v).toList
    let outcome := (Operation.view v request).outcome thread h
    (∀ offset length size : Int, outcome = .error ⟨.outOfBounds offset length size, none⟩ ↔
      request.Reaches content offset length ∧ size = content.length ∧
        ReportIsWritable offset length size) ∧
    (outcome = .error ⟨.plain .integerTooLong, none⟩ ↔
      ∃ offset length, request.Reaches content offset length ∧
        ¬ReportIsWritable offset length content.length) ∧
    (∀ offset length size : Int,
      FaultClass.indexFault ∈ (Fault.outOfBounds offset length size).lineage ∧
      (Fault.outOfBounds offset length size).details =
        [("offset", .number offset), ("length", .number length), ("size", .number size)]) := by
  intro content outcome
  have hsize : (content.length : Int) = (h.memory v).size := by
    rw [(h.memory v).length_toList]
  -- what the caller gets is the fault of the view itself
  have houtcome (fault : Fault) : outcome = .error ⟨fault, none⟩ ↔
      request.answer (h.memory v) = .error fault := by
    dsimp only [outcome]
    rw [Operation.view_outcome, ViewRequest.outcome]
    cases request.answer (h.memory v) with
    | ok reply => constructor <;> rintro ⟨⟩
    | error fault' => constructor <;> rintro ⟨⟩ <;> rfl
  have hanswer {offset length : Int} (reaches : request.Reaches content offset length)
      (fault : Fault) : outcome = .error ⟨fault, none⟩ ↔
        (h.memory v).outOfBounds offset length = fault := by
    rw [houtcome, reaches.answer_eq, Except.error.injEq]
  refine ⟨fun offset length size => ?_, ?_, fun offset length size => ⟨?_, rfl⟩⟩
  · constructor
    -- what fails is an access that reaches outside, since no reason of its own is a range
    · intro hfails
      rcases ViewRequest.reaches_or_ordinary ((houtcome _).mp hfails) with
        ⟨offset', length', reaches⟩ | ⟨reason, hreason, -⟩
      · obtain ⟨hnumbers, rfl, rfl, rfl⟩ :=
          (h.memory v).outOfBounds_eq_iff.mp ((hanswer reaches _).mp hfails)
        exact ⟨reaches, hsize.symm, hnumbers⟩
      · cases hreason
    · rintro ⟨reaches, rfl, hnumbers⟩
      rw [hanswer reaches, (h.memory v).outOfBounds_eq_iff, ← hsize]
      exact ⟨hnumbers, rfl, rfl, rfl⟩
  · constructor
    · intro hfails
      rcases ViewRequest.reaches_or_ordinary ((houtcome _).mp hfails) with
        ⟨offset, length, reaches⟩ | ⟨reason, hreason, hne⟩
      · refine ⟨offset, length, reaches, ?_⟩
        rw [hsize]
        exact (h.memory v).outOfBounds_eq_tooLong_iff.mp ((hanswer reaches _).mp hfails)
      · cases hreason
        exact absurd rfl hne
    · rintro ⟨offset, length, reaches, hlong⟩
      rw [hsize] at hlong
      rw [hanswer reaches]
      exact (h.memory v).outOfBounds_eq_tooLong_iff.mpr hlong
  · change FaultClass.indexFault ∈ FaultClass.outOfBounds.lineage
    decide

end

section

attribute [local instance] Platform.machine

/-- An array of elements of two bytes, with a count that can be written, in a memory of 16 bytes:
the length in bytes has one digit more than can be written, and the access is not reported as out of
bounds. -/
theorem long_array_unreported :
    let handle : Handle := ⟨4, ⟨3, ⟨.empty, false, false⟩⟩⟩
    let h : Host := { Host.fresh ⟨.empty, none⟩ ⟨[]⟩ with
      guests := (Cells.all .empty).set 4 ⟨[.zeroed 16], 0, none⟩ }
    let request := ViewRequest.array "int16" 0 (5 * 10 ^ 4299 : Nat)
    isWritable (5 * 10 ^ 4299 : Nat) = true ∧
      request.Reaches (h.memory ⟨9, handle, 0⟩).toList 0 (10 ^ 4300 : Nat) ∧
      (Operation.view ⟨9, handle, 0⟩ request).outcome 0 h =
        .error ⟨.plain .integerTooLong, none⟩ ∧
      FaultClass.indexFault ∉ (Fault.plain .integerTooLong).lineage := by
  intro handle h request
  -- one more digit than can be written
  have hlength : ((Layout.integers true 2).size * (5 * 10 ^ 4299 : Nat) : Int) =
      (10 ^ 4300 : Nat) := by
    decide +kernel
  have hcontent : (h.memory ⟨9, handle, 0⟩).toList.length = 16 := by decide +kernel
  have houtside : Outside (h.memory ⟨9, handle, 0⟩).toList 0
      ((Layout.integers true 2).size * (5 * 10 ^ 4299 : Nat)) := by
    refine .inr (.inr ?_)
    rw [hcontent, hlength]
    decide +kernel
  have reaches : request.Reaches (h.memory ⟨9, handle, 0⟩).toList 0 (10 ^ 4300 : Nat) :=
    hlength ▸ .array (by decide +kernel) houtside
  refine ⟨by decide +kernel, reaches, ?_, by decide⟩
  have hlong : ¬ReportIsWritable 0 (10 ^ 4300 : Nat) (h.memory ⟨9, handle, 0⟩).size := by
    intro hnumbers
    exact absurd hnumbers.length (by decide +kernel)
  rw [Operation.view_outcome, ViewRequest.outcome, reaches.answer_eq,
    (LinearMemory.outOfBounds_eq_tooLong_iff _).mpr hlong]

end

end WasmHost
