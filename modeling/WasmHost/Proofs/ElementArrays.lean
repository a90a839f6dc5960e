import Mathlib.Data.Int.ModEq
import Mathlib.Data.Int.Order.Lemmas
import WasmHost.Memory.Layout.Named
import WasmHost.Proofs.LittleEndian
import WasmHost.Proofs.MemoryBounds
/-!
Arrays of integers in memory.

An integer of a type with a width in bytes stands in memory with its least significant byte first,
and a negative one as the word that is congruent to it. Reading an array and writing the bytes of
integers one after the other undo each other. The name of the type is looked up before the bounds
are.
-/
namespace WasmHost

namespace IntegerType

/-- An integer is one of a type: the highest bit of a signed type counts negatively. -/
def InRange (t : IntegerType) (n : Int) : Prop :=
  if t.signed then -(halfWordCount (8 * t.bytes) : Int) ≤ n ∧ n < halfWordCount (8 * t.bytes)
  else 0 ≤ n ∧ n < wordCount (8 * t.bytes)

/-- The bytes of an integer in memory. -/
def toBytes (t : IntegerType) (n : Int) : List UInt8 :=
  littleEndianBytes t.bytes (n % wordCount (8 * t.bytes)).toNat

variable {t : IntegerType}

theorem ofBits_eq (t : IntegerType) (n : Nat) : t.ofBits n =
    if t.signed = true ∧ wordCount (8 * t.bytes) ≤ 2 * n then (n : Int) - wordCount (8 * t.bytes)
    else n := by
  unfold ofBits wordCount
  simp only [Bool.and_eq_true, decide_eq_true_eq]
  norm_cast

theorem ofBits_modEq (t : IntegerType) (n : Nat) :
    t.ofBits n ≡ n [ZMOD wordCount (8 * t.bytes)] := by
  rw [ofBits_eq]
  split
  · exact Int.sub_emod_right _ _
  · rfl

theorem ofBits_inRange (ht : 0 < t.bytes) {n : Nat} (hn : n < wordCount (8 * t.bytes)) :
    t.InRange (t.ofBits n) := by
  have hhalf : wordCount (8 * t.bytes) = 2 * halfWordCount (8 * t.bytes) :=
    wordCount_eq (by omega)
  rw [ofBits_eq, InRange]
  by_cases hsigned : t.signed = true
  · rw [if_pos hsigned]
    by_cases hhigh : wordCount (8 * t.bytes) ≤ 2 * n
    · rw [if_pos ⟨hsigned, hhigh⟩]
      omega
    · rw [if_neg fun h => hhigh h.2]
      omega
  · rw [if_neg hsigned, if_neg (fun h => hsigned h.1)]
    omega

/-- A type has one integer of each residue. -/
theorem InRange.unique (ht : 0 < t.bytes) {n k : Int} (hn : t.InRange n) (hk : t.InRange k)
    (hmod : n ≡ k [ZMOD wordCount (8 * t.bytes)]) : n = k := by
  have hhalf : wordCount (8 * t.bytes) = 2 * halfWordCount (8 * t.bytes) :=
    wordCount_eq (by omega)
  -- both are in a range as long as there are words
  have hnear : |k - n| < wordCount (8 * t.bytes) := by
    rw [abs_lt]
    unfold InRange at hn hk
    by_cases hsigned : t.signed = true
    · rw [if_pos hsigned] at hn hk
      omega
    · rw [if_neg hsigned] at hn hk
      omega
  have hzero := Int.eq_zero_of_abs_lt_dvd (Int.modEq_iff_dvd.mp hmod) hnear
  omega

@[simp] theorem length_toBytes (t : IntegerType) (n : Int) : (t.toBytes n).length = t.bytes :=
  length_littleEndianBytes _ _

theorem littleEndian_toBytes (t : IntegerType) (n : Int) :
    (littleEndian (t.toBytes n) : Int) = n % wordCount (8 * t.bytes) := by
  have hpos : (0 : Int) < wordCount (8 * t.bytes) := by
    exact_mod_cast wordCount_pos (8 * t.bytes)
  have hlow := Int.emod_nonneg n hpos.ne'
  have hhigh := Int.emod_lt_of_pos n hpos
  rw [toBytes, littleEndian_littleEndianBytes, Nat.mod_eq_of_lt (by omega)]
  omega

theorem ofBits_toBytes (ht : 0 < t.bytes) {n : Int} (hn : t.InRange n) :
    t.ofBits (littleEndian (t.toBytes n)) = n := by
  have hlt := littleEndian_lt (t.toBytes n)
  rw [length_toBytes] at hlt
  apply InRange.unique ht (ofBits_inRange ht hlt) hn
  apply (ofBits_modEq t _).trans
  rw [littleEndian_toBytes]
  exact Int.mod_modEq _ _

theorem toBytes_ofBits {bytes : List UInt8} (hlength : bytes.length = t.bytes) :
    t.toBytes (t.ofBits (littleEndian bytes)) = bytes := by
  have hlt := littleEndian_lt bytes
  rw [hlength] at hlt
  have hword : (t.ofBits (littleEndian bytes) % wordCount (8 * t.bytes)).toNat =
      littleEndian bytes := by
    rw [(ofBits_modEq t _).eq, ← Int.natCast_mod, Int.toNat_natCast, Nat.mod_eq_of_lt hlt]
  rw [toBytes, hword, ← hlength, littleEndianBytes_littleEndian]

/-- The integers that stand one after the other in bytes. -/
def elements (t : IntegerType) (count : Nat) (bytes : List UInt8) : List Int :=
  (Layout.pieces t.bytes count bytes).map fun piece => t.ofBits (littleEndian piece)

end IntegerType

namespace Layout

@[simp] theorem length_pieces (size count : Nat) (bytes : List UInt8) :
    (pieces size count bytes).length = count := by
  induction count generalizing bytes with
  | zero => rfl
  | succ count ih => rw [pieces, List.length_cons, ih]

theorem getElem?_pieces (size count : Nat) (bytes : List UInt8) {j : Nat} (hj : j < count) :
    (pieces size count bytes)[j]? = some ((bytes.drop (j * size)).take size) := by
  induction count generalizing bytes j with
  | zero => omega
  | succ count ih =>
    cases j with
    | zero => simp [pieces]
    | succ j =>
      rw [pieces, List.getElem?_cons_succ, ih _ (by omega), List.drop_drop, Nat.succ_mul,
        Nat.add_comm]

end Layout

namespace IntegerType

variable {t : IntegerType}

theorem flatMap_elements {count : Nat} {bytes : List UInt8}
    (hlength : bytes.length = t.bytes * count) :
    (t.elements count bytes).flatMap t.toBytes = bytes := by
  induction count generalizing bytes with
  | zero =>
    have hnone : bytes = [] := List.length_eq_zero_iff.mp hlength
    rw [hnone]
    rfl
  | succ count ih =>
    rw [Nat.mul_succ] at hlength
    have hfirst : (bytes.take t.bytes).length = t.bytes := by
      rw [List.length_take]
      omega
    have hrest : (bytes.drop t.bytes).length = t.bytes * count := by
      rw [List.length_drop]
      omega
    have hcons : t.elements (count + 1) bytes =
        t.ofBits (littleEndian (bytes.take t.bytes)) :: t.elements count (bytes.drop t.bytes) := rfl
    rw [hcons, List.flatMap_cons, toBytes_ofBits hfirst, ih hrest, List.take_append_drop]

theorem elements_flatMap (ht : 0 < t.bytes) {values : List Int}
    (hvalues : ∀ n ∈ values, t.InRange n) :
    t.elements values.length (values.flatMap t.toBytes) = values := by
  induction values with
  | nil => rfl
  | cons n values ih =>
    have hlength := t.length_toBytes n
    have hcons : t.elements (values.length + 1) ((n :: values).flatMap t.toBytes) =
        t.ofBits (littleEndian (((n :: values).flatMap t.toBytes).take t.bytes)) ::
          t.elements values.length (((n :: values).flatMap t.toBytes).drop t.bytes) := rfl
    rw [List.length_cons, hcons, List.flatMap_cons, List.take_left' hlength,
      List.drop_left' hlength, ofBits_toBytes ht (hvalues n List.mem_cons_self),
      ih fun k hk => hvalues k (List.mem_cons_of_mem n hk)]

theorem length_flatMap_toBytes (t : IntegerType) (values : List Int) :
    (values.flatMap t.toBytes).length = t.bytes * values.length := by
  rw [List.length_flatMap]
  simp [Nat.mul_comm]

/-- The array of integers of a type. -/
def array (t : IntegerType) (values : List Int) : ElementArray :=
  ⟨(ElementType.integer t).code, values.map fun n => .scalar (.integer t n)⟩

end IntegerType

namespace LinearMemory

section
variable (m : LinearMemory) {t : IntegerType} {name : String}

/-- A piece of a range that is inside the memory has the bytes that stand there. -/
theorem piece_eq {start size count j : Nat} (hend : start + size * count ≤ m.size)
    (hj : j < count) :
    (((m.toList.drop start).take (size * count)).drop (j * size)).take size =
      (List.range' (start + j * size) size).map m.byteAt := by
  -- the whole piece is in the range, and so inside the memory
  have hle : (j + 1) * size ≤ size * count := by
    rw [Nat.mul_comm size]
    exact Nat.mul_le_mul_right size hj
  rw [Nat.succ_mul] at hle
  have hstop : start + j * size + size ≤ m.size := by omega
  have hbytes : m.bytes (start + j * size) (start + j * size + size) = _ :=
    m.bytes_eq_drop_take hstop
  rw [bytes, Nat.add_sub_cancel_left] at hbytes
  rw [hbytes, List.drop_take, List.drop_drop, List.take_take, Nat.min_eq_left (by omega)]

theorem element_modEq (ht : 0 < t.bytes) {start count j : Nat} {n : Int}
    (hend : start + t.bytes * count ≤ m.size)
    (hj : (t.elements count ((m.toList.drop start).take (t.bytes * count)))[j]? = some n) :
    t.InRange n ∧
      n ≡ ∑ i ∈ Finset.range t.bytes, (m.byteAt (start + j * t.bytes + i)).toNat * 256 ^ i
        [ZMOD wordCount (8 * t.bytes)] := by
  have hlt : j < count := by
    have hlength := (List.getElem?_eq_some_iff.mp hj).1
    rwa [IntegerType.elements, List.length_map, Layout.length_pieces] at hlength
  rw [IntegerType.elements, List.getElem?_map, Layout.getElem?_pieces _ _ _ hlt,
    m.piece_eq hend hlt, Option.map_some, Option.some.injEq] at hj
  subst hj
  have hword := littleEndian_lt ((List.range' (start + j * t.bytes) t.bytes).map m.byteAt)
  rw [List.length_map, List.length_range'] at hword
  refine ⟨IntegerType.ofBits_inRange ht hword, ?_⟩
  have hmod := IntegerType.ofBits_modEq t
    (littleEndian ((List.range' (start + j * t.bytes) t.bytes).map m.byteAt))
  rw [littleEndian_eq_sum] at hmod ⊢
  exact_mod_cast hmod

variable [Layout.Names]

/-- A name without a layout is refused whatever else is asked for. -/
theorem readArray_of_unnamed {fault : LayoutFault}
    (unnamed : Layout.Names.named name = .error fault)
    (offset count : Int) : m.readArray name offset count = .error (.plain (.layout fault)) := by
  rw [readArray, unnamed]
  rfl

theorem readArray_of_known {layout : Layout} (known : Layout.Names.named name = .ok layout)
    (plain : layout.hasReference = false) (nonempty : layout.size ≠ 0) {offset count : Int}
    {items : List UInt8 → List HostValue}
    (readable : ∀ bytes, (Layout.pieces layout.size count.toNat bytes).mapM layout.read =
      .ok (items bytes)) :
    m.readArray name offset count =
      (m.read offset (layout.size * count)).map fun bytes => ⟨layout.code, items bytes⟩ := by
  rw [readArray, known]
  change m.read offset (layout.size * count) >>= _ = _
  cases m.read offset (layout.size * count) with
  | error fault => rfl
  | ok bytes =>
    change (if layout.hasReference then _ else _) = _
    rw [plain, if_neg (by decide), if_neg nonempty, readable bytes]
    rfl

theorem readArray_of_integer (ht : 0 < t.bytes)
    (known : Layout.Names.named name = .ok (.single (.integer t))) (offset count : Int) :
    m.readArray name offset count =
      (m.read offset (t.bytes * count)).map fun bytes =>
        t.array (t.elements count.toNat bytes) := by
  apply m.readArray_of_known known rfl ht.ne'
  intro bytes
  have hread : (Layout.single (.integer t)).read = fun piece =>
      .ok (.scalar (.integer t (t.ofBits (littleEndian piece)))) := rfl
  rw [hread, IntegerType.elements, List.map_map]
  exact List.mapM_pure

/-- What reading integers of a type under a name has to do. -/
structure ReadsIntegers (m : LinearMemory) (t : IntegerType) (name : String) : Prop where
  /-- Inside the memory there is one integer for each group of bytes, and the bytes of the integers
  are the bytes of the range. -/
  inside {offset count : Int} (hoffset : 0 ≤ offset) (hcount : 0 ≤ count)
    (hend : offset + t.bytes * count ≤ m.toList.length) :
    ∃ values : List Int, m.readArray name offset count = .ok (t.array values) ∧
      values.length = count ∧
      (∀ j n, values[j]? = some n → t.InRange n ∧
        n ≡ ∑ i ∈ Finset.range t.bytes,
            (m.byteAt (offset.toNat + j * t.bytes + i)).toNat * 256 ^ i
          [ZMOD wordCount (8 * t.bytes)]) ∧
      m.read offset (t.bytes * count) = .ok (values.flatMap t.toBytes)
  /-- Otherwise the range is reported. -/
  outside {offset count : Int}
    (out : offset < 0 ∨ count < 0 ∨ m.toList.length < offset + t.bytes * count) :
    ∃ fault, m.readArray name offset count = .error fault ∧
      (ReportIsWritable offset (t.bytes * count) m.toList.length →
        fault = .outOfBounds offset (t.bytes * count) m.toList.length)
  /-- Integers whose bytes are in the memory are read. -/
  stored {start : Nat} {values : List Int} (hvalues : ∀ n ∈ values, t.InRange n)
    (hstart : start ≤ m.toList.length)
    (holds : values.flatMap t.toBytes <+: m.toList.drop start) :
    m.readArray name start values.length = .ok (t.array values)
  /-- Integers whose bytes have been written are read. -/
  written {start : Nat} {values : List Int} (hvalues : ∀ n ∈ values, t.InRange n)
    (room : start + t.bytes * values.length ≤ m.toList.length) :
    (m.write start (values.flatMap t.toBytes)).readArray name start values.length =
      .ok (t.array values)

theorem readArray_of_stored (ht : 0 < t.bytes)
    (known : Layout.Names.named name = .ok (.single (.integer t))) {start : Nat} {values : List Int}
    (hvalues : ∀ n ∈ values, t.InRange n) (hstart : start ≤ m.toList.length)
    (holds : values.flatMap t.toBytes <+: m.toList.drop start) :
    m.readArray name start values.length = .ok (t.array values) := by
  have hlength := t.length_flatMap_toBytes values
  -- the range that is read has the bytes of the values and no others
  have htake : (m.toList.drop start).take (t.bytes * values.length) = values.flatMap t.toBytes := by
    rw [← hlength]
    exact (List.prefix_iff_eq_take.mp holds).symm
  have hroom : t.bytes * values.length ≤ m.toList.length - start := by
    rw [← hlength, ← List.length_drop]
    exact holds.length_le
  have hin : m.covers start (t.bytes * values.length) = true := by
    rw [m.covers_iff]
    norm_cast
    omega
  have hcount : ((t.bytes : Int) * values.length).toNat = t.bytes * values.length := by
    norm_cast
  rw [m.readArray_of_integer ht known, m.read_of_covers hin, Int.toNat_natCast, Int.toNat_natCast,
    hcount, htake]
  change Except.ok (t.array (t.elements values.length (values.flatMap t.toBytes))) = _
  rw [IntegerType.elements_flatMap ht hvalues]

theorem readsIntegers (ht : 0 < t.bytes)
    (known : Layout.Names.named name = .ok (.single (.integer t))) : ReadsIntegers m t name where
  inside := by
    intro offset count hoffset hcount hend
    obtain ⟨start, rfl⟩ := Int.eq_ofNat_of_zero_le hoffset
    obtain ⟨total, rfl⟩ := Int.eq_ofNat_of_zero_le hcount
    have hrange : (t.bytes : Int) * total = ((t.bytes * total : Nat) : Int) := by norm_cast
    rw [hrange] at hend ⊢
    have hsize := m.length_toList
    have hin : m.covers start (t.bytes * total : Nat) = true := m.covers_iff.mpr (by omega)
    have hread := m.read_of_covers hin
    rw [Int.toNat_natCast, Int.toNat_natCast] at hread
    have hlength : ((m.toList.drop start).take (t.bytes * total)).length = t.bytes * total := by
      rw [List.length_take, List.length_drop]
      omega
    refine ⟨t.elements total ((m.toList.drop start).take (t.bytes * total)), ?_, ?_, ?_, ?_⟩
    · rw [m.readArray_of_integer ht known, hrange, hread]
      rfl
    · rw [IntegerType.elements, List.length_map, Layout.length_pieces]
    · intro j n hj
      exact m.element_modEq ht (by omega) hj
    · rw [hread, IntegerType.flatMap_elements hlength]
  outside := by
    intro offset count out
    have hout : ¬m.covers offset (t.bytes * count) = true := by
      rw [m.covers_iff]
      intro hin
      -- a negative count would give a negative length
      have hcount : 0 ≤ count := nonneg_of_mul_nonneg_right hin.2.1 (by exact_mod_cast ht)
      omega
    refine ⟨m.outOfBounds offset (t.bytes * count), ?_, ?_⟩
    · rw [m.readArray_of_integer ht known, m.read_of_not_covers hout]
      rfl
    · intro writable
      rw [m.length_toList] at writable ⊢
      exact m.outOfBounds_eq_iff.mpr ⟨writable, rfl, rfl, rfl⟩
  stored := fun hvalues hstart holds => m.readArray_of_stored ht known hvalues hstart holds
  written := by
    intro start values hvalues room
    have hlength := t.length_flatMap_toBytes values
    have hsize := m.length_toList
    -- from the start on there are the new bytes and then what was behind them before
    have hcontent : (m.write start (values.flatMap t.toBytes)).toList.drop start =
        values.flatMap t.toBytes ++ m.toList.drop (start + t.bytes * values.length) := by
      rw [m.toList_write, hlength,
        List.take_of_length_le (l := values.flatMap t.toBytes) (by omega),
        List.append_assoc, List.drop_left' (by rw [List.length_take]; omega)]
    apply readArray_of_stored _ ht known hvalues
    · rw [length_toList, size_write]
      omega
    · rw [hcontent]
      exact List.prefix_append _ _

/-- Integers are read exactly, under all the names of their types; a byte order in front of a short
name changes nothing, and in front of a long one makes it a name of nothing. Under a name that
denotes nothing there is, whatever the offset and the count, the fault of the name. -/
theorem readArray_exact (m : LinearMemory) :
    (∀ t ∈ IntegerType.all,
      (∀ name ∈ t.names, ReadsIntegers m t name) ∧
      ∀ order ∈ IntegerType.byteOrders, ∀ offset count,
        let name := order ++ (ElementType.integer t).name
        m.readArray name offset count = .error (.plain (.layout (.unknown name))) ∧
          FaultClass.typeFault ∈ (Fault.plain (.layout (.unknown name))).lineage) ∧
    (∀ (t : IntegerType) (name : String), 0 < t.bytes →
      Layout.Names.named name = .ok (.single (.integer t)) → ReadsIntegers m t name) ∧
    ∀ name fault, Layout.Names.named name = .error fault → ∀ offset count,
      m.readArray name offset count = .error (.plain (.layout fault)) := by
  refine ⟨fun t ht => ⟨fun name hname => ?_, fun order horder offset count => ?_⟩,
    fun t name ht known => m.readsIntegers ht known, fun name fault => m.readArray_of_unnamed⟩
  · exact m.readsIntegers (IntegerType.bytes_pos_of_mem_all t ht) (Layout.Names.integer ht hname)
  · refine ⟨m.readArray_of_unnamed (Layout.Names.ordered ht horder) offset count, ?_⟩
    change FaultClass.typeFault ∈ FaultClass.typeFault.lineage
    decide

end

section
attribute [local instance] Layout.Names.parsed

/-- The bytes of -2 and 1 are read whichever byte order is asked for, and neither a negative count
nor an unknown name is accepted. -/
theorem readArray_exact_pair :
    let m := (zeroed 8).write 1 [0xfe, 0xff, 1, 0]
    let t : IntegerType := ⟨true, 2⟩
    t ∈ IntegerType.all ∧ ">i2" ∈ t.names ∧
      m.readArray ">i2" 1 2 = .ok (t.array [-2, 1]) ∧
      (∃ fault, m.readArray ">i2" 1 (-1) = .error fault) ∧
      Layout.Names.named "i3" = .error (.unknown "i3") ∧
      m.readArray "i3" 99 (-1) = .error (.plain (.layout (.unknown "i3"))) := by
  intro m t
  have ht : t ∈ IntegerType.all := by decide
  have hname : ">i2" ∈ t.names := by decide +kernel
  have hunknown : Layout.Names.named "i3" = .error (.unknown "i3") := by decide +kernel
  obtain ⟨hintegers, -, hunnamed⟩ := m.readArray_exact
  have reads := (hintegers t ht).1 ">i2" hname
  have hrange : ∀ n ∈ [(-2 : Int), 1], t.InRange n := by
    unfold IntegerType.InRange
    decide
  have hpair : m.readArray ">i2" 1 2 = .ok (t.array [-2, 1]) :=
    @reads.stored 1 _ hrange (by decide +kernel) (by decide +kernel)
  have hnegative : (-1 : Int) < 0 := by decide
  obtain ⟨fault, hfails, -⟩ := @reads.outside 1 (-1) (Or.inr (Or.inl hnegative))
  exact ⟨ht, hname, hpair, ⟨fault, hfails⟩, hunknown, hunnamed "i3" _ hunknown 99 (-1)⟩

/-- A name that begins with a digit is taken apart, and a part without an end is no unknown type: it
is refused for its value. -/
theorem unreadable_name_refused :
    let fault : Fault := .plain (.layout (.unreadablePart 1 "8-bit"))
    Layout.Names.named "8-bit" = .error (.unreadablePart 1 "8-bit") ∧
      (zeroed 16).readArray "8-bit" 0 1 = .error fault ∧
      FaultClass.typeFault ∉ fault.lineage ∧ FaultClass.valueFault ∈ fault.lineage := by
  intro fault
  have hname : Layout.Names.named "8-bit" = .error (.unreadablePart 1 "8-bit") := by
    decide +kernel
  exact ⟨hname, readArray_of_unnamed _ hname 0 1, by decide, by decide⟩

end

end LinearMemory
end WasmHost
