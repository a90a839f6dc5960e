import WasmHost.Proofs.MemoryContent
/-!
Views over a memory that changes.

A view keeps nothing of its memory. Whatever has happened to the memory, by growing, by writing or
by being cut, a view answers by what the content is when it is asked, and asking changes nothing.
-/
namespace WasmHost

section

variable [Platform]

/-- What a view over a memory answers to its caller. -/
def ViewRequest.outcome (m : LinearMemory) (request : ViewRequest) : Except Failure Answer :=
  match request.answer m with
  | .ok reply => .ok (.reading reply)
  | .error fault => .error fault

/-- What a view was asked, and the content that its memory had at that moment. -/
structure Reading where
  content : List UInt8
  request : ViewRequest
  event : Event

/-- What a view has to answer, by the content of its memory alone. The length of a view is its
size. What it reads is what the engine gives for the range, although an engine moves any bounds into
the memory. A range that cannot be read is reported with its bounds and the size of the memory,
unless its bounds are too long to be written. -/
structure Reading.Right (reading : Reading) : Prop where
  alone {m : LinearMemory} (hm : m.toList = reading.content) :
    reading.event.outcome = reading.request.outcome m
  size (hasked : reading.request = .size) :
    reading.event.outcome = .ok (.reading (.count reading.content.length))
  pages (hasked : reading.request = .pages) :
    reading.event.outcome = .ok (.reading (.count (reading.content.length / 65536)))
  read {offset length : Int} (hasked : reading.request = .read offset length)
    (hin : 0 ≤ offset ∧ 0 ≤ length ∧ offset + length ≤ reading.content.length) :
    reading.event.outcome =
      .ok (.reading (.bytes ((reading.content.drop offset.toNat).take length.toNat)))
  engine {offset length : Int} (hasked : reading.request = .read offset length)
    (hin : 0 ≤ offset ∧ 0 ≤ length ∧ offset + length ≤ reading.content.length)
    {m : LinearMemory} (hm : m.toList = reading.content) :
    reading.event.outcome = .ok (.reading (.bytes (m.between offset (offset + length))))
  unread {offset length : Int} (hasked : reading.request = .read offset length)
    (hout : ¬(0 ≤ offset ∧ 0 ≤ length ∧ offset + length ≤ reading.content.length)) :
    ∃ failure, reading.event.outcome = .error failure ∧
      (isWritable offset = true → isWritable length = true →
        failure = ⟨.outOfBounds offset length reading.content.length, none⟩)
  index {i : Int} (hasked : reading.request = .index i)
    (hin : 0 ≤ i ∧ i < reading.content.length) :
    ∃ b, reading.content[i.toNat]? = some b ∧ reading.event.outcome = .ok (.reading (.byte b))
  unindexed {i : Int} (hasked : reading.request = .index i)
    (hout : ¬(0 ≤ i ∧ i < reading.content.length)) :
    ∃ failure, reading.event.outcome = .error failure ∧
      (isWritable i = true → failure = ⟨.outOfBounds i 1 reading.content.length, none⟩)
  unchanged : reading.event.after = reading.event.before.onThread reading.event.thread

/-- A memory of an instance, if it has that many. -/
def Host.memoryAt? (h : Host) (handle : Handle) (memory : Nat) : Option LinearMemory :=
  (h.guest handle).memories[memory]?

/-- A run of a memory from one content to another: it changes, views over it are asked on any
threads, and things happen elsewhere that leave it alone. -/
inductive MemoryRun (handle : Handle) (memory : Nat) :
    List UInt8 → Host → List Reading → List UInt8 → Host → Prop where
  | stop (content : List UInt8) (h : Host) : MemoryRun handle memory content h [] content h
  | changes {content content' : List UInt8} {h g h' : Host} {readings : List Reading}
      (change : MemoryChange)
      (changed : g.memoryAt? handle memory = (h.memoryAt? handle memory).map change.apply)
      (fits : (change.content content).length < addressSpace)
      (rest : MemoryRun handle memory (change.content content) g readings content' h') :
      MemoryRun handle memory content h readings content' h'
  | elsewhere {content content' : List UInt8} {h g h' : Host} {readings : List Reading}
      (same : g.memoryAt? handle memory = h.memoryAt? handle memory)
      (rest : MemoryRun handle memory content g readings content' h') :
      MemoryRun handle memory content h readings content' h'
  | asks {content content' : List UInt8} {h h' : Host} {readings : List Reading}
      (thread : Thread) (serial : Nat) (request : ViewRequest)
      (rest : MemoryRun handle memory content
        ((Operation.view ⟨serial, handle, memory⟩ request).after thread h) readings content' h') :
      MemoryRun handle memory content h
        (⟨content, request, (Operation.view ⟨serial, handle, memory⟩ request).event thread h⟩ ::
          readings) content' h'

namespace Operation

variable (v : MemoryView) (request : ViewRequest)

-- A view answers by what its memory is at the moment, and asking it changes nothing.
theorem view_run (h : Host) :
    (view v request).perform.run.run h = (request.outcome (h.memory v), h) := by
  unfold perform ViewRequest.outcome
  rw [Action.run_get_bind]
  cases request.answer (h.memory v) <;> rfl

variable (thread : Thread) (h : Host)

theorem view_outcome : (view v request).outcome thread h = request.outcome (h.memory v) := by
  unfold outcome
  rw [view_run]
  rfl

theorem view_after : (view v request).after thread h = h.onThread thread := by
  unfold after
  rw [view_run]

end Operation

namespace ViewRequest

variable {m m' : LinearMemory}

theorem outcome_congr (same : m.toList = m'.toList) (request : ViewRequest) :
    request.outcome m = request.outcome m' := by
  unfold outcome
  rw [LinearMemory.answer_congr same]

theorem outcome_read {offset length : Int} (hin : m.covers offset length = true) :
    (read offset length).outcome m =
      .ok (.reading (.bytes ((m.toList.drop offset.toNat).take length.toNat))) := by
  rw [outcome, answer, m.read_of_covers hin]
  rfl

theorem outcome_unread {offset length : Int} (hout : ¬m.covers offset length = true) :
    (read offset length).outcome m = .error ⟨m.outOfBounds offset length, none⟩ := by
  rw [outcome, answer, m.read_of_not_covers hout]
  rfl

theorem outcome_index {i : Int} (hi : 0 ≤ i) (hend : i < m.toList.length) :
    ∃ b, m.toList[i.toNat]? = some b ∧ (index i).outcome m = .ok (.reading (.byte b)) := by
  obtain ⟨b, hb, hindex⟩ := m.index_of_lt hi hend
  refine ⟨b, hb, ?_⟩
  rw [outcome, answer, hindex]
  rfl

theorem outcome_unindexed {i : Int} (hout : ¬m.covers i 1 = true) :
    (index i).outcome m = .error ⟨m.outOfBounds i 1, none⟩ := by
  rw [outcome, answer, m.index_of_not_covers hout]
  rfl

end ViewRequest

theorem Operation.view_right (v : MemoryView) (request : ViewRequest) (thread : Thread) (h : Host)
    (fits : (h.memory v).size < addressSpace) :
    Reading.Right ⟨(h.memory v).toList, request, (Operation.view v request).event thread h⟩ := by
  -- the view answers from the memory that there is in this state
  have hout : ((Operation.view v request).event thread h).outcome = request.outcome (h.memory v) :=
    view_outcome v request thread h
  have hlength : (h.memory v).toList.length = (h.memory v).size := (h.memory v).length_toList
  exact {
    alone := fun hm => hout.trans (ViewRequest.outcome_congr hm.symm request)
    size := fun hasked => by
      obtain rfl : request = .size := hasked
      dsimp only
      rw [hout, hlength]
      rfl
    pages := fun hasked => by
      obtain rfl : request = .pages := hasked
      dsimp only
      rw [hout, hlength]
      rfl
    read := fun hasked hin => by
      obtain rfl : request = .read _ _ := hasked
      exact hout.trans (ViewRequest.outcome_read ((h.memory v).covers_iff.mpr hin))
    engine := fun {offset length} hasked hin {m} hm => by
      obtain rfl : request = .read offset length := hasked
      have hcovers : m.covers offset length = true := m.covers_iff.mpr (hm ▸ hin)
      have hread := ViewRequest.outcome_read hcovers
      rw [← m.between_of_covers hcovers] at hread
      exact hout.trans ((ViewRequest.outcome_congr hm.symm _).trans hread)
    unread := fun hasked hbounds => by
      obtain rfl : request = .read _ _ := hasked
      have hcovers := fun hin => hbounds ((h.memory v).covers_iff.mp hin)
      refine ⟨_, hout.trans (ViewRequest.outcome_unread hcovers), fun hoffset hcount => ?_⟩
      rw [LinearMemory.outOfBounds_eq fits hoffset hcount]
    index := fun hasked hin => by
      obtain rfl : request = .index _ := hasked
      obtain ⟨b, hb, hanswer⟩ := ViewRequest.outcome_index hin.1 hin.2
      exact ⟨b, hb, hout.trans hanswer⟩
    unindexed := fun {i} hasked hbounds => by
      obtain rfl : request = .index i := hasked
      -- an index is a range of one byte
      have hcovers : ¬(h.memory v).covers i 1 = true := by
        intro hin
        obtain ⟨hi, -, hend⟩ := (h.memory v).covers_iff.mp hin
        exact hbounds ⟨hi, by dsimp only; omega⟩
      refine ⟨_, hout.trans (ViewRequest.outcome_unindexed hcovers), fun hi => ?_⟩
      have hone : isWritable 1 = true := by decide +kernel
      rw [LinearMemory.outOfBounds_eq fits hi hone]
    unchanged := view_after v request thread h }

/-- Whatever happens to a memory, everything that views over it answer is right for the content that
the memory has at that moment, which is what the changes before have made of the first content. -/
theorem MemoryRun.readings_right {handle : Handle} {memory : Nat} {content content' : List UInt8}
    {h h' : Host} {readings : List Reading}
    (run : MemoryRun handle memory content h readings content' h')
    (hstart : (h.memoryAt? handle memory).map LinearMemory.toList = some content)
    (fits : content.length < addressSpace) :
    (∀ reading ∈ readings, reading.Right) ∧
      (h'.memoryAt? handle memory).map LinearMemory.toList = some content' := by
  -- by induction on the run: the memory has the content that the run tells
  induction run with
  -- nothing is left to be asked
  | stop content h => exact ⟨fun reading hreading => absurd hreading List.not_mem_nil, hstart⟩
  | changes change changed fits' rest ih =>
    refine ih ?_ fits'
    obtain ⟨m, hm, rfl⟩ := Option.map_eq_some_iff.mp hstart
    rw [changed, hm, Option.map_some, Option.map_some, change.toList_apply]
  | elsewhere same rest ih => exact ih (same ▸ hstart) fits
  -- asking a view leaves the memory as it is, for what is asked later
  | @asks content _ h _ readings thread serial request rest ih =>
    have hunchanged := Operation.view_after ⟨serial, handle, memory⟩ request thread h
    have hafter : ((Operation.view ⟨serial, handle, memory⟩ request).after thread h).memoryAt?
        handle memory = h.memoryAt? handle memory := by
      rw [hunchanged]
      rfl
    obtain ⟨hright, hend⟩ := ih (hafter ▸ hstart) fits
    refine ⟨List.forall_mem_cons.mpr ⟨?_, hright⟩, hend⟩
    obtain ⟨m, hm, hcontent⟩ := Option.map_eq_some_iff.mp hstart
    have hmemory : h.memory ⟨serial, handle, memory⟩ = m := by
      unfold Host.memoryAt? at hm
      unfold Host.memory Guest.State.memory
      rw [List.getD_eq_getElem?_getD, hm, Option.getD_some]
    have hview := Operation.view_right ⟨serial, handle, memory⟩ request thread h (by
      rw [hmemory, ← m.length_toList, hcontent]
      exact fits)
    rw [hmemory, hcontent] at hview
    exact hview

end

section

attribute [local instance] Platform.machine

/-- Two bytes are written at the end of a memory of two, which makes it longer, and they are read.
Then the memory is cut to one byte, and the same read fails. -/
theorem MemoryRun.readings_right_cut :
    let handle : Handle := ⟨4, ⟨3, ⟨.empty, false, false⟩⟩⟩
    let host (m : LinearMemory) : Host :=
      { Host.fresh ⟨.empty, none⟩ ⟨[]⟩ with guests := (Cells.all .empty).set 4 ⟨[m], 0, none⟩ }
    let reads := Operation.view ⟨9, handle, 0⟩ (.read 1 2)
    let longer := (LinearMemory.zeroed 2).splice 1 [7, 8]
    let cut := longer.resize 1
    let readings : List Reading :=
      [⟨[0, 7, 8], .read 1 2, reads.event 1 (host longer)⟩,
        ⟨[0], .read 1 2, reads.event 0 (host cut)⟩]
    (∃ h, MemoryRun handle 0 [0, 0] (host (.zeroed 2)) readings [0] h) ∧
      (∀ reading ∈ readings, reading.Right) ∧
      reads.outcome 1 (host longer) = .ok (.reading (.bytes [7, 8])) ∧
      reads.outcome 0 (host cut) = .error ⟨.outOfBounds 1 2 1, none⟩ := by
  intro handle host reads longer cut readings
  have run : MemoryRun handle 0 [0, 0] (host (.zeroed 2)) readings [0] _ :=
    .changes (g := host longer) (.splice 1 [7, 8]) rfl (by decide +kernel)
      (.asks 1 9 (.read 1 2)
        (.changes (g := host cut) (.resize 1) rfl (by decide +kernel)
          (.asks 0 9 (.read 1 2) (.stop _ _))))
  obtain ⟨hright, -⟩ := run.readings_right rfl (by decide +kernel)
  have hfirst := hright _ List.mem_cons_self
  have hsecond := hright _ (List.mem_cons_of_mem _ List.mem_cons_self)
  obtain ⟨failure, hfails, hfailure⟩ := hsecond.unread rfl (by decide)
  rw [hfailure (by decide +kernel) (by decide +kernel)] at hfails
  exact ⟨⟨_, run⟩, hright, hfirst.read rfl (by decide), hfails⟩

end

end WasmHost
