import Mathlib.Data.List.DropRight
import WasmHost.Proofs.CacheSteps
import WasmHost.Proofs.Operation
/-!
What a cache holds after a whole history.

The events tell it by themselves: under an identifier a cache holds the module of the first event
since it was last cleared that has compiled one under it through the cache.
-/
namespace WasmHost

namespace Operation

/-- What an operation compiles through a cache: the cache that is named, the identifier, and where
the bytes come from. -/
def request? : Operation → Option (Option ModuleCache × Option String × ModuleSource)
  | cacheCompile c data identifier => some (some c, identifier, .bytes data)
  | compile data identifier cache => some (cache, identifier, .bytes data)
  | compileFile path identifier cache => some (cache, identifier, .file path)
  | _ => none

/-- What an operation compiles, when `process` is the cache of the process. -/
def compilation? (op : Operation) (process : Option ModuleCache) :
    Option (ModuleCache × Option String × ModuleSource) :=
  op.request?.bind fun (cache, identifier, source) =>
    (cache.or process).map fun c => (c, identifier, source)

variable [Platform]

theorem perform_of_request {op : Operation} {cache : Option ModuleCache}
    {identifier : Option String} {source : ModuleSource}
    (hop : op.request? = some (cache, identifier, source)) (h : Host) :
    op.perform.run.run h = (do
      let c ← Host.cacheOr cache
      return .compiled (← source.compile c identifier) : HostAction Answer).run.run h := by
  cases op <;> cases hop
  · rfl
  · rw [perform, CompiledModule.compile, bind_assoc]
    rfl
  · rw [perform, CompiledModule.ofFile, bind_assoc]
    rfl

end Operation

/-- The module that an event has compiled under an identifier through a cache. -/
def Event.compiled? (event : Event) (c : ModuleCache) (key : String) : Option CompiledModule :=
  match event.operation.compilation? event.after.cache, event.outcome with
  | some (c', some key', _), .ok (.compiled m) => if c = c' ∧ key' = key then some m else none
  | _, _ => none

/-- Whether an event has cleared a cache. -/
def Event.clears (event : Event) (c : ModuleCache) : Bool :=
  match event.operation with
  | .cacheClear c' => c = c'
  | _ => false

namespace ModuleCache

/-- The events since a cache was last cleared. -/
def sinceClear (c : ModuleCache) (events : List Event) : List Event :=
  events.rtakeWhile fun event => !event.clears c

/-- The first module that events have compiled under an identifier since the cache was cleared. -/
def firstCompiled (c : ModuleCache) (events : List Event) (key : String) : Option CompiledModule :=
  (c.sinceClear events).findSome? fun event => event.compiled? c key

theorem firstCompiled_append (c : ModuleCache) (events : List Event) (event : Event)
    (key : String) :
    c.firstCompiled (events ++ [event]) key =
      if event.clears c then none
      else (c.firstCompiled events key).or (event.compiled? c key) := by
  unfold firstCompiled sinceClear
  cases hclears : event.clears c with
  | true => rw [List.rtakeWhile_concat_neg _ _ _ (by rw [hclears]; decide), if_pos rfl]; rfl
  | false =>
    rw [List.rtakeWhile_concat_pos _ _ _ (by rw [hclears]; rfl), List.findSome?_append,
      if_neg Bool.false_ne_true, List.findSome?_singleton]

end ModuleCache

/-- The cache that is found is the one that is named, or else the cache of the process from then
on. -/
theorem Host.cacheOr_eq (cache : Option ModuleCache) (h : Host) :
    ((cacheOr cache).run.run h).1.toOption = cache.or ((cacheOr cache).run.run h).2.cache := by
  -- a cache that is named is taken; without one the process gives its own, which it may have to
  -- make
  cases cache with
  | some c => rfl
  | none =>
    rw [cacheOr, processCache, Action.run_get_bind]
    cases hcache : h.cache with
    | some c => exact hcache.symm
    | none =>
      have hnew : ((newCache none).run.run h).2.cache = h.cache :=
        ((newCache_touches none).run h).same .cache (by decide)
      dsimp only
      rw [Action.run_bind]
      rcases hrun : (newCache none).run.run h with ⟨_ | c, h'⟩
      -- making the cache failed, so that the process has none as before
      · rw [hrun] at hnew
        exact (hnew.trans hcache).symm
      · rfl

namespace Operation

variable {op : Operation} {cache : Option ModuleCache} {identifier : Option String}
  {source : ModuleSource} (hop : op.request? = some (cache, identifier, source))

include hop

variable [Platform]

-- How an operation that compiles goes once its cache is found.
theorem request_run_ok {thread : Thread} {h h₁ : Host} {c : ModuleCache}
    (hcache : (Host.cacheOr cache).run.run (h.onThread thread) = (.ok c, h₁)) :
    op.outcome thread h = ((source.compile c identifier).run.run h₁).1.map .compiled ∧
      op.after thread h = ((source.compile c identifier).run.run h₁).2 := by
  unfold outcome after
  rw [perform_of_request hop, Action.run_bind_ok hcache, Action.run_bind_pure]
  exact ⟨rfl, rfl⟩

theorem request_run_error {thread : Thread} {h h₁ : Host} {failure : Failure}
    (hcache : (Host.cacheOr cache).run.run (h.onThread thread) = (.error failure, h₁)) :
    op.outcome thread h = .error failure ∧ op.after thread h = h₁ := by
  unfold outcome after
  rw [perform_of_request hop, Action.run_bind_error hcache]
  exact ⟨rfl, rfl⟩

end Operation

namespace Event

variable {event : Event} {c : ModuleCache} {key : String}

theorem compiled?_of_error {failure : Failure} (hfail : event.outcome = .error failure) :
    event.compiled? c key = none := by
  unfold compiled?
  rw [hfail]
  split
  · next heq => cases heq
  · rfl

theorem compiled?_of_not_request (hop : event.operation.request? = none) :
    event.compiled? c key = none := by
  unfold compiled? Operation.compilation?
  rw [hop]
  rfl

theorem compiled?_eq {c' : ModuleCache} {identifier : Option String} {source : ModuleSource}
    {result : Except Failure CompiledModule}
    (hop : event.operation.compilation? event.after.cache = some (c', identifier, source))
    (hout : event.outcome = result.map .compiled) :
    event.compiled? c key =
      if c = c' ∧ identifier = some key then result.toOption else none := by
  unfold compiled?
  rw [hop, hout]
  cases identifier with
  | none =>
    rw [if_neg fun hand => Option.some_ne_none key hand.2.symm]
  | some found =>
    cases result with
    | error failure => exact (ite_self none).symm
    -- an entry is made only in the cache at hand and under the identifier at hand
    | ok m =>
      by_cases hhere : c = c' ∧ found = key
      · exact (if_pos hhere).trans (if_pos ⟨hhere.1, congrArg some hhere.2⟩).symm
      · exact (if_neg hhere).trans
          (if_neg fun hand => hhere ⟨hand.1, Option.some.inj hand.2⟩).symm

end Event

section

variable [Platform]

namespace Operation

theorem cached_of_not_request {op : Operation} (hop : op.request? = none)
    (hclear : ∀ c, op ≠ .cacheClear c) (thread : Thread) (h : Host) :
    (op.after thread h).cached = h.cached := by
  refine (op.after_sameBut thread h).same .cached ?_
  cases op with
  | cacheClear c => exact absurd rfl (hclear c)
  | cacheCompile | compile | compileFile => cases hop
  | _ =>
    dsimp only [parts]
    decide

omit [Platform] in
theorem cache_mem_objects {op : Operation} {c : ModuleCache} {identifier : Option String}
    {source : ModuleSource} (hop : op.request? = some (some c, identifier, source)) :
    .cache c ∈ op.objects := by
  cases op <;> cases hop <;> exact rfl

/-- An operation finds a cache, which is at hand or made for it, and compiles through it. -/
structure Finds (op : Operation) (thread : Thread) (h : Host) (c : ModuleCache)
    (identifier : Option String) (source : ModuleSource) (found : Host) : Prop where
  compilation : op.compilation? (op.after thread h).cache = some (c, identifier, source)
  outcome : op.outcome thread h = ((source.compile c identifier).run.run found).1.map .compiled
  after : op.after thread h = ((source.compile c identifier).run.run found).2
  cached : found.cached = h.cached
  known {K : Set Object} (ledger : Ledger (op.after thread h) K) (hused : op.objects ⊆ K) :
    .cache c ∈ K

-- An operation that compiles finds its cache, or fails because there is none.
theorem request_finds {op : Operation} {cache : Option ModuleCache} {identifier : Option String}
    {source : ModuleSource} (hop : op.request? = some (cache, identifier, source))
    (thread : Thread) (h : Host) :
    (∃ failure, op.outcome thread h = .error failure ∧
      (op.after thread h).cached = h.cached) ∨
    ∃ c found, op.Finds thread h c identifier source found := by
  have hfound := Host.cacheOr_eq cache (h.onThread thread)
  have hcached := ((Host.cacheOr_touches cache).run (h.onThread thread)).same .cached (by decide)
  rcases hcache : (Host.cacheOr cache).run.run (h.onThread thread) with ⟨failure | c, found⟩
  · obtain ⟨hout, hafter⟩ := request_run_error hop hcache
    rw [hcache] at hcached
    exact Or.inl ⟨failure, hout, hafter ▸ hcached⟩
  · obtain ⟨hout, hafter⟩ := request_run_ok hop hcache
    rw [hcache] at hfound hcached
    have hprocess : (op.after thread h).cache = found.cache := by
      rw [hafter]
      exact ((source.compile_touches c identifier).run found).same .cache (by decide)
    refine Or.inr ⟨c, found, ?_, hout, hafter, hcached, fun ledger hused => ?_⟩
    -- the cache that is found is known to the ledger, be it named or that of the process
    · rw [compilation?, hop, hprocess]
      exact congrArg (Option.map fun c => (c, identifier, source)) hfound.symm
    · cases cache with
      | some named =>
        obtain rfl := Option.some.inj hfound
        exact hused (cache_mem_objects hop)
      | none => exact ledger.held (.cache (hprocess.trans hfound.symm))

end Operation

omit [Platform] in
-- A cache that is known, or not yet made, is no other than the one of its serial number.
theorem Ledger.cache_serial_eq_iff {h : Host} {K : Set Object} (ledger : Ledger h K)
    {c c' : ModuleCache} (hc : .cache c ∈ K ∨ h.nextSerial ≤ c.serial) (hc' : .cache c' ∈ K) :
    c.serial = c'.serial ↔ c = c' := by
  refine ⟨fun heq => ?_, fun heq => heq ▸ rfl⟩
  rcases hc with hknown | hnew
  · exact Object.cache.inj (ledger.distinct hknown hc' heq)
  · exact absurd heq (ledger.ne_serial hc' hnew)

/-- What an operation does to what is found in a cache that is known, or not yet made. -/
theorem Operation.lookup_after {op : Operation} {thread : Thread} {h : Host} {K : Set Object}
    (ledger : Ledger (op.after thread h) K) (hused : op.objects ⊆ K) {c : ModuleCache}
    (hc : .cache c ∈ K ∨ (op.after thread h).nextSerial ≤ c.serial) (key : String) :
    (c.entries (op.after thread h)).lookup key =
      if (op.event thread h).clears c then none
      else ((c.entries h).lookup key).or ((op.event thread h).compiled? c key) := by
  -- the entries are in one part of the state
  have hlookup {after : Host} (hcached : after.cached = h.cached) :
      (c.entries after).lookup key = (c.entries h).lookup key :=
    congrArg (List.lookup key) (c.entries_of_cached hcached)
  cases hop : op.request? with
  | some request =>
    -- the entry goes to the cache of a serial number, and the ledger knows only one such cache
    obtain ⟨cache, identifier, source⟩ := request
    have hclears : (op.event thread h).clears c = false := by
      cases op <;> first | rfl | cases hop
    rw [hclears, if_neg Bool.false_ne_true]
    -- either there is no cache, or what is asked for is looked up there
    rcases request_finds hop thread h with ⟨failure, hfail, hcached⟩ | ⟨c', found, finds⟩
    · have hcompiled : (op.event thread h).compiled? c key = none :=
        Event.compiled?_of_error hfail
      rw [hcompiled, Option.or_none, hlookup hcached]
    · have hcompiled : (op.event thread h).compiled? c key =
          if c = c' ∧ identifier = some key then
            ((source.compile c' identifier).run.run found).1.toOption else none :=
        Event.compiled?_eq finds.compilation finds.outcome
      rw [hcompiled, finds.after, source.compile_lookup, hlookup finds.cached]
      simp only [ledger.cache_serial_eq_iff hc (finds.known ledger hused)]
  | none =>
    have hcompiled : (op.event thread h).compiled? c key = none :=
      Event.compiled?_of_not_request hop
    rw [hcompiled, Option.or_none]
    -- clearing empties the cache at hand, and no other
    by_cases hclear : ∃ c', op = .cacheClear c'
    · obtain ⟨c', rfl⟩ := hclear
      have hsame := ledger.cache_serial_eq_iff hc (hused rfl)
      have hclears : (Operation.event (.cacheClear c') thread h).clears c = decide (c = c') := rfl
      rw [hclears]
      change ((h.cached.set c'.serial []).get c.serial).lookup key = _
      rw [Cells.get_set]
      by_cases heq : c.serial = c'.serial
      · rw [if_pos heq, if_pos (decide_eq_true (hsame.mp heq))]
        rfl
      · rw [if_neg heq, if_neg fun htrue => heq (hsame.mpr (of_decide_eq_true htrue))]
        rfl
    · have hclears : (op.event thread h).clears c = false := by
        cases op <;> first | rfl | exact absurd ⟨_, rfl⟩ hclear
      rw [hclears, if_neg Bool.false_ne_true]
      exact hlookup (cached_of_not_request hop (fun c' heq => hclear ⟨c', heq⟩) thread h)

/-- Over a whole history, what is found in a cache is what the events tell. -/
theorem History.lookup_eq {events : List Event} {h : Host} (history : History events h) :
    ∃ K, Ledger h K ∧ Known events ⊆ K ∧
      ∀ c, (.cache c ∈ K ∨ h.nextSerial ≤ c.serial) → ∀ key,
        (c.entries h).lookup key = c.firstCompiled events key := by
  -- by induction on the history; caches that are not yet made are included because the next event
  -- may be what makes them
  induction history with
  | start context files =>
    obtain ⟨K, ledger, hknown⟩ := (History.start context files).ledger
    exact ⟨K, ledger, hknown, fun c _ key => rfl⟩
  | @perform events h past thread op known ih =>
    obtain ⟨K, ledger, hknown, hlookup⟩ := ih
    have hused : op.objects ⊆ K := fun _ ho => hknown (known ho)
    obtain ⟨K', grows, ledger', hgiven⟩ := ledger.perform hused thread
    refine ⟨K', ledger', Known.subset_of_append ledger' (fun _ ho => grows.kept (hknown ho)) hgiven,
      fun c hc key => ?_⟩
    -- a cache that is new now was not yet made before
    have hbefore : .cache c ∈ K ∨ h.nextSerial ≤ c.serial := by
      rcases hc with hc | hc
      · exact grows.new hc
      · exact Or.inr (grows.later.trans hc)
    rw [Operation.lookup_after ledger' (fun _ ho => grows.kept (hused ho)) hc,
      c.firstCompiled_append, hlookup c hbefore]
  | surroundings past context files serializeFault ih =>
    obtain ⟨K, ledger, hknown, hlookup⟩ := ih
    exact ⟨K, ledger.surroundings _ context files serializeFault, hknown,
      fun c hc key => hlookup c hc key⟩

namespace ModuleCache

/-- How a request goes that the cache does not answer: the source is read, and if it can be read the
engine of the cache is asked once to compile the bytes. -/
inductive Compiles (c : ModuleCache) (identifier : Option String) (source : ModuleSource)
    (before : Host) (outcome : Except Failure Answer) (after : Host) : Prop where
  | unread {failure : Failure} (hread : source.read c.engine before = .error failure)
      (hasked : after.operations = source.asked c.engine ++ before.operations)
      (hfail : outcome = .error failure)
  | invalid {data : Guest.Image} {diagnostic : String}
      (hread : source.read c.engine before = .ok data)
      (hasked : after.operations =
        (c.engine.serial, .compile) :: (source.asked c.engine ++ before.operations))
      (hinvalid : Guest.compile data = .error diagnostic)
      (hfail : outcome = .error ⟨.engine .compile "An error happened while compiling the module:"
        (some diagnostic), none⟩)
  | compiled {data : Guest.Image} {program : Guest.Program} {m : CompiledModule}
      (hread : source.read c.engine before = .ok data)
      (hasked : after.operations =
        (c.engine.serial, .compile) :: (source.asked c.engine ++ before.operations))
      (hvalid : Guest.compile data = .ok program) (hok : outcome = .ok (.compiled m))
      (hprogram : m.artifact.compiled.program = program) (hengine : m.engine = c.engine)
      (hidentifier : m.identifier = identifier)

/-- After some events, a cache holds exactly what they tell, and answers every next operation on any
thread by it. -/
structure Replays (c : ModuleCache) (events : List Event) (h : Host) : Prop where
  entries (key : String) (m : CompiledModule) :
    (key, m) ∈ c.entries h ↔ c.firstCompiled events key = some m
  keys : ((c.entries h).map (·.1)).Nodup
  own {key : String} {m : CompiledModule} (hm : c.firstCompiled events key = some m) :
    m.identifier = some key ∧ m.engine = c.engine
  get (key : String) (thread : Thread) :
    (Operation.cacheGet c key).outcome thread h = .ok (.entry (c.firstCompiled events key)) ∧
      Host.SameBut [.thread] h ((Operation.cacheGet c key).after thread h)
  contains (key : String) (thread : Thread) :
    (Operation.cacheContains c key).outcome thread h =
        .ok (.truth (c.firstCompiled events key).isSome) ∧
      Host.SameBut [.thread] h ((Operation.cacheContains c key).after thread h)
  size (thread : Thread) :
    (Operation.cacheSize c).outcome thread h = .ok (.count (c.entries h).length) ∧
      Host.SameBut [.thread] h ((Operation.cacheSize c).after thread h)
  /-- A hit gives the very module that is held, and changes nothing but the notices. -/
  hit {op : Operation} {key : String} {source : ModuleSource} {m : CompiledModule}
    (hop : op.compilation? h.cache = some (c, some key, source))
    (hm : c.firstCompiled events key = some m) (thread : Thread) :
    op.outcome thread h = .ok (.compiled m) ∧
      Host.SameBut [.thread, .notices] h (op.after thread h)
  /-- A miss, and any request without identifier, asks the engine. -/
  miss {op : Operation} {identifier : Option String} {source : ModuleSource}
    (hop : op.compilation? h.cache = some (c, identifier, source))
    (hmiss : ∀ key, identifier = some key → c.firstCompiled events key = none)
    (thread : Thread) :
    c.Compiles identifier source (h.onThread thread) (op.outcome thread h) (op.after thread h)
  /-- An operation that fails leaves the entries alone. -/
  failing {op : Operation} {thread : Thread} {failure : Failure}
    (hfail : op.outcome thread h = .error failure) : c.entries (op.after thread h) = c.entries h
  /-- So does every operation that neither clears this cache nor compiles through it under an
  identifier. -/
  other {op : Operation} {thread : Thread} (known : op.objects ⊆ Known events)
    (hop : ∀ key source, op.compilation? (op.after thread h).cache ≠ some (c, some key, source))
    (hclear : op ≠ .cacheClear c) : c.entries (op.after thread h) = c.entries h

end ModuleCache

end

-- Where no name occurs twice, what is found under a name is what is listed under it.
theorem mem_iff_lookup_eq_some {κ α : Type} [BEq κ] [LawfulBEq κ] {entries : List (κ × α)}
    (hkeys : (entries.map (·.1)).Nodup) {key : κ} {value : α} :
    (key, value) ∈ entries ↔ entries.lookup key = some value := by
  refine ⟨fun hmem => ?_, mem_of_lookup_eq_some⟩
  obtain ⟨before, after, rfl⟩ := List.append_of_mem hmem
  refine List.lookup_eq_some_iff.mpr ⟨before, after, rfl, fun entry hentry => ?_⟩
  rw [List.map_append, List.nodup_append] at hkeys
  have hne := hkeys.2.2 entry.1 (List.mem_map_of_mem hentry) key List.mem_cons_self
  exact bne_iff_ne.mpr hne.symm

theorem Host.onThread_sameBut (h : Host) (thread : Thread) (parts : List HostPart) :
    Host.SameBut (.thread :: parts) h (h.onThread thread) := fun part => by
  cases part <;> first | exact Or.inr rfl | exact Or.inl List.mem_cons_self

theorem Host.cacheOr_run_of_or {cache : Option ModuleCache} {h : Host} {c : ModuleCache}
    (hc : cache.or h.cache = some c) : (cacheOr cache).run.run h = (.ok c, h) := by
  cases cache with
  | some named =>
    cases hc
    rfl
  | none =>
    have hprocess : h.cache = some c := hc
    rw [cacheOr, processCache, Action.run_get_bind, hprocess]
    rfl

section

variable [Platform]

namespace Operation

/-- An operation whose cache is at hand compiles through it. -/
theorem compilation_run {op : Operation} {h : Host} {c : ModuleCache}
    {identifier : Option String} {source : ModuleSource}
    (hop : op.compilation? h.cache = some (c, identifier, source)) (thread : Thread) :
    op.outcome thread h =
        ((source.compile c identifier).run.run (h.onThread thread)).1.map .compiled ∧
      op.after thread h = ((source.compile c identifier).run.run (h.onThread thread)).2 := by
  unfold compilation? at hop
  -- the cache is the one that `cacheOr` finds in this state
  cases hrequest : op.request? with
  | none =>
    rw [hrequest] at hop
    cases hop
  | some request =>
    obtain ⟨cache, identifier', source'⟩ := request
    rw [hrequest] at hop
    obtain ⟨c', hc', heq⟩ := Option.map_eq_some_iff.mp hop
    cases heq
    exact request_run_ok hrequest (Host.cacheOr_run_of_or (h := h.onThread thread) hc')

theorem cached_of_error {op : Operation} {thread : Thread} {h : Host} {failure : Failure}
    (hfail : op.outcome thread h = .error failure) : (op.after thread h).cached = h.cached := by
  cases hop : op.request? with
  -- a failure is found before the cache is, or stores nothing
  | some request =>
    obtain ⟨cache, identifier, source⟩ := request
    rcases request_finds hop thread h with ⟨_, -, hcached⟩ | ⟨c, found, finds⟩
    · exact hcached
    · have hout := finds.outcome
      rw [finds.after]
      cases hresult : ((source.compile c identifier).run.run found).1 with
      | ok m =>
        rw [hfail, hresult] at hout
        cases hout
      | error failure' => exact (source.compile_cached_of_error c hresult).trans finds.cached
  | none =>
    refine cached_of_not_request hop (fun c heq => ?_) thread h
    subst heq
    cases hfail

-- An operation that neither clears a known cache nor compiles through it under an identifier leaves
-- its entries alone.
theorem entries_of_other {op : Operation} {thread : Thread} {h : Host} {K : Set Object}
    (ledger : Ledger (op.after thread h) K) (hused : op.objects ⊆ K) {c : ModuleCache}
    (hc : .cache c ∈ K)
    (hop : ∀ key source, op.compilation? (op.after thread h).cache ≠ some (c, some key, source))
    (hclear : op ≠ .cacheClear c) : c.entries (op.after thread h) = c.entries h := by
  cases hrequest : op.request? with
  | some request =>
    obtain ⟨cache, identifier, source⟩ := request
    rcases request_finds hrequest thread h with ⟨_, -, hcached⟩ | ⟨c', found, finds⟩
    · exact c.entries_of_cached hcached
    · rw [finds.after, source.compile_entries_of_other, c.entries_of_cached finds.cached]
      have hsame := ledger.cache_serial_eq_iff (Or.inl hc) (finds.known ledger hused)
      -- the caches are different, or else the operation has no identifier
      by_cases heq : c.serial = c'.serial
      · obtain rfl := hsame.mp heq
        cases identifier with
        | none => exact Or.inr rfl
        | some key => exact absurd finds.compilation (hop key source)
      · exact Or.inl heq
  | none =>
    by_cases hother : ∃ c', op = .cacheClear c'
    · obtain ⟨c', rfl⟩ := hother
      have hsame := ledger.cache_serial_eq_iff (Or.inl hc) (hused rfl)
      exact Cells.get_set_of_ne _ (fun heq => hclear (congrArg _ (hsame.mp heq).symm)) _
    · exact c.entries_of_cached
        (cached_of_not_request hrequest (fun c' heq => hother ⟨c', heq⟩) thread h)

end Operation

namespace ModuleCache

variable {c : ModuleCache} {events : List Event} {h : Host} {K : Set Object}

-- A request that a cache does not answer goes as it should.
theorem compiles_of_miss {op : Operation} {identifier : Option String} {source : ModuleSource}
    (hop : op.compilation? h.cache = some (c, identifier, source)) {thread : Thread}
    (hmiss : c.Misses (h.onThread thread) identifier) :
    c.Compiles identifier source (h.onThread thread) (op.outcome thread h)
      (op.after thread h) := by
  obtain ⟨hout, hafter⟩ := op.compilation_run hop thread
  rw [hout, hafter]
  cases hread : source.read c.engine (h.onThread thread) with
  | error failure =>
    rw [source.compile_of_miss c hmiss, hread]
    exact .unread hread rfl rfl
  | ok data =>
    rw [source.compile_of_read c hmiss hread]
    -- reading asks the engine for a file at most, so the request to compile is the last one
    obtain ⟨hasked, hresult⟩ := c.build_spec (h := source.readState c (h.onThread thread)) data
      identifier
    have hoperations := (c.stored_operations (h := ((c.build data identifier).run.run
      (source.readState c (h.onThread thread))).2) identifier
      ((c.build data identifier).run.run (source.readState c (h.onThread thread))).1).trans hasked
    cases hcompile : Guest.compile data with
    -- the bytes are refused: the engine's diagnostic is in the fault
    | error diagnostic =>
      rw [hcompile] at hresult
      dsimp only at hresult ⊢
      exact .invalid hread hoperations hcompile (congrArg (Except.map Answer.compiled) hresult)
    | ok program =>
      rw [hcompile] at hresult
      obtain ⟨m, hm, hengine, hidentifier, hprogram⟩ := hresult
      exact .compiled hread hoperations hcompile (congrArg (Except.map Answer.compiled) hm) hprogram
        hengine hidentifier

end ModuleCache

/-- After any history, a cache that is known holds under every identifier the module that was first
compiled under it since the cache was last cleared, and nothing else; and it goes on by that. -/
theorem History.cache_replays {events : List Event} {h : Host} (history : History events h)
    {c : ModuleCache} (hc : .cache c ∈ Known events) : c.Replays events h := by
  obtain ⟨K, ledger, hknown, hlookups⟩ := history.lookup_eq
  have hcache : .cache c ∈ K := hknown hc
  have hlookup := hlookups c (Or.inl hcache)
  -- what is listed under an identifier is what is found there, since no identifier is listed twice
  have hentries (key : String) (m : CompiledModule) :
      (key, m) ∈ c.entries h ↔ c.firstCompiled events key = some m := by
    refine (mem_iff_lookup_eq_some (ledger.keys c.serial)).trans ?_
    rw [← hlookup key]
    rfl
  exact {
    entries := hentries
    keys := ledger.keys c.serial
    own := fun hm => by
      -- an entry is for its own cache, which is the only one with this number
      obtain ⟨c', hc', hserial, hengine, hidentifier⟩ := ledger.cached ((hentries _ _).mpr hm)
      obtain rfl := Object.cache.inj (ledger.distinct hc' hcache hserial)
      exact ⟨hidentifier, hengine⟩
    get := fun key thread => by
      refine ⟨?_, h.onThread_sameBut thread []⟩
      rw [← hlookup key]
      rfl
    contains := fun key thread => by
      refine ⟨?_, h.onThread_sameBut thread []⟩
      rw [← hlookup key]
      rfl
    size := fun thread => ⟨rfl, h.onThread_sameBut thread []⟩
    -- a hit is answered from the entries, whatever has happened to the source
    hit := fun {op key source m} hop hm thread => by
      obtain ⟨hout, hafter⟩ := op.compilation_run hop thread
      have hheld : (c.entries (h.onThread thread)).lookup key = some m := (hlookup key).trans hm
      obtain ⟨hok, same⟩ := source.compile_of_hit c hheld
      rw [hout, hafter, hok]
      exact ⟨rfl, (h.onThread_sameBut thread _).trans (same.mono (List.subset_cons_self _ _))⟩
    miss := fun hop hmiss thread =>
      ModuleCache.compiles_of_miss hop fun key hkey => (hlookup key).trans (hmiss key hkey)
    failing := fun {op thread failure} hfail => c.entries_of_cached (op.cached_of_error hfail)
    other := fun {op thread} known hop hclear => by
      have hused : op.objects ⊆ K := fun _ ho => hknown (known ho)
      obtain ⟨K', grows, ledger', -⟩ := ledger.perform hused thread
      exact Operation.entries_of_other ledger' (fun _ ho => grows.kept (hused ho))
        (grows.kept hcache) hop hclear }

end

section

attribute [local instance] Platform.machine

/-- The empty program, compiled under the empty identifier through a new cache, is what that cache
holds under it. -/
theorem cache_replays_empty_identifier :
    let c : ModuleCache := ⟨3, ⟨2, ⟨1, .default⟩⟩⟩
    let m : CompiledModule := ⟨5, c.engine, ⟨4, ⟨.empty, false, false⟩⟩, some ""⟩
    let newCache := Operation.newCache none
    let compile := Operation.cacheCompile c (.ofProgram .empty) (some "")
    let h₀ := Host.fresh ⟨.empty, none⟩ ⟨[]⟩
    let h₁ := newCache.after 0 h₀
    let events := [newCache.event 0 h₀, compile.event 1 h₁]
    c.Replays events (compile.after 1 h₁) ∧ c.firstCompiled events "" = some m ∧
      c.entries (compile.after 1 h₁) = [("", m)] := by
  intro c m newCache compile h₀ h₁ events
  have hgiven : Object.cache c ∈ onOk Answer.objects (newCache.event 0 h₀).outcome := rfl
  have hfirst : Object.cache c ∈ Known [newCache.event 0 h₀] :=
    .given List.mem_cons_self hgiven
  have history : History events (compile.after 1 h₁) :=
    .perform (.perform (.start _ _) 0 (Set.empty_subset _)) 1 fun _ ho => ho ▸ hfirst
  have hknown : Object.cache c ∈ Known events := .given List.mem_cons_self hgiven
  exact ⟨history.cache_replays hknown, rfl, rfl⟩

end

end WasmHost
