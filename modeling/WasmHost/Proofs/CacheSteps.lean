import WasmHost.Proofs.Issuing
/-!
What compiling through a cache does, step by step.

A module comes from bytes or from a file. An identifier that the cache holds is answered from it;
any other request reads what it needs, asks the engine of the cache to compile it, and, if it has an
identifier, stores what came of it.
-/
namespace WasmHost

/-- Where the bytes of a module come from. -/
inductive ModuleSource where
  | bytes (data : Guest.Image)
  | file (path : String)

namespace ModuleSource

variable [Guest.Runtime]

/-- Compiles what a source gives through a cache. -/
def compile (c : ModuleCache) (identifier : Option String) : ModuleSource →
    HostAction CompiledModule
  | bytes data => c.compile data identifier
  | file path => CompiledModule.ofFile path identifier (some c)

/-- The bytes that a source gives at the moment. -/
def read (e : Engine) (h : Host) : ModuleSource → Except Failure Guest.Image
  | bytes data => .ok data
  | file path => ((e.fetchBytes path).run.run h).1

/-- What an engine is asked so that the source can be read. -/
def asked (e : Engine) : ModuleSource → List (Nat × EngineOperation)
  | bytes _ => []
  | file _ => [(e.serial, .fetchBytes)]

end ModuleSource

theorem Engine.fetchBytes_state (e : Engine) (path : String) (h : Host) :
    ((e.fetchBytes path).run.run h).2 =
      { h with operations := (e.serial, .fetchBytes) :: h.operations } := by
  unfold fetchBytes
  rw [Action.run_lift_bind, Action.run_get_bind]
  split <;> rfl

namespace ModuleCache

variable (c : ModuleCache) {h : Host}

/-- The cache does not hold what is asked for, or nothing in particular is asked for. -/
def Misses (h : Host) (identifier : Option String) : Prop :=
  ∀ key, identifier = some key → (c.entries h).lookup key = none

theorem entries_of_cached {h' : Host} (hcached : h'.cached = h.cached) :
    c.entries h' = c.entries h := by
  rw [entries, entries, hcached]

theorem lookup_filter_ne {key other : String} (entries : List (String × CompiledModule)) :
    (entries.filter (·.1 ≠ key)).lookup other =
      if other = key then none else entries.lookup other := by
  -- an entry under the key is dropped, and any other is met as before
  induction entries with
  | nil => exact (ite_self none).symm
  | cons entry entries ih =>
    obtain ⟨name, m⟩ := entry
    by_cases hname : name = key
    · rw [List.filter_cons_of_neg (by simpa using hname), ih, List.lookup_cons]
      by_cases hother : other = key
      · rw [if_pos hother, if_pos hother]
      · rw [if_neg hother, if_neg hother, hname, beq_false_of_ne hother]
    · rw [List.filter_cons_of_pos (by simpa using hname), List.lookup_cons, List.lookup_cons, ih]
      by_cases hother : other = key
      · have hne : other ≠ name := fun heq => hname (heq.symm.trans hother)
        rw [beq_false_of_ne hne, if_pos hother]
      · rw [if_neg hother, if_neg hother]

-- Storing a module changes what is found under its identifier, and in this cache.
theorem insert_lookup (c' : ModuleCache) (key other : String) (m : CompiledModule) :
    (c'.entries ((c.insert key m).run h).2).lookup other =
      if c'.serial = c.serial ∧ other = key then some m else (c'.entries h).lookup other := by
  change ((h.cached.set c.serial _).get c'.serial).lookup other = _
  rw [Cells.get_set]
  by_cases hc : c'.serial = c.serial
  -- the cell of this cache is the one that is written
  · have hentries : c'.entries h = c.entries h := congrArg h.cached.get hc
    rw [if_pos hc, List.lookup_append, lookup_filter_ne, hentries]
    by_cases hother : other = key
    · rw [if_pos hother, if_pos ⟨hc, hother⟩, hother, List.lookup_cons_self, Option.none_or]
    · rw [if_neg hother, if_neg fun hand => hother hand.2, List.lookup_cons,
        beq_false_of_ne hother]
      exact Option.or_none
  · rw [if_neg hc, if_neg fun hand => hc hand.1]
    rfl

section

variable [Guest.Runtime]

theorem compile_of_hit {key : String} {m : CompiledModule}
    (hm : (c.entries h).lookup key = some m) (data : Guest.Image) :
    (c.compile data (some key)).run.run h = (.ok m, ((Host.note (.cacheHit key)).run h).2) := by
  have hget : (c.get? key).run h = (some m, h) := congrArg (fun found => (found, h)) hm
  unfold compile
  rw [Action.run_lift_bind, hget]
  rfl

/-- The state after a module may have been stored. -/
def stored (identifier : Option String) (result : Except Failure CompiledModule) (h : Host) :
    Host :=
  match identifier, result with
  | some key, .ok m => ((c.insert key m).run h).2
  | _, _ => h

theorem compile_of_miss {identifier : Option String} (hmiss : c.Misses h identifier)
    (data : Guest.Image) :
    (c.compile data identifier).run.run h =
      (((c.build data identifier).run.run h).1,
        c.stored identifier ((c.build data identifier).run.run h).1
          ((c.build data identifier).run.run h).2) := by
  cases identifier with
  | none => rfl
  | some key =>
    have hget : (c.get? key).run h = (none, h) :=
      congrArg (fun found => (found, h)) (hmiss key rfl)
    unfold compile
    rw [Action.run_lift_bind, hget]
    dsimp only
    rw [Action.run_bind]
    rcases (c.build data (some key)).run.run h with ⟨_ | m, h'⟩ <;> rfl

/-- The engine is asked once to compile the bytes, and the module is on that engine and under the
identifier given. -/
theorem build_spec (data : Guest.Image) (identifier : Option String) :
    ((c.build data identifier).run.run h).2.operations =
        (c.engine.serial, .compile) :: h.operations ∧
      match Guest.compile data with
      | .ok program => ∃ m, ((c.build data identifier).run.run h).1 = .ok m ∧
          m.engine = c.engine ∧ m.identifier = identifier ∧ m.artifact.compiled.program = program
      | .error diagnostic => ((c.build data identifier).run.run h).1 =
          .error
            ⟨.engine .compile "An error happened while compiling the module:" (some diagnostic),
              none⟩ := by
  -- the engine records a diagnostic when it refuses the bytes, and the fault repeats it
  unfold build
  rw [Action.run_lift_bind]
  unfold Engine.compile
  cases Guest.compile data with
  | ok program => exact ⟨rfl, _, rfl, rfl, rfl, rfl⟩
  | error diagnostic =>
    refine ⟨rfl, ?_⟩
    change Except.error (Failure.mk (.engine .compile _ ((h.diagnostics.set
      (c.engine.serial, h.thread) (some diagnostic)).get (c.engine.serial, h.thread))) none) = _
    rw [Cells.get_set_self]

end

theorem stored_operations (identifier : Option String) (result : Except Failure CompiledModule) :
    (c.stored identifier result h).operations = h.operations := by
  cases identifier with
  | none => rfl
  | some key => cases result <;> rfl

theorem hit_or_misses (h : Host) (identifier : Option String) :
    (∃ key m, identifier = some key ∧ (c.entries h).lookup key = some m) ∨
      c.Misses h identifier := by
  cases identifier with
  | none => exact Or.inr fun key hkey => absurd hkey.symm (Option.some_ne_none key)
  | some key =>
    cases hfound : (c.entries h).lookup key with
    | some m => exact Or.inl ⟨key, m, rfl, hfound⟩
    | none => exact Or.inr fun other hother => Option.some.inj hother ▸ hfound

-- Storing what came of a miss adds it under the identifier given.
theorem stored_lookup {identifier : Option String} (hmiss : c.Misses h identifier)
    (result : Except Failure CompiledModule) (c' : ModuleCache) (key : String) :
    (c'.entries (c.stored identifier result h)).lookup key =
      ((c'.entries h).lookup key).or
        (if c'.serial = c.serial ∧ identifier = some key then result.toOption else none) := by
  -- without an identifier nothing is stored, and a failure is not stored either
  cases identifier with
  | none =>
    rw [if_neg fun hand => Option.some_ne_none key hand.2.symm, Option.or_none]
    rfl
  | some stored =>
    cases result with
    | error failure =>
      rw [Except.toOption, ite_self, Option.or_none]
      rfl
    | ok m =>
      dsimp only [ModuleCache.stored]
      rw [c.insert_lookup]
      -- the module is found under its own identifier, where nothing was before
      by_cases hhere : c'.serial = c.serial ∧ key = stored
      · obtain ⟨heq, rfl⟩ := hhere
        have hnone : (c'.entries h).lookup key = none :=
          (congrArg (List.lookup key) (congrArg h.cached.get heq)).trans (hmiss key rfl)
        rw [if_pos ⟨heq, rfl⟩, if_pos ⟨heq, rfl⟩, hnone]
        rfl
      · rw [if_neg hhere, if_neg fun hand => hhere ⟨hand.1, (Option.some.inj hand.2).symm⟩,
          Option.or_none]

variable [Guest.Runtime]

theorem entries_build (c' : ModuleCache) (data : Guest.Image) (identifier : Option String) :
    c'.entries ((c.build data identifier).run.run h).2 = c'.entries h :=
  c'.entries_of_cached (((c.build_touches data identifier).run h).same .cached (by decide))

end ModuleCache

namespace ModuleSource

variable (c : ModuleCache) {h : Host} (source : ModuleSource)

variable [Guest.Runtime]

theorem compile_file (identifier : Option String) (path : String) :
    ((file path).compile c identifier).run.run h = (do
      match ← CompiledModule.cachedFor c identifier with
      | some m => return m
      | none =>
        let data ← c.engine.fetchBytes path
        c.compile data identifier : HostAction CompiledModule).run.run h := rfl

theorem compile_touches (identifier : Option String) :
    Touches [.nextSerial, .diagnostics, .operations, .notices, .cached]
      (source.compile c identifier).run := by
  cases source with
  | bytes data => exact c.compile_touches data identifier
  | file path => exact CompiledModule.load_touches c path identifier

-- What is found under an identifier is given, and only the notices tell that it was asked for.
theorem compile_of_hit {key : String} {m : CompiledModule}
    (hm : (c.entries h).lookup key = some m) :
    ((source.compile c (some key)).run.run h).1 = .ok m ∧
      Host.SameBut [.notices] h ((source.compile c (some key)).run.run h).2 := by
  cases source with
  | bytes data =>
    rw [compile, c.compile_of_hit hm]
    exact ⟨rfl, (Host.note_touches (.cacheHit key)).run h⟩
  | file path =>
    have hget : (CompiledModule.cachedFor c (some key)).run h = (some m, h) :=
      congrArg (fun found => (found, h)) hm
    rw [compile_file, Action.run_lift_bind, hget]
    exact ⟨rfl, .refl _ h⟩

/-- The state after a source has been read. -/
def readState (h : Host) : Host :=
  { h with operations := source.asked c.engine ++ h.operations }

theorem compile_of_miss {identifier : Option String} (hmiss : c.Misses h identifier) :
    (source.compile c identifier).run.run h = match source.read c.engine h with
      | .ok data => (c.compile data identifier).run.run (source.readState c h)
      | .error failure => (.error failure, source.readState c h) := by
  cases source with
  | bytes data => rfl
  | file path =>
    -- there is nothing to be found, with an identifier or without one
    have hget : (CompiledModule.cachedFor c identifier).run h = (none, h) := by
      cases identifier with
      | none => rfl
      | some key => exact congrArg (fun found => (found, h)) (hmiss key rfl)
    have hfetch : (c.engine.fetchBytes path).run.run h =
        ((file path).read c.engine h, (file path).readState c h) :=
      Prod.ext rfl (c.engine.fetchBytes_state path h)
    rw [compile_file, Action.run_lift_bind, hget]
    dsimp only
    rw [Action.run_bind, hfetch]
    cases (file path).read c.engine h <;> rfl

theorem compile_of_read {identifier : Option String} (hmiss : c.Misses h identifier)
    {data : Guest.Image} (hread : source.read c.engine h = .ok data) :
    (source.compile c identifier).run.run h =
      (((c.build data identifier).run.run (source.readState c h)).1,
        c.stored identifier ((c.build data identifier).run.run (source.readState c h)).1
          ((c.build data identifier).run.run (source.readState c h)).2) := by
  rw [source.compile_of_miss c hmiss, hread]
  exact c.compile_of_miss (h := source.readState c h) hmiss data

/-- Compiling through a cache adds at most what it gives, under the identifier given and where
nothing was found before. -/
theorem compile_lookup (c' : ModuleCache) (identifier : Option String) (key : String) :
    (c'.entries ((source.compile c identifier).run.run h).2).lookup key =
      ((c'.entries h).lookup key).or
        (if c'.serial = c.serial ∧ identifier = some key then
          ((source.compile c identifier).run.run h).1.toOption else none) := by
  rcases c.hit_or_misses h identifier with ⟨found, m, rfl, hm⟩ | hmiss
  -- a hit stores nothing, and what it gives stands under the identifier already
  · obtain ⟨hok, same⟩ := source.compile_of_hit c hm
    have hentries : c'.entries ((source.compile c (some found)).run.run h).2 = c'.entries h :=
      c'.entries_of_cached (same.same .cached (by decide))
    rw [hentries, hok]
    by_cases hhere : c'.serial = c.serial ∧ some found = some key
    · obtain ⟨heq, hkey⟩ := hhere
      have hheld : (c'.entries h).lookup key = some m :=
        (congrArg (List.lookup key) (congrArg h.cached.get heq)).trans (Option.some.inj hkey ▸ hm)
      rw [hheld]
      rfl
    · rw [if_neg hhere, Option.or_none]
  -- a miss leads on to the source, and reading it leaves the entries alone
  · cases hread : source.read c.engine h with
    | ok data =>
      have hmiss' : c.Misses ((c.build data identifier).run.run (source.readState c h)).2
          identifier := fun found hfound => by
        rw [c.entries_build]
        exact hmiss found hfound
      rw [source.compile_of_read c hmiss hread, c.stored_lookup hmiss', c.entries_build]
      rfl
    | error failure =>
      rw [source.compile_of_miss c hmiss, hread, Except.toOption, ite_self, Option.or_none]
      rfl

theorem compile_cached_of_error {identifier : Option String} {failure : Failure}
    (hfail : ((source.compile c identifier).run.run h).1 = .error failure) :
    ((source.compile c identifier).run.run h).2.cached = h.cached := by
  -- a hit does not fail
  rcases c.hit_or_misses h identifier with ⟨found, m, rfl, hm⟩ | hmiss
  · obtain ⟨hok, -⟩ := source.compile_of_hit c hm
    rw [hok] at hfail
    cases hfail
  · cases hread : source.read c.engine h with
    | ok data =>
      rw [source.compile_of_read c hmiss hread] at hfail ⊢
      dsimp only at hfail ⊢
      rw [hfail]
      have hbuild := ((c.build_touches data identifier).run (source.readState c h)).same .cached
        (by decide)
      cases identifier <;> exact hbuild
    | error failure' =>
      rw [source.compile_of_miss c hmiss, hread]
      rfl

-- Entries of other caches stay as they are, and so do all entries without an identifier.
theorem compile_entries_of_other {c' : ModuleCache} {identifier : Option String}
    (hother : c'.serial ≠ c.serial ∨ identifier = none) :
    c'.entries ((source.compile c identifier).run.run h).2 = c'.entries h := by
  rcases c.hit_or_misses h identifier with ⟨found, m, rfl, hm⟩ | hmiss
  · obtain ⟨-, same⟩ := source.compile_of_hit c hm
    exact c'.entries_of_cached (same.same .cached (by decide))
  · cases hread : source.read c.engine h with
    | error failure =>
      rw [source.compile_of_miss c hmiss, hread]
      rfl
    | ok data =>
      have hbuild : c'.entries ((c.build data identifier).run.run (source.readState c h)).2 =
          c'.entries h := c.entries_build c' data identifier
      rw [source.compile_of_read c hmiss hread]
      refine Eq.trans ?_ hbuild
      -- the module is stored in another cache, or not at all
      rcases hother with hserial | rfl
      · cases identifier with
        | none => rfl
        | some key =>
          cases ((c.build data (some key)).run.run (source.readState c h)).1 with
          | error failure => rfl
          | ok m => exact Cells.get_set_of_ne _ hserial _
      · rfl

end ModuleSource
end WasmHost
