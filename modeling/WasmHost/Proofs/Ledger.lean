import Mathlib.Data.Set.Insert
import WasmHost.Proofs.Footprint
/-!
The ledger of a host: the objects that have been issued, and what the state holds of them.

Serial numbers are given out once. So two objects with the same number are the same object, what is
stored under a number belongs to the object of that number, and nothing is stored under a number
that has not been given out. The ledger also says what holds of every object from the moment it is
issued.
-/
namespace WasmHost

/-- An object of a host. -/
inductive Object where
  | settings (settings : SettingsObject)
  | engine (engine : Engine)
  | artifact (artifact : Artifact)
  | handle (handle : Handle)
  | compiled (compiled : CompiledModule)
  | cache (cache : ModuleCache)
  | view (view : MemoryView)
  | function (function : ExportedFunction)
  | running (owner : Instance)

/-- A program has been compiled for an engine: native code depends on these of its settings. -/
structure Engine.Fits (e : Engine) (c : Guest.Compiled) : Prop where
  consumeFuel : c.consumeFuel = e.settings.values.consumeFuel
  debugInfo : c.debugInfo = e.settings.values.debugInfo

namespace Object

def serial : Object → Nat
  | settings s => s.serial
  | engine e => e.serial
  | artifact a => a.serial
  | .handle i => i.serial
  | compiled m => m.serial
  | cache c => c.serial
  | view v => v.serial
  | function f => f.serial
  | running i => i.serial

/-- The objects that an object is made of. -/
def parts : Object → List Object
  | settings _ | artifact _ => []
  | engine e => [settings e.settings]
  | .handle i => [artifact i.artifact]
  | compiled m => [engine m.engine, artifact m.artifact]
  | cache c => [engine c.engine]
  | view v => [handle v.handle]
  | function f => [engine f.engine, handle f.bound.handle]
  | running i => [engine i.engine, handle i.handle, compiled i.source]

/-- What holds of an object as long as it lives: a module is compiled for its engine, a view is over
the memory that its instance exposes, the signature of a callable is that of the export it calls,
and an instance runs the module it was made of, on the engine of that module. -/
def Sound : Object → Prop
  | compiled m => m.engine.Fits m.artifact.compiled
  | view v => v.handle.program.exposedMemory? = some v.memory
  | function f => ∃ g, f.bound.handle.program.export? f.bound.name = some (.function g) ∧
      Engine.signatureOf? g = some f.bound.signature
  | running i => i.source.engine = i.engine ∧ i.source.artifact = i.handle.artifact
  | _ => True

end Object

/-- Nothing is stored under a serial number. -/
structure Host.Unused (h : Host) (n : Nat) : Prop where
  diagnostics (thread : Thread) : h.diagnostics.get (n, thread) = none
  cached : h.cached.get n = []
  guests : h.guests.get n = .empty
  wrappers : h.wrappers.get n = []
  views : h.views.get n = .unset

/-- The objects that a state holds on to. -/
inductive Host.Holds (h : Host) : Object → Prop where
  | settings {s : SettingsObject} (hs : h.settings = some s) : Holds h (.settings s)
  | engine {e : Engine} (he : h.engine = some e) : Holds h (.engine e)
  | cache {c : ModuleCache} (hc : h.cache = some c) : Holds h (.cache c)
  | cached {n : Nat} {key : String} {m : CompiledModule} (hm : (key, m) ∈ h.cached.get n) :
      Holds h (.compiled m)
  | wrapper {n : Nat} {name : String} {f : ExportedFunction} (hf : (name, f) ∈ h.wrappers.get n) :
      Holds h (.function f)
  | view {n : Nat} {v : MemoryView} (hv : h.views.get n = .holds (some v)) : Holds h (.view v)

/-- A state keeps a ledger of objects. -/
structure Ledger (h : Host) (K : Set Object) : Prop where
  issued {o : Object} (ho : o ∈ K) : o.serial < h.nextSerial
  distinct {o o' : Object} (ho : o ∈ K) (ho' : o' ∈ K) (hs : o.serial = o'.serial) : o = o'
  parts {o p : Object} (ho : o ∈ K) (hp : p ∈ o.parts) : p ∈ K
  sound {o : Object} (ho : o ∈ K) : o.Sound
  held {o : Object} (ho : h.Holds o) : o ∈ K
  unused {n : Nat} (hn : h.nextSerial ≤ n) : h.Unused n
  /-- A cache maps an identifier to a module of its engine that was compiled under it. -/
  cached {n : Nat} {key : String} {m : CompiledModule} (hm : (key, m) ∈ h.cached.get n) :
    ∃ c, Object.cache c ∈ K ∧ c.serial = n ∧ m.engine = c.engine ∧ m.identifier = some key
  keys (n : Nat) : ((h.cached.get n).map (·.1)).Nodup
  /-- An instance hands out callables for exports of its own. -/
  wrappers {n : Nat} {name : String} {f : ExportedFunction} (hf : (name, f) ∈ h.wrappers.get n) :
    ∃ i, Object.running i ∈ K ∧ i.serial = n ∧ f.engine = i.engine ∧ f.bound.handle = i.handle ∧
      f.bound.name = name
  /-- The view of an instance is over its own memory, and there is none if it exposes none. -/
  views {n : Nat} {view : Option MemoryView} (hv : h.views.get n = .holds view) :
    ∃ i, Object.running i ∈ K ∧ i.serial = n ∧
      (view = none → i.handle.program.exposedMemory? = none) ∧
      ∀ v, view = some v → v.handle = i.handle
  unlocked (n : Nat) : h.viewLocks.get n = none

/-- From one state and its ledger to a later one: nothing is lost, and what is new has a new serial
number. -/
structure Grows (h : Host) (K : Set Object) (h' : Host) (K' : Set Object) : Prop where
  kept : K ⊆ K'
  later : h.nextSerial ≤ h'.nextSerial
  new {o : Object} (ho : o ∈ K') : o ∈ K ∨ h.nextSerial ≤ o.serial

namespace Grows

variable {h h' h'' : Host} {K K' K'' : Set Object}

theorem refl (K : Set Object) (hs : h'.nextSerial = h.nextSerial) : Grows h K h' K :=
  ⟨fun _ ho => ho, Nat.le_of_eq hs.symm, Or.inl⟩

theorem trans (first : Grows h K h' K') (second : Grows h' K' h'' K'') : Grows h K h'' K'' := by
  refine ⟨fun _ ho => second.kept (first.kept ho), first.later.trans second.later, fun ho => ?_⟩
  rcases second.new ho with hold | hnew
  · exact first.new hold
  · exact Or.inr (first.later.trans hnew)

end Grows

/-- A fresh host keeps the empty ledger. -/
theorem Ledger.fresh (context : SettingsContext) (files : Files.Tree) :
    Ledger (Host.fresh context files) ∅ where
  issued ho := absurd ho (Set.notMem_empty _)
  distinct ho := absurd ho (Set.notMem_empty _)
  parts ho := absurd ho (Set.notMem_empty _)
  sound ho := absurd ho (Set.notMem_empty _)
  held ho := by cases ho <;> contradiction
  unused _ := ⟨fun _ => rfl, rfl, rfl, rfl, rfl⟩
  cached hm := absurd hm List.not_mem_nil
  keys _ := List.nodup_nil
  wrappers hf := absurd hf List.not_mem_nil
  views hv := ViewSlot.noConfusion hv
  unlocked _ := rfl

namespace Ledger

variable {h h' : Host} {K : Set Object} (ledger : Ledger h K)

include ledger

theorem unused_succ {n : Nat} (hn : h.nextSerial + 1 ≤ n) : h.Unused n :=
  ledger.unused (Nat.le_of_succ_le hn)

theorem ne_serial {o : Object} (ho : o ∈ K) {n : Nat} (hn : h.nextSerial ≤ n) : n ≠ o.serial :=
  fun heq => absurd (ledger.issued ho) (Nat.not_lt.mpr (heq ▸ hn))

/-- The ledger does not depend on what threads, files, notices and operations there are, nor on
diagnostics and guests, as long as these belong to objects. -/
theorem transfer (same : Host.SameBut [.thread, .context, .files, .serializeFault, .diagnostics,
    .operations, .notices, .guests] h h')
    (hd : ∀ n, h.nextSerial ≤ n → ∀ t, h'.diagnostics.get (n, t) = none)
    (hg : ∀ n, h.nextSerial ≤ n → h'.guests.get n = .empty) : Ledger h' K := by
  have hserial : h'.nextSerial = h.nextSerial := same.same .nextSerial (by decide)
  have hcached : h'.cached = h.cached := same.same .cached (by decide)
  have hwrappers : h'.wrappers = h.wrappers := same.same .wrappers (by decide)
  have hviews : h'.views = h.views := same.same .views (by decide)
  have hlocks : h'.viewLocks = h.viewLocks := same.same .viewLocks (by decide)
  have hsettings : h'.settings = h.settings := same.same .settings (by decide)
  have hengine : h'.engine = h.engine := same.same .engine (by decide)
  have hcache : h'.cache = h.cache := same.same .cache (by decide)
  -- what the state holds is in the parts that have not changed
  have hold {o : Object} (ho : h'.Holds o) : h.Holds o := by
    cases ho with
    | settings hs => exact .settings (hsettings ▸ hs)
    | engine he => exact .engine (hengine ▸ he)
    | cache hc => exact .cache (hcache ▸ hc)
    | cached hm => exact .cached (hcached ▸ hm)
    | wrapper hf => exact .wrapper (hwrappers ▸ hf)
    | view hv => exact .view (hviews ▸ hv)
  exact {
    issued := fun ho => hserial ▸ ledger.issued ho
    distinct := ledger.distinct
    parts := ledger.parts
    sound := ledger.sound
    held := fun ho => ledger.held (hold ho)
    unused := fun {n} hn => by
      have hn' : h.nextSerial ≤ n := hserial ▸ hn
      have hunused := ledger.unused hn'
      exact ⟨hd n hn', hcached ▸ hunused.cached, hg n hn', hwrappers ▸ hunused.wrappers,
        hviews ▸ hunused.views⟩
    cached := fun hm => ledger.cached (hcached ▸ hm)
    keys := fun n => hcached ▸ ledger.keys n
    wrappers := fun hf => ledger.wrappers (hwrappers ▸ hf)
    views := fun hv => ledger.views (hviews ▸ hv)
    unlocked := fun n => hlocks ▸ ledger.unlocked n }

-- The ledger depends neither on the running thread nor on anything outside the host.
theorem surroundings (thread : Thread) (context : SettingsContext) (files : Files.Tree)
    (serializeFault : Option String) :
    Ledger { h with thread, context, files, serializeFault } K := by
  refine ledger.transfer (fun part => ?_) (fun _ hn => (ledger.unused hn).diagnostics)
    fun _ hn => (ledger.unused hn).guests
  cases part <;> first | exact Or.inr rfl | exact Or.inl (by decide)

/-- A new object of known parts is entered under the next serial number. -/
theorem issue {o : Object} (hserial : o.serial = h.nextSerial) (hparts : ∀ p ∈ o.parts, p ∈ K)
    (hsound : o.Sound) :
    Ledger { h with nextSerial := h.nextSerial + 1 } (insert o K) ∧
      Grows h K { h with nextSerial := h.nextSerial + 1 } (insert o K) := by
  -- an object that is in the ledger already has an earlier number
  have hnew {p : Object} (hp : p ∈ K) : p.serial ≠ o.serial := fun heq =>
    absurd (ledger.issued hp) (Nat.not_lt.mpr (hserial ▸ Nat.le_of_eq heq.symm))
  -- what the state holds is untouched; only numbers and membership have to be looked at anew
  refine ⟨{ ledger with
    issued := ?_, distinct := ?_, parts := ?_, sound := ?_, held := ?_, unused := ?_, cached := ?_,
    wrappers := ?_, views := ?_ }, ?_⟩
  · rintro p (rfl | hp)
    · exact hserial ▸ Nat.lt_succ_self _
    · exact Nat.lt_succ_of_lt (ledger.issued hp)
  · rintro p q (rfl | hp) (rfl | hq) hs
    · rfl
    · exact absurd hs.symm (hnew hq)
    · exact absurd hs (hnew hp)
    · exact ledger.distinct hp hq hs
  · rintro p q (rfl | hp) hq
    · exact Or.inr (hparts q hq)
    · exact Or.inr (ledger.parts hp hq)
  · rintro p (rfl | hp)
    · exact hsound
    · exact ledger.sound hp
  · intro p hp
    refine Or.inr (ledger.held ?_)
    cases hp with
    | settings hs => exact .settings hs
    | engine he => exact .engine he
    | cache hc => exact .cache hc
    | cached hm => exact .cached hm
    | wrapper hf => exact .wrapper hf
    | view hv => exact .view hv
  · intro n hn
    obtain ⟨hd, hc, hg, hw, hv⟩ := ledger.unused_succ hn
    exact ⟨hd, hc, hg, hw, hv⟩
  · intro n key m hm
    obtain ⟨c, hc, hrest⟩ := ledger.cached hm
    exact ⟨c, Or.inr hc, hrest⟩
  · intro n name f hf
    obtain ⟨i, hi, hrest⟩ := ledger.wrappers hf
    exact ⟨i, Or.inr hi, hrest⟩
  · intro n view hv
    obtain ⟨i, hi, hrest⟩ := ledger.views hv
    exact ⟨i, Or.inr hi, hrest⟩
  · refine ⟨fun _ => Or.inr, Nat.le_succ _, ?_⟩
    rintro p (rfl | hp)
    · exact Or.inr (Nat.le_of_eq hserial.symm)
    · exact Or.inl hp

theorem setDiagnostic {e : Engine} (he : .engine e ∈ K) (t : Thread) (d : Option String) :
    Ledger { h with diagnostics := h.diagnostics.set (e.serial, t) d } K := by
  refine ledger.transfer (fun part => ?_) (fun n hn t' => ?_) fun n hn => (ledger.unused hn).guests
  · cases part <;> first | exact Or.inr rfl | exact Or.inl (by decide)
  · have hne : (n, t') ≠ (e.serial, t) := fun heq =>
      ledger.ne_serial he hn (congrArg Prod.fst heq)
    exact (Cells.get_set_of_ne _ hne d).trans ((ledger.unused hn).diagnostics t')

theorem setGuest {handle : Handle} (hh : .handle handle ∈ K) (guest : Guest.State) :
    Ledger { h with guests := h.guests.set handle.serial guest } K := by
  refine ledger.transfer (fun part => ?_) (fun n hn => (ledger.unused hn).diagnostics)
    fun n hn => ?_
  · cases part <;> first | exact Or.inr rfl | exact Or.inl (by decide)
  · exact (Cells.get_set_of_ne _ (ledger.ne_serial hh hn) guest).trans (ledger.unused hn).guests

/-- The settings, the engine and the cache of the process may be any that have been issued. -/
theorem setProcess {settings : Option SettingsObject} {engine : Option Engine}
    {cache : Option ModuleCache} (hs : ∀ s, settings = some s → .settings s ∈ K)
    (he : ∀ e, engine = some e → .engine e ∈ K) (hc : ∀ c, cache = some c → .cache c ∈ K) :
    Ledger { h with settings, engine, cache } K := by
  refine { ledger with held := fun {o} ho => ?_, unused := fun {n} hn => ?_ }
  -- the process holds one of the three that are given, and everything else as before
  · cases ho with
    | settings h' => exact hs _ h'
    | engine h' => exact he _ h'
    | cache h' => exact hc _ h'
    | cached hm => exact ledger.held (.cached hm)
    | wrapper hf => exact ledger.held (.wrapper hf)
    | view hv => exact ledger.held (.view hv)
  -- no cell is filled under a number that is still to come
  · obtain ⟨hd, hc, hg, hw, hv⟩ := ledger.unused hn
    exact ⟨hd, hc, hg, hw, hv⟩

/-- The entries of a cache may be any modules of its engine under their identifiers. -/
theorem setCached {c : ModuleCache} (hc : .cache c ∈ K) {entries : List (String × CompiledModule)}
    (hentries : ∀ key m, (key, m) ∈ entries →
      .compiled m ∈ K ∧ m.engine = c.engine ∧ m.identifier = some key)
    (hkeys : (entries.map (·.1)).Nodup) :
    Ledger { h with cached := h.cached.set c.serial entries } K := by
  -- an entry that is there now is one of the new ones, or was there before
  have hmem {n : Nat} {key : String} {m : CompiledModule}
      (hm : (key, m) ∈ (h.cached.set c.serial entries).get n) :
      n = c.serial ∧ (key, m) ∈ entries ∨ (key, m) ∈ h.cached.get n := by
    rw [Cells.get_set] at hm
    by_cases hn : n = c.serial
    · rw [if_pos hn] at hm
      exact Or.inl ⟨hn, hm⟩
    · rw [if_neg hn] at hm
      exact Or.inr hm
  refine { ledger with
    held := fun {o} ho => ?_, unused := fun {n} hn => ?_, cached := fun {n key m} hm => ?_,
    keys := fun n => ?_ }
  -- what a cache holds is an entry, and the rest is held as before
  · cases ho with
    | settings hs => exact ledger.held (.settings hs)
    | engine he => exact ledger.held (.engine he)
    | cache hc => exact ledger.held (.cache hc)
    | cached hm =>
      rcases hmem hm with ⟨-, hm⟩ | hm
      · exact (hentries _ _ hm).1
      · exact ledger.held (.cached hm)
    | wrapper hf => exact ledger.held (.wrapper hf)
    | view hv => exact ledger.held (.view hv)
  -- the cache has a number, so that nothing is stored under those to come
  · obtain ⟨hd, hempty, hg, hw, hv⟩ := ledger.unused hn
    exact ⟨hd, (Cells.get_set_of_ne _ (ledger.ne_serial hc hn) entries).trans hempty, hg, hw, hv⟩
  · rcases hmem hm with ⟨hn, hentry⟩ | hm
    · exact ⟨c, hc, hn.symm, (hentries _ _ hentry).2⟩
    · exact ledger.cached hm
  -- within a cache the identifiers stay different
  · dsimp only
    rw [Cells.get_set]
    by_cases hn : n = c.serial
    · rw [if_pos hn]
      exact hkeys
    · rw [if_neg hn]
      exact ledger.keys n

/-- An instance may remember a callable for an export of its own. -/
theorem remember {i : Instance} (hi : .running i ∈ K) {f : ExportedFunction}
    (hf : .function f ∈ K) (he : f.engine = i.engine) (hh : f.bound.handle = i.handle) :
    Ledger { h with
      wrappers := h.wrappers.set i.serial (i.wrappers h ++ [(f.bound.name, f)]) } K := by
  -- what is remembered is the new callable, or was remembered before
  have hmem {n : Nat} {name : String} {g : ExportedFunction}
      (hg : (name, g) ∈ (h.wrappers.set i.serial (i.wrappers h ++ [(f.bound.name, f)])).get n) :
      (n = i.serial ∧ name = f.bound.name ∧ g = f) ∨ (name, g) ∈ h.wrappers.get n := by
    rw [Cells.get_set] at hg
    by_cases hn : n = i.serial
    · rw [if_pos hn] at hg
      rcases List.mem_append.mp hg with hold | hnew
      · exact Or.inr (hn ▸ hold)
      · cases List.mem_singleton.mp hnew
        exact Or.inl ⟨hn, rfl, rfl⟩
    · rw [if_neg hn] at hg
      exact Or.inr hg
  refine { ledger with
    held := fun {o} ho => ?_, unused := fun {n} hn => ?_, wrappers := fun {n name g} hg => ?_ }
  · cases ho with
    | settings hs => exact ledger.held (.settings hs)
    | engine he => exact ledger.held (.engine he)
    | cache hc => exact ledger.held (.cache hc)
    | cached hm => exact ledger.held (.cached hm)
    | wrapper hg =>
      rcases hmem hg with ⟨-, -, rfl⟩ | hg
      · exact hf
      · exact ledger.held (.wrapper hg)
    | view hv => exact ledger.held (.view hv)
  · obtain ⟨hd, hc, hg, hempty, hv⟩ := ledger.unused hn
    exact ⟨hd, hc, hg, (Cells.get_set_of_ne _ (ledger.ne_serial hi hn) _).trans hempty, hv⟩
  -- the new callable is one for an export of this instance
  · rcases hmem hg with ⟨rfl, rfl, rfl⟩ | hg
    · exact ⟨i, hi, rfl, he, hh, rfl⟩
    · exact ledger.wrappers hg

/-- The slot of an instance may hold a view over its memory, or that it exposes none. -/
theorem setView {i : Instance} (hi : .running i ∈ K) {view : Option MemoryView}
    (hnone : view = none → i.handle.program.exposedMemory? = none)
    (hsome : ∀ v, view = some v → .view v ∈ K ∧ v.handle = i.handle) :
    Ledger { h with views := h.views.set i.serial (.holds view) } K := by
  -- the slot that is set holds the view, and the others are as before
  have hslot {n : Nat} {v : Option MemoryView}
      (hv : (h.views.set i.serial (.holds view)).get n = .holds v) :
      (n = i.serial ∧ v = view) ∨ h.views.get n = .holds v := by
    rw [Cells.get_set] at hv
    by_cases hn : n = i.serial
    · rw [if_pos hn] at hv
      cases hv
      exact Or.inl ⟨hn, rfl⟩
    · rw [if_neg hn] at hv
      exact Or.inr hv
  refine { ledger with
    held := fun {o} ho => ?_, unused := fun {n} hn => ?_, views := fun {n v} hv => ?_ }
  · cases ho with
    | settings hs => exact ledger.held (.settings hs)
    | engine he => exact ledger.held (.engine he)
    | cache hc => exact ledger.held (.cache hc)
    | cached hm => exact ledger.held (.cached hm)
    | wrapper hf => exact ledger.held (.wrapper hf)
    | view hv =>
      rcases hslot hv with ⟨-, hv⟩ | hv
      · exact (hsome _ hv.symm).1
      · exact ledger.held (.view hv)
  · obtain ⟨hd, hc, hg, hw, hempty⟩ := ledger.unused hn
    exact ⟨hd, hc, hg, hw,
      (Cells.get_set_of_ne _ (ledger.ne_serial hi hn) _).trans hempty⟩
  -- the view is over the memory that the instance exposes
  · rcases hslot hv with ⟨rfl, rfl⟩ | hv
    · exact ⟨i, hi, rfl, hnone, fun v hv => (hsome v hv).2⟩
    · exact ledger.views hv

theorem setViewLocks {locks : Cells Nat (Option Thread)} (hlocks : ∀ n, locks.get n = none) :
    Ledger { h with viewLocks := locks } K :=
  { ledger with
    held := fun ho => ledger.held (by cases ho <;> constructor <;> assumption)
    unused := fun hn => { ledger.unused hn with }
    unlocked := hlocks }

end Ledger
end WasmHost
