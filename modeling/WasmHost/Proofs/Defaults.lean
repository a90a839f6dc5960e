import WasmHost.Proofs.CacheSteps
import WasmHost.Proofs.Operation
/-!
What a process keeps of its own, and what operations do to it.

A process has settings, an engine and a cache, each made when it is first asked for: the cache over
the engine, and the engine over the settings. Most operations can be given what they need and ask
the process only when they are not. It is said once what asking does: what is there is given, what
is missing is made from below, and when settings have to be made that are invalid nothing happens.
-/
namespace WasmHost

/-- What a process keeps of its own. -/
structure Defaults where
  settings : Option SettingsObject
  engine : Option Engine
  cache : Option ModuleCache

def Host.defaults (h : Host) : Defaults := ⟨h.settings, h.engine, h.cache⟩

/-- What a process can be asked for. -/
inductive Level where
  | settings
  | engine
  | cache
  deriving DecidableEq

namespace Defaults

/-- Before a level can be given, settings have to be made. -/
def Lacks (d : Defaults) : Level → Prop
  | .settings => d.settings = none
  | .engine => d.engine = none ∧ d.settings = none
  | .cache => d.cache = none ∧ d.engine = none ∧ d.settings = none

/-- The cache is over the engine. -/
def Sound (d : Defaults) : Prop := ∀ c, d.cache = some c → d.engine = some c.engine

/-- The object of a level is given, with the settings that are to be had at the moment: it is there
already, or it is made, with what it needs given before. -/
inductive Gives (made : Except (List (SettingField × SettingFault)) Settings) :
    Level → Defaults → Defaults → Prop where
  | settings {d : Defaults} {s : SettingsObject} (there : d.settings = some s) :
      Gives made .settings d d
  | newSettings {d : Defaults} {values : Settings} (serial : Nat) (unset : d.settings = none)
      (valid : made = .ok values) :
      Gives made .settings d { d with settings := some ⟨serial, values⟩ }
  | engine {d : Defaults} {e : Engine} (there : d.engine = some e) : Gives made .engine d d
  | newEngine {d d' : Defaults} {s : SettingsObject} (serial : Nat) (unset : d.engine = none)
      (below : Gives made .settings d d') (upon : d'.settings = some s) :
      Gives made .engine d { d' with engine := some ⟨serial, s⟩ }
  | cache {d : Defaults} {c : ModuleCache} (there : d.cache = some c) : Gives made .cache d d
  | newCache {d d' : Defaults} {e : Engine} (serial : Nat) (unset : d.cache = none)
      (below : Gives made .engine d d') (upon : d'.engine = some e) :
      Gives made .cache d { d' with cache := some ⟨serial, e⟩ }

namespace Gives

variable {made : Except (List (SettingField × SettingFault)) Settings} {level : Level}
  {d d' : Defaults}

theorem settings_kept (gives : Gives made level d d') {s : SettingsObject}
    -- only the step that makes settings changes them, and it needs that there are none
    (hs : d.settings = some s) : d'.settings = some s := by
  induction gives with
  | settings _ | engine _ | cache _ => exact hs
  | newSettings serial unset valid => cases unset.symm.trans hs
  | newEngine serial unset below upon ih => exact ih hs
  | newCache serial unset below upon ih => exact ih hs

theorem engine_kept (gives : Gives made level d d') {e : Engine} (he : d.engine = some e) :
    d'.engine = some e := by
  induction gives with
  | settings _ | engine _ | cache _ | newSettings _ _ _ => exact he
  | newEngine serial unset below upon ih => cases unset.symm.trans he
  | newCache serial unset below upon ih => exact ih he

theorem cache_kept (gives : Gives made level d d') {c : ModuleCache} (hc : d.cache = some c) :
    d'.cache = some c := by
  induction gives with
  | settings _ | engine _ | cache _ | newSettings _ _ _ => exact hc
  | newEngine serial unset below upon ih => exact ih hc
  | newCache serial unset below upon ih => cases unset.symm.trans hc

theorem settings_made (gives : Gives made level d d') (unset : d.settings = none)
    {s : SettingsObject} (hs : d'.settings = some s) : made = .ok s.values := by
  induction gives with
  | settings _ | engine _ | cache _ => cases unset.symm.trans hs
  | newSettings serial unset valid =>
    cases hs
    exact valid
  | newEngine serial _ below upon ih => exact ih unset hs
  | newCache serial _ below upon ih => exact ih unset hs

theorem engine_made (gives : Gives made level d d') (unset : d.engine = none) {e : Engine}
    (he : d'.engine = some e) : d'.settings = some e.settings := by
  induction gives with
  | settings _ | engine _ | cache _ | newSettings _ _ _ => cases unset.symm.trans he
  | newEngine serial _ below upon ih =>
    cases he
    exact upon
  | newCache serial _ below upon ih => exact ih unset he

theorem sound (gives : Gives made level d d') (hsound : d.Sound) : d'.Sound := by
  intro c hc
  induction gives with
  | settings _ | engine _ | cache _ | newSettings _ _ _ => exact hsound c hc
  | newEngine serial unset below upon ih =>
    have hengine := ih hsound hc
    -- below the engine only settings are made
    cases below with
    | settings _ | newSettings _ _ _ => cases unset.symm.trans hengine
  | newCache serial unset below upon ih =>
    cases hc
    exact upon

theorem of_lacks (gives : Gives made level d d') (lacks : d.Lacks level) :
    ∃ s, d'.settings = some s ∧ made = .ok s.values := by
  -- by induction on what is made from below: settings are made only by the last step
  induction gives with
  | settings there => cases lacks.symm.trans there
  | engine there => cases lacks.1.symm.trans there
  | cache there => cases lacks.1.symm.trans there
  | @newSettings d values serial unset valid => exact ⟨⟨serial, values⟩, rfl, valid⟩
  | newEngine serial unset below upon ih => exact ih lacks.2
  | newCache serial unset below upon ih => exact ih lacks.2

end Gives
end Defaults

/-- What asking for an object of a level comes to: it is given, or settings would have to be made
and the surroundings give none, and then nothing has happened. -/
inductive Asked {α : Type} (level : Level) (held : Defaults → Option α) (h : Host) :
    Except Failure α × Host → Prop where
  | given {x : α} {h' : Host} (there : held h'.defaults = some x)
      (gives : Defaults.Gives (Settings.make h.context .empty) level h.defaults h'.defaults) :
      Asked level held h (.ok x, h')
  | refused {faults : List (SettingField × SettingFault)} (lacks : h.defaults.Lacks level)
      (invalid : Settings.make h.context .empty = .error faults) :
      Asked level held h (.error ⟨.plain (.settings faults), none⟩, h)

namespace Host

theorem processSettings_asked (h : Host) :
    Asked .settings Defaults.settings h (processSettings.run.run h) := by
  rw [processSettings, Action.run_get_bind]
  cases hsettings : h.settings with
  | some s => exact .given hsettings (.settings hsettings)
  | none =>
    -- the settings have to be made of the surroundings
    dsimp only
    rw [Action.run_bind, newSettings, Action.run_get_bind]
    cases hmake : Settings.make h.context .empty with
    | error faults => exact .refused hsettings hmake
    | ok values => exact .given rfl (.newSettings (d := h.defaults) h.nextSerial hsettings hmake)

theorem processEngine_asked (h : Host) :
    Asked .engine Defaults.engine h (processEngine.run.run h) := by
  rw [processEngine, Action.run_get_bind]
  cases hengine : h.engine with
  | some e => exact .given hengine (.engine hengine)
  | none =>
    -- an engine is made over the settings of the process
    have below := processSettings_asked h
    dsimp only
    rw [Action.run_bind, newEngine]
    dsimp only
    rw [Action.run_bind]
    generalize processSettings.run.run h = result at below
    cases below with
    -- where settings cannot be made nothing has happened, so the engine is refused in the same way
    | refused lacks invalid => exact .refused ⟨hengine, lacks⟩ invalid
    | @given s h' there gives =>
      exact .given rfl (.newEngine (d := h.defaults) h'.nextSerial hengine gives there)

theorem processCache_asked (h : Host) :
    Asked .cache Defaults.cache h (processCache.run.run h) := by
  rw [processCache, Action.run_get_bind]
  cases hcache : h.cache with
  | some c => exact .given hcache (.cache hcache)
  | none =>
    -- and a cache over the engine of the process
    have below := processEngine_asked h
    dsimp only
    rw [Action.run_bind, newCache, engineOr]
    rw [Action.run_bind]
    generalize processEngine.run.run h = result at below
    cases below with
    | refused lacks invalid => exact .refused ⟨hcache, lacks⟩ invalid
    | @given e h' there gives =>
      exact .given rfl (.newCache (d := h.defaults) h'.nextSerial hcache gives there)

end Host

/-- What an operation asks the process for: those that could have been given something ask for it
when they are not. -/
def Operation.asks? : Operation → Option Level
  | processSettings | newEngine none => some .settings
  | processEngine | newCache none | validate _ _ none | deserialize _ none | instanceOfFile _ none
  | instanceOfBytes _ none => some .engine
  | processCache | compile _ _ none | compileFile _ _ none => some .cache
  | _ => none

/-- Whether an operation asks for settings, an engine or a cache, the one of the process or a new
one over it, and does nothing else. -/
def Operation.isRequest : Operation → Bool
  | processSettings | newEngine none | processEngine | newCache none | processCache => true
  | _ => false

namespace Answer

/-- The settings that an answer is, or is made with. -/
def settings? : Answer → Option SettingsObject
  | .settings s => some s
  | .engine e => some e.settings
  | _ => none

/-- The engine that an answer is, or is made with. -/
def engine? : Answer → Option Engine
  | .engine e => some e
  | .cache c => some c.engine
  | .compiled m => some m.engine
  | .running i => some i.engine
  | _ => none

/-- The cache that an answer is. -/
def cache? : Answer → Option ModuleCache
  | .cache c => some c
  | _ => none

/-- An answer to an operation that asks for a level is made with what the process keeps. -/
def Shows (answer : Answer) (d : Defaults) : Level → Prop
  | .settings => ∀ s, answer.settings? = some s → d.settings = some s
  | .engine => ∀ e, answer.engine? = some e → d.engine = some e
  | .cache => (∀ e, answer.engine? = some e → d.engine = some e) ∧
    ∀ c, answer.cache? = some c → d.cache = some c

end Answer

/-- The parts of the state apart from what the process keeps of its own. -/
def Defaults.apart : List HostPart :=
  [.nextSerial, .diagnostics, .operations, .notices, .cached, .guests, .wrappers, .views,
    .viewLocks]

theorem Host.defaults_of_sameBut {h h' : Host} (same : Host.SameBut Defaults.apart h h') :
    h'.defaults = h.defaults := by
  have hsettings : h'.settings = h.settings := same.same .settings (by decide)
  have hengine : h'.engine = h.engine := same.same .engine (by decide)
  have hcache : h'.cache = h.cache := same.same .cache (by decide)
  unfold Host.defaults
  rw [hsettings, hengine, hcache]

variable [Platform]

namespace CompiledModule

theorem deserialize_engine {data : Guest.Image} {e : Engine} {h : Host} {m : CompiledModule}
    (hm : ((deserialize data (some e)).run.run h).1 = .ok m) : m.engine = e := by
  rw [deserialize, Host.engineOr, pure_bind, Action.run_lift_bind] at hm
  cases hload : ((e.deserialize data).run h).1 with
  | none =>
    rw [hload] at hm
    cases hm
  | some artifact =>
    rw [hload] at hm
    cases hm
    rfl

end CompiledModule

namespace ModuleSource

theorem compile_engine {c : ModuleCache} {source : ModuleSource} {identifier : Option String}
    {h : Host} {K : Set Object} {m : CompiledModule}
    (ledger : Ledger ((source.compile c identifier).run.run h).2 K) (known : Object.cache c ∈ K)
    (hm : ((source.compile c identifier).run.run h).1 = .ok m) : m.engine = c.engine := by
  -- what the cache holds was compiled earlier, so that only the ledger can tell on which engine
  rcases c.hit_or_misses h identifier with ⟨key, m', rfl, hheld⟩ | hmiss
  · obtain ⟨hok, same⟩ := source.compile_of_hit c hheld
    cases hok.symm.trans hm
    have hcached : ((source.compile c (some key)).run.run h).2.cached = h.cached :=
      same.same .cached (by decide)
    have hentry : (key, m) ∈ ((source.compile c (some key)).run.run h).2.cached.get c.serial := by
      rw [hcached]
      exact mem_of_lookup_eq_some hheld
    -- the ledger knows the cache that the module stands in only by its serial number
    obtain ⟨c', known', hserial, hengine, -⟩ := ledger.cached hentry
    cases ledger.distinct known' known hserial
    exact hengine
  -- otherwise it is built just now, on the engine of the cache
  · cases hread : source.read c.engine h with
    | error failure =>
      rw [source.compile_of_miss c hmiss, hread] at hm
      cases hm
    | ok data =>
      rw [source.compile_of_read c hmiss hread] at hm
      obtain ⟨-, hbuild⟩ := c.build_spec (h := source.readState c h) data identifier
      cases hcompile : Guest.compile data with
      | error diagnostic =>
        rw [hcompile] at hbuild
        cases hbuild.symm.trans hm
      | ok program =>
        rw [hcompile] at hbuild
        obtain ⟨m', hok, hengine, -⟩ := hbuild
        cases hok.symm.trans hm
        exact hengine

end ModuleSource

theorem Instance.build_engine {e : Engine} {data : Guest.Image} {headline : String} {h : Host}
    {i : Instance} (hi : ((build e data headline).run.run h).1 = .ok i) : i.engine = e := by
  rw [build, Action.run_lift_bind] at hi
  cases hcompile : ((e.compile data).run h).1 with
  | none =>
    rw [hcompile] at hi
    cases hi
  | some artifact =>
    rw [hcompile] at hi
    dsimp only at hi
    rw [Action.run_lift_bind] at hi
    cases hnew : ((e.newInstance artifact).run ((e.compile data).run h).2).1 with
    | none =>
      rw [hnew] at hi
      cases hi
    | some handle =>
      rw [hnew] at hi
      cases hi
      rfl

theorem Instance.ofFile_engine {e : Engine} {path : String} {h : Host} {i : Instance}
    (hi : ((ofFile path (some e)).run.run h).1 = .ok i) : i.engine = e := by
  rw [ofFile, Host.engineOr, pure_bind, Action.run_bind] at hi
  rcases hread : (e.fetchBytes path).run.run h with ⟨failure | data, h'⟩
  · rw [hread] at hi
    cases hi
  · rw [hread] at hi
    exact build_engine hi

/-- An operation asks the process for an object of a level, which it finds there, and goes on with
it as if it had been given. -/
structure Operation.AsksBy {α : Type} (op : Operation) (level : Level) (ask : HostAction α)
    (held : Defaults → Option α) (rest : α → HostAction Answer) : Prop where
  perform : op.perform = ask >>= rest
  asked (h : Host) : Asked level held h (ask.run.run h)
  apart (x : α) : Touches Defaults.apart (rest x).run
  shows {x : α} {h : Host} {K : Set Object} {answer : Answer} (there : held h.defaults = some x)
    (sound : h.defaults.Sound) (ledger : Ledger ((rest x).run.run h).2 K)
    (known : ∀ c, h.defaults.cache = some c → Object.cache c ∈ K)
    (hanswer : ((rest x).run.run h).1 = .ok answer) : answer.Shows h.defaults level
  ends (x : α) (h : Host) (request : op.isRequest = true) :
    ∃ answer, ((rest x).run.run h).1 = .ok answer

namespace Operation

-- An operation that asks for nothing leaves what the process keeps, unless it forgets the settings.
theorem apart_touches {op : Operation} (unasked : op.asks? = none) (unreset : op ≠ .resetSettings) :
    Touches Defaults.apart op.perform.run := by
  have hmap {α : Type} {a : HostAction α} {f : α → Answer} (ha : Touches Defaults.apart a.run) :
      Touches Defaults.apart (do return f (← a) : HostAction Answer).run :=
    .action_bind ha fun _ => .action_pure _
  -- an operation that is given what it needs is like one that asks, with the asking left out
  have hserial : Touches Defaults.apart Host.newSerial := Host.newSerial_touches.mono (by decide)
  cases op with
  | processSettings | processEngine | processCache => cases unasked
  | resetSettings => cases unreset rfl
  | newEngine settings =>
    cases settings with
    | none => cases unasked
    | some s =>
      exact hmap (.action_bind (.action_pure s) fun _ =>
        .action_bind (.action_lift hserial) fun _ => .action_pure _)
  | newCache engine =>
    cases engine with
    | none => cases unasked
    | some e => exact hmap (Host.newCache_touches_of (.action_pure e) (by decide))
  | compile data identifier cache =>
    cases cache with
    | none => cases unasked
    | some c =>
      exact hmap (CompiledModule.compile_touches_of (.action_pure c) (by decide) data identifier)
  | compileFile path identifier cache =>
    cases cache with
    | none => cases unasked
    | some c =>
      exact hmap (CompiledModule.ofFile_touches_of (.action_pure c) (by decide) path identifier)
  | validate data strict engine =>
    cases engine with
    | none => cases unasked
    | some e =>
      exact hmap (CompiledModule.validate_touches_of (.action_pure e) (by decide) data strict)
  | deserialize data engine =>
    cases engine with
    | none => cases unasked
    | some e => exact hmap (CompiledModule.deserialize_touches_of (.action_pure e) (by decide) data)
  | instanceOfFile path engine =>
    cases engine with
    | none => cases unasked
    | some e => exact hmap (Instance.ofFile_touches_of (.action_pure e) (by decide) path)
  | instanceOfBytes data engine =>
    cases engine with
    | none => cases unasked
    | some e => exact hmap (Instance.ofBytes_touches_of (.action_pure e) (by decide) data)
  -- the others never ask
  | newSettings _ | engineCall _ _ | cacheCompile _ _ _ | cacheGet _ _ | cacheContains _ _
  | cacheSize _ | cacheClear _ | serialize _ | newInstance _ | call _ _ _ | function _ _
  | getAttribute _ _ | hasAttribute _ _ | getItem _ _ | memoryBuffer _ | apply _ _ | view _ _ =>
    refine (perform_touches _).mono ?_
    rw [parts]
    decide

theorem asksBy_settings {op : Operation} {rest : SettingsObject → HostAction Answer}
    (hperform : op.perform = Host.processSettings >>= rest)
    (apart : ∀ s, Touches Defaults.apart (rest s).run)
    (answers : ∀ s h, ∃ answer, ((rest s).run.run h).1 = .ok answer ∧
      ∀ s', answer.settings? = some s' → s' = s) :
    op.AsksBy .settings Host.processSettings Defaults.settings rest where
  perform := hperform
  asked := Host.processSettings_asked
  apart := apart
  shows {s h K answer} there _ _ _ hanswer s' hs' := by
    obtain ⟨answer', hanswer', hown⟩ := answers s h
    cases hanswer'.symm.trans hanswer
    exact hown s' hs' ▸ there
  ends s h _ := (answers s h).imp fun _ => And.left

theorem asksBy_engine {op : Operation} (given : Engine → Operation)
    (hperform : op.perform = Host.processEngine >>= fun e => (given e).perform)
    (unasked : ∀ e, (given e).asks? = none) (unreset : ∀ e, given e ≠ .resetSettings)
    (hengine : ∀ (e : Engine) (h : Host) (answer : Answer),
      ((given e).perform.run.run h).1 = .ok answer → ∀ e', answer.engine? = some e' → e' = e)
    (hends : op.isRequest = true → ∀ (e : Engine) (h : Host),
      ∃ answer, ((given e).perform.run.run h).1 = .ok answer) :
    op.AsksBy .engine Host.processEngine Defaults.engine fun e => (given e).perform where
  perform := hperform
  asked := Host.processEngine_asked
  apart e := apart_touches (unasked e) (unreset e)
  shows there _ _ _ hanswer e' he' := hengine _ _ _ hanswer e' he' ▸ there
  ends e h request := hends request e h

theorem asksBy_cache {op : Operation} (given : ModuleCache → Operation) (source : ModuleSource)
    (identifier : Option String)
    (hperform : op.perform = Host.processCache >>= fun c => (given c).perform)
    (unasked : ∀ c, (given c).asks? = none) (unreset : ∀ c, given c ≠ .resetSettings)
    (hgiven : ∀ c, (given c).perform = do return .compiled (← source.compile c identifier))
    (other : op.isRequest = false) :
    op.AsksBy .cache Host.processCache Defaults.cache fun c => (given c).perform where
  perform := hperform
  asked := Host.processCache_asked
  apart c := apart_touches (unasked c) (unreset c)
  shows {c h K answer} there sound ledger known hanswer := by
    -- what the cache gives is on its engine, and this is the engine of the process
    rw [hgiven, Action.run_bind_pure] at ledger hanswer
    dsimp only at ledger hanswer
    cases hresult : ((source.compile c identifier).run.run h).1 with
    | error failure =>
      rw [hresult] at hanswer
      cases hanswer
    | ok m =>
      rw [hresult] at hanswer
      cases hanswer
      constructor
      · intro e he
        cases he
        rw [ModuleSource.compile_engine ledger (known c there) hresult]
        exact sound c there
      · intro c' hc'
        cases hc'
  ends c h request := by cases other.symm.trans request

theorem exists_asksBy {op : Operation} {level : Level} (hasks : op.asks? = some level) :
    ∃ (α : Type) (ask : HostAction α) (held : Defaults → Option α) (rest : α → HostAction Answer),
      op.AsksBy level ask held rest := by
  -- one case for each operation that asks; it goes on as the one that is given the answer
  cases op with
  | processSettings =>
    cases hasks
    refine ⟨_, _, _, _, asksBy_settings rfl (fun s => .action_pure _) fun s h =>
      ⟨.settings s, rfl, fun s' hs' => ?_⟩⟩
    cases hs'
    rfl
  | newEngine settings =>
    cases settings with
    | some s => cases hasks
    | none =>
      cases hasks
      have hperform : (newEngine none).perform =
          Host.processSettings >>= fun s => (newEngine (some s)).perform := by
        simp only [perform, Host.newEngine, bind_assoc, pure_bind]
      refine ⟨_, _, _, _, asksBy_settings hperform
        (fun s => apart_touches rfl fun h => by cases h) fun s h =>
          ⟨.engine ⟨h.nextSerial, s⟩, rfl, fun s' hs' => ?_⟩⟩
      cases hs'
      rfl
  | processEngine =>
    cases hasks
    exact ⟨_, _, _, _, {
      perform := rfl
      asked := Host.processEngine_asked
      -- a cache that is made is over the engine of the process, and one that is there as well
      apart := fun e => .action_pure _
      shows := fun there _ _ _ hanswer e he => by
        cases hanswer
        cases he
        exact there
      ends := fun e h _ => ⟨_, rfl⟩ }⟩
  | newCache engine =>
    cases engine with
    | some e => cases hasks
    | none =>
      cases hasks
      refine ⟨_, _, _, _, asksBy_engine (fun e => newCache (some e)) ?_ (fun _ => rfl)
        (fun _ h => by cases h) ?_ fun _ e h => ⟨_, rfl⟩⟩
      · simp only [perform, Host.newCache, Host.engineOr, bind_assoc, pure_bind]
      · intro e h answer hanswer e' he'
        cases hanswer
        cases he'
        rfl
  | validate data strict engine =>
    cases engine with
    | some e => cases hasks
    | none =>
      cases hasks
      refine ⟨_, _, _, _, asksBy_engine (fun e => validate data strict (some e)) ?_
        (fun _ => rfl) (fun _ h => by cases h) ?_ fun h => by cases h⟩
      · simp only [perform, CompiledModule.validate, Host.engineOr, bind_assoc, pure_bind]
      · intro e h answer hanswer e' he'
        obtain ⟨truth, -, rfl⟩ := Action.ok_of_map hanswer
        cases he'
  | deserialize data engine =>
    cases engine with
    | some e => cases hasks
    | none =>
      cases hasks
      refine ⟨_, _, _, _, asksBy_engine (fun e => deserialize data (some e)) ?_
        (fun _ => rfl) (fun _ h => by cases h) ?_ fun h => by cases h⟩
      · simp only [perform, CompiledModule.deserialize, Host.engineOr, bind_assoc, pure_bind]
      · intro e h answer hanswer e' he'
        obtain ⟨m, hm, rfl⟩ := Action.ok_of_map hanswer
        cases he'
        exact CompiledModule.deserialize_engine hm
  | instanceOfFile path engine =>
    cases engine with
    | some e => cases hasks
    | none =>
      cases hasks
      refine ⟨_, _, _, _, asksBy_engine (fun e => instanceOfFile path (some e)) ?_
        (fun _ => rfl) (fun _ h => by cases h) ?_ fun h => by cases h⟩
      · simp only [perform, Instance.ofFile, Host.engineOr, bind_assoc, pure_bind]
      · intro e h answer hanswer e' he'
        obtain ⟨i, hi, rfl⟩ := Action.ok_of_map hanswer
        cases he'
        exact Instance.ofFile_engine hi
  | instanceOfBytes data engine =>
    cases engine with
    | some e => cases hasks
    | none =>
      cases hasks
      refine ⟨_, _, _, _, asksBy_engine (fun e => instanceOfBytes data (some e)) ?_
        (fun _ => rfl) (fun _ h => by cases h) ?_ fun h => by cases h⟩
      · simp only [perform, Instance.ofBytes, Host.engineOr, bind_assoc, pure_bind]
      · intro e h answer hanswer e' he'
        obtain ⟨i, hi, rfl⟩ := Action.ok_of_map hanswer
        cases he'
        exact Instance.build_engine hi
  | processCache =>
    cases hasks
    exact ⟨_, _, _, _, {
      -- the cache of the process is over its engine
      perform := rfl
      asked := Host.processCache_asked
      apart := fun c => .action_pure _
      shows := fun {c h K answer} there sound _ _ hanswer => by
        cases hanswer
        constructor
        · intro e he
          cases he
          exact sound c there
        · intro c' hc'
          cases hc'
          exact there
      ends := fun c h _ => ⟨_, rfl⟩ }⟩
  | compile data identifier cache =>
    cases cache with
    | some c => cases hasks
    | none =>
      cases hasks
      refine ⟨_, _, _, _, asksBy_cache (fun c => compile data identifier (some c))
        (.bytes data) identifier ?_ (fun _ => rfl) (fun _ h => by cases h) (fun c => ?_) rfl⟩
      · simp only [perform, CompiledModule.compile, Host.cacheOr, bind_assoc, pure_bind]
      · simp only [perform, CompiledModule.compile, Host.cacheOr, pure_bind, ModuleSource.compile]
  | compileFile path identifier cache =>
    cases cache with
    | some c => cases hasks
    | none =>
      cases hasks
      refine ⟨_, _, _, _, asksBy_cache (fun c => compileFile path identifier (some c))
        (.file path) identifier ?_ (fun _ => rfl) (fun _ h => by cases h) (fun c => rfl) rfl⟩
      simp only [perform, CompiledModule.ofFile, Host.cacheOr, bind_assoc, pure_bind]
  | newSettings _ | resetSettings | engineCall _ _ | cacheCompile _ _ _ | cacheGet _ _
  | cacheContains _ _ | cacheSize _ | cacheClear _ | serialize _ | newInstance _ | call _ _ _
  | function _ _ | getAttribute _ _ | hasAttribute _ _ | getItem _ _ | memoryBuffer _ | apply _ _
  | view _ _ => cases hasks

end Operation

/-- What an event does to what the process keeps: nothing when it asks for nothing, but that the
settings can be forgotten; when it asks, the level is given, or it fails and nothing is stored. -/
inductive Event.Effect (event : Event) : Prop where
  | kept (unasked : event.operation.asks? = none) (unreset : event.operation ≠ .resetSettings)
      (same : event.after.defaults = event.before.defaults)
  | forgotten (reset : event.operation = .resetSettings)
      (same : event.after.defaults = { event.before.defaults with settings := none })
  | given {level : Level} (asks : event.operation.asks? = some level)
      (gives : Defaults.Gives (Settings.make event.before.context .empty) level
        event.before.defaults
        event.after.defaults)
      (ends : event.operation.isRequest = true → ∃ answer, event.outcome = .ok answer)
  | refused {level : Level} {faults : List (SettingField × SettingFault)}
      (asks : event.operation.asks? = some level) (lacks : event.before.defaults.Lacks level)
      (invalid : Settings.make event.before.context .empty = .error faults)
      (fails : event.outcome = .error ⟨.plain (.settings faults), none⟩)
      (same : event.after.defaults = event.before.defaults)

namespace Operation

variable (op : Operation) (thread : Thread) (h : Host)

theorem AsksBy.run {α : Type} {level : Level} {ask : HostAction α} {held : Defaults → Option α}
    {rest : α → HostAction Answer} (asksBy : op.AsksBy level ask held rest) :
    (∃ x g, held g.defaults = some x ∧
      Defaults.Gives (Settings.make h.context .empty) level h.defaults g.defaults ∧
      op.outcome thread h = ((rest x).run.run g).1 ∧ op.after thread h = ((rest x).run.run g).2 ∧
      (op.after thread h).defaults = g.defaults) ∨
    ∃ faults, h.defaults.Lacks level ∧ Settings.make h.context .empty = .error faults ∧
      op.outcome thread h = .error ⟨.plain (.settings faults), none⟩ ∧
      op.after thread h = h.onThread thread := by
  have asked := asksBy.asked (h.onThread thread)
  unfold outcome after
  rw [asksBy.perform, Action.run_bind]
  -- the rest is done only after the asking, and leaves alone what the asking has stored
  generalize ask.run.run (h.onThread thread) = result at asked
  cases asked with
  -- without settings the rest is not done
  | refused lacks invalid => exact Or.inr ⟨_, lacks, invalid, rfl, rfl⟩
  | @given x g there gives =>
    have hrest := Host.defaults_of_sameBut ((asksBy.apart x).run g)
    exact Or.inl ⟨x, g, there, gives, rfl, rfl, hrest⟩

theorem effect : (op.event thread h).Effect := by
  cases hasks : op.asks? with
  | some level =>
    -- the operation asks first and goes on with what it is given
    obtain ⟨α, ask, held, rest, asksBy⟩ := exists_asksBy hasks
    rcases asksBy.run op thread h with
      ⟨x, g, there, gives, hout, -, hdefaults⟩ | ⟨faults, lacks, invalid, hout, hafter⟩
    · refine .given hasks (hdefaults ▸ gives) fun request => ?_
      obtain ⟨answer, hanswer⟩ := asksBy.ends x g request
      exact ⟨answer, hout.trans hanswer⟩
    · refine .refused hasks lacks invalid hout ?_
      change (op.after thread h).defaults = h.defaults
      rw [hafter]
      rfl
  -- an operation that asks for nothing changes nothing, unless it is the one that forgets
  | none =>
    by_cases hreset : op = .resetSettings
    · subst hreset
      exact .forgotten rfl rfl
    · have hkept : (op.after thread h).defaults = (h.onThread thread).defaults :=
        Host.defaults_of_sameBut ((apart_touches hasks hreset).run (h.onThread thread))
      exact .kept hasks hreset hkept

theorem shows {op : Operation} {thread : Thread} {h : Host} {level : Level} {K : Set Object}
    {answer : Answer} (hasks : op.asks? = some level) (sound : h.defaults.Sound)
    (ledger : Ledger (op.after thread h) K) (hout : op.outcome thread h = .ok answer) :
    answer.Shows (op.after thread h).defaults level := by
  obtain ⟨α, ask, held, rest, asksBy⟩ := exists_asksBy hasks
  rcases asksBy.run op thread h with
    ⟨x, g, there, gives, houtcome, hafter, hdefaults⟩ | ⟨faults, -, -, houtcome, -⟩
  -- the answer is made with what the asking has left, which the rest keeps
  · rw [hdefaults]
    refine asksBy.shows there (gives.sound sound) (hafter ▸ ledger) (fun c hc => ?_)
      (houtcome.symm.trans hout)
    have hcache : (op.after thread h).defaults.cache = some c := hdefaults ▸ hc
    exact ledger.held (.cache hcache)
  · cases houtcome.symm.trans hout

end Operation
end WasmHost
