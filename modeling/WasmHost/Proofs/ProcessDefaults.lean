import WasmHost.Proofs.Callables
import WasmHost.Proofs.Defaults
/-!
The settings, the engine and the cache of a process over whole histories.

Events follow one another: each begins with what the one before has left, and its effect is one of
a few. By induction over such a run the engine and the cache stay once they are there, and so do the
settings as long as they are not forgotten; and whatever settings there are were made by one of the
events, from the surroundings of that moment.
-/
namespace WasmHost

namespace Event

variable {event : Event}

/-- An event gives, or builds an engine on, settings that it has not been given: those that the
process keeps. The engine of the process is built on them by whatever event asks for it first. -/
inductive Shares (event : Event) : SettingsObject → Prop where
  | asked {answer : Answer} {s : SettingsObject} (asks : event.operation.asks? = some .settings)
      (given : event.outcome = .ok answer) (hs : answer.settings? = some s) : Shares event s
  | engine {e : Engine} (unset : event.before.defaults.engine = none)
      (made : event.after.defaults.engine = some e) : Shares event e.settings

/-- An event asks the process for a level, and ends with an answer. -/
structure Answers (event : Event) (level : Level) (answer : Answer) : Prop where
  asks : event.operation.asks? = some level
  given : event.outcome = .ok answer

namespace Effect

variable (effect : event.Effect)

include effect

theorem engine_kept {e : Engine} (he : event.before.defaults.engine = some e) :
    event.after.defaults.engine = some e := by
  cases effect with
  | kept _ _ same | forgotten _ same | refused _ _ _ _ same =>
    rw [same]
    exact he
  | given asks gives ends => exact gives.engine_kept he

theorem cache_kept {c : ModuleCache} (hc : event.before.defaults.cache = some c) :
    event.after.defaults.cache = some c := by
  cases effect with
  | kept _ _ same | forgotten _ same | refused _ _ _ _ same =>
    rw [same]
    exact hc
  | given asks gives ends => exact gives.cache_kept hc

theorem settings_kept (unreset : event.operation ≠ .resetSettings) {s : SettingsObject}
    (hs : event.before.defaults.settings = some s) : event.after.defaults.settings = some s := by
  cases effect with
  | kept _ _ same | refused _ _ _ _ same =>
    rw [same]
    exact hs
  | forgotten reset same => cases unreset reset
  | given asks gives ends => exact gives.settings_kept hs

theorem settings_origin {s : SettingsObject} (hs : event.after.defaults.settings = some s) :
    event.operation ≠ .resetSettings ∧ (event.before.defaults.settings = some s ∨
      event.before.defaults.settings = none ∧
        Settings.make event.before.context .empty = .ok s.values) := by
  cases effect with
  | kept unasked unreset same => exact ⟨unreset, Or.inl (same ▸ hs)⟩
  | forgotten reset same =>
    rw [same] at hs
    cases hs
  -- nothing is stored, and an operation that asks is not the one that forgets
  | refused asks lacks invalid fails same =>
    refine ⟨?_, Or.inl (same ▸ hs)⟩
    intro reset
    cases (congrArg Operation.asks? reset).symm.trans asks
  | given asks gives ends =>
    refine ⟨?_, ?_⟩
    · intro reset
      -- settings that an asking event leaves are those from before, or made by it
      cases (congrArg Operation.asks? reset).symm.trans asks
    · cases hbefore : event.before.defaults.settings with
      | none => exact Or.inr ⟨rfl, gives.settings_made hbefore hs⟩
      | some s' => exact Or.inl ((gives.settings_kept hbefore).symm.trans hs)

theorem engine_made (unset : event.before.defaults.engine = none) {e : Engine}
    (he : event.after.defaults.engine = some e) :
    event.after.defaults.settings = some e.settings := by
  cases effect with
  | kept _ _ same | forgotten _ same | refused _ _ _ _ same =>
    rw [same] at he
    cases unset.symm.trans he
  | given asks gives ends => exact gives.engine_made unset he

theorem sound (hsound : event.before.defaults.Sound) : event.after.defaults.Sound := by
  cases effect with
  | kept _ _ same | forgotten _ same | refused _ _ _ _ same =>
    rw [same]
    exact hsound
  | given asks gives ends => exact gives.sound hsound

end Effect
end Event

/-- Events that follow one another, from what the process keeps at first to what it keeps at
last. -/
inductive Defaults.Run : Defaults → List Event → Defaults → Prop where
  | done (d : Defaults) : Run d [] d
  | next {event : Event} {events : List Event} {d d' : Defaults} (effect : event.Effect)
      (shows : ∀ level answer, event.Answers level answer →
        answer.Shows event.after.defaults level)
      (begins : event.before.defaults = d) (rest : Run event.after.defaults events d') :
      Run d (event :: events) d'

namespace Defaults.Run

variable {d d' : Defaults} {events : List Event}

theorem concat {last : Event} (run : Run d events last.before.defaults) (effect : last.Effect)
    (shows : ∀ level answer, last.Answers level answer → answer.Shows last.after.defaults level) :
    Run d (events ++ [last]) last.after.defaults := by
  -- the end of the run is an index of it, and has to be free for the induction
  generalize hend : last.before.defaults = middle at run
  induction run with
  | done d => exact .next effect shows hend (.done _)
  | next effect' shows' begins rest ih => exact .next effect' shows' begins (ih hend)

theorem split {later : List Event} (run : Run d (events ++ later) d') :
    ∃ middle, Run d events middle ∧ Run middle later d' := by
  -- by induction on the first part
  induction events generalizing d with
  | nil => exact ⟨d, .done d, run⟩
  | cons event events ih =>
    cases run with
    | next effect shows begins rest =>
      obtain ⟨middle, first, second⟩ := ih rest
      exact ⟨middle, .next effect shows begins first, second⟩

theorem divide {event : Event} {later : List Event} (run : Run d (events ++ event :: later) d') :
    Run d events event.before.defaults ∧ event.Effect ∧ Run event.after.defaults later d' := by
  obtain ⟨middle, first, second⟩ := run.split
  cases second with
  | next effect _ begins rest => exact ⟨begins ▸ first, effect, rest⟩

theorem of_mem (run : Run d events d') {event : Event} (hevent : event ∈ events) :
    event.Effect ∧
      ∀ level answer, event.Answers level answer → answer.Shows event.after.defaults level := by
  -- by induction on the run, with its effects and answers kept for each event
  induction run with
  | done d => cases hevent
  | next effect shows begins rest ih =>
    rcases List.mem_cons.mp hevent with rfl | hrest
    · exact ⟨effect, shows⟩
    · exact ih hrest

theorem engine_kept (run : Run d events d') {e : Engine} (he : d.engine = some e) :
    d'.engine = some e := by
  induction run with
  | done d => exact he
  | next effect shows begins rest ih => exact ih (effect.engine_kept (begins ▸ he))

theorem cache_kept (run : Run d events d') {c : ModuleCache} (hc : d.cache = some c) :
    d'.cache = some c := by
  induction run with
  | done d => exact hc
  | next effect shows begins rest ih => exact ih (effect.cache_kept (begins ▸ hc))

theorem settings_kept (run : Run d events d')
    (unreset : ∀ event ∈ events, event.operation ≠ .resetSettings) {s : SettingsObject}
    (hs : d.settings = some s) : d'.settings = some s := by
  induction run with
  | done d => exact hs
  | next effect shows begins rest ih =>
    obtain ⟨hfirst, hrest⟩ := List.forall_mem_cons.mp unreset
    exact ih hrest (effect.settings_kept hfirst (begins ▸ hs))

theorem settings_origin (run : Run d events d') {s : SettingsObject} (hs : d'.settings = some s) :
    (d.settings = some s ∧ ∀ event ∈ events, event.operation ≠ .resetSettings) ∨
    ∃ past made since, events = past ++ made :: since ∧
      (∀ event ∈ since, event.operation ≠ .resetSettings) ∧
      made.before.defaults.settings = none ∧ made.after.defaults.settings = some s ∧
      Settings.make made.before.context .empty = .ok s.values := by
  -- by induction on the run: either a later event has made them, or they were there after the first
  induction run with
  | done d => exact Or.inl ⟨hs, fun event hevent => absurd hevent List.not_mem_nil⟩
  | @next event events d d' effect shows begins rest ih =>
    rcases ih hs with ⟨hafter, unreset⟩ | ⟨past, made, since, rfl, hmade⟩
    · obtain ⟨hfirst, hbefore | ⟨unset, valid⟩⟩ := effect.settings_origin hafter
      -- those that were there before the first event, or that it has made, are not forgotten later
      · exact Or.inl ⟨begins ▸ hbefore, List.forall_mem_cons.mpr ⟨hfirst, unreset⟩⟩
      · exact Or.inr ⟨[], event, events, rfl, unreset, unset, hafter, valid⟩
    · exact Or.inr ⟨event :: past, made, since, rfl, hmade⟩

end Defaults.Run

section

variable [Platform]

theorem History.defaults_run {events : List Event} {h : Host} (history : History events h) :
    Defaults.Run ⟨none, none, none⟩ events h.defaults ∧ h.defaults.Sound := by
  induction history with
  | start context files =>
    refine ⟨.done _, ?_⟩
    intro c hc
    cases hc
  -- the event is put behind the run of those before it
  | @perform events h past thread op known ih =>
    obtain ⟨run, sound⟩ := ih
    have before : Defaults.Run ⟨none, none, none⟩ events (op.event thread h).before.defaults := run
    have effect := op.effect thread h
    refine ⟨before.concat effect ?_, effect.sound sound⟩
    rintro level answer ⟨asks, given⟩
    -- that a module is on the engine of its cache is known of the state after the event
    obtain ⟨K, ledger, -⟩ := (History.perform past thread known).ledger
    exact Operation.shows asks sound ledger given
  | surroundings past context files serializeFault ih => exact ih

end

/-- How a process keeps its settings, its engine and its cache, over all its events. -/
structure KeepsDefaults (events : List Event) : Prop where
  /-- Between two times that the settings are forgotten all share the same. -/
  shared {earlier between later : List Event} {first second : Event} {s s' : SettingsObject}
    (split : events = earlier ++ first :: (between ++ second :: later))
    (unreset : ∀ event ∈ between, event.operation ≠ .resetSettings)
    (hfirst : first.Shares s) (hsecond : second.Shares s') : s' = s
  /-- Shared settings have been made by an event since they were last forgotten, from the
  surroundings of that moment. -/
  created {earlier later : List Event} {event : Event} {s : SettingsObject}
    (split : events = earlier ++ event :: later) (shares : event.Shares s) :
    ∃ past made since, earlier ++ [event] = past ++ made :: since ∧
      (∀ next ∈ since, next.operation ≠ .resetSettings) ∧
      made.before.defaults.settings = none ∧ made.after.defaults.settings = some s ∧
      Settings.make made.before.context .empty = .ok s.values
  /-- There is one engine, whatever is asked for that is made with it. -/
  engine {first second : Event} {level level' : Level} {answer answer' : Answer} {e e' : Engine}
    (hfirst : first ∈ events) (hsecond : second ∈ events) (answers : first.Answers level answer)
    (answers' : second.Answers level' answer') (hlevel : level ≠ .settings)
    (hlevel' : level' ≠ .settings) (he : answer.engine? = some e)
    (he' : answer'.engine? = some e') :
    e' = e
  /-- There is one cache, which is over that engine. -/
  cache {first second : Event} {answer answer' : Answer} {c c' : ModuleCache}
    (hfirst : first ∈ events) (hsecond : second ∈ events) (answers : first.Answers .cache answer)
    (answers' : second.Answers .cache answer') (hc : answer.cache? = some c)
    (hc' : answer'.cache? = some c') : c' = c
  /-- Operations that ask for nothing replace nothing, settings of their own included. -/
  unreplaced {event : Event} (hevent : event ∈ events) (unasked : event.operation.asks? = none)
    (unreset : event.operation ≠ .resetSettings) :
    event.after.defaults = event.before.defaults
  /-- Where settings have to be made and there are none to be had at the moment, the operation fails
  and stores nothing. -/
  refused {event : Event} {level : Level} {faults : List (SettingField × SettingFault)}
    (hevent : event ∈ events) (asks : event.operation.asks? = some level)
    (lacks : event.before.defaults.Lacks level)
    (invalid : Settings.make event.before.context .empty = .error faults) :
    event.outcome = .error ⟨.plain (.settings faults), none⟩ ∧
      event.after.defaults = event.before.defaults
  /-- Otherwise what is asked for is given, and a mere request succeeds. -/
  granted {event : Event} {level : Level} (hevent : event ∈ events)
    (asks : event.operation.asks? = some level)
    (valid : event.before.defaults.Lacks level →
      ∃ values, Settings.make event.before.context .empty = .ok values) :
    Defaults.Gives (Settings.make event.before.context .empty) level event.before.defaults
        event.after.defaults ∧
      (event.operation.isRequest = true → ∃ answer, event.outcome = .ok answer)
  /-- What asks next after a refusal finds everything as it was before, and makes what is lacking
  from the surroundings of its own moment, if these give settings. -/
  retried {earlier between later : List Event} {first second : Event} {level level' : Level}
    {faults : List (SettingField × SettingFault)}
    (split : events = earlier ++ first :: (between ++ second :: later))
    (asks : first.operation.asks? = some level) (lacks : first.before.defaults.Lacks level)
    (invalid : Settings.make first.before.context .empty = .error faults)
    (unasked : ∀ event ∈ between, event.operation.asks? = none)
    (asks' : second.operation.asks? = some level') :
    second.before.defaults = first.before.defaults ∧
      ∀ values, second.before.defaults.Lacks level' →
        Settings.make second.before.context .empty = .ok values →
        (∃ s, second.after.defaults.settings = some s ∧ s.values = values) ∧
        (second.operation.isRequest = true → ∃ answer, second.outcome = .ok answer)

namespace Defaults.Run

variable {d d' : Defaults} {events : List Event}

theorem settings_of_shares (run : Run d events d') {event : Event} (hevent : event ∈ events)
    {s : SettingsObject} (shares : event.Shares s) : event.after.defaults.settings = some s := by
  obtain ⟨effect, shows⟩ := run.of_mem hevent
  -- settings are asked for, or taken over by the engine that is made
  cases shares with
  | asked asks given hs => exact shows .settings _ ⟨asks, given⟩ s hs
  | engine unset made => exact effect.engine_made unset made

theorem engine_of_answers (run : Run d events d') {event : Event} (hevent : event ∈ events)
    {level : Level} {answer : Answer} (answers : event.Answers level answer)
    (hlevel : level ≠ .settings) {e : Engine} (he : answer.engine? = some e) :
    event.after.defaults.engine = some e := by
  have shows := (run.of_mem hevent).2 level answer answers
  cases level with
  | settings => cases hlevel rfl
  | engine => exact shows e he
  | cache => exact shows.1 e he

theorem after_mem (run : Run d events d') {event : Event} (hevent : event ∈ events) :
    ∃ later, Run event.after.defaults later d' := by
  obtain ⟨earlier, later, rfl⟩ := List.append_of_mem hevent
  obtain ⟨-, -, rest⟩ := run.divide
  exact ⟨later, rest⟩

theorem same_of_unasked (run : Run d events d') (hnone : d.settings = none)
    (unasked : ∀ event ∈ events, event.operation.asks? = none) : d' = d := by
  -- by induction on the run: no event asks, so each keeps everything or forgets what is not there
  induction run with
  | done d => rfl
  | @next event events d d' effect shows begins rest ih =>
    obtain ⟨hfirst, hrest⟩ := List.forall_mem_cons.mp unasked
    subst begins
    cases effect with
    | kept _ _ same =>
      rw [same] at ih
      exact ih hnone hrest
    | forgotten _ same =>
      -- there is nothing to forget
      have hsame := same.trans (congrArg (fun s => { event.before.defaults with settings := s })
        hnone.symm)
      rw [hsame] at ih
      exact ih hnone hrest
    | given asks _ _ | refused asks _ _ _ _ => cases hfirst.symm.trans asks

end Defaults.Run

theorem Defaults.Lacks.settings {d : Defaults} {level : Level} (lacks : d.Lacks level) :
    d.settings = none := by
  cases level with
  | settings => exact lacks
  | engine => exact lacks.2
  | cache => exact lacks.2.2

theorem Event.Effect.of_asks {event : Event} (effect : event.Effect) {level : Level}
    (asks : event.operation.asks? = some level) :
    (Defaults.Gives (Settings.make event.before.context .empty) level event.before.defaults
        event.after.defaults ∧
      (event.operation.isRequest = true → ∃ answer, event.outcome = .ok answer)) ∨
    ∃ faults, event.before.defaults.Lacks level ∧
      Settings.make event.before.context .empty = .error faults ∧
      event.outcome = .error ⟨.plain (.settings faults), none⟩ ∧
      event.after.defaults = event.before.defaults := by
  -- of the four effects two ask for nothing
  cases effect with
  | kept unasked _ _ => cases unasked.symm.trans asks
  | forgotten reset _ => cases (congrArg Operation.asks? reset).symm.trans asks
  | given asks' gives ends =>
    cases asks.symm.trans asks'
    exact Or.inl ⟨gives, ends⟩
  | refused asks' lacks invalid fails same =>
    cases asks.symm.trans asks'
    exact Or.inr ⟨_, lacks, invalid, fails, same⟩

-- It fails when settings have to be made and the surroundings give none,
theorem Event.Effect.refused_of {event : Event} (effect : event.Effect) {level : Level}
    {faults : List (SettingField × SettingFault)} (asks : event.operation.asks? = some level)
    (lacks : event.before.defaults.Lacks level)
    (invalid : Settings.make event.before.context .empty = .error faults) :
    event.outcome = .error ⟨.plain (.settings faults), none⟩ ∧
      event.after.defaults = event.before.defaults := by
  -- had the level been given, there would have been settings to be made
  rcases effect.of_asks asks with ⟨gives, -⟩ | ⟨faults', -, invalid', fails, same⟩
  · obtain ⟨s, -, valid⟩ := gives.of_lacks lacks
    cases invalid.symm.trans valid
  · cases invalid.symm.trans invalid'
    exact ⟨fails, same⟩

-- and otherwise the level is given.
theorem Event.Effect.given_of {event : Event} (effect : event.Effect) {level : Level}
    (asks : event.operation.asks? = some level)
    (valid : event.before.defaults.Lacks level →
      ∃ values, Settings.make event.before.context .empty = .ok values) :
    Defaults.Gives (Settings.make event.before.context .empty) level event.before.defaults
        event.after.defaults ∧
      (event.operation.isRequest = true → ∃ answer, event.outcome = .ok answer) := by
  -- it is refused only where the surroundings give no settings
  rcases effect.of_asks asks with given | ⟨faults, lacks, invalid, -, -⟩
  · exact given
  · obtain ⟨values, hvalues⟩ := valid lacks
    cases invalid.symm.trans hvalues

section

variable [Platform]

/-- In every process, whatever the surroundings have been and in whatever order things are asked
for: between two times that the settings are forgotten there is one settings object, with the values
of the moment in which it was made; there is one engine and one cache over it; and what could not be
made has left nothing behind. -/
theorem History.defaults_kept {events : List Event} {h : Host} (history : History events h) :
    KeepsDefaults events := by
  obtain ⟨run, -⟩ := history.defaults_run
  exact {
    shared := fun {earlier between later first second s s'} split unreset hfirst hsecond => by
      -- what the first event shares is there after it, and nothing forgets it on the way
      subst split
      have hs := run.settings_of_shares (by simp) hfirst
      have hs' := run.settings_of_shares (by simp) hsecond
      obtain ⟨-, -, rest⟩ := run.divide
      obtain ⟨kept, effect, -⟩ := rest.divide
      have hbefore := kept.settings_kept unreset hs
      -- the second event has settings at its end, so it does not forget them itself
      have hafter := effect.settings_kept (effect.settings_origin hs').1 hbefore
      exact Option.some.inj (hs'.symm.trans hafter)
    created := fun {earlier later event s} split shares => by
      -- the settings of the event were there before it, or it has made them itself
      subst split
      have hs := run.settings_of_shares (by simp) shares
      obtain ⟨first, effect, -⟩ := run.divide
      obtain ⟨unreset, hbefore | ⟨unset, valid⟩⟩ := effect.settings_origin hs
      · rcases first.settings_origin hbefore with
          ⟨hnone, -⟩ | ⟨past, made, since, rfl, hsince, hmade⟩
        · cases hnone
        · refine ⟨past, made, since ++ [event], by simp, ?_, hmade⟩
          intro next hnext
          rcases List.mem_append.mp hnext with hearlier | hlast
          · exact hsince next hearlier
          · rw [List.mem_singleton.mp hlast]
            exact unreset
      · exact ⟨earlier, event, [], rfl, fun next hnext => absurd hnext List.not_mem_nil,
          unset, hs, valid⟩
    engine := fun hfirst hsecond answers answers' hlevel hlevel' he he' => by
      obtain ⟨_, run₁⟩ := run.after_mem hfirst
      obtain ⟨_, run₂⟩ := run.after_mem hsecond
      -- the engines are compared at the end of the history, where there is only one
      have hend := run₁.engine_kept (run.engine_of_answers hfirst answers hlevel he)
      have hend' := run₂.engine_kept (run.engine_of_answers hsecond answers' hlevel' he')
      exact Option.some.inj (hend'.symm.trans hend)
    cache := fun {first second answer answer' c c'} hfirst hsecond answers answers' hc hc' => by
      -- the caches are compared at the end of the history as well
      obtain ⟨_, run₁⟩ := run.after_mem hfirst
      obtain ⟨_, run₂⟩ := run.after_mem hsecond
      have hend := run₁.cache_kept (((run.of_mem hfirst).2 .cache answer answers).2 c hc)
      have hend' := run₂.cache_kept (((run.of_mem hsecond).2 .cache answer' answers').2 c' hc')
      exact Option.some.inj (hend'.symm.trans hend)
    unreplaced := fun hevent unasked unreset => by
      -- an event that does not ask keeps everything
      cases (run.of_mem hevent).1 with
      | kept _ _ same => exact same
      | forgotten reset _ => cases unreset reset
      | given asks _ _ | refused asks _ _ _ _ => cases unasked.symm.trans asks
    refused := fun hevent asks lacks invalid => (run.of_mem hevent).1.refused_of asks lacks invalid
    granted := fun hevent asks valid => (run.of_mem hevent).1.given_of asks valid
    retried := fun {earlier between later first second level level' faults} split asks lacks invalid
        unasked asks' => by
      subst split
      -- nothing has changed since the refusal, so that the second event is granted by its own
      -- moment
      obtain ⟨-, effect, rest⟩ := run.divide
      obtain ⟨waits, effect', -⟩ := rest.divide
      have hsame := (effect.refused_of asks lacks invalid).2
      rw [hsame] at waits
      refine ⟨waits.same_of_unasked lacks.settings unasked, fun values lacks' valid => ?_⟩
      obtain ⟨gives, ends⟩ := effect'.given_of asks' fun _ => ⟨values, valid⟩
      obtain ⟨s, hs, hvalues⟩ := gives.of_lacks lacks'
      exact ⟨⟨s, hs, Except.ok.inj (hvalues.symm.trans valid)⟩, ends⟩ }

end

section

attribute [local instance] Platform.machine

/-- Settings that are refused leave no engine behind; with another variable there is one. It stays
when the settings are forgotten and made anew from a third, and the cache is over it. -/
theorem defaults_kept_forgotten :
    let fuel (text : String) : SettingsContext := ⟨⟨[("WASM_EMBED_FUEL", text)]⟩, none⟩
    let moved (text : String) (h : Host) : Host :=
      { h with context := fuel text, files := ⟨[]⟩, serializeFault := none }
    let h₀ := Host.fresh (fuel "-1") ⟨[]⟩
    let h₁ := moved "7" (Operation.processEngine.after 0 h₀)
    let h₂ := moved "9" (Operation.processEngine.after 0 h₁)
    let h₃ := Operation.resetSettings.after 0 h₂
    let h₄ := Operation.processSettings.after 1 h₃
    let engine : Engine := ⟨2, ⟨1, .speed, false, false, 7⟩⟩
    KeepsDefaults [Operation.processEngine.event 0 h₀, Operation.processEngine.event 0 h₁,
        Operation.resetSettings.event 0 h₂, Operation.processSettings.event 1 h₃,
        Operation.processCache.event 0 h₄] ∧
      Operation.processEngine.outcome 0 h₀ =
        .error ⟨.plain (.settings [(.fuel, .negative)]), none⟩ ∧
      Operation.processEngine.outcome 0 h₁ = .ok (.engine engine) ∧
      Operation.processSettings.outcome 1 h₃ = .ok (.settings ⟨3, .speed, false, false, 9⟩) ∧
      Operation.processCache.outcome 0 h₄ = .ok (.cache ⟨4, engine⟩) := by
  intro fuel moved h₀ h₁ h₂ h₃ h₄ engine
  -- none of the operations is about an object
  have nothing {op : Operation} (hop : op.objects = ∅) {events : List Event} :
      op.objects ⊆ Known events := hop ▸ Set.empty_subset _
  -- each part of the history changes the surroundings before the next operation
  have first : History [Operation.processEngine.event 0 h₀] h₁ :=
    .surroundings (.perform (.start _ _) 0 (nothing rfl)) (fuel "7") ⟨[]⟩ none
  have second : History ([Operation.processEngine.event 0 h₀] ++
      [Operation.processEngine.event 0 h₁]) h₂ :=
    .surroundings (.perform first 0 (nothing rfl)) (fuel "9") ⟨[]⟩ none
  have history : History ([Operation.processEngine.event 0 h₀] ++
      [Operation.processEngine.event 0 h₁] ++ [Operation.resetSettings.event 0 h₂] ++
      [Operation.processSettings.event 1 h₃] ++ [Operation.processCache.event 0 h₄])
      (Operation.processCache.after 0 h₄) :=
    .perform (.perform (.perform second 0 (nothing rfl)) 1 (nothing rfl)) 0 (nothing rfl)
  exact ⟨history.defaults_kept, rfl, rfl, rfl, rfl⟩

end

end WasmHost
