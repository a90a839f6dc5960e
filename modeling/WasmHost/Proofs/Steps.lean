import WasmHost.Proofs.Channel
import WasmHost.Proofs.Operation
/-!
The steps of an action.

An action asks engines, one question at a time, and does the rest by itself. Its steps form a tree
over the very action that is performed, so there is no other program whose behaviour they could
describe. Between two steps of a thread the other threads go on, and whatever they do leaves the
diagnostics of the thread alone.
-/
namespace WasmHost

variable {α β : Type}

/-- A fault tells of an engine if it carries a diagnostic. -/
def Fault.tells : Fault → Bool
  | engine _ _ _ | unresolvedSignature _ _ | trapped _ _ => true
  | _ => false

/-- A failure shows the fault that is raised, and the one that this fault replaced. -/
def Failure.Shows (failure : Failure) (fault : Fault) : Prop :=
  failure.fault = fault ∨ failure.cause = some fault

/-- A result in which no fault that tells of an engine is shown. -/
def Quiet (result : Except Failure α) : Prop :=
  ∀ failure, result = .error failure → ∀ fault, failure.Shows fault → fault.tells = false

namespace Quiet

theorem ok (x : α) : Quiet (.ok x : Except Failure α) := fun _ h => nomatch h

theorem error {fault : Fault} (h : fault.tells = false) :
    Quiet (.error ⟨fault, none⟩ : Except Failure α) := by
  intro failure hfailure shown hshown
  cases hfailure
  rcases hshown with rfl | hcause
  · exact h
  · cases hcause

theorem lift (a : HostM α) (h : Host) : Quiet ((liftM a : HostAction α).run.run h).1 := ok _

theorem bind {a : HostAction α} {f : α → HostAction β} {h : Host} (ha : Quiet (a.run.run h).1)
    (hf : ∀ x h', Quiet ((f x).run.run h').1) : Quiet ((a >>= f).run.run h).1 := by
  rw [Action.run_bind]
  rcases hrun : a.run.run h with ⟨failure | x, h'⟩
  · rw [hrun] at ha
    intro failure' hfailure
    cases hfailure
    exact ha failure rfl
  · exact hf x h'

end Quiet

-- A fault that takes the place of one that cannot be written does not tell of an engine either.
theorem Fault.raised_tells {fault : Fault} (h : fault.tells = false) :
    fault.raised.tells = false := by
  unfold raised
  split
  · exact h
  · rfl

section

variable [Platform]

/-- An operation of an engine, with results of its own type. -/
structure EngineAsk (α : Type) where
  engine : Engine
  call : EngineCall
  action : HostAction α
  reply : α → EngineReply
  runs : call.run engine = (do return reply (← action))

theorem EngineAsk.run (asked : EngineAsk α) (h : Host) :
    (asked.call.run asked.engine).run.run h =
      ((asked.action.run.run h).1.map asked.reply, (asked.action.run.run h).2) := by
  rw [asked.runs, Action.run_bind_pure]

/-- The parts of the state that actions change without an engine. -/
def ownParts : List HostPart :=
  [.nextSerial, .notices, .cached, .wrappers, .views, .viewLocks, .settings, .engine, .cache]

/-- The steps of an action. -/
inductive Steps : {α : Type} → HostAction α → Type 1 where
  | done {α : Type} (result : Except Failure α) : Steps (ExceptT.mk (Pure.pure result))
  /-- An engine is asked. -/
  | ask {α : Type} (asked : EngineAsk α) : Steps asked.action
  /-- Something is done without an engine. -/
  | own {α : Type} {a : HostAction α} (touches : Touches ownParts a.run)
      (quiet : ∀ h, Quiet (a.run.run h).1) : Steps a
  | bind {α β : Type} {a : HostAction α} {f : α → HostAction β} (first : Steps a)
      (rest : ∀ x, Steps (f x)) : Steps (a >>= f)
  /-- Another result takes the place of the one that the steps have, a failure or not. -/
  | recast {α β : Type} {a : HostAction α} {b : HostAction β} (steps : Steps a)
      (f : Except Failure α → Except Failure β)
      (hb : ∀ h, b.run.run h = (f (a.run.run h).1, (a.run.run h).2)) : Steps b

end

/-- What may happen while a thread is between two steps: anything that leaves the diagnostics of the
thread alone and comes back to it. -/
def Meanwhile (thread : Thread) (h h' : Host) : Prop :=
  h'.thread = thread ∧ ∀ e : Engine, e.diagnosticOn h' thread = e.diagnosticOn h thread

namespace Meanwhile

variable {thread : Thread} {h h' h'' : Host}

theorem refl (ht : h.thread = thread) : Meanwhile thread h h := ⟨ht, fun _ => rfl⟩

theorem trans (first : Meanwhile thread h h') (second : Meanwhile thread h' h'') :
    Meanwhile thread h h'' :=
  ⟨second.1, fun e => (second.2 e).trans (first.2 e)⟩

theorem surroundings (ht : h.thread = thread) (context : SettingsContext) (files : Files.Tree)
    (serializeFault : Option String) :
    Meanwhile thread h { h with context, files, serializeFault } := ⟨ht, fun _ => rfl⟩

end Meanwhile

namespace Steps

variable [Platform]

/-- The steps are taken on a thread, from one state to another, while the other threads go on in
between. The events are the questions that the thread has asked. -/
def Runs (thread : Thread) : {α : Type} → {a : HostAction α} → Steps a → Host →
    List EngineEvent → Except Failure α → Host → Prop
  | _, _, .done r, h, events, result, h' => events = [] ∧ result = r ∧ h' = h
  | _, _, .ask asked, h, events, result, h' => ∃ h₁, Meanwhile thread h h₁ ∧
      events = [asked.engine.eventOf thread asked.call h₁] ∧
      asked.action.run.run h₁ = (result, h')
  | _, _, @own _ _ a _ _, h, events, result, h' => ∃ h₁, Meanwhile thread h h₁ ∧ events = [] ∧
      a.run.run h₁ = (result, h')
  | _, _, .bind first rest, h, events, result, h' =>
      (∃ failure, first.Runs thread h events (.error failure) h' ∧ result = .error failure) ∨
      ∃ x h₁ earlier later, first.Runs thread h earlier (.ok x) h₁ ∧
        (rest x).Runs thread h₁ later result h' ∧ events = earlier ++ later
  | _, _, .recast steps f _, h, events, result, h' =>
      ∃ r, steps.Runs thread h events r h' ∧ result = f r

def give (x : α) : Steps (Pure.pure x : HostAction α) := .done (.ok x)

def fail (fault : Fault) : Steps (Action.fail fault : HostAction α) := .done (.error ⟨fault, none⟩)

/-- The steps of whichever of two actions is performed. -/
def ite {c : Prop} [decision : Decidable c] {a b : HostAction α} (first : Steps a)
    (second : Steps b) : Steps (if c then a else b) :=
  match decision with
  | .isTrue _ => first
  | .isFalse _ => second

/-- Something is made of the result. -/
def map {a : HostAction α} (steps : Steps a) (f : α → β) : Steps (do return f (← a)) :=
  .bind steps fun x => .give (f x)

/-- Something that cannot fail is done without an engine. -/
def act {a : HostM α} (touches : Touches ownParts a) : Steps (liftM a : HostAction α) :=
  .own (.action_lift touches) fun h => .lift a h

/-- The state is looked at. -/
def look {f : Host → HostAction β} (rest : ∀ h, Steps (f h)) :
    Steps ((MonadState.get : HostAction Host) >>= f) :=
  .bind (.act .get) rest

/-- The state is changed. -/
def change {g : Host → Host} (touches : Touches ownParts (modify g : HostM PUnit)) :
    Steps (modify g : HostAction PUnit) :=
  .act touches

omit [Platform] in
theorem newSerial_touches : Touches ownParts Host.newSerial :=
  Host.newSerial_touches.mono (by decide)

/-- A new object is made. -/
def new (make : Nat → α) : Steps (do return make (← Host.newSerial) : HostAction α) :=
  .map (.act newSerial_touches) make

def note (notice : Notice) : Steps (liftM (Host.note notice) : HostAction Unit) :=
  .act ((Host.note_touches notice).mono (by decide))

/-- However many steps there are, the same thread runs after them, and of the diagnostics only those
of the thread have changed. -/
theorem diagnostics_elsewhere {a : HostAction α} (steps : Steps a) (h : Host) :
    (a.run.run h).2.thread = h.thread ∧ ∀ (e : Engine) (t : Thread), t ≠ h.thread →
      e.diagnosticOn (a.run.run h).2 t = e.diagnosticOn h t := by
  -- by induction on the steps; an engine that is asked leaves its mark on its thread only
  induction steps generalizing h with
  | done result => exact ⟨rfl, fun _ _ _ => rfl⟩
  | ask asked =>
    have hthread := ((asked.call.run_touches asked.engine).run h).same .thread (by decide)
    have hmarked := asked.engine.call_marked h asked.call
    change ((asked.call.run asked.engine).run.run h).2.thread = h.thread at hthread
    rw [asked.run] at hthread hmarked
    exact ⟨hthread, fun e t ht => hmarked.elsewhere fun hsame => ht hsame.2⟩
  | @own _ a touches quiet =>
    have hthread : (a.run.run h).2.thread = h.thread :=
      (touches.run h).same .thread (by decide)
    have hdiagnostics : (a.run.run h).2.diagnostics = h.diagnostics :=
      (touches.run h).same .diagnostics (by decide)
    exact ⟨hthread, fun e t _ => by rw [Engine.diagnosticOn, hdiagnostics]; rfl⟩
  | @bind _ _ a f first rest ihfirst ihrest =>
    obtain ⟨hthread, hdiagnostics⟩ := ihfirst h
    rw [Action.run_bind]
    -- if the first action fails, the second makes no step
    rcases hrun : a.run.run h with ⟨failure | x, h₁⟩
    · rw [hrun] at hthread hdiagnostics
      exact ⟨hthread, hdiagnostics⟩
    · rw [hrun] at hthread hdiagnostics
      obtain ⟨hthread', hdiagnostics'⟩ := ihrest x h₁
      exact ⟨hthread'.trans hthread, fun e t ht =>
        (hdiagnostics' e t (hthread ▸ ht)).trans (hdiagnostics e t ht)⟩
  | recast steps f hb ih =>
    rw [hb]
    exact ih h

/-- Performing an action without interruption is one of the runs of its steps. -/
theorem runs_undisturbed {a : HostAction α} (steps : Steps a) (h : Host) :
    ∃ events, steps.Runs h.thread h events (a.run.run h).1 (a.run.run h).2 := by
  -- nothing comes between two steps here, so that the interruptions are empty
  induction steps generalizing h with
  | done result => exact ⟨[], rfl, rfl, rfl⟩
  | ask asked => exact ⟨_, h, .refl rfl, rfl, rfl⟩
  | own touches quiet => exact ⟨_, h, .refl rfl, rfl, rfl⟩
  | @bind _ _ a f first rest ihfirst ihrest =>
    obtain ⟨earlier, hfirst⟩ := ihfirst h
    have hthread := (first.diagnostics_elsewhere h).1
    rw [Action.run_bind]
    rcases hrun : a.run.run h with ⟨failure | x, h₁⟩
    · rw [hrun] at hfirst
      exact ⟨earlier, Or.inl ⟨failure, hfirst, rfl⟩⟩
    · rw [hrun] at hfirst hthread
      obtain ⟨later, hrest⟩ := ihrest x h₁
      have hthread' : h₁.thread = h.thread := hthread
      rw [hthread'] at hrest
      exact ⟨earlier ++ later, Or.inr ⟨x, h₁, earlier, later, hfirst, hrest, rfl⟩⟩
  | recast steps f hb ih =>
    obtain ⟨events, hruns⟩ := ih h
    rw [hb]
    exact ⟨events, _, hruns, rfl⟩

end Steps
end WasmHost
