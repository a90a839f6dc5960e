import WasmHost.Proofs.CacheReplay
/-!
Threads that share a cache.

Every request to a cache is one step, except for loading a file under an identifier: that looks the
identifier up, reads the file if it was not found, and compiles what was read. In between the steps
of one thread those of the others run, in any order, and files may change. What the threads are
given agrees all the same, because compiling looks the identifier up once more.
-/
namespace WasmHost

/-- What a thread asks of a cache. -/
inductive CacheRequest where
  | compile (data : Guest.Image) (identifier : Option String)
  | get (identifier : String)
  | contains (identifier : String)
  | size
  | clear
  | load (path : String) (identifier : Option String)

/-- How far a thread has come with a request: it begins, or it loads a file whose identifier was not
found, or it has read the file. -/
inductive CacheTask where
  | begins (request : CacheRequest)
  | missed (path : String) (identifier : Option String)
  | read (data : Guest.Image) (identifier : Option String)

/-- What comes of a task after a step: there is another step to take, or the request ends. -/
inductive CacheProgress where
  | goesOn (task : CacheTask)
  | ends (outcome : Except Failure Answer)

/-- The operation that a request is, when nothing comes in between its steps. -/
def CacheRequest.operation (c : ModuleCache) : CacheRequest → Operation
  | compile data identifier => .cacheCompile c data identifier
  | get identifier => .cacheGet c identifier
  | contains identifier => .cacheContains c identifier
  | size => .cacheSize c
  | clear => .cacheClear c
  | load path identifier => .compileFile path identifier (some c)

namespace CacheTask

/-- The next step of a task. -/
def operation (c : ModuleCache) : CacheTask → Operation
  | begins (.load path none) => .engineCall c.engine (.fetchBytes path)
  | begins (.load _ (some key)) => .cacheGet c key
  | begins request => request.operation c
  | missed path _ => .engineCall c.engine (.fetchBytes path)
  | read data identifier => .cacheCompile c data identifier

/-- What comes of a task, by what its step gives. -/
def progress : CacheTask → Except Failure Answer → CacheProgress
  | begins (.load _ none), .ok (.reply (.bytes data)) => .goesOn (.read data none)
  | begins (.load path (some key)), .ok (.entry none) => .goesOn (.missed path (some key))
  | begins (.load _ (some _)), .ok (.entry (some m)) => .ends (.ok (.compiled m))
  | missed _ identifier, .ok (.reply (.bytes data)) => .goesOn (.read data identifier)
  | _, outcome => .ends outcome

/-- The identifier that a task is about. -/
def identifier? : CacheTask → Option String
  | begins (.compile _ identifier) | begins (.load _ identifier) | missed _ identifier
  | read _ identifier => identifier
  | begins (.get key) | begins (.contains key) => some key
  | begins .size | begins .clear => none

/-- The task that is left after a step. -/
def left? (task : CacheTask) (outcome : Except Failure Answer) : Option CacheTask :=
  match task.progress outcome with
  | .goesOn task' => some task'
  | .ends _ => none

/-- A thread may take the next step of its task, or begin any request if it has none. -/
def Due (task : CacheTask) : Option CacheTask → Prop
  | some pending => task = pending
  | none => ∃ request, task = begins request

end CacheTask

/-- A step that a thread has taken. -/
structure CacheStep where
  task : CacheTask
  event : Event

section

variable [Platform]

/-- The step of a task on a thread. -/
def CacheTask.step (c : ModuleCache) (task : CacheTask) (thread : Thread) (h : Host) : CacheStep :=
  ⟨task, (task.operation c).event thread h⟩

namespace CacheStep

/-- The module with which a request ends at a step. -/
def module? (step : CacheStep) : Option CompiledModule :=
  match step.task.progress step.event.outcome with
  | .ends (.ok (.compiled m)) => some m
  | .ends (.ok (.entry found)) => found
  | _ => none

/-- A request for an identifier ends at a step and returns a module. -/
structure Returns (step : CacheStep) (key : String) (m : CompiledModule) : Prop where
  identifier : step.task.identifier? = some key
  given : step.module? = some m

/-- Whether an engine compiles a module at a step, under an identifier and with success. -/
def builds (step : CacheStep) (e : Engine) (key : String) : Bool :=
  step.task.identifier? = some key ∧
    step.event.before.count e .compile < step.event.after.count e .compile ∧
    step.event.outcome.isOk = true

end CacheStep

/-- A run of threads on one cache, from what each of them is in the middle of: at every moment any
thread takes its next step, or something happens elsewhere that leaves the entries of the cache
alone. A thread that has nothing left to do begins whatever it likes, so that the runs of all
programs are among these, also of programs that go by what they have been given. -/
inductive CacheRun (c : ModuleCache) :
    (Thread → Option CacheTask) → Host → List CacheStep → (Thread → Option CacheTask) → Host →
      Prop where
  | stop (pending : Thread → Option CacheTask) (h : Host) : CacheRun c pending h [] pending h
  | step {pending pending' : Thread → Option CacheTask} {h h' : Host} {steps : List CacheStep}
      (thread : Thread) {task : CacheTask} (due : task.Due (pending thread))
      (rest : CacheRun c
        (Function.update pending thread (task.left? ((task.operation c).outcome thread h)))
        ((task.operation c).after thread h) steps pending' h') :
      CacheRun c pending h (task.step c thread h :: steps) pending' h'
  | elsewhere {pending pending' : Thread → Option CacheTask} {h g h' : Host}
      {steps : List CacheStep} (same : c.entries g = c.entries h)
      (rest : CacheRun c pending g steps pending' h') : CacheRun c pending h steps pending' h'

/-- The steps of a task, taken one after the other on a thread with nothing in between. -/
inductive CacheTask.Uninterrupted (c : ModuleCache) (thread : Thread) :
    CacheTask → Host → Except Failure Answer → Host → Prop where
  | ends {task : CacheTask} {h h' : Host} {outcome : Except Failure Answer}
      (hends : task.progress ((task.operation c).outcome thread h) = .ends outcome)
      (hafter : (task.operation c).after thread h = h') : Uninterrupted c thread task h outcome h'
  | goesOn {task task' : CacheTask} {h h₁ h' : Host} {outcome : Except Failure Answer}
      (hgoes : task.progress ((task.operation c).outcome thread h) = .goesOn task')
      (hafter : (task.operation c).after thread h = h₁)
      (rest : Uninterrupted c thread task' h₁ outcome h') : Uninterrupted c thread task h outcome h'

namespace CacheTask

variable (c : ModuleCache) (thread : Thread) (h : Host)

theorem fetchBytes_run (path : String) :
    (Operation.engineCall c.engine (.fetchBytes path)).outcome thread h =
        ((ModuleSource.file path).read c.engine (h.onThread thread)).map (.reply ∘ .bytes) ∧
      (Operation.engineCall c.engine (.fetchBytes path)).after thread h =
        (ModuleSource.file path).readState c (h.onThread thread) := by
  have hfetch : (c.engine.fetchBytes path).run.run (h.onThread thread) =
      ((ModuleSource.file path).read c.engine (h.onThread thread),
        (ModuleSource.file path).readState c (h.onThread thread)) :=
    Prod.ext rfl (c.engine.fetchBytes_state path (h.onThread thread))
  -- reading a file changes nothing but what the engine has recorded
  unfold Operation.outcome Operation.after Operation.perform
  rw [Action.run_bind_pure, EngineCall.run, Action.run_bind_pure, hfetch]
  cases (ModuleSource.file path).read c.engine (h.onThread thread) <;> exact ⟨rfl, rfl⟩

theorem cacheCompile_run (data : Guest.Image) (identifier : Option String) :
    (Operation.cacheCompile c data identifier).outcome thread h =
        ((c.compile data identifier).run.run (h.onThread thread)).1.map .compiled ∧
      (Operation.cacheCompile c data identifier).after thread h =
        ((c.compile data identifier).run.run (h.onThread thread)).2 := by
  have hop : (Operation.cacheCompile c data identifier).request? =
      some (some c, identifier, .bytes data) := rfl
  exact Operation.request_run_ok hop rfl

theorem compileFile_run (path : String) (identifier : Option String) :
    (Operation.compileFile path identifier (some c)).outcome thread h =
        (((ModuleSource.file path).compile c identifier).run.run (h.onThread thread)).1.map
          .compiled ∧
      (Operation.compileFile path identifier (some c)).after thread h =
        (((ModuleSource.file path).compile c identifier).run.run (h.onThread thread)).2 := by
  have hop : (Operation.compileFile path identifier (some c)).request? =
      some (some c, identifier, .file path) := rfl
  exact Operation.request_run_ok hop rfl

theorem uninterrupted_reads {identifier : Option String} (hmiss : c.Misses h identifier)
    (path : String) {task : CacheTask}
    (hop : task.operation c = .engineCall c.engine (.fetchBytes path))
    (hread : ∀ data, task.progress (.ok (.reply (.bytes data))) = .goesOn (read data identifier))
    (hfail : ∀ failure, task.progress (.error failure) = .ends (.error failure)) :
    Uninterrupted c thread task h
      ((Operation.compileFile path identifier (some c)).outcome thread h)
      ((Operation.compileFile path identifier (some c)).after thread h) := by
  -- that the identifier was not found does not depend on the thread
  have hmiss' : c.Misses (h.onThread thread) identifier := hmiss
  obtain ⟨hout, hafter⟩ := compileFile_run c thread h path identifier
  obtain ⟨hfetched, hstate⟩ := fetchBytes_run c thread h path
  rw [(ModuleSource.file path).compile_of_miss c hmiss'] at hout hafter
  rw [← hop] at hfetched hstate
  -- a file that cannot be read ends the task, and loading it fails in the same way
  cases hfile : (ModuleSource.file path).read c.engine (h.onThread thread) with
  | error failure =>
    rw [hfile] at hfetched hout hafter
    refine .ends ?_ (hstate.trans hafter.symm)
    rw [hfetched, hout]
    exact hfail failure
  | ok data =>
    rw [hfile] at hfetched hout hafter
    -- the thread that has read the file is still the one that runs
    obtain ⟨hcompiled, hend⟩ := cacheCompile_run c thread
      ((ModuleSource.file path).readState c (h.onThread thread)) data identifier
    have hlast : Uninterrupted c thread (read data identifier)
        ((ModuleSource.file path).readState c (h.onThread thread))
        ((Operation.compileFile path identifier (some c)).outcome thread h)
        ((Operation.compileFile path identifier (some c)).after thread h) :=
      .ends (congrArg CacheProgress.ends (hcompiled.trans hout.symm)) (hend.trans hafter.symm)
    refine .goesOn ?_ hstate hlast
    rw [hfetched]
    exact hread data

end CacheTask

-- The steps of a task with nothing in between are a run, which leaves nothing of the task.
theorem CacheTask.Uninterrupted.cacheRun {c : ModuleCache} {thread : Thread} {task : CacheTask}
    {h h' : Host} {outcome : Except Failure Answer}
    (steps : CacheTask.Uninterrupted c thread task h outcome h')
    {pending : Thread → Option CacheTask} (due : task.Due (pending thread)) :
    ∃ steps last, CacheRun c pending h (steps ++ [last]) (Function.update pending thread none) h' ∧
      last.task.progress last.event.outcome = .ends outcome := by
  -- by induction on the steps of the task
  induction steps generalizing pending with
  | @ends task h h' outcome hends hafter =>
    have hleft : task.left? ((task.operation c).outcome thread h) = none := by
      rw [left?, hends]
    have run := CacheRun.step thread due (.stop _ ((task.operation c).after thread h))
    rw [hleft, hafter] at run
    exact ⟨[], task.step c thread h, run, hends⟩
  | @goesOn task task' h h₁ h' outcome hgoes hafter _ ih =>
    have hleft : task.left? ((task.operation c).outcome thread h) = some task' := by
      rw [left?, hgoes]
    -- what is left of the task is now what the thread is in the middle of
    have due' : task'.Due (Function.update pending thread (some task') thread) := by
      rw [Function.update_self]
      rfl
    obtain ⟨steps, last, rest, hends⟩ := ih due'
    rw [Function.update_idem, ← hafter, ← hleft] at rest
    exact ⟨task.step c thread h :: steps, last, .step thread due rest, hends⟩

/-- With nothing in between, the steps of a request are the operation that it is. -/
theorem CacheRequest.uninterrupted (c : ModuleCache) (request : CacheRequest) (thread : Thread)
    (h : Host) :
    CacheTask.Uninterrupted c thread (.begins request) h
      ((request.operation c).outcome thread h) ((request.operation c).after thread h) := by
  cases request with
  | load path identifier =>
    cases identifier with
    | none =>
      have hmiss : c.Misses h none := fun key hkey => absurd hkey.symm (Option.some_ne_none key)
      exact CacheTask.uninterrupted_reads c thread h hmiss path rfl (fun _ => rfl) fun _ => rfl
    | some key =>
      -- loading under an identifier begins with a look-up
      obtain ⟨hout, hafter⟩ := CacheTask.compileFile_run c thread h path (some key)
      have hlookup : (Operation.cacheGet c key).outcome thread h =
          .ok (.entry ((c.entries h).lookup key)) := rfl
      cases hfound : (c.entries h).lookup key with
      | some m =>
        have hget : (CompiledModule.cachedFor c (some key)).run (h.onThread thread) =
            (some m, h.onThread thread) := congrArg (fun found => (found, h.onThread thread)) hfound
        rw [ModuleSource.compile_file, Action.run_lift_bind, hget] at hout hafter
        rw [hfound] at hlookup
        -- what was found is what loading gives
        refine .ends ?_ hafter.symm
        exact (congrArg (CacheTask.progress _) hlookup).trans
          (congrArg CacheProgress.ends hout.symm)
      | none =>
        -- what was not found is read and compiled by the next steps
        rw [hfound] at hlookup
        have hmiss : c.Misses (h.onThread thread) (some key) := fun other hother =>
          Option.some.inj hother ▸ hfound
        have hop : (CacheTask.missed path (some key)).operation c =
            .engineCall c.engine (.fetchBytes path) := rfl
        have hreads := CacheTask.uninterrupted_reads c thread (h.onThread thread) hmiss path hop
          (fun _ => rfl) fun _ => rfl
        exact .goesOn (congrArg (CacheTask.progress _) hlookup) rfl hreads
  | compile | get | contains | size | clear => exact .ends rfl rfl

namespace CacheTask

variable {c : ModuleCache} {thread : Thread} {h : Host} {task : CacheTask}

omit [Platform] in
/-- A step compiles under the identifier of its task, or it does not compile through any cache. -/
-- only two tasks compile: a request to compile, and one that has read its file
theorem operation_cases (c : ModuleCache) (task : CacheTask) :
    (∃ data, task.operation c = .cacheCompile c data task.identifier?) ∨
      (task.operation c).request? = none := by
  cases task with
  | begins request =>
    cases request with
    | compile data identifier => exact Or.inl ⟨data, rfl⟩
    | load path identifier => cases identifier <;> exact Or.inr rfl
    | get | contains | size | clear => exact Or.inr rfl
  | missed path identifier => exact Or.inr rfl
  | read data identifier => exact Or.inl ⟨data, rfl⟩

theorem clears_of_operation_eq {c' : ModuleCache} (hop : task.operation c = .cacheClear c')
    (thread : Thread) (h : Host) : (task.step c thread h).event.clears c = true := by
  have hsame : c = c' := by
    cases task with
    | begins request =>
      cases request with
      | load path identifier => cases identifier <;> cases hop
      | clear => exact Operation.cacheClear.inj hop
      | compile | get | contains | size => cases hop
    | missed | read => cases hop
  unfold step Event.clears Operation.event
  dsimp only
  rw [hop]
  exact decide_eq_true hsame

theorem lookup_kept {key : String} {m : CompiledModule}
    (hclear : (task.step c thread h).event.clears c = false)
    (hheld : (c.entries h).lookup key = some m) :
    (c.entries ((task.operation c).after thread h)).lookup key = some m := by
  -- compiling adds entries but keeps those that there are
  rcases task.operation_cases c with ⟨data, hop⟩ | hop
  · have hheld' : (c.entries (h.onThread thread)).lookup key = some m := hheld
    have hadded := (ModuleSource.bytes data).compile_lookup c (h := h.onThread thread) c
      task.identifier? key
    rw [hheld', Option.some_or] at hadded
    obtain ⟨-, hafter⟩ := cacheCompile_run c thread h data task.identifier?
    rw [hop, hafter]
    exact hadded
  -- no other operation of a task changes the entries unless it clears them
  · have hne : ∀ c', task.operation c ≠ .cacheClear c' := fun c' heq => by
      have htrue := clears_of_operation_eq heq thread h
      exact Bool.noConfusion (htrue.symm.trans hclear)
    have hcached := Operation.cached_of_not_request hop hne thread h
    exact (congrArg (List.lookup key) (c.entries_of_cached hcached)).trans hheld

theorem module?_of_ends (hends : ∀ outcome, task.progress outcome = .ends outcome)
    {data : Guest.Image} {identifier : Option String}
    (hop : task.operation c = .cacheCompile c data identifier) {m : CompiledModule}
    (hm : (task.step c thread h).module? = some m) :
    (task.operation c).outcome thread h = .ok (.compiled m) := by
  obtain ⟨hout, -⟩ := cacheCompile_run c thread h data identifier
  rw [← hop] at hout
  unfold CacheStep.module? step Operation.event at hm
  dsimp only at hm
  -- the module of the step is that of the answer
  rw [hends, hout] at hm
  rw [hout]
  cases hresult : ((c.compile data identifier).run.run (h.onThread thread)).1 with
  | error failure =>
    rw [hresult] at hm
    cases hm
  | ok m' =>
    rw [hresult] at hm
    exact congrArg (fun m => Except.ok (Answer.compiled m)) (Option.some.inj hm)

theorem module?_of_reads {path : String} {identifier : Option String}
    (hop : task.operation c = .engineCall c.engine (.fetchBytes path))
    (hread : ∀ data, task.progress (.ok (.reply (.bytes data))) = .goesOn (read data identifier))
    (hfail : ∀ failure, task.progress (.error failure) = .ends (.error failure)) :
    (task.step c thread h).module? = none := by
  obtain ⟨hout, -⟩ := fetchBytes_run c thread h path
  rw [← hop] at hout
  unfold CacheStep.module? step Operation.event
  dsimp only
  rw [hout]
  -- with bytes the task goes on, and without it ends with a failure
  cases (ModuleSource.file path).read c.engine (h.onThread thread) with
  | error failure =>
    dsimp only [Except.map]
    rw [hfail]
  | ok data =>
    dsimp only [Except.map, Function.comp]
    rw [hread]

theorem module?_cases {m : CompiledModule} (hm : (task.step c thread h).module? = some m) :
    (∃ data, task.operation c = .cacheCompile c data task.identifier? ∧
      (task.operation c).outcome thread h = .ok (.compiled m)) ∨
    ∃ key, task.identifier? = some key ∧ (c.entries h).lookup key = some m ∧
      (task.operation c).after thread h = h.onThread thread := by
  -- of the tasks that end with a module all but two are compilations
  cases task with
  | begins request =>
    cases request with
    | compile data identifier => exact Or.inl ⟨data, rfl, module?_of_ends (fun _ => rfl) rfl hm⟩
    | get key => exact Or.inr ⟨key, rfl, hm, rfl⟩
    | contains | size | clear => cases hm
    | load path identifier =>
      cases identifier with
      | none =>
        have hnone : ((begins (.load path none)).step c thread h).module? = none :=
          module?_of_reads rfl (fun _ => rfl) fun _ => rfl
        cases hnone.symm.trans hm
      | some key =>
        -- looking a file up under its identifier ends with what was found
        have hmodule : ((begins (.load path (some key))).step c thread h).module? =
            (c.entries h).lookup key := by
          have hlookup : (Operation.cacheGet c key).outcome thread h =
              .ok (.entry ((c.entries h).lookup key)) := rfl
          unfold CacheStep.module? step Operation.event operation
          dsimp only
          rw [hlookup]
          cases (c.entries h).lookup key <;> rfl
        exact Or.inr ⟨key, rfl, hmodule.symm.trans hm, rfl⟩
  | missed path identifier =>
    have hnone : ((missed path identifier).step c thread h).module? = none :=
      module?_of_reads rfl (fun _ => rfl) fun _ => rfl
    cases hnone.symm.trans hm
  | read data identifier => exact Or.inl ⟨data, rfl, module?_of_ends (fun _ => rfl) rfl hm⟩

theorem lookup_of_compiled {data : Guest.Image} {key : String} {m : CompiledModule}
    (hop : task.operation c = .cacheCompile c data (some key))
    (hok : (task.operation c).outcome thread h = .ok (.compiled m)) :
    (c.entries ((task.operation c).after thread h)).lookup key = some m := by
  obtain ⟨hout, hafter⟩ := cacheCompile_run c thread h data (some key)
  rw [hop, hout] at hok
  rw [hop, hafter]
  -- the answer is made of the result of compiling
  have hresult : ((c.compile data (some key)).run.run (h.onThread thread)).1 = .ok m := by
    cases hcompiled : ((c.compile data (some key)).run.run (h.onThread thread)).1 with
    | error failure =>
      rw [hcompiled] at hok
      cases hok
    | ok m' =>
      rw [hcompiled] at hok
      cases hok
      rfl
  have hadded := (ModuleSource.bytes data).compile_lookup c (h := h.onThread thread) c
    (some key) key
  change (c.entries ((c.compile data (some key)).run.run (h.onThread thread)).2).lookup key =
    ((c.entries h).lookup key).or (if c.serial = c.serial ∧ some key = some key then
      ((c.compile data (some key)).run.run (h.onThread thread)).1.toOption else none) at hadded
  rw [hresult, if_pos ⟨rfl, rfl⟩] at hadded
  -- an entry that was there before is what is given
  cases hbefore : (c.entries h).lookup key with
  | none =>
    rw [hbefore] at hadded
    exact hadded
  | some m' =>
    have hhit := c.compile_of_hit (h := h.onThread thread) hbefore data
    rw [hhit] at hresult
    cases hresult
    rw [hbefore] at hadded
    exact hadded

theorem lookup_of_returns {key : String} {m : CompiledModule}
    (returns : (task.step c thread h).Returns key m) :
    (c.entries ((task.operation c).after thread h)).lookup key = some m := by
  have hkey : task.identifier? = some key := returns.identifier
  rcases module?_cases returns.given with ⟨data, hop, hok⟩ | ⟨found, hfound, hheld, hafter⟩
  · rw [hkey] at hop
    exact lookup_of_compiled hop hok
  · cases Option.some.inj (hfound.symm.trans hkey)
    rw [hafter]
    exact hheld

theorem count_compile_eq (hop : (task.operation c).request? = none) (e : Engine) :
    ((task.operation c).after thread h).count e .compile = h.count e .compile := by
  have hreads (path : String) :
      ((Operation.engineCall c.engine (.fetchBytes path)).after thread h).count e .compile =
        h.count e .compile := by
    obtain ⟨-, hafter⟩ := fetchBytes_run c thread h path
    -- reading a file is recorded as another operation
    have hne : (c.engine.serial, EngineOperation.fetchBytes) ≠ (e.serial, .compile) :=
      fun heq => EngineOperation.noConfusion (congrArg Prod.snd heq)
    rw [hafter]
    exact List.count_cons_of_ne hne
  cases task with
  | begins request =>
    cases request with
    | compile data identifier => cases hop
    | load path identifier =>
      cases identifier with
      | none => exact hreads path
      | some key => rfl
    | get | contains | size | clear => rfl
  | missed path identifier => exact hreads path
  | read data identifier => cases hop

-- Where the engine compiles under an identifier with success, the step compiles through the cache.
theorem compiles_of_builds {key : String}
    (hbuilds : (task.step c thread h).builds c.engine key = true) :
    ∃ data m, task.operation c = .cacheCompile c data (some key) ∧
      (task.operation c).outcome thread h = .ok (.compiled m) ∧
      h.count c.engine .compile < ((task.operation c).after thread h).count c.engine .compile := by
  obtain ⟨hkey, hmore, hok⟩ := of_decide_eq_true hbuilds
  change task.identifier? = some key at hkey
  change h.count c.engine .compile <
    ((task.operation c).after thread h).count c.engine .compile at hmore
  change ((task.operation c).outcome thread h).isOk = true at hok
  -- a step that does not compile through the cache leaves the count as it is
  rcases task.operation_cases c with ⟨data, hop⟩ | hop
  · rw [hkey] at hop
    obtain ⟨hout, -⟩ := cacheCompile_run c thread h data (some key)
    rw [← hop] at hout
    cases hresult : ((c.compile data (some key)).run.run (h.onThread thread)).1 with
    | error failure =>
      rw [hout, hresult] at hok
      cases hok
    | ok m =>
      rw [hresult] at hout
      exact ⟨data, m, hop, hout, hmore⟩
  · rw [count_compile_eq hop] at hmore
    exact absurd hmore (Nat.lt_irrefl _)

theorem lookup_of_builds {key : String}
    (hbuilds : (task.step c thread h).builds c.engine key = true) :
    ∃ m, (c.entries ((task.operation c).after thread h)).lookup key = some m := by
  obtain ⟨data, m, hop, hok, -⟩ := compiles_of_builds hbuilds
  exact ⟨m, lookup_of_compiled hop hok⟩

theorem builds_of_held {key : String} {m : CompiledModule}
    (hheld : (c.entries h).lookup key = some m) :
    (task.step c thread h).builds c.engine key = false := by
  cases hbuilds : (task.step c thread h).builds c.engine key with
  | false => rfl
  | true =>
    obtain ⟨data, _, hop, -, hmore⟩ := compiles_of_builds hbuilds
    obtain ⟨-, hafter⟩ := cacheCompile_run c thread h data (some key)
    -- compiling what is held does not ask the engine
    have hhit := c.compile_of_hit (h := h.onThread thread) hheld data
    rw [hop, hafter, hhit] at hmore
    exact absurd hmore (Nat.lt_irrefl _)

theorem returns_of_held {key : String} {m m' : CompiledModule}
    (hclear : (task.step c thread h).event.clears c = false)
    (hheld : (c.entries h).lookup key = some m)
    (returns : (task.step c thread h).Returns key m') : m' = m :=
  Option.some.inj ((lookup_of_returns returns).symm.trans (lookup_kept hclear hheld))

end CacheTask

end

namespace CacheRun

variable {c : ModuleCache} {pending pending' : Thread → Option CacheTask} {h h' : Host}
  {steps : List CacheStep}

section

variable [Platform]

theorem step_eq (run : CacheRun c pending h steps pending' h') :
    ∀ step ∈ steps, ∃ task thread g, step = CacheTask.step c task thread g := by
  -- by induction on the run
  induction run with
  | stop pending h => exact fun step hstep => absurd hstep List.not_mem_nil
  | @step _ _ h _ _ thread task due rest ih =>
    intro step hstep
    rcases List.mem_cons.mp hstep with rfl | hlater
    · exact ⟨task, thread, h, rfl⟩
    · exact ih step hlater
  | elsewhere same rest ih => exact ih

theorem split {earlier later : List CacheStep}
    (run : CacheRun c pending h (earlier ++ later) pending' h') :
    ∃ middle g, CacheRun c pending h earlier middle g ∧ CacheRun c middle g later pending' h' := by
  -- by induction on the run: the first of its steps is the first of the earlier part
  generalize hsteps : earlier ++ later = steps at run
  induction run generalizing earlier with
  | stop pending h =>
    obtain ⟨rfl, rfl⟩ := List.append_eq_nil_iff.mp hsteps
    exact ⟨pending, h, .stop pending h, .stop pending h⟩
  | @step pending _ h _ steps thread task due rest ih =>
    cases earlier with
    | nil =>
      have hlater : later = task.step c thread h :: steps := hsteps
      exact ⟨pending, h, .stop pending h, hlater ▸ .step thread due rest⟩
    | cons first earlier =>
      obtain ⟨hfirst, hrest⟩ := List.cons.inj hsteps
      obtain ⟨middle, g, before, after⟩ := ih hrest
      exact ⟨middle, g, hfirst ▸ .step thread due before, after⟩
  | elsewhere same rest ih =>
    obtain ⟨middle, g, before, after⟩ := ih hsteps
    exact ⟨middle, g, .elsewhere same before, after⟩

theorem of_held (run : CacheRun c pending h steps pending' h')
    (hclear : ∀ step ∈ steps, step.event.clears c = false) {key : String} {m : CompiledModule}
    (hheld : (c.entries h).lookup key = some m) :
    ∀ step ∈ steps, (∀ m', step.Returns key m' → m' = m) ∧ step.builds c.engine key = false := by
  -- by induction on the run, with what is found under the identifier as the invariant
  induction run with
  | stop pending h => exact fun step hstep => absurd hstep List.not_mem_nil
  | @step _ _ h _ steps thread task due rest ih =>
    obtain ⟨hfirst, hrest⟩ := List.forall_mem_cons.mp hclear
    have hkept := CacheTask.lookup_kept hfirst hheld
    refine List.forall_mem_cons.mpr ⟨⟨?_, CacheTask.builds_of_held hheld⟩, ih hrest hkept⟩
    exact fun m' returns => CacheTask.returns_of_held hfirst hheld returns
  | elsewhere same rest ih =>
    have hheld' := (congrArg (List.lookup key) same).trans hheld
    exact ih hclear hheld'

-- A run without clearing returns one module for an identifier.
theorem returns_unique (run : CacheRun c pending h steps pending' h')
    (hclear : ∀ step ∈ steps, step.event.clears c = false) {key : String} :
    ∀ step ∈ steps, ∀ other ∈ steps, ∀ m m', step.Returns key m → other.Returns key m' →
      m = m' := by
  -- by induction on the run: of the two steps one comes first
  induction run with
  | stop pending h => exact fun step hstep => absurd hstep List.not_mem_nil
  | @step _ _ h _ steps thread task due rest ih =>
    obtain ⟨-, hrest⟩ := List.forall_mem_cons.mp hclear
    intro step hstep other hother m m' returns returns'
    -- the first of the two steps leaves its module in the cache for the second
    rcases List.mem_cons.mp hstep with rfl | hstep
    · have hheld := CacheTask.lookup_of_returns returns
      rcases List.mem_cons.mp hother with rfl | hother
      · exact Option.some.inj (returns.given.symm.trans returns'.given)
      · exact ((rest.of_held hrest hheld other hother).1 m' returns').symm
    · rcases List.mem_cons.mp hother with rfl | hother
      · have hheld := CacheTask.lookup_of_returns returns'
        exact (rest.of_held hrest hheld step hstep).1 m returns
      · exact ih hrest step hstep other hother m m' returns returns'
  | elsewhere same rest ih => exact ih hclear

theorem builds_once (run : CacheRun c pending h steps pending' h')
    (hclear : ∀ step ∈ steps, step.event.clears c = false) (key : String) :
    steps.countP (·.builds c.engine key) ≤ 1 := by
  -- by induction on the run: the first step that compiles leaves its module in the cache for the
  -- rest
  induction run with
  | stop pending h => exact Nat.zero_le 1
  | @step _ _ h _ steps thread task due rest ih =>
    obtain ⟨-, hrest⟩ := List.forall_mem_cons.mp hclear
    cases hbuilds : (task.step c thread h).builds c.engine key with
    | false =>
      rw [List.countP_cons_of_neg (by simp [hbuilds])]
      exact ih hrest
    | true =>
      obtain ⟨m, hheld⟩ := CacheTask.lookup_of_builds hbuilds
      have hnone : steps.countP (·.builds c.engine key) = 0 := by
        apply List.countP_eq_zero.mpr
        intro step hstep
        simp [(rest.of_held hrest hheld step hstep).2]
      have hone : (task.step c thread h :: steps).countP (·.builds c.engine key) =
          steps.countP (·.builds c.engine key) + 1 := List.countP_cons_of_pos hbuilds
      rw [hone, hnone]
  | elsewhere same rest ih => exact ih hclear

/-- However the steps of threads on one cache interleave, each module that is returned for an
identifier is the one that the cache holds under it at the step that returns it. So between two
times that the cache is cleared all that is returned for an identifier is one module, and the engine
compiles under it with success at most once, however many threads have not found it before. A
request with nothing in between is part of such a run as well, and ends as the operation that it is.
-/
theorem modules_agree (run : CacheRun c pending h steps pending' h') :
    (∀ step ∈ steps, ∀ key m, step.Returns key m →
      (c.entries step.event.after).lookup key = some m) ∧
    (∀ earlier between later, steps = earlier ++ (between ++ later) →
      (∀ step ∈ between, step.event.clears c = false) → ∀ key,
        (∀ step ∈ between, ∀ other ∈ between, ∀ m m', step.Returns key m →
          other.Returns key m' → m = m') ∧
        between.countP (·.builds c.engine key) ≤ 1) ∧
    ∀ (request : CacheRequest) (thread : Thread) (pending : Thread → Option CacheTask) (h : Host),
      pending thread = none →
        ∃ steps last,
          CacheRun c pending h (steps ++ [last]) pending ((request.operation c).after thread h) ∧
          last.task.progress last.event.outcome =
            .ends ((request.operation c).outcome thread h) := by
  refine ⟨?_, ?_, fun request thread pending h idle => ?_⟩
  · intro step hstep key m returns
    -- the step is one of a task in some state, and only the state after it matters
    obtain ⟨task, thread, g, rfl⟩ := run.step_eq step hstep
    exact CacheTask.lookup_of_returns returns
  · intro earlier between later hsteps hclear key
    rw [hsteps] at run
    obtain ⟨_, _, -, tail⟩ := run.split
    -- what is between two parts is a run of its own, from the state that was reached
    obtain ⟨_, _, middle, -⟩ := tail.split
    exact ⟨middle.returns_unique hclear, middle.builds_once hclear key⟩
  -- an idle thread may begin the request
  · have due : (CacheTask.begins request).Due (pending thread) := by
      rw [idle]
      exact ⟨request, rfl⟩
    obtain ⟨steps, last, run, hends⟩ := (request.uninterrupted c thread h).cacheRun due
    rw [← idle, Function.update_eq_self] at run
    exact ⟨steps, last, run, hends⟩

end

section

attribute [local instance] Platform.machine

/-- Two threads have missed the same file under one identifier, and have both read it. One of them
compiles it and the other is given the same module; so is a third that loads the file later. -/
theorem modules_agree_both_missed :
    let c : ModuleCache := ⟨3, ⟨2, ⟨1, .default⟩⟩⟩
    let m : CompiledModule := ⟨2, c.engine, ⟨1, ⟨.empty, false, false⟩⟩, some "k"⟩
    let compiles := CacheTask.read (.ofProgram .empty) (some "k")
    let looks := CacheTask.begins (.load "m" (some "k"))
    let pending (thread : Thread) := if thread < 2 then some compiles else none
    let h₀ := Host.fresh ⟨.empty, none⟩ ⟨[]⟩
    let h₁ := (compiles.operation c).after 1 h₀
    let h₂ := (compiles.operation c).after 0 h₁
    let steps := [compiles.step c 1 h₀, compiles.step c 0 h₁, looks.step c 2 h₂]
    (∃ pending' h', CacheRun c pending h₀ steps pending' h') ∧
      (∀ step ∈ steps, step.event.clears c = false) ∧
      steps.map CacheStep.module? = [some m, some m, some m] ∧
      (∀ step ∈ steps, ∀ key m, step.Returns key m →
        (c.entries step.event.after).lookup key = some m) ∧
      steps.countP (·.builds c.engine "k") ≤ 1 := by
  intro c m compiles looks pending h₀ h₁ h₂ steps
  have run : CacheRun c pending h₀ steps _ _ :=
    .step 1 rfl (.step 0 rfl (.step 2 ⟨_, rfl⟩ (.stop _ _)))
  have hclear : ∀ step ∈ steps, step.event.clears c = false := by decide +kernel
  obtain ⟨hheld, hagree, -⟩ := run.modules_agree
  obtain ⟨-, honce⟩ := hagree [] steps [] (List.append_nil steps).symm hclear "k"
  exact ⟨⟨_, _, run⟩, hclear, rfl, hheld, honce⟩

end

end CacheRun

end WasmHost
