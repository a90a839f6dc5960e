import WasmHost.Proofs.Budgets
import WasmHost.Proofs.ExportAccess
/-!
Runs on a module under two budgets.

A run makes instances, calls them by name, and has and calls callables. What it does next goes by
what it has been given before. Two such runs on modules of one program are gone through side by
side: as long as the one with the smaller budget succeeds, every instance of it is behind its
counterpart in the other, and so the other succeeds as well, with the same results.
-/
namespace WasmHost

/-- A step of a run: to make an instance of the module or of bytes, to call an instance by name, to
have a callable of it, or to call a callable. Instances and callables go by the order in which the
run was given them. -/
inductive Use where
  | instantiate
  | build (data : Guest.Image)
  | call (owner : Nat) (name : String) (arguments : List HostValue)
  | bind (owner : Nat) (name : String)
  | apply (callable : Nat) (arguments : List HostValue)

/-- The results in an answer. -/
def Answer.results : Answer → List HostValue
  | value v => [v]
  | _ => []

/-- A run on a module: what it has been given so far. -/
structure Session where
  subject : CompiledModule
  instances : List Instance
  callables : List ExportedFunction

section

variable [Platform]

namespace Session

/-- A run at its start. -/
def start (m : CompiledModule) : Session := ⟨m, [], []⟩

/-- The operation that a step is, unless it is on what has not been given. -/
def operation? (s : Session) : Use → Option Operation
  | .instantiate => some (.newInstance s.subject)
  | .build data => some (.instanceOfBytes data (some s.subject.engine))
  | .call k name arguments => s.instances[k]?.map (.call · name arguments)
  | .bind k name => s.instances[k]?.map (.function · name)
  | .apply k arguments => s.callables[k]?.map (.apply · arguments)

/-- A run after an answer. -/
def enter (s : Session) : Answer → Session
  | .running i => { s with instances := s.instances ++ [i] }
  | .function f => { s with callables := s.callables ++ [f] }
  | _ => s

/-- Goes through steps on threads and gives the results of the calls, if every step succeeds. -/
def results? (s : Session) (h : Host) : List (Thread × Use) → Option (List HostValue)
  | [] => some []
  | (thread, use) :: uses => do
    let op ← s.operation? use
    let answer ← (op.outcome thread h).toOption
    let results ← (s.enter answer).results? (op.after thread h) uses
    return answer.results ++ results

theorem results?_cons_eq_some {s : Session} {h : Host} {thread : Thread} {use : Use}
    {uses : List (Thread × Use)} {results : List HostValue} :
    s.results? h ((thread, use) :: uses) = some results ↔ ∃ op answer rest,
      s.operation? use = some op ∧ op.outcome thread h = .ok answer ∧
      (s.enter answer).results? (op.after thread h) uses = some rest ∧
      answer.results ++ rest = results := by
  have htoOption {op : Operation} {answer : Answer} :
      (op.outcome thread h).toOption = some answer ↔ op.outcome thread h = .ok answer := by
    cases op.outcome thread h <;> simp [Except.toOption]
  simp only [results?, bind, Option.bind_eq_some_iff, htoOption, pure, Option.some.injEq]
  constructor
  · rintro ⟨op, hop, answer, hanswer, rest, hrest, hresults⟩
    exact ⟨op, answer, rest, hop, hanswer, hrest, hresults⟩
  · rintro ⟨op, answer, rest, hop, hanswer, hrest, hresults⟩
    exact ⟨op, hop, answer, hanswer, rest, hrest, hresults⟩

/-- Everything that a run has been given was given by events, and no instance twice. -/
structure GivenBy (s : Session) (events : List Event) : Prop where
  subject : .compiled s.subject ∈ Known events
  instances {i : Instance} (hi : i ∈ s.instances) : .running i ∈ Known events
  callables {f : ExportedFunction} (hf : f ∈ s.callables) : .function f ∈ Known events
  distinct : s.instances.Nodup

omit [Platform] in
theorem GivenBy.start {events : List Event} {m : CompiledModule}
    (known : .compiled m ∈ Known events) :
    (Session.start m).GivenBy events :=
  ⟨known, (nomatch ·), (nomatch ·), List.nodup_nil⟩

omit [Platform] in
theorem GivenBy.known {s : Session} {events : List Event} (given : s.GivenBy events) {use : Use}
    {op : Operation} (hop : s.operation? use = some op) : op.objects ⊆ Known events := by
  -- instances and callables are named by their positions among those that were given
  cases use with
  | instantiate =>
    cases hop
    exact fun _ ho => ho ▸ given.subject
  | build data =>
    cases hop
    exact fun _ ho => ho ▸ .part given.subject List.mem_cons_self
  | call k name arguments | bind k name =>
    obtain ⟨i, hi, rfl⟩ := Option.map_eq_some_iff.mp hop
    exact fun _ ho => ho ▸ given.instances (List.mem_of_getElem? hi)
  | apply k arguments =>
    obtain ⟨f, hf, rfl⟩ := Option.map_eq_some_iff.mp hop
    exact fun _ ho => ho ▸ given.callables (List.mem_of_getElem? hf)

-- After a step a run has also been given what the event of the step gave.
theorem GivenBy.step {s : Session} {events : List Event} {h : Host} (given : s.GivenBy events)
    (past : History events h) {use : Use} {op : Operation} (hop : s.operation? use = some op)
    {thread : Thread} {answer : Answer} (hanswer : op.outcome thread h = .ok answer) :
    (s.enter answer).GivenBy (events ++ [op.event thread h]) := by
  -- what was given before is known still
  have hlater : Known events ⊆ Known (events ++ [op.event thread h]) := fun _ ho => Known.later ho _
  have hgiven {o : Object} (ho : o ∈ answer.objects) : o ∈ Known (events ++ [op.event thread h]) :=
    .given (List.mem_append_right _ List.mem_cons_self)
      (show o ∈ onOk Answer.objects (op.outcome thread h) from hanswer ▸ ho)
  have kept : s.GivenBy (events ++ [op.event thread h]) :=
    ⟨hlater given.subject, fun hi => hlater (given.instances hi),
      fun hf => hlater (given.callables hf), given.distinct⟩
  -- an instance is entered at the end, and so is a callable
  cases answer with
  | running i =>
    refine { kept with instances := fun {j} hj => ?_, distinct := ?_ }
    · rcases List.mem_append.mp hj with hold | hlast
      · exact kept.instances hold
      · exact hgiven (List.mem_singleton.mp hlast ▸ rfl)
    · refine List.nodup_append.mpr ⟨given.distinct, List.nodup_singleton i, fun j hj k hk hjk => ?_⟩
      -- an instance that is made has a serial number above all that were given before
      obtain rfl : j = i := hjk.trans (List.mem_singleton.mp hk)
      exact Nat.lt_irrefl _
        (past.made_later (given.known hop) hanswer (given.instances hj))
  | function f =>
    refine { kept with callables := fun {g} hg => ?_ }
    rcases List.mem_append.mp hg with hold | hlast
    · exact kept.callables hold
    · exact hgiven (List.mem_singleton.mp hlast ▸ rfl)
  | _ => exact kept

end Session

-- If a call gives a result for one guest, then it gives this result for one with more fuel.
theorem Instance.CallsGuest.behind (metering : Guest.Metering) {p : Guest.Program} {name : String}
    {run : Guest.State → Except Failure HostValue × Guest.State} (form : CallsGuest p name run)
    {s t : Guest.State} (behind : s.Behind t) {result : HostValue}
    (hrun : (run s).1 = .ok result) : (run t).1 = .ok result ∧ (run s).2.Behind (run t).2 := by
  cases form with
  -- a rejected call gives no result, and a call that runs goes by the metering
  | rejected failure => cases hrun
  | called f words =>
    dsimp only at hrun ⊢
    rcases hcall : Guest.call p f words s with ⟨_ | results, s'⟩
    · rw [hcall] at hrun
      cases hrun
    · rw [hcall] at hrun
      obtain ⟨t', hcall', behind'⟩ := behind.call metering hcall
      rw [hcall']
      exact ⟨hrun, behind'⟩

/-- Two runs side by side: what each has been given at the same step. -/
structure Sessions where
  subject : CompiledModule × CompiledModule
  instances : List (Instance × Instance)
  callables : List (ExportedFunction × ExportedFunction)

namespace Sessions

def first (s : Sessions) : Session :=
  ⟨s.subject.1, s.instances.map Prod.fst, s.callables.map Prod.fst⟩

def second (s : Sessions) : Session :=
  ⟨s.subject.2, s.instances.map Prod.snd, s.callables.map Prod.snd⟩

/-- The first of two runs is behind the second: it has no larger budget, every instance is behind
its counterpart, and callables are for the same export of two such instances. -/
structure Behind (s : Sessions) (h h' : Host) : Prop where
  program : s.subject.2.artifact.compiled.program = s.subject.1.artifact.compiled.program
  metered : s.subject.1.engine.Metered
  metered' : s.subject.2.engine.Metered
  budget : fuelMeter s.subject.1.engine.settings.values.fuel ≤
    fuelMeter s.subject.2.engine.settings.values.fuel
  instances {i j : Instance} (hij : (i, j) ∈ s.instances) : i.Behind h j h'
  callables {f g : ExportedFunction} (hfg : (f, g) ∈ s.callables) :
    ∃ i j name, (i, j) ∈ s.instances ∧ i.Wraps name f ∧ j.Wraps name g

/-- Two runs in two processes. -/
structure Arising (s : Sessions) (events : List Event) (h : Host) (events' : List Event)
    (h' : Host) : Prop where
  past : History events h
  past' : History events' h'
  given : s.first.GivenBy events
  given' : s.second.GivenBy events'

variable {s : Sessions} {events events' : List Event} {h h' h₁ h₁' : Host} {i j : Instance}

theorem Arising.known (arising : s.Arising events h events' h') (hij : (i, j) ∈ s.instances) :
    .running i ∈ Known events ∧ .running j ∈ Known events' :=
  ⟨arising.given.instances (List.mem_map_of_mem hij),
    arising.given'.instances (List.mem_map_of_mem hij)⟩

theorem Arising.apart (arising : s.Arising events h events' h') (hij : (i, j) ∈ s.instances)
    {k l : Instance} (hkl : (k, l) ∈ s.instances) (hne : (k, l) ≠ (i, j)) :
    k.Apart i ∧ l.Apart j := by
  obtain ⟨hi, hj⟩ := arising.known hij
  obtain ⟨hk, hl⟩ := arising.known hkl
  exact ⟨arising.past.apart hk hi fun heq =>
      hne (List.inj_on_of_nodup_map arising.given.distinct hkl hij heq),
    arising.past'.apart hl hj fun heq =>
      hne (List.inj_on_of_nodup_map arising.given'.distinct hkl hij heq)⟩

-- When a step changes nothing but the guests of two counterparts, and leaves one behind the other,
-- the first run stays behind the second.
theorem Behind.within (behind : s.Behind h h') (arising : s.Arising events h events' h')
    (hij : (i, j) ∈ s.instances) (own : i.Within h h₁) (own' : j.Within h' h₁')
    (hguest : (h₁.guest i.handle).Behind (h₁'.guest j.handle)) : s.Behind h₁ h₁' := by
  refine { behind with instances := fun {k l} hkl => ⟨(behind.instances hkl).program, ?_⟩ }
  -- the pairs other than this one are apart from it in both processes
  by_cases heq : (k, l) = (i, j)
  · cases heq
    exact hguest
  · obtain ⟨apart, apart'⟩ := arising.apart hij hkl heq
    have hk : h₁.guest k.handle = h.guest k.handle := own.guests apart.handle
    have hl : h₁'.guest l.handle = h'.guest l.handle := own'.guests apart'.handle
    rw [hk, hl]
    exact (behind.instances hkl).guest

theorem Arising.free (arising : s.Arising events h events' h') (i j : Instance) :
    (i.share h).lock = none ∧ (j.share h').lock = none := by
  obtain ⟨K, ledger, -⟩ := arising.past.ledger
  obtain ⟨K', ledger', -⟩ := arising.past'.ledger
  exact ⟨ledger.unlocked i.serial, ledger'.unlocked j.serial⟩

/-- If a call gives a result in the first run, it gives this result in the second. -/
theorem Behind.calls (metering : Guest.Metering) (behind : s.Behind h h')
    (arising : s.Arising events h events' h') (hij : (i, j) ∈ s.instances) {name : String}
    {a a' : HostAction HostValue} {run : Guest.State → Except Failure HostValue × Guest.State}
    (form : Instance.CallsGuest i.handle.program name run) (acts : i.Acts a (Share.ofGuest run))
    (acts' : j.Acts a' (Share.ofGuest run)) {op op' : Operation}
    (hop : op.perform = do return .value (← a)) (hop' : op'.perform = do return .value (← a'))
    {thread : Thread} {answer : Answer} (hanswer : op.outcome thread h = .ok answer) :
    op'.outcome thread h' = .ok answer ∧ (∃ result, answer = .value result) ∧
      s.Behind (op.after thread h) (op'.after thread h') := by
  -- what both operations do is settled on the share of the instance
  have valued := acts.map Answer.value
  have valued' := acts'.map Answer.value
  rw [← hop] at valued
  rw [← hop'] at valued'
  obtain ⟨free, free'⟩ := arising.free i j
  -- with the lock free a call is one step on the share of its instance
  obtain ⟨houtcome, hshare, own⟩ := valued.steps thread free
  obtain ⟨houtcome', hshare', own'⟩ := valued'.steps thread free'
  rw [hanswer] at houtcome
  obtain ⟨result, hresult, rfl⟩ : ∃ result, (run (h.guest i.handle)).1 = .ok result ∧
      answer = .value result := by
    change .ok answer = (run (h.guest i.handle)).1.map Answer.value at houtcome
    cases hrun : (run (h.guest i.handle)).1 with
    | error failure =>
      rw [hrun] at houtcome
      cases houtcome
    | ok result =>
      rw [hrun] at houtcome
      exact ⟨result, rfl, Except.ok.inj houtcome⟩
  -- the guest of the first instance is behind that of the second, so that the metering tells the
  -- result
  obtain ⟨hresult', hguest⟩ := form.behind metering (behind.instances hij).guest hresult
  refine ⟨houtcome'.trans ?_, ⟨result, rfl⟩, behind.within arising hij own own' ?_⟩
  · change (run (h'.guest j.handle)).1.map Answer.value = _
    rw [hresult']
    rfl
  · have hafter : (op.after thread h).guest i.handle = (run (h.guest i.handle)).2 :=
      congrArg Share.guest hshare
    have hafter' : (op'.after thread h').guest j.handle = (run (h'.guest j.handle)).2 :=
      congrArg Share.guest hshare'
    rw [hafter, hafter']
    exact hguest

/-- If an instance is made in the first run, one is made in the second that it is behind. -/
theorem Behind.launch (metering : Guest.Metering) (behind : s.Behind h h')
    (arising : s.Arising events h events' h') {p : Guest.Program} {a a' : HostAction Instance}
    (launches : s.subject.1.engine.Launches p a) (launches' : s.subject.2.engine.Launches p a')
    {op op' : Operation} (hop : op.perform = do return .running (← a))
    (hop' : op'.perform = do return .running (← a'))
    (known : op.objects ⊆ Known events) (known' : op'.objects ⊆ Known events') {thread : Thread}
    {answer : Answer} (hanswer : op.outcome thread h = .ok answer) :
    ∃ i j, answer = .running i ∧ op'.outcome thread h' = .ok (.running j) ∧
      Behind { s with instances := s.instances ++ [(i, j)] } (op.after thread h)
        (op'.after thread h') := by
  -- the engine of the second run has at least the budget of the first
  obtain ⟨i, hrun, rfl⟩ := Operation.run_of_outcome hop hanswer
  obtain ⟨j, h₁', hrun', behind'⟩ := launches.behind metering launches' behind.metered
    behind.metered' behind.budget hrun (h'.onThread thread)
  obtain ⟨hanswer', rfl⟩ := Operation.outcome_of_run hop' hrun'
  refine ⟨i, j, rfl, hanswer', { behind with instances := fun {k l} hkl => ?_, callables := ?_ }⟩
  · rcases List.mem_append.mp hkl with hold | hlast
    -- the guests of those that were there before are as they were
    · obtain ⟨hk, hl⟩ := arising.known hold
      have hkept : (op.after thread h).guest k.handle = h.guest k.handle :=
        (Operation.Makes.running hanswer).instantiated.others
          (Nat.ne_of_lt (arising.past.made_later known hanswer hk))
      have hkept' : (op'.after thread h').guest l.handle = h'.guest l.handle :=
        (Operation.Makes.running hanswer').instantiated.others
          (Nat.ne_of_lt (arising.past'.made_later known' hanswer' hl))
      refine ⟨(behind.instances hold).program, ?_⟩
      rw [hkept, hkept']
      exact (behind.instances hold).guest
    · cases List.mem_singleton.mp hlast
      exact behind'
  -- the callables are those of before, for instances that are in the lists still
  · intro f g hfg
    obtain ⟨k, l, name, hkl, wraps, wraps'⟩ := behind.callables hfg
    exact ⟨k, l, name, List.mem_append_left _ hkl, wraps, wraps'⟩

/-- If a callable is had in the first run, one for the same export is had in the second. -/
theorem Behind.bind (behind : s.Behind h h') (arising : s.Arising events h events' h')
    (hij : (i, j) ∈ s.instances) {name : String} {thread : Thread} {answer : Answer}
    (hanswer : (Operation.function i name).outcome thread h = .ok answer) :
    ∃ f g, answer = .function f ∧
      (Operation.function j name).outcome thread h' = .ok (.function g) ∧
      Behind { s with callables := s.callables ++ [(f, g)] }
        ((Operation.function i name).after thread h)
        ((Operation.function j name).after thread h') := by
  obtain ⟨hi, hj⟩ := arising.known hij
  obtain ⟨K, ledger, hknown⟩ := arising.past.ledger
  obtain ⟨K', ledger', hknown'⟩ := arising.past'.ledger
  obtain ⟨f, hrun, rfl⟩ := Operation.run_of_outcome rfl hanswer
  have wraps := Instance.wraps_of_function (ledger.onThread thread) (hknown hi) hrun
  have resolved : j.handle.program.resolution name = .ok f.bound.signature :=
    (behind.instances hij).program ▸ wraps.resolved
  obtain ⟨g, h₁', hrun'⟩ := j.function_of_resolution (h := h'.onThread thread) resolved
  have wraps' := Instance.wraps_of_function (ledger'.onThread thread) (hknown' hj) hrun'
  obtain ⟨hanswer', rfl⟩ := Operation.outcome_of_run
    (show (Operation.function j name).perform = _ from rfl) hrun'
  -- to look a callable up leaves the guest alone
  have looked (k : Instance) {h : Host} (free : (k.share h).lock = none) :
      k.Within h ((Operation.function k name).after thread h) ∧
        ((Operation.function k name).after thread h).guest k.handle = h.guest k.handle := by
    have acts : k.Acts (Operation.function k name).perform _ :=
      (k.function_acts name).map Answer.function
    obtain ⟨-, hshare, own⟩ := acts.steps thread free
    exact ⟨own, (congrArg Share.guest hshare).trans (Share.function_guest k name _)⟩
  obtain ⟨free, free'⟩ := arising.free i j
  obtain ⟨own, hguest⟩ := looked i free
  obtain ⟨own', hguest'⟩ := looked j free'
  have behind' := behind.within arising hij own own'
    (hguest.symm ▸ hguest'.symm ▸ (behind.instances hij).guest)
  refine ⟨f, g, rfl, hanswer', { behind' with callables := fun {f' g'} hfg => ?_ }⟩
  rcases List.mem_append.mp hfg with hold | hlast
  · exact behind'.callables hold
  · cases List.mem_singleton.mp hlast
    exact ⟨i, j, name, hij, wraps, wraps'⟩

omit [Platform] in
theorem exists_counterpart {α β : Type} {pairs : List (α × β)} {k : Nat} {x : α}
    (hx : (pairs.map Prod.fst)[k]? = some x) :
    ∃ y, (x, y) ∈ pairs ∧ (pairs.map Prod.snd)[k]? = some y := by
  rw [List.getElem?_map] at hx
  obtain ⟨⟨x, y⟩, hpair, rfl⟩ := Option.map_eq_some_iff.mp hx
  exact ⟨y, List.mem_of_getElem? hpair, by rw [List.getElem?_map, hpair]; rfl⟩

/-- If a step succeeds in the first run, it succeeds in the second, with the same results, and
leaves the first run behind the second. -/
theorem Behind.step (metering : Guest.Metering) (behind : s.Behind h h')
    (arising : s.Arising events h events' h') {use : Use} {op : Operation}
    (hop : s.first.operation? use = some op) {thread : Thread} {answer : Answer}
    (hanswer : op.outcome thread h = .ok answer) :
    ∃ op' answer' s', s.second.operation? use = some op' ∧ op'.outcome thread h' = .ok answer' ∧
      answer'.results = answer.results ∧ Sessions.first s' = s.first.enter answer ∧
      Sessions.second s' = s.second.enter answer' ∧
      Behind s' (op.after thread h) (op'.after thread h') := by
  have known := arising.given.known hop
  cases use with
  | instantiate =>
    cases hop
    -- the two modules are of one program, so both launch it
    have launches := s.subject.1.newInstance_launches
    have launches' := s.subject.2.newInstance_launches
    rw [behind.program] at launches'
    obtain ⟨i, j, rfl, hanswer', behind'⟩ := behind.launch metering arising launches launches' rfl
      rfl known
      (arising.given'.known (show s.second.operation? .instantiate = _ from rfl)) hanswer
    exact ⟨_, _, _, rfl, hanswer', rfl, by simp [first, Session.enter],
      by simp [second, Session.enter], behind'⟩
  | build data =>
    cases hop
    obtain ⟨i, hrun, -⟩ := Operation.run_of_outcome rfl hanswer
    obtain ⟨p, launches⟩ := Instance.ofBytes_launches hrun
    obtain ⟨i, j, rfl, hanswer', behind'⟩ := behind.launch metering arising (launches _)
      (launches _) rfl rfl known
      (arising.given'.known (show s.second.operation? (.build data) = _ from rfl)) hanswer
    exact ⟨_, _, _, rfl, hanswer', rfl, by simp [first, Session.enter],
      by simp [second, Session.enter], behind'⟩
  | call k name arguments =>
    obtain ⟨i, hi, rfl⟩ := Option.map_eq_some_iff.mp hop
    obtain ⟨j, hij, hj⟩ := exists_counterpart hi
    -- what a call does to a guest is settled by the program, which both instances have
    obtain ⟨run, form, acts⟩ :=
      Instance.exists_callsGuest_of_call i.handle.program name arguments
    obtain ⟨hanswer', ⟨result, rfl⟩, behind'⟩ := behind.calls metering arising hij form (acts i rfl)
      (acts j (behind.instances hij).program) rfl
      (show (Operation.call j name arguments).perform = _ from rfl) hanswer
    exact ⟨_, _, s, Option.map_eq_some_iff.mpr ⟨j, hj, rfl⟩, hanswer', rfl, rfl, rfl, behind'⟩
  | bind k name =>
    obtain ⟨i, hi, rfl⟩ := Option.map_eq_some_iff.mp hop
    obtain ⟨j, hij, hj⟩ := exists_counterpart hi
    obtain ⟨f, g, rfl, hanswer', behind'⟩ := behind.bind arising hij hanswer
    exact ⟨_, _, _, Option.map_eq_some_iff.mpr ⟨j, hj, rfl⟩, hanswer', rfl,
      by simp [first, Session.enter], by simp [second, Session.enter], behind'⟩
  | apply k arguments =>
    obtain ⟨f, hf, rfl⟩ := Option.map_eq_some_iff.mp hop
    obtain ⟨g, hfg, hg⟩ := exists_counterpart hf
    obtain ⟨i, j, name, hij, wraps, wraps'⟩ := behind.callables hfg
    -- the export has one signature in both, so both callables convert alike
    have resolved : j.handle.program.resolution name = .ok f.bound.signature :=
      (behind.instances hij).program ▸ wraps.resolved
    obtain ⟨run, form, acts⟩ := Instance.exists_callsGuest wraps.resolved arguments
    have own := acts i rfl
    have own' := acts j (behind.instances hij).program
    rw [← wraps.apply_eq wraps.resolved] at own
    rw [← wraps'.apply_eq resolved] at own'
    obtain ⟨hanswer', ⟨result, rfl⟩, behind'⟩ := behind.calls metering arising hij form own own' rfl
      (show (Operation.apply g arguments).perform = _ from rfl) hanswer
    exact ⟨_, _, s, Option.map_eq_some_iff.mpr ⟨g, hg, rfl⟩, hanswer', rfl, rfl, rfl, behind'⟩

theorem Behind.run (metering : Guest.Metering) (behind : s.Behind h h')
    (arising : s.Arising events h events' h')
    {uses : List (Thread × Use)} {results : List HostValue}
    (hresults : s.first.results? h uses = some results) :
    s.second.results? h' uses = some results := by
  -- by induction on the steps, from whatever the two runs have come to
  induction uses generalizing s events events' h h' results with
  | nil => exact hresults
  | cons step uses ih =>
    obtain ⟨thread, use⟩ := step
    obtain ⟨op, answer, rest, hop, hanswer, hrest, hall⟩ :=
      Session.results?_cons_eq_some.mp hresults
    obtain ⟨op', answer', s', hop', hanswer', hsame, hfirst, hsecond, behind'⟩ :=
      behind.step metering arising hop hanswer
    have arising' : Arising s' _ (op.after thread h) _ (op'.after thread h') :=
      ⟨arising.past.perform thread (arising.given.known hop),
        arising.past'.perform thread (arising.given'.known hop'),
        hfirst ▸ arising.given.step arising.past hop hanswer,
        hsecond ▸ arising.given'.step arising.past' hop' hanswer'⟩
    have hrest' := ih behind' arising' (hfirst ▸ hrest)
    rw [hsecond] at hrest'
    exact Session.results?_cons_eq_some.mpr
      ⟨op', answer', rest, hop', hanswer', hrest', hsame ▸ hall⟩

end Sessions

/-- In every state that a process comes to, every instance that an operation makes on an engine
which meters its instances starts with the fuel of the settings modulo the words of 64 bits, and so
with all of it if and only if this is less than their number. And let two modules of one program be
on such engines, in one process or in two, with the fuel of the first engine no more than that of
the second, both taken so: then every run of instantiations and calls that succeeds with the first
succeeds with the second, with the same results. Of the runtime it is used that it meters its
instances. -/
theorem History.budgets_granted (metering : Guest.Metering) {events : List Event} {h : Host}
    (history : History events h) :
    (∀ (op : Operation) (thread : Thread) (e : Engine) (handle : Handle),
      op.Makes thread h e handle → e.Metered →
        (∀ n, Guest.StartsWith handle.program n ((op.after thread h).guest handle) ↔
          n = e.settings.values.fuel % 2 ^ 64) ∧
        (Guest.StartsWith handle.program e.settings.values.fuel
          ((op.after thread h).guest handle) ↔ e.settings.values.fuel < 2 ^ 64)) ∧
    ∀ (events' : List Event) (h' : Host), History events' h' → ∀ m m' : CompiledModule,
      .compiled m ∈ Known events → .compiled m' ∈ Known events' →
      m'.artifact.compiled.program = m.artifact.compiled.program →
      m.engine.Metered → m'.engine.Metered →
      m.engine.settings.values.fuel % 2 ^ 64 ≤ m'.engine.settings.values.fuel % 2 ^ 64 →
      ∀ (uses : List (Thread × Use)) (results : List HostValue),
        (Session.start m).results? h uses = some results →
          (Session.start m').results? h' uses = some results := by
  refine ⟨fun op thread e handle makes metered =>
    ⟨fun n => makes.startsWith_iff metering metered, ?_⟩, ?_⟩
  · rw [makes.startsWith_iff metering metered, eq_comm]
    exact fuelMeter_eq_self_iff
  · intro events' h' history' m m' known known' hprogram metered metered' hle uses results hresults
    let s : Sessions := ⟨(m, m'), [], []⟩
    have behind : s.Behind h h' := ⟨hprogram, metered, metered', hle, (nomatch ·), (nomatch ·)⟩
    exact behind.run metering ⟨history, history', .start known, .start known'⟩ hresults

end

section

attribute [local instance] Platform.machine

/-- A counter that counts when it starts is given fuel for three calls in one process, and the
largest budget that a meter takes in another. An instance starts with the three units. A run that
takes all of them, and makes a second instance, gives the same numbers in both. -/
theorem budgets_granted_counters :
    let p : Guest.Program :=
      ⟨[], [], [], some .increment, [⟨"next", .function ⟨[], [.i32], .increment⟩⟩]⟩
    let e (fuel : Nat) : Engine := ⟨2, ⟨1, .speed, false, true, fuel⟩⟩
    let m (fuel : Nat) : CompiledModule := ⟨5, e fuel, ⟨4, ⟨p, true, false⟩⟩, none⟩
    let compiles := Operation.compile (.ofProgram p) none none
    let h₀ (text : String) := Host.fresh
      ⟨⟨[("wasm_embed_consume_fuel", "on"), ("wasm_embed_fuel", text)]⟩, none⟩ ⟨[]⟩
    let h := compiles.after 0 (h₀ "3")
    let h' := compiles.after 0 (h₀ "18446744073709551615")
    let handle : Handle := ⟨6, (m 3).artifact⟩
    let uses : List (Thread × Use) :=
      [(0, .instantiate), (0, .call 0 "next" []), (1, .bind 0 "next"), (1, .build (.ofProgram p)),
        (0, .apply 0 []), (1, .call 1 "next" [])]
    Guest.StartsWith p 3 (((Operation.newInstance (m 3)).after 0 h).guest handle) ∧
      ((Session.start (m 3)).results? h uses).map (·.map HostValue.toInteger?) =
        some [some 2, some 3, some 2] ∧
      (Session.start (m 18446744073709551615)).results? h' uses =
        (Session.start (m 3)).results? h uses := by
  intro p e m compiles h₀ h h' handle uses
  have hm : Object.compiled (m 3) ∈ onOk Answer.objects (compiles.event 0 (h₀ "3")).outcome := rfl
  have hm' : Object.compiled (m 18446744073709551615) ∈
    onOk Answer.objects (compiles.event 0 (h₀ "18446744073709551615")).outcome := rfl
  have history (text : String) :
      History [compiles.event 0 (h₀ text)] (compiles.after 0 (h₀ text)) :=
    .perform (.start _ _) 0 (Set.empty_subset _)
  obtain ⟨hstarts, hruns⟩ := (history "3").budgets_granted Guest.Machine.metering
  have makes : (Operation.newInstance (m 3)).Makes 0 h (e 3) handle :=
    .running (i := ⟨7, e 3, handle, m 3⟩) rfl
  have hcounts : ((Session.start (m 3)).results? h uses).map (·.map HostValue.toInteger?) =
      some [some 2, some 3, some 2] := by decide +kernel
  obtain ⟨results, hresults, -⟩ := Option.map_eq_some_iff.mp hcounts
  refine ⟨(hstarts _ 0 _ _ makes rfl).2.mpr (by decide), hcounts, ?_⟩
  rw [hresults]
  exact hruns _ _ (history "18446744073709551615") (m 3) (m 18446744073709551615)
    (.given List.mem_cons_self hm) (.given List.mem_cons_self hm') rfl rfl rfl (by decide) uses
    results hresults

/-- Settings with a budget of as many units as there are words of 64 bits are accepted, and an
instance starts with none: the call that succeeds with one unit traps. -/
theorem wide_budget_not_granted :
    let p : Guest.Program := ⟨[], [], [], none, [⟨"f", .function ⟨[], [], .nop⟩⟩]⟩
    let settings (fuel : Nat) : Settings := ⟨.speed, false, true, fuel⟩
    let m (fuel : Nat) : CompiledModule :=
      ⟨5, ⟨2, ⟨1, settings fuel⟩⟩, ⟨4, ⟨p, true, false⟩⟩, none⟩
    let context (text : String) : SettingsContext :=
      ⟨⟨[("wasm_embed_consume_fuel", "on"), ("wasm_embed_fuel", text)]⟩, none⟩
    let compiles := Operation.compile (.ofProgram p) none none
    let first := Host.fresh (context "1") ⟨[]⟩
    let second := Host.fresh (context "18446744073709551616") ⟨[]⟩
    let narrow := compiles.after 0 first
    let wide := compiles.after 0 second
    let makes := Operation.newInstance (m (2 ^ 64))
    let uses : List (Thread × Use) := [(0, .instantiate), (0, .call 0 "f" [])]
    Settings.make (context "1") .empty = .ok (settings 1) ∧
      Settings.make (context "18446744073709551616") .empty = .ok (settings (2 ^ 64)) ∧
      compiles.outcome 0 first = .ok (.compiled (m 1)) ∧
      compiles.outcome 0 second = .ok (.compiled (m (2 ^ 64))) ∧
      (∃ i, makes.outcome 0 wide = .ok (.running i) ∧ i.engine = (m (2 ^ 64)).engine ∧
        ¬Guest.StartsWith p (2 ^ 64) ((makes.after 0 wide).guest i.handle)) ∧
      ((Session.start (m 1)).results? narrow uses).isSome = true ∧
      (Session.start (m (2 ^ 64))).results? wide uses = none := by
  intro p settings m context compiles first second narrow wide makes uses
  have metered : (m (2 ^ 64)).engine.Metered := rfl
  have hmeter : fuelMeter (2 ^ 64) = 0 := by decide
  have hguest : Guest.instantiate p (m (2 ^ 64)).engine.budget = .ok ⟨[], 0, some 0⟩ := by
    rw [metered.budget]
    change Guest.instantiate p (some (fuelMeter (2 ^ 64))) = _
    rw [hmeter]
    rfl
  obtain ⟨i, h', hrun, begins⟩ := (m (2 ^ 64)).newInstance_launches.runs hguest (wide.onThread 0)
  have hmade : makes.outcome 0 wide = .ok (.running i) := (Operation.outcome_of_run rfl hrun).1
  have hfuel : i.engine.settings.values.fuel = 2 ^ 64 := by rw [begins.engine]
  refine ⟨rfl, rfl, rfl, rfl, ⟨i, hmade, begins.engine, fun starts => ?_⟩, by decide +kernel, ?_⟩
  · have hprogram : i.handle.program = p := begins.program
    rw [← hprogram, (Operation.Makes.running hmade).startsWith_iff Guest.Machine.metering
      (begins.engine ▸ metered), hfuel, hmeter] at starts
    exact absurd starts (by decide)
  · exact Option.isNone_iff_eq_none.mp (by decide +kernel)

end

end WasmHost
