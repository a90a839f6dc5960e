import WasmHost.Proofs.OperationSteps
import WasmHost.Proofs.Resolution
/-!
Faults that tell of an engine tell the truth.

A fault with a diagnostic is raised after an operation of an engine has failed and the diagnostic
has been read back. Other threads may go on between the two, and earlier operations may have left
diagnostics of their own. Still the diagnostic is the one that the failed operation has recorded.
-/
namespace WasmHost

variable {α β : Type}

/-- A fault blames an operation of an engine, with a diagnostic. -/
inductive Fault.Blames : Fault → EngineCall → String → Prop where
  | validate {headline diagnostic : String} {data : Guest.Image} :
      Blames (.engine .validate headline (some diagnostic)) (.validate data) diagnostic
  | compile {headline diagnostic : String} {data : Guest.Image} :
      Blames (.engine .compile headline (some diagnostic)) (.compile data) diagnostic
  | instantiate {headline diagnostic : String} {artifact : Artifact} :
      Blames (.engine .instantiate headline (some diagnostic)) (.newInstance artifact) diagnostic
  | serialize {headline diagnostic : String} {artifact : Artifact} :
      Blames (.engine .serialize headline (some diagnostic)) (.serialize artifact) diagnostic
  | deserialize {headline diagnostic : String} {data : Guest.Image} :
      Blames (.engine .deserialize headline (some diagnostic)) (.deserialize data) diagnostic
  | unresolved {name diagnostic : String} {handle : Handle} :
      Blames (.unresolvedSignature name (some diagnostic)) (.functionSignature handle name)
        diagnostic
  | trapped {name diagnostic : String} {handle : Handle} {values : List Value} :
      Blames (.trapped name (some diagnostic)) (.invokeFunction handle name values) diagnostic

/-- The events end with an operation that has failed on a thread and has recorded a diagnostic, and
with the reading of this very diagnostic. -/
structure JustFailed (thread : Thread) (events : List EngineEvent) (failed : EngineEvent)
    (diagnostic : String) : Prop where
  last : ∃ earlier read, events = earlier ++ [failed, read] ∧ read.engine = failed.engine ∧
    read.thread = thread ∧ read.call = .lastError ∧
    read.reply = .ok (.diagnostic (some diagnostic))
  thread_eq : failed.thread = thread
  mark : failed.mark = .recorded
  recorded : failed.recorded = [diagnostic]

/-- Every fault shown that tells of an engine blames the operation that has just failed. -/
def Truthful (thread : Thread) (events : List EngineEvent) (result : Except Failure α) : Prop :=
  ∀ failure, result = .error failure → ∀ fault, failure.Shows fault → fault.tells = true →
    ∃ failed diagnostic, JustFailed thread events failed diagnostic ∧
      fault.Blames failed.call diagnostic

theorem Truthful.of_quiet {thread : Thread} {events : List EngineEvent} {result : Except Failure α}
    (h : Quiet result) : Truthful thread events result := by
  intro failure hfailure fault hshown htells
  -- a quiet result shows only faults that do not tell
  rw [h failure hfailure fault hshown] at htells
  cases htells

theorem Truthful.after {thread : Thread} {later : List EngineEvent} {result : Except Failure α}
    (h : Truthful thread later result) (earlier : List EngineEvent) :
    Truthful thread (earlier ++ later) result := by
  intro failure hfailure fault hshown htells
  obtain ⟨failed, diagnostic, ⟨⟨before, read, rfl, hread⟩, hthread, hmark, hrecorded⟩, hblames⟩ :=
    h failure hfailure fault hshown htells
  -- the two last events are still the last ones
  have hlast : earlier ++ (before ++ [failed, read]) = earlier ++ before ++ [failed, read] :=
    (List.append_assoc ..).symm
  exact ⟨failed, diagnostic, ⟨⟨_, read, hlast, hread⟩, hthread, hmark, hrecorded⟩, hblames⟩

section

variable [Platform]

theorem EngineCall.run_quiet (e : Engine) (call : EngineCall) (h : Host) :
    Quiet ((call.run e).run.run h).1 := by
  -- every operation but these three wraps a quiet one
  have hmap {α : Type} {a : HostAction α} (f : α → EngineReply) (ha : Quiet (a.run.run h).1) :
      Quiet ((do return f (← a) : HostAction EngineReply).run.run h).1 :=
    ha.bind fun _ _ => .ok _
  cases call with
  | fetchBytes path =>
    refine hmap _ ?_
    rw [Engine.fetchBytes, Action.run_lift_bind, Action.run_get_bind]
    split <;> first | exact .ok _ | exact .error rfl | skip
    -- a file that cannot be read fails with a cause, and neither tells of the engine
    intro failure hfailure fault hshown
    cases hfailure
    rcases hshown with rfl | hcause
    · rfl
    · cases hcause
      rfl
  | makeValue kind a =>
    refine hmap _ ?_
    rw [e.makeValue_run kind a h]
    cases Value.ofHost kind a with
    | ok value => exact .ok _
    | error fault => exact .error rfl
  | invokeFunction handle name values =>
    refine hmap _ ?_
    have hinvokes := e.invokeFunction_invokes handle name values h
    -- the fault of a wrong payload is the only failure, and it is plain
    generalize ((e.invokeFunction handle name values).run.run h).1 = result at hinvokes ⊢
    generalize ((e.invokeFunction handle name values).run.run h).2 = after at hinvokes
    cases hinvokes <;> first | exact .ok _ | exact .error rfl
  | exportNames _ | functionNames _ => exact .ok _
  | lastError | memorySize _ _ | memoryRead _ _ _ _ => exact .ok _
  | _ => exact hmap _ (.ok _)

namespace Steps

/-- Whatever run is taken, faults that tell of an engine tell the truth. -/
def Truthful {a : HostAction α} (steps : Steps a) : Prop :=
  ∀ thread h events result h', steps.Runs thread h events result h' →
    WasmHost.Truthful thread events result

/-- When there is a diagnostic, the steps read it and fail with a fault that carries it. -/
def Refuses {a : HostAction α} (steps : Steps a) (e : Engine) (fault : String → Fault) : Prop :=
  ∀ thread h events result h' diagnostic, e.diagnosticOn h thread = some diagnostic →
    steps.Runs thread h events result h' →
      result = .error ⟨fault diagnostic, none⟩ ∧
      ∃ read : EngineEvent, events = [read] ∧ read.engine = e ∧ read.thread = thread ∧
        read.call = .lastError ∧ read.reply = .ok (.diagnostic (some diagnostic))

theorem give_truthful (x : α) : (give x).Truthful := by
  rintro thread h events result h' ⟨rfl, rfl, rfl⟩
  exact .of_quiet (.ok x)

theorem fail_truthful {fault : Fault} (h : fault.tells = false) :
    (fail fault : Steps (Action.fail fault : HostAction α)).Truthful := by
  rintro thread h' events result h'' ⟨rfl, rfl, rfl⟩
  exact .of_quiet (.error h)

theorem own_truthful {a : HostAction α} (touches : Touches ownParts a.run)
    (quiet : ∀ h, Quiet (a.run.run h).1) : (own touches quiet).Truthful := by
  -- other threads may have gone on, but the own part is quiet from every state
  rintro thread h events result h' ⟨h₁, -, rfl, hrun⟩
  have hquiet := quiet h₁
  rw [hrun] at hquiet
  exact .of_quiet hquiet

theorem ask_truthful (asked : EngineAsk α) : (ask asked).Truthful := by
  rintro thread h events result h' ⟨h₁, -, rfl, hrun⟩
  have hquiet := asked.call.run_quiet asked.engine h₁
  rw [asked.run, hrun] at hquiet
  refine .of_quiet fun failure hfailure => hquiet failure ?_
  rw [hfailure]
  rfl

theorem bind_truthful {a : HostAction α} {f : α → HostAction β} {first : Steps a}
    {rest : ∀ x, Steps (f x)} (hfirst : first.Truthful) (hrest : ∀ x, (rest x).Truthful) :
    (bind first rest).Truthful := by
  rintro thread h events result h'
    (⟨failure, hrun, rfl⟩ | ⟨x, h₁, earlier, later, hrun, hlater, rfl⟩)
  -- the failure of the first part is the failure of the whole
  · intro failure' hfailure
    cases hfailure
    exact hfirst thread h events _ h' hrun failure rfl
  -- behind a first part that succeeds its events come before those of the rest
  · exact (hrest x thread h₁ later result h' hlater).after earlier

theorem map_truthful {a : HostAction α} {steps : Steps a} (h : steps.Truthful) (f : α → β) :
    (steps.map f).Truthful :=
  bind_truthful h fun x => give_truthful (f x)

theorem act_truthful {a : HostM α} (touches : Touches ownParts a) : (act touches).Truthful :=
  own_truthful _ _

theorem look_truthful {f : Host → HostAction β} {rest : ∀ h, Steps (f h)}
    (h : ∀ h, (rest h).Truthful) : (look rest).Truthful :=
  bind_truthful (own_truthful _ _) h

theorem ite_truthful {c : Prop} [decision : Decidable c] {a b : HostAction α} {first : Steps a}
    {second : Steps b} (hfirst : first.Truthful) (hsecond : second.Truthful) :
    (ite first second : Steps (if c then a else b)).Truthful := by
  cases decision with
  | isTrue h => exact hfirst
  | isFalse h => exact hsecond

theorem new_truthful (make : Nat → α) : (new make).Truthful :=
  map_truthful (own_truthful _ _) make

-- Another result is truthful if it shows no more faults that tell of an engine.
theorem recast_truthful {a : HostAction α} {b : HostAction β} {steps : Steps a}
    {f : Except Failure α → Except Failure β}
    {hb : ∀ h, b.run.run h = (f (a.run.run h).1, (a.run.run h).2)} (h : steps.Truthful)
    (hf : ∀ r failure, f r = .error failure → ∀ fault, failure.Shows fault → fault.tells = true →
      ∃ former, r = .error former ∧ former.Shows fault) : (recast steps f hb).Truthful := by
  rintro thread h₀ events result h' ⟨r, hrun, rfl⟩ failure hfailure fault hshown htells
  obtain ⟨former, rfl, hformer⟩ := hf r failure hfailure fault hshown htells
  exact h thread h₀ events _ h' hrun former rfl fault hformer htells

theorem recast_truthful_of_quiet {a : HostAction α} {b : HostAction β} {steps : Steps a}
    {f : Except Failure α → Except Failure β}
    {hb : ∀ h, b.run.run h = (f (a.run.run h).1, (a.run.run h).2)} (hf : ∀ r, Quiet (f r)) :
    (recast steps f hb).Truthful := by
  rintro thread h₀ events result h' ⟨r, -, rfl⟩
  exact .of_quiet (hf r)

theorem ask_recorded {asked : EngineAsk α} {thread : Thread} {h h' : Host} {x : α}
    (hthread : h.thread = thread) (hrun : asked.action.run.run h = (.ok x, h'))
    (hmark : asked.call.mark (.ok (asked.reply x)) = .recorded) :
    ∃ diagnostic, (asked.engine.eventOf thread asked.call h).mark = .recorded ∧
      (asked.engine.eventOf thread asked.call h).recorded = [diagnostic] ∧
      asked.engine.diagnosticOn h' thread = some diagnostic := by
  have hon : h.onThread thread = h := by
    rw [← hthread]
    rfl
  have hreply := asked.run h
  rw [hrun] at hreply
  have hevent : (asked.engine.eventOf thread asked.call h).mark = .recorded := by
    rw [EngineEvent.mark, Engine.eventOf, hon, hreply]
    exact hmark
  have hafter : asked.engine.hostAfter thread asked.call h = h' := by
    rw [Engine.hostAfter, hon, hreply]
  -- recording leaves one diagnostic, and it stands there for the thread that has asked
  have hmarked := asked.engine.eventOf_marked thread asked.call h
  rw [hevent] at hmarked
  obtain ⟨diagnostic, hrecorded, hleft⟩ := hmarked.of_recorded
  rw [hafter] at hleft
  exact ⟨diagnostic, hevent, hrecorded, hleft⟩

-- An engine is asked, and where it fails with a diagnostic, the steps after that refuse with a
-- fault that blames the question.
theorem ask_bind_truthful {asked : EngineAsk α} {f : α → HostAction β} {rest : ∀ x, Steps (f x)}
    (h : ∀ x, (rest x).Truthful ∨ asked.call.mark (.ok (asked.reply x)) = .recorded ∧
      ∃ fault, (rest x).Refuses asked.engine fault ∧ ∀ d, (fault d).Blames asked.call d) :
    (bind (ask asked) rest).Truthful := by
  rintro thread h₀ events result h'
    (⟨failure, hrun, rfl⟩ | ⟨x, h₁, earlier, later, ⟨hₐ, ⟨hthread, -⟩, rfl, hrun⟩, hlater, rfl⟩)
  -- asking itself fails with plain faults only
  · intro failure' hfailure
    cases hfailure
    exact ask_truthful asked thread h₀ events _ h' hrun failure rfl
  · rcases h x with htruthful | ⟨hmark, fault, hrefuses, hblames⟩
    -- here the engine has recorded a diagnostic, and the rest reads it before anything else
    · exact (htruthful thread h₁ later result h' hlater).after _
    · obtain ⟨diagnostic, hevent, hrecorded, hleft⟩ := ask_recorded hthread hrun hmark
      obtain ⟨rfl, read, rfl, hread⟩ := hrefuses thread h₁ later result h' diagnostic hleft hlater
      intro failure hfailure shown hshown htells
      cases hfailure
      rcases hshown with rfl | hcause
      · exact ⟨_, diagnostic, ⟨⟨[], read, rfl, hread⟩, rfl, hevent, hrecorded⟩, hblames diagnostic⟩
      · cases hcause

theorem act_runs {a : HostM α} {touches : Touches ownParts a} {thread : Thread} {h h' : Host}
    {events : List EngineEvent} {result : Except Failure α}
    (hrun : (act touches).Runs thread h events result h') : events = [] ∧ ∃ x, result = .ok x := by
  obtain ⟨h₁, -, hevents, hact⟩ := hrun
  exact ⟨hevents, _, (congrArg Prod.fst hact).symm⟩

theorem refuses_of_read (e : Engine) {f : Option String → HostAction α} {rest : ∀ d, Steps (f d)}
    {fault : String → Fault}
    (h : ∀ thread h₀ events result h' d, (rest (some d)).Runs thread h₀ events result h' →
      events = [] ∧ result = .error ⟨fault d, none⟩) :
    (bind e.lastErrorSteps rest).Refuses e fault := by
  rintro thread h₀ events result h' diagnostic hdiagnostic
    (⟨failure, ⟨h₁, -, -, hread⟩, -⟩ | ⟨d, h₂, earlier, later, ⟨h₁, ⟨hthread, hkept⟩, rfl, hread⟩,
      hlater, rfl⟩)
  -- reading the diagnostic does not fail
  · cases hread
  · -- what is read is what was there before the other threads went on
    have hd : d = some diagnostic := by
      have hlast : e.diagnosticOn h₁ h₁.thread = d := Except.ok.inj (congrArg Prod.fst hread)
      rw [← hlast, hthread, hkept e, hdiagnostic]
    subst hd
    obtain ⟨rfl, rfl⟩ := h thread h₂ later result h' diagnostic hlater
    have hreply : ((EngineCall.lastError.run e).run.run (h₁.onThread thread)).1 =
        .ok (.diagnostic (some diagnostic)) :=
      congrArg (fun d => Except.ok (EngineReply.diagnostic d)) ((hkept e).trans hdiagnostic)
    exact ⟨rfl, _, List.append_nil _, rfl, rfl, rfl, hreply⟩

end Steps

/-- Resolving a name comes to one of three things: nothing is exported under it, or the export has
no signature, or the name resolves. The diagnostic of an export without a signature is the one that
asking for its signature has just recorded. -/
inductive Resolution (handle : Handle) (name : String) (thread : Thread)
    (events : List EngineEvent) : Except Failure Signature → Prop where
  | unknown (hname : name ∉ handle.program.exportNames) :
      Resolution handle name thread events (.error ⟨.unknownFunction name, none⟩)
  | unresolved {failed : EngineEvent} {diagnostic : String}
      (hname : Uncallable handle.program name)
      (htold : handle.program.signatureFor name = (none, some diagnostic))
      (hcall : failed.call = .functionSignature handle name)
      (hfailed : JustFailed thread events failed diagnostic) :
      Resolution handle name thread events
        (.error ⟨.unresolvedSignature name (some diagnostic), none⟩)
  | resolved {signature : Signature} (hname : ResolvesTo handle.program name signature) :
      Resolution handle name thread events (.ok signature)

namespace Engine

open Steps

variable (e : Engine) (handle : Handle)

theorem refusal_refuses (fault : Option String → Fault) :
    (e.refusalSteps fault : Steps (do Action.fail (fault (← e.lastError)) : HostAction α)).Refuses e
      fun d => fault (some d) := by
  refine refuses_of_read e fun thread h events result h' d hrun => ?_
  obtain ⟨hevents, hresult, -⟩ := hrun
  exact ⟨hevents, hresult⟩

theorem unresolved_refuses (name : String) :
    (e.unresolvedSteps name).Refuses e fun d => .unresolvedSignature name (some d) := by
  refine refuses_of_read e fun thread h events result h' d hrun => ?_
  obtain ⟨hevents, hresult, -⟩ := hrun
  exact ⟨hevents, hresult⟩

theorem resolveSteps_runs {name : String} {thread : Thread} {h h' : Host}
    {events : List EngineEvent} {result : Except Failure Signature}
    (hrun : (e.resolveSteps handle name).Runs thread h events result h') :
    Resolution handle name thread events result := by
  obtain ⟨failure, ⟨h₁, -, -, hasked⟩, -⟩ |
    ⟨answer, h₂, earlier, later, ⟨h₁, ⟨hthread, -⟩, rfl, hasked⟩, hlater, rfl⟩ := hrun
  -- asking for a signature does not fail, whatever it answers
  · cases hasked
  obtain ⟨hanswer, hleft⟩ := e.functionSignature_tells handle name h₁
  have hreply : ((e.functionSignature handle name).run h₁).1 = answer :=
    Except.ok.inj (congrArg Prod.fst hasked)
  have hstate : ((e.functionSignature handle name).run h₁).2 = h₂ := congrArg Prod.snd hasked
  rw [hreply] at hanswer
  rw [hstate, hthread] at hleft
  -- the three answers are told apart by the program alone
  rcases handle.program.signatureFor_cases name with
    ⟨hsay, hname⟩ | ⟨diagnostic, hsay, hname⟩ | ⟨signature, hsay, hname⟩
  -- no diagnostic is left, and none is there when it is read, whatever other threads have done
  · rw [hsay] at hanswer hleft
    subst hanswer
    obtain ⟨failure, ⟨h₃, -, -, hlast⟩, -⟩ |
      ⟨d, h₄, before, after, ⟨h₃, hmeanwhile, rfl, hlast⟩, hrest, rfl⟩ := hlater
    · cases hlast
    · have hd : e.diagnosticOn h₃ h₃.thread = d := Except.ok.inj (congrArg Prod.fst hlast)
      rw [hmeanwhile.1, hmeanwhile.2 e, hleft] at hd
      subst hd
      obtain ⟨-, rfl, -⟩ := hrest
      exact .unknown hname
  -- the diagnostic that is read is the one that has just been recorded
  · have hcontains : handle.program.exportNames.contains name = true :=
      List.contains_iff_mem.mpr hname.1
    have hmark : (EngineCall.functionSignature handle name).mark (.ok (.signature none)) =
        .recorded := by
      rw [EngineCall.mark, hcontains]
      rfl
    rw [hsay] at hanswer hleft
    subst hanswer
    obtain ⟨recorded, hevent, hrecorded, hafter⟩ := ask_recorded hthread hasked hmark
    obtain rfl : diagnostic = recorded := Option.some.inj (hleft.symm.trans hafter)
    obtain ⟨rfl, read, rfl, hread⟩ :=
      e.unresolved_refuses name thread h₂ later result h' diagnostic hleft hlater
    exact .unresolved hname hsay rfl ⟨⟨[], read, rfl, hread⟩, rfl, hevent, hrecorded⟩
  -- the signature that is given is that of the export
  · rw [hsay] at hanswer
    subst hanswer
    obtain ⟨-, rfl, -⟩ := hlater
    exact .resolved hname

theorem resolveSteps_truthful (name : String) : (e.resolveSteps handle name).Truthful := by
  intro thread h events result h' hrun
  cases e.resolveSteps_runs handle hrun with
  | unknown hname => exact .of_quiet (.error rfl)
  | @unresolved failed diagnostic hname htold hcall hfailed =>
    -- the question that has failed is the one for the signature
    intro failure hfailure fault hshown htells
    cases hfailure
    rcases hshown with rfl | hcause
    · exact ⟨failed, diagnostic, hfailed, hcall ▸ .unresolved⟩
    · cases hcause
  | resolved hname => exact .of_quiet (.ok _)

theorem checkSteps_truthful {fault : Option Fault} (h : ∀ f, fault = some f → f.tells = false) :
    (checkSteps fault).Truthful := by
  cases fault with
  | none => exact give_truthful ()
  | some f => exact fail_truthful (Fault.raised_tells (h f rfl))

omit [Platform] in
theorem argumentFault?_tells {function : String} {position : Int} {kind : ValueKind}
    {a : HostValue} {fault : Fault} (h : argumentFault? function position kind a = some fault) :
    fault.tells = false := by
  have hspec := argumentFault?_spec function position kind a
  rw [h] at hspec
  cases hspec.2 <;> rfl

omit [Platform] in
theorem arityFault?_tells {function : String} {signature : Signature} {given : Nat} {fault : Fault}
    (h : arityFault? function signature given = some fault) : fault.tells = false := by
  unfold arityFault? at h
  split at h
  · cases h
    rfl
  split at h
  · cases h
    rfl
  · cases h

theorem marshalFromSteps_truthful (function : String) (position : Nat) (kinds : List ValueKind)
    (arguments : List HostValue) :
    (e.marshalFromSteps function position kinds arguments).Truthful := by
  -- by induction on the kinds: each argument is checked before its value is made, so a fault is
  -- plain
  induction kinds generalizing position arguments with
  | nil => cases arguments <;> exact give_truthful _
  | cons kind kinds ih =>
    cases arguments with
    | nil => exact give_truthful _
    | cons a arguments =>
      refine bind_truthful ?_ fun value => map_truthful (ih (position + 1) arguments) _
      refine bind_truthful (checkSteps_truthful fun _ => argumentFault?_tells) fun _ => ?_
      refine bind_truthful (ask_truthful _) fun made => ?_
      cases made with
      | some value => exact give_truthful value
      | none => exact fail_truthful (Fault.raised_tells rfl)

theorem callSteps_truthful (name : String) (signature : Signature) (arguments : List HostValue) :
    (e.callSteps handle name signature arguments).Truthful := by
  refine bind_truthful ?_ fun values => ?_
  · exact bind_truthful (checkSteps_truthful fun _ => arityFault?_tells) fun _ =>
      e.marshalFromSteps_truthful name 1 signature.params arguments
  -- only a call that fails leaves a diagnostic, and the next steps read it and note it
  · refine ask_bind_truthful fun outcome => ?_
    cases outcome with
    | returned result => exact Or.inl (give_truthful result)
    | failed =>
      refine Or.inr ⟨rfl, fun d => .trapped name (some d), ?_, fun _ => .trapped⟩
      refine refuses_of_read e fun thread h events result h' d hrun => ?_
      obtain ⟨failure, hnote, -⟩ | ⟨_, h₁, earlier, later, hnote, ⟨rfl, rfl, -⟩, rfl⟩ := hrun
      · obtain ⟨-, _, hok⟩ := act_runs hnote
        cases hok
      · obtain ⟨rfl, -⟩ := act_runs hnote
        exact ⟨rfl, rfl⟩

theorem dispatchSteps_truthful (name : String) (arguments : List HostValue) :
    (e.dispatchSteps handle name arguments).Truthful :=
  bind_truthful (e.resolveSteps_truthful handle name) fun signature =>
    e.callSteps_truthful handle name signature arguments

end Engine

open Steps

namespace ModuleCache

variable (c : ModuleCache)

theorem buildSteps_truthful (data : Guest.Image) (identifier : Option String) :
    (c.buildSteps data identifier).Truthful := by
  refine ask_bind_truthful fun compiled => ?_
  cases compiled with
  | none => exact Or.inr ⟨rfl, _, c.engine.refusal_refuses _, fun _ => .compile⟩
  | some artifact => exact Or.inl (new_truthful _)

theorem compileSteps_truthful (data : Guest.Image) (identifier : Option String) :
    (c.compileSteps data identifier).Truthful := by
  cases identifier with
  | none => exact c.buildSteps_truthful data none
  | some key =>
    -- a module that is found needs no engine
    refine bind_truthful (act_truthful _) fun found => ?_
    cases found with
    | some m => exact bind_truthful (act_truthful _) fun _ => give_truthful m
    | none =>
      refine bind_truthful (c.buildSteps_truthful data (some key)) fun m => ?_
      exact bind_truthful (act_truthful _) fun _ => give_truthful m

end ModuleCache

namespace CompiledModule

theorem compileSteps_truthful (data : Guest.Image) (identifier : Option String)
    (cache : Option ModuleCache) : (compileSteps data identifier cache).Truthful :=
  bind_truthful (own_truthful _ _) fun c => c.compileSteps_truthful data identifier

theorem ofFileSteps_truthful (path : String) (identifier : Option String)
    (cache : Option ModuleCache) : (ofFileSteps path identifier cache).Truthful := by
  refine bind_truthful (own_truthful _ _) fun c => bind_truthful ?_ fun found => ?_
  · cases identifier with
    | none => exact act_truthful (.pure none)
    | some key => exact act_truthful (c.get?_touches key)
  -- what was found under the identifier ends the request
  · cases found with
    | some m => exact give_truthful m
    | none =>
      exact bind_truthful (ask_truthful _) fun data => c.compileSteps_truthful data identifier

theorem validateSteps_truthful (data : Guest.Image) (strict : Bool) (engine : Option Engine) :
    (validateSteps data strict engine).Truthful := by
  refine bind_truthful (own_truthful _ _) fun e => ask_bind_truthful fun valid => ?_
  -- only a strict check of bytes that are not valid is refused
  cases valid with
  | true => exact Or.inl (give_truthful true)
  | false =>
    cases strict with
    | true => exact Or.inr ⟨rfl, _, e.refusal_refuses _, fun _ => .validate⟩
    | false => exact Or.inl (give_truthful false)

theorem serializeSteps_truthful (m : CompiledModule) : m.serializeSteps.Truthful := by
  refine ask_bind_truthful fun data => ?_
  cases data with
  | some data => exact Or.inl (give_truthful data)
  | none => exact Or.inr ⟨rfl, _, m.engine.refusal_refuses _, fun _ => .serialize⟩

theorem deserializeSteps_truthful (data : Guest.Image) (engine : Option Engine) :
    (deserializeSteps data engine).Truthful := by
  refine bind_truthful (own_truthful _ _) fun e => ask_bind_truthful fun artifact => ?_
  cases artifact with
  | some artifact => exact Or.inl (new_truthful _)
  | none => exact Or.inr ⟨rfl, _, e.refusal_refuses _, fun _ => .deserialize⟩

theorem newInstanceSteps_truthful (m : CompiledModule) : m.newInstanceSteps.Truthful := by
  refine ask_bind_truthful fun handle => ?_
  cases handle with
  | some handle => exact Or.inl (new_truthful _)
  | none => exact Or.inr ⟨rfl, _, m.engine.refusal_refuses _, fun _ => .instantiate⟩

end CompiledModule

namespace Instance

theorem buildSteps_truthful (e : Engine) (data : Guest.Image) (headline : String) :
    -- compiling and instantiating may each refuse, with its own diagnostic
    (buildSteps e data headline).Truthful := by
  refine ask_bind_truthful fun compiled => ?_
  cases compiled with
  | none => exact Or.inr ⟨rfl, _, e.refusal_refuses _, fun _ => .compile⟩
  | some artifact =>
    refine Or.inl (ask_bind_truthful fun handle => ?_)
    cases handle with
    | none => exact Or.inr ⟨rfl, _, e.refusal_refuses _, fun _ => .instantiate⟩
    | some handle => exact Or.inl (bind_truthful (act_truthful _) fun _ => new_truthful _)

variable (i : Instance)

theorem functionSteps_truthful (name : String) : (i.functionSteps name).Truthful := by
  refine look_truthful fun h => ?_
  generalize (i.wrappers h).lookup name = found
  -- nothing was handed out under the name yet, so that it is resolved
  cases found with
  | some f => exact give_truthful f
  | none =>
    refine bind_truthful (map_truthful (i.engine.resolveSteps_truthful i.handle name) _) fun _ => ?_
    refine bind_truthful (act_truthful _) fun _ => ?_
    exact bind_truthful (act_truthful _) fun _ => give_truthful _

theorem attributeSteps_truthful (name : String) : (i.attributeSteps name).Truthful := by
  -- only looking the function up asks an engine; what is shown of its fault is the cause
  refine ite_truthful (give_truthful _) <| ite_truthful (give_truthful _) <|
    ite_truthful (fail_truthful rfl) <| recast_truthful (i.functionSteps_truthful _) ?_
  rintro (⟨fault, cause⟩ | f) failure hfailure shown hshown htells
  · unfold asAttribute at hfailure
    dsimp only at hfailure
    split at hfailure
    · cases hfailure
      rcases hshown with rfl | hcause
      · cases htells
      · cases hcause
        exact ⟨_, rfl, Or.inl rfl⟩
    · cases hfailure
      exact ⟨_, rfl, hshown⟩
  · cases hfailure

theorem itemSteps_truthful (name : String) : (i.itemSteps name).Truthful := by
  refine recast_truthful (i.functionSteps_truthful name) ?_
  -- an item names the fault as its cause, whichever of the two it is
  rintro (⟨fault, cause⟩ | f) failure hfailure shown hshown htells
  · unfold asItem at hfailure
    dsimp only at hfailure
    split at hfailure
    · cases hfailure
      rcases hshown with rfl | hcause
      · cases htells
      · cases hcause
        exact ⟨_, rfl, Or.inl rfl⟩
    · cases hfailure
      rcases hshown with rfl | hcause
      · cases htells
      · cases hcause
        exact ⟨_, rfl, Or.inl rfl⟩
    · cases hfailure
      exact ⟨_, rfl, hshown⟩
  · cases hfailure

theorem hasAttributeSteps_truthful (name : String) : (i.hasAttributeSteps name).Truthful :=
  recast_truthful_of_quiet fun _ => .ok _

theorem memoryBufferSteps_truthful : i.memoryBufferSteps.Truthful := by
  refine recast_truthful_of_quiet fun r => ?_
  unfold asView
  split <;> exact .ok _

end Instance

end

namespace LinearMemory

variable {m : LinearMemory} {fault : Fault}

theorem outOfBounds_tells (m : LinearMemory) (offset length : Int) :
    (m.outOfBounds offset length).tells = false := by
  rw [outOfBounds]
  exact Fault.raised_tells rfl

theorem read_tells {offset length : Int} (h : m.read offset length = .error fault) :
    fault.tells = false := by
  unfold read at h
  split at h
  · cases h
  · rw [← Except.error.inj h]
    exact m.outOfBounds_tells offset length

theorem index_tells {i : Int} (h : m.index i = .error fault) : fault.tells = false := by
  unfold index at h
  cases hread : m.read i 1 with
  | ok bytes =>
    rw [hread] at h
    cases h
  | error f =>
    rw [hread] at h
    cases h
    exact read_tells hread

theorem slice_tells {start stop step : Option Int} (h : m.slice start stop step = .error fault) :
    fault.tells = false := by
  unfold slice at h
  split at h
  · cases h
    rfl
  · exact read_tells h

variable [Platform]

theorem decodeNamed_tells {encoding : String} {bytes : List UInt8}
    (h : decodeNamed encoding bytes = .error fault) : fault.tells = false := by
  rcases decodeNamed_error_cases h with rfl | rfl | ⟨problem, rfl⟩ <;> rfl

theorem readText_tells {offset : Int} {encoding : String}
    (h : m.readText offset encoding = .error fault) : fault.tells = false := by
  -- the search ends with a text or runs past the end
  unfold readText at h
  dsimp only at h
  split at h
  · split at h
    · exact decodeNamed_tells h
    · rw [← Except.error.inj h]
      exact m.outOfBounds_tells _ _
  · rw [← Except.error.inj h]
    exact m.outOfBounds_tells offset 0

theorem readArray_tells {name : String} {offset count : Int}
    (h : m.readArray name offset count = .error fault) : fault.tells = false := by
  unfold readArray at h
  cases hlayout : Layout.Names.named name with
  | error f =>
    rw [hlayout] at h
    cases h
    rfl
  | ok layout =>
    rw [hlayout] at h
    change (m.read offset (layout.size * count) >>= fun bytes => _) = _ at h
    cases hread : m.read offset (layout.size * count) with
    | error f =>
      rw [hread] at h
      cases h
      exact read_tells hread
    | ok bytes =>
      rw [hread] at h
      -- what is left are faults of sizes
      dsimp only [Bind.bind, Except.bind] at h
      split at h
      · cases h
        rfl
      split at h
      · cases h
        rfl
      split at h
      · cases h
      · cases h
        rfl

end LinearMemory

section

variable [Platform]

open Steps

theorem ViewRequest.answer_tells {m : LinearMemory} {request : ViewRequest} {fault : Fault}
    (h : request.answer m = .error fault) : fault.tells = false := by
  cases request with
  | size | pages | written => cases h
  | read offset length => exact LinearMemory.read_tells (exceptMap_eq_error.mp h)
  | index i => exact LinearMemory.index_tells (exceptMap_eq_error.mp h)
  | slice start stop step => exact LinearMemory.slice_tells (exceptMap_eq_error.mp h)
  | text offset encoding => exact LinearMemory.readText_tells (exceptMap_eq_error.mp h)
  | array name offset count => exact LinearMemory.readArray_tells (exceptMap_eq_error.mp h)

theorem Operation.steps_truthful (op : Operation) : op.steps.Truthful := by
  -- each operation is made of steps that are truthful one by one
  cases op with
  | newSettings _ | processSettings | newEngine _ | processEngine | newCache _ | processCache =>
    exact map_truthful (own_truthful _ _) _
  | resetSettings | cacheClear _ => exact bind_truthful (act_truthful _) fun _ => give_truthful _
  | engineCall e asked => exact map_truthful (ask_truthful _) _
  | cacheCompile c data identifier =>
    exact map_truthful (c.compileSteps_truthful data identifier) _
  | cacheGet _ _ | cacheContains _ _ | cacheSize _ => exact map_truthful (act_truthful _) _
  | compile data identifier cache =>
    exact map_truthful (CompiledModule.compileSteps_truthful data identifier cache) _
  | compileFile path identifier cache =>
    exact map_truthful (CompiledModule.ofFileSteps_truthful path identifier cache) _
  | validate data strict engine =>
    exact map_truthful (CompiledModule.validateSteps_truthful data strict engine) _
  | serialize m => exact map_truthful m.serializeSteps_truthful _
  | deserialize data engine =>
    exact map_truthful (CompiledModule.deserializeSteps_truthful data engine) _
  | newInstance m => exact map_truthful m.newInstanceSteps_truthful _
  | instanceOfFile path engine =>
    refine map_truthful (bind_truthful (own_truthful _ _) fun e => ?_) _
    exact bind_truthful (ask_truthful _) fun data => Instance.buildSteps_truthful e data _
  | instanceOfBytes data engine =>
    refine map_truthful (bind_truthful (own_truthful _ _) fun e => ?_) _
    exact Instance.buildSteps_truthful e data _
  | call i name arguments =>
    exact map_truthful (i.engine.dispatchSteps_truthful i.handle name arguments) _
  | function i name => exact map_truthful (i.functionSteps_truthful name) _
  | getAttribute i name => exact map_truthful (i.attributeSteps_truthful name) _
  | hasAttribute i name => exact map_truthful (i.hasAttributeSteps_truthful name) _
  | getItem i name => exact map_truthful (i.itemSteps_truthful name) _
  | memoryBuffer i => exact map_truthful i.memoryBufferSteps_truthful _
  | apply f arguments =>
    exact map_truthful
      (f.engine.callSteps_truthful f.bound.handle f.bound.name f.bound.signature arguments) _
  | view v request =>
    refine look_truthful fun h => ?_
    cases hanswer : request.answer (h.memory v) with
    | ok reply => exact give_truthful _
    | error fault => exact fail_truthful (ViewRequest.answer_tells hanswer)

/-- Resolving a name comes to exactly one of three things, and operations that fail with a
diagnostic fail with the one that an engine has just recorded for them on their thread. This holds
from every state, whatever diagnostics there are already, and whatever other threads do between two
steps. -/
theorem Operation.faults_tell_truth (thread : Thread) :
    (∀ (e : Engine) (handle : Handle) (name : String) (h h' : Host) (events : List EngineEvent)
      (result : Except Failure Signature),
      (e.resolveSteps handle name).Runs thread h events result h' →
        Resolution handle name thread events result ∧
        (result = .error ⟨.unknownFunction name, none⟩ ↔ name ∉ handle.program.exportNames) ∧
        ((∃ diagnostic, result = .error ⟨.unresolvedSignature name diagnostic, none⟩) ↔
          Uncallable handle.program name)) ∧
    (∀ (op : Operation) (h h' : Host) (events : List EngineEvent) (result : Except Failure Answer),
      op.steps.Runs thread h events result h' → Truthful thread events result) ∧
    ∀ (op : Operation) (h : Host), ∃ events, op.steps.Runs thread (h.onThread thread) events
      (op.outcome thread h) (op.after thread h) := by
  refine ⟨fun e handle name h h' events result hrun => ?_,
    fun op h h' events result => op.steps_truthful thread h events result h',
    fun op h => op.steps.runs_undisturbed (h.onThread thread)⟩
  have resolution := e.resolveSteps_runs handle hrun
  refine ⟨resolution, ?_⟩
  cases resolution with
  | unknown hname =>
    -- the two characterizations exclude each other in every case
    refine ⟨⟨fun _ => hname, fun _ => rfl⟩, ⟨fun ⟨d, hd⟩ => ?_, fun huncallable => ?_⟩⟩
    · cases hd
    · exact absurd huncallable.1 hname
  | unresolved hname _ _ _ =>
    refine ⟨⟨fun heq => ?_, fun hno => ?_⟩, ⟨fun _ => hname, fun _ => ⟨_, rfl⟩⟩⟩
    · cases heq
    · exact absurd hname.1 hno
  | resolved hname =>
    obtain ⟨f, hexport, hone, -⟩ := hname
    refine ⟨⟨fun heq => ?_, fun hno => ?_⟩, ⟨fun ⟨d, hd⟩ => ?_, fun huncallable => ?_⟩⟩
    · cases heq
    · exact absurd (Guest.Program.mem_exportNames.mpr ⟨_, hexport⟩) hno
    · cases hd
    · have htwo := huncallable.2 f hexport
      omega

end

section

attribute [local instance] Platform.machine

/-- A name is resolved that is exported for a memory, and then bytes are validated strictly. Before
the diagnostic of the bytes is read, another thread fails to compile them on the same engine. -/
theorem faults_tell_truth_disturbed :
    let e : Engine := ⟨1, ⟨0, .default⟩⟩
    let p : Guest.Program := ⟨[], [⟨1, none⟩], [], none, [⟨"m", .memory 0⟩]⟩
    let handle : Handle := ⟨3, ⟨2, ⟨p, false, false⟩⟩⟩
    let data := Guest.Image.ofBytes []
    let h₀ := (Host.fresh ⟨.empty, none⟩ ⟨[]⟩).onThread 1
    let h₁ := e.hostAfter 1 (.functionSignature handle "m") h₀
    let h₂ := e.hostAfter 1 (.validate data) h₁
    let h₃ := ((Operation.engineCall e (.compile data)).after 2 h₂).onThread 1
    let resolving := [e.eventOf 1 (.functionSignature handle "m") h₀, e.eventOf 1 .lastError h₁]
    let unresolved : Except Failure Signature :=
      .error ⟨.unresolvedSignature "m" (some "export `m` is not a function"), none⟩
    let validating := [e.eventOf 1 (.validate data) h₁, e.eventOf 1 .lastError h₃]
    let refused : Except Failure Answer := .error ⟨.engine .validate "The module is not valid:"
      (some "Validation error \"unexpected end-of-file (at offset 0x0)\""), none⟩
    ((e.resolveSteps handle "m").Runs 1 h₀ resolving unresolved h₁ ∧
      Resolution handle "m" 1 resolving unresolved) ∧
    (Operation.validate data true (some e)).steps.Runs 1 h₁ validating refused h₃ ∧
      Truthful 1 validating refused := by
  intro e p handle data h₀ h₁ h₂ h₃ resolving unresolved validating refused
  -- the name is resolved with nothing in between
  have hresolving : (e.resolveSteps handle "m").Runs 1 h₀ resolving unresolved h₁ :=
    Or.inr ⟨none, h₁, [_], [_], ⟨h₀, .refl rfl, rfl, rfl⟩,
      Or.inr ⟨_, h₁, [_], [], ⟨h₁, .refl rfl, rfl, rfl⟩, ⟨rfl, rfl, rfl⟩, rfl⟩, rfl⟩
  -- between the validation and the reading another thread compiles on the same engine
  have hbetween : Meanwhile 1 h₂ h₃ :=
    (Elsewhere.nothing.perform (by decide) (.engineCall e (.compile data))).meanwhile rfl
  have hvalidating :
      (Operation.validate data true (some e)).steps.Runs 1 h₁ validating refused h₃ :=
    Or.inl ⟨_, Or.inr ⟨e, h₁, [], validating, ⟨h₁, .refl rfl, rfl, rfl⟩,
      Or.inr ⟨false, h₂, [_], [_], ⟨h₁, .refl rfl, rfl, rfl⟩,
        Or.inr ⟨_, h₃, [_], [], ⟨h₃, hbetween, rfl, rfl⟩, ⟨rfl, rfl, rfl⟩, rfl⟩, rfl⟩, rfl⟩, rfl⟩
  have htruth := Operation.faults_tell_truth 1
  exact ⟨⟨hresolving, (htruth.1 e handle "m" h₀ h₁ resolving unresolved hresolving).1⟩, hvalidating,
    htruth.2.1 _ h₁ h₃ validating refused hvalidating⟩

end

end WasmHost
