import WasmHost.Proofs.Callables
import WasmHost.Proofs.Typing
/-!
Integers as words.

An integer argument may be spelled signed or unsigned, since the range of a kind is the union of
both ranges. The guest only sees the word: arguments that are congruent modulo the number of words
of their kind go the same way, and every word has the two spellings and no others. Results come back
in the signed spelling.
-/
namespace WasmHost

open Guest (GuestValue)

/-- Two arguments are the same to the guest at a kind: integers that are congruent modulo the number
of its words, or floating-point numbers that are the same double, in the sign of a zero, too. -/
inductive SameWord : ValueKind → HostValue → HostValue → Prop where
  | integer {k : NumericKind} {a b : HostValue} {m n : Int} (hk : k.isInteger = true)
      (ha : a.DenotesInteger m) (hb : b.DenotesInteger n)
      (congruent : m % wordCount k.width = n % wordCount k.width) : SameWord (.ofNumeric k) a b
  | floating {k : NumericKind} {a b : HostValue} {x : Double} (hk : k.isInteger = false)
      (ha : a.asFloat = .ok x) (hb : b.asFloat = .ok x) : SameWord (.ofNumeric k) a b

/-- Two lists of arguments are the same to the guest at every position. -/
def SameWords (kinds : List ValueKind) (arguments others : List HostValue) : Prop :=
  ∀ (position : Nat) (kind : ValueKind) (a b : HostValue), kinds[position]? = some kind →
    arguments[position]? = some a → others[position]? = some b → SameWord kind a b

theorem ofInt_eq_of_congruent {w : Nat} {m n : Int}
    (congruent : m % wordCount w = n % wordCount w) : BitVec.ofInt w m = BitVec.ofInt w n := by
  apply BitVec.eq_of_toNat_eq
  rw [BitVec.toNat_ofInt, BitVec.toNat_ofInt]
  exact congrArg Int.toNat congruent

theorem NumericKind.spellings {k : NumericKind} (hk : k.isInteger = true) (w : BitVec k.width)
    (n : Int) :
    Suits (.ofNumeric k) (.integer n) ∧ BitVec.ofInt k.width n = w ↔ n = w.toInt ∨ n = w.toNat := by
  -- a plain integer is only itself
  have hplain : (∃ m, (HostValue.integer n).DenotesInteger m ∧ k.inRange m = true) ↔
      k.least ≤ n ∧ n ≤ k.greatest := by
    constructor
    · rintro ⟨m, hm, hrange⟩
      cases hm
      simpa [NumericKind.inRange] using hrange
    · intro hrange
      exact ⟨n, .plain n, by simpa [NumericKind.inRange] using hrange⟩
  rw [suits_integer_iff hk, hplain, ← BitVec.toNat_inj, BitVec.toNat_ofInt,
    BitVec.toInt_eq_toNat_cond]
  have hlt := w.isLt
  -- with widths put in, both sides are ranges of integers
  cases k with
  | i32 =>
    simp only [least, greatest, width, halfWordCount, wordCount] at hlt ⊢
    omega
  | i64 =>
    simp only [least, greatest, width, halfWordCount, wordCount] at hlt ⊢
    omega
  | f32 | f64 => cases hk

namespace Engine

/-- Arguments spell words at kinds: the values that are made of them become these words. -/
inductive Spells : List ValueKind → List HostValue → List GuestValue → Prop where
  | nil : Spells [] [] []
  | cons {kind : ValueKind} {kinds : List ValueKind} {a : HostValue} {arguments : List HostValue}
      {v : Value} {word : GuestValue} {words : List GuestValue}
      (made : Value.ofHost kind a = .ok (some v)) (becomes : guestValue v = .ok (some word))
      (rest : Spells kinds arguments words) :
      Spells (kind :: kinds) (a :: arguments) (word :: words)

theorem exists_spells {kinds : List ValueKind} {arguments : List HostValue}
    (suited : List.Forall₂ Suits kinds arguments) : ∃ words, Spells kinds arguments words := by
  induction suited with
  | nil => exact ⟨[], .nil⟩
  | cons suits _ ih =>
    obtain ⟨v, hv, -, hcarries⟩ := suits.ofHost
    obtain ⟨word, hword⟩ := hcarries.guestValue
    obtain ⟨words, spells⟩ := ih
    exact ⟨word :: words, .cons hv hword spells⟩

theorem guestValue_of_sameWord {kind : ValueKind} {a b : HostValue} (same : SameWord kind a b)
    {v : Value} (hv : Value.ofHost kind a = .ok (some v)) :
    ∃ w, Value.ofHost kind b = .ok (some w) ∧ guestValue w = guestValue v := by
  -- integers are taken by their residue, and floats are the same double
  cases same with
  | @integer k _ _ m n hk ha hb congruent =>
    rw [Value.ofHost, ValueKind.numeric?_ofNumeric] at hv ⊢
    dsimp only at hv ⊢
    rw [if_pos hk, ha.asInteger] at hv
    rw [if_pos hk, hb.asInteger]
    cases hv
    refine ⟨_, rfl, ?_⟩
    have hword := ofInt_eq_of_congruent congruent.symm
    cases k with
    | i32 => exact congrArg (fun w => Except.ok (some (GuestValue.i32 w))) hword
    | i64 => exact congrArg (fun w => Except.ok (some (GuestValue.i64 w))) hword
    | f32 | f64 => cases hk
  | @floating k _ _ x hk ha hb =>
    have hnot : ¬k.isInteger = true := by simp [hk]
    rw [Value.ofHost, ValueKind.numeric?_ofNumeric] at hv ⊢
    dsimp only at hv ⊢
    rw [if_neg hnot, ha] at hv
    rw [if_neg hnot, hb]
    cases hv
    exact ⟨_, rfl, rfl⟩

theorem Spells.congr {kinds : List ValueKind} {arguments others : List HostValue}
    {words : List GuestValue} (spells : Spells kinds arguments words)
    (count : others.length = kinds.length) (same : SameWords kinds arguments others) :
    Spells kinds others words := by
  induction spells generalizing others with
  | nil =>
    obtain rfl : others = [] := by simpa using count
    exact .nil
  | cons made becomes rest ih =>
    cases others with
    | nil => simp at count
    | cons b others =>
      obtain ⟨w, hw, hword⟩ := guestValue_of_sameWord (same 0 _ _ b rfl rfl rfl) made
      have hrest : others.length = _ := Nat.succ.inj count
      exact .cons hw (hword.trans becomes) (ih hrest fun position => same (position + 1))

variable (e : Engine)

variable [Platform]

theorem Spells.marshalFrom {kinds : List ValueKind} {arguments : List HostValue}
    {words : List GuestValue} (spells : Spells kinds arguments words)
    (suited : List.Forall₂ Suits kinds arguments) (function : String) (position : Nat) :
    ∃ values, values.map (·.kind) = kinds ∧ values.mapM guestValue = .ok (words.map some) ∧
      ∀ h, (e.invoker.marshalFrom function position kinds arguments).run.run h =
        (.ok values, h) := by
  -- by induction on the words: each argument passes its check and makes its value
  induction spells generalizing position with
  | nil => exact ⟨[], rfl, rfl, fun _ => rfl⟩
  | @cons kind kinds a arguments v word words made becomes rest ih =>
    cases suited with
    | cons suits suited =>
      obtain ⟨values, hkinds, hwords, hrun⟩ := ih suited (position + 1)
      -- an argument that suits has no fault
      have hcheck : argumentFault? function position kind a = none := by
        have hspec := argumentFault?_spec function position kind a
        cases hfault : argumentFault? function position kind a with
        | none => rfl
        | some fault =>
          rw [hfault] at hspec
          exact absurd suits hspec.1
      -- its value is made without a change to the host
      have hone (h : Host) :
          (e.invoker.marshalOne function position kind a).run.run h = (.ok v, h) := by
        have hmade : (e.invoker.makeValue kind a).run.run h = (.ok (some v), h) := by
          rw [e.makeValue_run, made]
          rfl
        unfold Invoker.marshalOne
        rw [hcheck]
        change ((e.invoker.makeValue kind a) >>= _).run.run h = _
        rw [Action.run_bind_ok hmade]
        rfl
      -- the value is of the kind that is asked for
      have hkind : v.kind = kind := by
        obtain ⟨v', hv', hkind, -⟩ := suits.ofHost
        cases made.symm.trans hv'
        exact hkind
      refine ⟨v :: values, by rw [List.map_cons, hkind, hkinds], ?_, fun h => ?_⟩
      · rw [List.mapM_cons, becomes, hwords]
        rfl
      · unfold Invoker.marshalFrom
        rw [Action.run_bind_ok (hone h), Action.run_bind_ok (hrun h)]
        rfl

variable (handle : Handle) {name : String} {f : Guest.Function} {signature : Signature}

theorem Spells.call_run {arguments : List HostValue} {words : List GuestValue}
    (spells : Spells signature.params arguments words)
    (suited : List.Forall₂ Suits signature.params arguments)
    (hexport : handle.program.export? name = some (.function f))
    (hsignature : signatureOf? f = some signature) (h : Host) :
    ∃ notices, (e.invoker.call handle name signature arguments).run.run h =
      (conclusion name (Guest.call handle.program f words (h.guest handle)).1,
        e.afterGuest handle h (Guest.call handle.program f words (h.guest handle)) notices) := by
  obtain ⟨values, hkinds, hwords, hrun⟩ := spells.marshalFrom e suited name 1
  -- the values fit the parameters of the function
  have fits : FitsParameters handle name f values :=
    ⟨hexport, hkinds.trans (signatureOf?_params hsignature)⟩
  -- there are as many arguments as parameters
  have hcheck : arityFault? name signature arguments.length = none := by
    have hcount : signature.params.length = arguments.length := suited.length_eq
    simp [arityFault?, Signature.arity, hcount]
  have hmarshal : (e.invoker.marshal name signature arguments).run.run h = (.ok values, h) := by
    unfold Invoker.marshal
    rw [hcheck]
    exact hrun h
  obtain ⟨notices, hends⟩ := e.concluding_run_words handle fits hwords h
  exact ⟨notices, (Action.run_bind_ok hmarshal).trans hends⟩

theorem suits_of_accepts {arguments : List HostValue} {h h' : Host} {values : List Value}
    (accepts : e.invoker.Accepts handle name arguments h values h')
    (hname : handle.program.resolution name = .ok signature) :
    List.Forall₂ Suits signature.params arguments := by
  obtain ⟨resolved, -, suited, -⟩ := accepts
  obtain ⟨f, hexport, hsignature⟩ := Guest.Program.resolution_eq_ok.mp hname
  have hasked : (e.functionSignature handle name).run h = _ := resolved
  have hfound := (e.functionSignature_tells handle name h).1
  rw [hasked, Guest.Program.signatureFor_of_signature hexport hsignature] at hfound
  cases hfound
  exact suited

omit [Platform] e in
-- A signature with the kind of an integer for its result is that of a function with one result, of
-- this type.
theorem results_of_signature {k : NumericKind} (hsignature : signatureOf? f = some signature)
    (hresult : signature.result = .ofNumeric k) :
    ∃ t, f.results = [t] ∧ t.kind = .ofNumeric k := by
  unfold signatureOf? at hsignature
  split at hsignature
  · cases hsignature
    cases k <;> simp [ValueKind.void, ValueKind.ofNumeric, NumericKind.name] at hresult
  · next t heq =>
    cases hsignature
    exact ⟨t, heq, hresult⟩
  · cases hsignature

omit [Platform] e in
theorem hostValue_signed {k : NumericKind} (hk : k.isInteger = true) {t : Guest.ValueType}
    (hkind : t.kind = .ofNumeric k) {word : GuestValue} (typed : word.HasType t) :
    ∃ n, hostValue word = .integer n ∧
      -(halfWordCount k.width : Int) ≤ n ∧ n ≤ halfWordCount k.width - 1 := by
  -- the signed reading of a word is in the signed range of its width
  have hsigned {w : Nat} (x : BitVec w) :
      -(halfWordCount w : Int) ≤ x.toInt ∧ x.toInt ≤ halfWordCount w - 1 := by
    have hlow := BitVec.le_toInt x
    have hhigh : x.toInt < 2 ^ (w - 1) := BitVec.toInt_lt
    have hcount : (halfWordCount w : Int) = 2 ^ (w - 1) := by simp [halfWordCount]
    omega
  -- of the types of words only integers have an integer kind
  cases typed with
  | i32 w =>
    obtain rfl := ofNumeric_injective hkind
    exact ⟨w.toInt, rfl, hsigned w⟩
  | i64 w =>
    obtain rfl := ofNumeric_injective hkind
    exact ⟨w.toInt, rfl, hsigned w⟩
  | f32 x | f64 x =>
    obtain rfl := ofNumeric_injective hkind
    cases hk
  | functionReference | externalReference =>
    cases k <;> simp [Guest.ValueType.kind, ValueKind.ofNumeric, NumericKind.name] at hkind

theorem call_result_signed {k : NumericKind} (hk : k.isInteger = true)
    (typed : handle.program.ReturnsTyped)
    (hexport : handle.program.export? name = some (.function f))
    (hsignature : signatureOf? f = some signature) (hresult : signature.result = .ofNumeric k)
    {arguments : List HostValue} {h : Host} {v : HostValue}
    (hcall : ((e.invoker.call handle name signature arguments).run.run h).1 = .ok v) :
    ∃ n, v = .integer n ∧
      -(halfWordCount k.width : Int) ≤ n ∧ n ≤ halfWordCount k.width - 1 := by
  -- a call that gives something has reached the guest
  rcases e.call_cases handle arguments hexport hsignature with
    ⟨failure, hrejects⟩ | ⟨values, delivers, hinvokes⟩
  · rw [hrejects] at hcall
    cases hcall
  obtain ⟨words, hwords, -⟩ := delivers.reached
  obtain ⟨notices, hends⟩ := e.concluding_run_words handle delivers.fits hwords h
  rw [hinvokes, hends] at hcall
  have hargs := guestValues_hasType delivers.fits.2 hwords
  obtain ⟨t, hone, hkind⟩ := results_of_signature hsignature hresult
  -- what the guest gives is of the types of its results, of which there is one
  cases hguest : (Guest.call handle.program f words (h.guest handle)).1 with
  | error trap =>
    rw [hguest] at hcall
    cases hcall
  | ok results =>
    rw [hguest] at hcall
    have htyped := typed hexport hargs hguest
    rw [hone] at htyped
    obtain ⟨word, hword, rfl⟩ : ∃ word, word.HasType t ∧ results = [word] := by
      cases htyped with
      | cons first rest =>
        cases rest
        exact ⟨_, first, rfl⟩
    cases hcall
    exact hostValue_signed hk hkind hword

end Engine

/-- Two calls come to the same in a state: they have the same outcome, they leave every guest in the
same state, and indeed leave everything the same, but for the notices, which show arguments as they
were spelled. -/
structure SameCall (call other : HostAction HostValue) (h : Host) : Prop where
  outcome : (other.run.run h).1 = (call.run.run h).1
  guest (handle : Handle) : (other.run.run h).2.guest handle = (call.run.run h).2.guest handle
  state : Host.SameBut [.notices] (call.run.run h).2 (other.run.run h).2

section

variable [Platform]

/-- A call with arguments runs the guest in a state: it runs the exported function on the words that
the arguments spell, has the outcome of this run and leaves the guest as the run does. -/
def RunsWords (handle : Handle) (name : String) (arguments : List HostValue)
    (call : HostAction HostValue) (h : Host) : Prop :=
  ∃ f words, handle.program.export? name = some (.function f) ∧
    Engine.Spells (f.params.map (·.kind)) arguments words ∧
    (call.run.run h).1 =
      Engine.conclusion name (Guest.call handle.program f words (h.guest handle)).1 ∧
    (call.run.run h).2.guest handle = (Guest.call handle.program f words (h.guest handle)).2

theorem Engine.call_runsWords (e : Engine) {handle : Handle} {name : String}
    {signature : Signature} (hname : handle.program.resolution name = .ok signature)
    {arguments : List HostValue} (suited : List.Forall₂ Suits signature.params arguments)
    (h : Host) : RunsWords handle name arguments
      (e.invoker.call handle name signature arguments) h := by
  obtain ⟨f, hexport, hsignature⟩ := Guest.Program.resolution_eq_ok.mp hname
  obtain ⟨words, spells⟩ := exists_spells suited
  obtain ⟨notices, hrun⟩ := spells.call_run e handle suited hexport hsignature h
  refine ⟨f, words, hexport, signatureOf?_params hsignature ▸ spells, ?_, ?_⟩
  · rw [hrun]
  · rw [hrun]
    exact Cells.get_set_self ..

theorem Engine.sameCall_of_sameWords (e : Engine) {handle : Handle} {name : String}
    {signature : Signature} (hname : handle.program.resolution name = .ok signature)
    {arguments others : List HostValue} (suited : List.Forall₂ Suits signature.params arguments)
    (suited' : List.Forall₂ Suits signature.params others)
    (same : SameWords signature.params arguments others) (h : Host) :
    SameCall (e.invoker.call handle name signature arguments)
      (e.invoker.call handle name signature others) h := by
  obtain ⟨f, hexport, hsignature⟩ := Guest.Program.resolution_eq_ok.mp hname
  obtain ⟨words, spells⟩ := exists_spells suited
  have spells' := spells.congr suited'.length_eq.symm same
  obtain ⟨notices, hrun⟩ := spells.call_run e handle suited hexport hsignature h
  obtain ⟨notices', hrun'⟩ := spells'.call_run e handle suited' hexport hsignature h
  -- outcome, guest and all parts but the notices are the same
  constructor
  · rw [hrun, hrun']
  · intro other
    rw [hrun, hrun']
    rfl
  · intro part
    rw [hrun, hrun']
    by_cases hpart : part = .notices
    · exact Or.inl (hpart ▸ List.mem_cons_self)
    · refine Or.inr ?_
      cases part <;> first | rfl | exact absurd rfl hpart

end

namespace Instance

section

variable [Platform]

section

variable (i : Instance) {name : String} {signature : Signature}
  (resolved : i.handle.program.resolution name = .ok signature)

include resolved

theorem call_runsWords {arguments : List HostValue}
    (suited : List.Forall₂ Suits signature.params arguments) (h : Host) :
    RunsWords i.handle name arguments (i.call name arguments) h := by
  obtain ⟨f, words, hexport, spells, houtcome, hguest⟩ :=
    i.engine.call_runsWords resolved suited ((i.engine.functionSignature i.handle name).run h).2
  have hkept : ((i.engine.functionSignature i.handle name).run h).2.guest i.handle =
      h.guest i.handle := by
    rw [Host.guest, (LookedUp.functionSignature i.engine i.handle name h).guests, Host.guest]
  rw [hkept] at houtcome hguest
  have hcall := i.call_run_of_resolved h resolved arguments
  exact ⟨f, words, hexport, spells, by rw [hcall, houtcome], by rw [hcall, hguest]⟩

theorem sameCall_of_sameWords {arguments others : List HostValue}
    (suited : List.Forall₂ Suits signature.params arguments)
    (suited' : List.Forall₂ Suits signature.params others)
    (same : SameWords signature.params arguments others) (h : Host) :
    SameCall (i.call name arguments) (i.call name others) h := by
  have hcall (arguments : List HostValue) := i.call_run_of_resolved h resolved arguments
  obtain ⟨houtcome, hguest, hstate⟩ := i.engine.sameCall_of_sameWords resolved suited suited' same
    ((i.engine.functionSignature i.handle name).run h).2
  constructor
  · rw [hcall, hcall, houtcome]
  · intro handle
    rw [hcall, hcall, hguest]
  · rw [hcall, hcall]
    exact hstate

theorem call_result_signed (typed : i.handle.program.ReturnsTyped) {k : NumericKind}
    (hk : k.isInteger = true) (hresult : signature.result = .ofNumeric k)
    {arguments : List HostValue} {h : Host} {v : HostValue}
    (hgiven : ((i.call name arguments).run.run h).1 = .ok v) :
    ∃ n, v = .integer n ∧
      -(halfWordCount k.width : Int) ≤ n ∧ n ≤ halfWordCount k.width - 1 := by
  obtain ⟨g, hexport, hsignature⟩ := Guest.Program.resolution_eq_ok.mp resolved
  rw [i.call_run_of_resolved h resolved arguments] at hgiven
  exact i.engine.call_result_signed i.handle hk typed hexport hsignature hresult hgiven

end

/-- Signed and unsigned spellings of integers are the same to the guest.

Two lists of arguments that are accepted for an export, and that are the same to the guest at every
position, make calls that run the guest on the words they spell and that come to the same: by name,
and of any callable for the export. Every word of an integer kind has accepted spellings, just the
signed and the unsigned one. And where what functions give is of the types of their results, what a
call gives for a result of an integer kind is in the signed range. -/
theorem spellings_agree (i : Instance) {name : String} {signature : Signature}
    (resolved : i.handle.program.resolution name = .ok signature) (h : Host) :
    (∀ arguments others : List HostValue,
      (∃ values h', i.engine.invoker.Accepts i.handle name arguments h values h') →
      (∃ values h', i.engine.invoker.Accepts i.handle name others h values h') →
      SameWords signature.params arguments others →
        (RunsWords i.handle name arguments (i.call name arguments) h ∧
          SameCall (i.call name arguments) (i.call name others) h) ∧
        ∀ f, i.Wraps name f → RunsWords i.handle name arguments (f.apply arguments) h ∧
          SameCall (f.apply arguments) (f.apply others) h) ∧
    (∀ k : NumericKind, k.isInteger = true → ∀ (w : BitVec k.width) (n : Int),
      Suits (.ofNumeric k) (.integer n) ∧ BitVec.ofInt k.width n = w ↔
        n = w.toInt ∨ n = w.toNat) ∧
    (i.handle.program.ReturnsTyped → ∀ k : NumericKind, k.isInteger = true →
      signature.result = .ofNumeric k → ∀ (arguments : List HostValue) (v : HostValue),
        (((i.call name arguments).run.run h).1 = .ok v ∨
          ∃ f, i.Wraps name f ∧ ((f.apply arguments).run.run h).1 = .ok v) →
        ∃ n, v = .integer n ∧
          -(halfWordCount k.width : Int) ≤ n ∧ n ≤ halfWordCount k.width - 1) := by
  refine ⟨?_, fun k hk => k.spellings hk, ?_⟩
  -- what is accepted suits its kinds
  · rintro arguments others ⟨values, h₁, accepts⟩ ⟨values', h₁', accepts'⟩ same
    have suited := i.engine.suits_of_accepts i.handle accepts resolved
    have suited' := i.engine.suits_of_accepts i.handle accepts' resolved
    refine ⟨⟨i.call_runsWords resolved suited h,
      i.sameCall_of_sameWords resolved suited suited' same h⟩, fun f wraps => ?_⟩
    -- a callable goes the same way with the signature it has resolved
    rw [wraps.apply_eq resolved, wraps.apply_eq resolved]
    exact ⟨i.engine.call_runsWords resolved suited h,
      i.engine.sameCall_of_sameWords resolved suited suited' same h⟩
  · rintro typed k hk hresult arguments v (hgiven | ⟨f, wraps, hgiven⟩)
    · exact i.call_result_signed resolved typed hk hresult hgiven
    · obtain ⟨g, hexport, hsignature⟩ := Guest.Program.resolution_eq_ok.mp resolved
      rw [wraps.apply_eq resolved] at hgiven
      exact i.engine.call_result_signed i.handle hk typed hexport hsignature hresult hgiven

end

section

attribute [local instance] Platform.machine

/-- The second of two integers is given back signed, whichever way both are spelled. -/
theorem spellings_agree_second :
    let p : Guest.Program :=
      ⟨[], [], [], none, [⟨"second", .function ⟨[.i32, .i64], [.i64], .parameter 1⟩⟩]⟩
    let e : Engine := ⟨1, ⟨0, .default⟩⟩
    let m : CompiledModule := ⟨3, e, ⟨2, ⟨p, false, false⟩⟩, none⟩
    let i : Instance := ⟨5, e, ⟨4, m.artifact⟩, m⟩
    let h := Host.fresh ⟨.empty, none⟩ ⟨[]⟩
    let arguments := [HostValue.integer (-1), .integer 18446744073709551615]
    let others := [HostValue.integer 4294967295, .integer (-1)]
    SameCall (i.call "second" arguments) (i.call "second" others) h ∧
      ((i.call "second" arguments).run.run h).1 = .ok (.integer (-1)) ∧
      ∃ n, HostValue.integer (-1) = .integer n ∧ -(2 ^ 63 : Nat) ≤ n ∧ n ≤ (2 ^ 63 : Nat) - 1 := by
  intro p e m i h arguments others
  -- both lists of integers are accepted
  have accepted {a b : Int} (ha : Suits (.ofNumeric .i32) (.integer a))
      (hb : Suits (.ofNumeric .i64) (.integer b)) : ∃ values h',
      i.engine.invoker.Accepts i.handle "second" [.integer a, .integer b] h values h' :=
    ⟨_, _, Invoker.Accepts.intro
      (show (i.engine.invoker.signature? i.handle "second").run h =
        (some ⟨[.ofNumeric .i32, .ofNumeric .i64], .ofNumeric .i64⟩, _) from rfl) rfl
      (.cons ha (.cons hb .nil)) (.cons rfl (.cons rfl (.nil _)))⟩
  have resolved : i.handle.program.resolution "second" =
      .ok ⟨[.ofNumeric .i32, .ofNumeric .i64], .ofNumeric .i64⟩ := rfl
  have hagree := spellings_agree i resolved h
  -- at each position the integers are congruent
  have same : SameWords [.ofNumeric .i32, .ofNumeric .i64] arguments others := by
    intro position kind a b hk ha hb
    match position with
    | 0 =>
      cases hk
      cases ha
      cases hb
      exact .integer rfl (.plain _) (.plain _) (by decide)
    | 1 =>
      cases hk
      cases ha
      cases hb
      exact .integer rfl (.plain _) (.plain _) (by decide)
    | position + 2 => cases hk
  have hgiven : ((i.call "second" arguments).run.run h).1 = .ok (.integer (-1)) := rfl
  -- the function gives its second parameter, which is of the result type
  have typed : p.Typed := by
    intro entry hentry f hf
    cases List.mem_singleton.mp hentry
    cases hf
    exact .parameter rfl
  have hsame := hagree.1 arguments others
    (accepted (.integer rfl (.plain _) (by decide) (by decide))
      (.integer rfl (.plain _) (by decide) (by decide)))
    (accepted (.integer rfl (.plain _) (by decide) (by decide))
      (.integer rfl (.plain _) (by decide) (by decide))) same
  exact ⟨hsame.1.2, hgiven,
    hagree.2.2 (Guest.Machine.returnsTyped typed) .i64 rfl rfl arguments _ (Or.inl hgiven)⟩

end

end Instance

end WasmHost
