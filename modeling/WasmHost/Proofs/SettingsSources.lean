import Mathlib.Logic.ExistsUnique
import WasmHost.Settings.Dotenv.Statements
import WasmHost.Settings.Source
/-!
Where each field of the settings has its value from.

Every field is looked for among the keywords, in the environment and in the file of bindings, and it
is judged alone. The sources only meet where a value of the file refers to another name: so a field
depends on its own names and on those that its values in the file refer to, and on nothing else.
-/
namespace WasmHost

namespace Dotenv

/-- A value refers to a name. -/
def RefersTo (value name : String) : Prop :=
  ∃ default, Piece.reference name default ∈ readPieces value.toList

/-- The value of a name while statements are taken in: what it was bound to before, or else its
value in the environment. -/
def valueOf (environment : String → Option String) (bound : List Binding) (name : String) :
    Option (Option String) :=
  match bound.lookup name with
  | some value => some value
  | none => (environment name).map some

/-- Takes in one statement. -/
def bind (environment : String → Option String) (bound : List Binding) (statement : Binding) :
    List Binding :=
  put bound (statement.1, statement.2.map fun value =>
    String.ofList ((readPieces value.toList).flatMap (Piece.expand (valueOf environment bound))))

section Restricted

variable {environment environment' : String → Option String} {names : String → Bool}
  {bound statements : List Binding}

/-- The bindings of some names. -/
def only {α : Type} (names : String → Bool) (bindings : List (String × α)) : List (String × α) :=
  bindings.filter fun b => names b.1

theorem lookup_only {α : Type} {name : String} (hname : names name = true)
    (bindings : List (String × α)) : (only names bindings).lookup name = bindings.lookup name := by
  -- a binding of another name is passed by on both sides
  induction bindings with
  | nil => rfl
  | cons b rest ih =>
    obtain ⟨key, value⟩ := b
    unfold only at ih ⊢
    by_cases hkey : name = key
    · subst hkey
      rw [List.filter_cons_of_pos (by simpa using hname), List.lookup_cons_self,
        List.lookup_cons_self]
    · have hne : (name == key) = false := by simpa using hkey
      rw [List.lookup_cons, hne]
      by_cases hnames : names key = true
      · rw [List.filter_cons_of_pos (by simpa using hnames), List.lookup_cons, hne]
        exact ih
      · rw [List.filter_cons_of_neg (by simpa using hnames)]
        exact ih

-- Replacing references depends on the values of the names that are referred to.
theorem expand_congr {value? value?' : String → Option (Option String)} {pieces : List Piece}
    (same : ∀ name default, Piece.reference name default ∈ pieces → value? name = value?' name) :
    pieces.flatMap (Piece.expand value?) = pieces.flatMap (Piece.expand value?') := by
  have hpieces : ∀ piece ∈ pieces, piece.expand value? = piece.expand value?' := by
    intro piece hpiece
    cases piece with
    | literal cs => rfl
    | reference name default => rw [Piece.expand, Piece.expand, same name default hpiece]
  rw [List.flatMap_def, List.flatMap_def, List.map_congr_left hpieces]

theorem only_put (binding : Binding) : only names (put bound binding) =
    if names binding.1 then put (only names bound) binding else only names bound := by
  -- what takes the place of a binding has the same name
  have hkeys (b : Binding) : (if b.1 = binding.1 then binding else b).1 = b.1 := by
    split
    · next hb => exact hb.symm
    · rfl
  have hmap : only names (bound.map fun b => if b.1 = binding.1 then binding else b) =
      (only names bound).map fun b => if b.1 = binding.1 then binding else b := by
    unfold only
    rw [List.filter_map]
    congr 2
    funext b
    exact congrArg names (hkeys b)
  unfold put
  by_cases hnames : names binding.1 = true
  · -- the binding is of one of the names, and so is an earlier one that it takes the place of
    have hany : (only names bound).any (·.1 = binding.1) = bound.any (·.1 = binding.1) := by
      rw [only, List.any_filter]
      congr 1
      funext b
      by_cases hb : b.1 = binding.1
      · simp [hb, hnames]
      · simp [hb]
    rw [if_pos hnames, hany]
    split
    · exact hmap
    · rw [only, List.filter_append, List.filter_cons_of_pos (by simpa using hnames)]
      rfl
  -- the binding is of another name, so that those of the names stay
  · rw [if_neg hnames]
    split
    · rw [hmap]
      refine (List.map_congr_left fun b hb => ?_).trans (List.map_id _)
      have hne : b.1 ≠ binding.1 := fun heq =>
        hnames (heq ▸ (by simpa using (List.mem_filter.mp hb).2))
      exact if_neg hne
    · rw [only, List.filter_append, List.filter_cons_of_neg (by simpa using hnames),
        List.filter_nil, List.append_nil]
      rfl

/-- The references in the values of some names are to these names again. -/
def Closed (names : String → Bool) (statements : List Binding) : Prop :=
  ∀ {name value reference : String}, (name, some value) ∈ statements → names name = true →
    RefersTo value reference → names reference = true

-- Taking in a statement on one of some names looks at these names alone.
theorem bind_congr (agree : ∀ name, names name = true → environment name = environment' name)
    {name : String} {value : Option String}
    (closed : ∀ v reference, value = some v → RefersTo v reference → names reference = true)
    (hname : names name = true) (bound : List Binding) :
    only names (bind environment bound (name, value)) =
      bind environment' (only names bound) (name, value) := by
  unfold bind
  rw [only_put, if_pos hname]
  dsimp only
  congr 2
  cases value with
  | none => rfl
  | some v =>
    refine congrArg (some ∘ String.ofList) (expand_congr fun reference default hpiece => ?_)
    have hreference : names reference = true := closed v reference rfl ⟨default, hpiece⟩
    rw [valueOf, valueOf, lookup_only hreference, agree reference hreference]

-- What statements bind some names to depends on those on these names and on their values in the
-- environment, if their values of these names refer to no others.
theorem only_foldl (agree : ∀ name, names name = true → environment name = environment' name)
    (closed : Closed names statements) (bound : List Binding) :
    only names (statements.foldl (bind environment) bound) =
      (only names statements).foldl (bind environment') (only names bound) := by
  -- by induction on the statements; one of the names is taken in on both sides, any other on one
  induction statements generalizing bound with
  | nil => rfl
  | cons statement rest ih =>
    obtain ⟨name, value⟩ := statement
    have closed' : Closed names rest := fun hmem => closed (List.mem_cons_of_mem _ hmem)
    rw [List.foldl_cons, ih closed']
    by_cases hname : names name = true
    · have hfirst := bind_congr agree (fun v reference hv =>
        closed (hv ▸ List.mem_cons_self) hname) hname bound
      have hcons : only names ((name, value) :: rest) = (name, value) :: only names rest :=
        List.filter_cons_of_pos (by simpa using hname)
      rw [hcons, List.foldl_cons, hfirst]
    · have hcons : only names ((name, value) :: rest) = only names rest :=
        List.filter_cons_of_neg (by simpa using hname)
      rw [hcons, bind, only_put, if_neg hname]

end Restricted
end Dotenv

namespace SettingField

/-- What a field holds. -/
def Value : SettingField → Type
  | optLevel => OptLevel
  | debugInfo | consumeFuel => Bool
  | fuel => Nat

/-- The rule by which a raw value becomes that of a field. -/
def rule : (f : SettingField) → HostValue → Except SettingFault f.Value
  | optLevel => Settings.levelOf
  | debugInfo | consumeFuel => Settings.truth
  | fuel => Settings.fuelOf

theorem mem_all (f : SettingField) : f ∈ all := by
  cases f <;> decide

end SettingField

namespace Settings

/-- What settings have in a field. -/
def get (s : Settings) : (f : SettingField) → f.Value
  | .optLevel => s.optLevel
  | .debugInfo => s.debugInfo
  | .consumeFuel => s.consumeFuel
  | .fuel => s.fuel

variable {α : Type}

/-- Among bindings a field is bound to a value: the last name that is its variable in some spelling
is bound to it. -/
inductive Binds (bindings : List (String × α)) (f : SettingField) (value : α) : Prop where
  | last {before after : List (String × α)} {name : String}
      (split : bindings = before ++ (name, value) :: after) (spelled : lower name = variableName f)
      (hlast : ∀ b ∈ after, lower b.1 ≠ variableName f)

theorem lookupFolded_eq_some {bindings : List (String × α)} {f : SettingField} {value : α} :
    lookupFolded bindings (variableName f) = some value ↔ Binds bindings f value := by
  unfold lookupFolded
  rw [Option.map_eq_some_iff]
  constructor
  -- the last spelling is the first of the reversed list
  · rintro ⟨⟨name, value'⟩, hfound, rfl⟩
    obtain ⟨hname, after, before, hsplit, hafter⟩ := List.find?_eq_some_iff_append.mp hfound
    have split : bindings = before.reverse ++ (name, value') :: after.reverse := by
      have hreverse := congrArg List.reverse hsplit
      simpa using hreverse
    refine .last split (by simpa using hname) fun b hb => ?_
    simpa using hafter b (List.mem_reverse.mp hb)
  · rintro (@⟨before, after, name, split, spelled, hlast⟩)
    refine ⟨(name, value), List.find?_eq_some_iff_append.mpr
      ⟨by simpa using spelled, after.reverse, before.reverse, ?_, fun b hb => ?_⟩, rfl⟩
    · rw [split, List.reverse_append, List.reverse_cons, List.append_assoc]
      rfl
    · simpa using hlast b (List.mem_reverse.mp hb)

theorem lookupFolded_only {names : String → Bool} {f : SettingField}
    (spelled : ∀ name, lower name = variableName f → names name = true)
    (bindings : List (String × α)) :
    lookupFolded (Dotenv.only names bindings) (variableName f) =
      lookupFolded bindings (variableName f) := by
  unfold lookupFolded Dotenv.only
  rw [← List.filter_reverse, List.find?_filter]
  congr 2
  funext b
  by_cases hb : lower b.1 = variableName f
  · simp [hb, spelled b.1 hb]
  · simp [hb]

/-- The statements of the file of bindings. -/
def statements (c : SettingsContext) : List Dotenv.Binding := c.file.getD []

/-- What the file binds names to, with references replaced. -/
def fileBindings (c : SettingsContext) : List Dotenv.Binding :=
  (statements c).foldl (Dotenv.bind c.environment.get?) []

theorem ofFile_eq (c : SettingsContext) (f : SettingField) :
    ofFile c f = ((lookupFolded (fileBindings c) (variableName f)).join).map .text := by
  unfold ofFile fileBindings statements
  cases c.file with
  | none => rfl
  | some statements => rfl

/-- The raw value that a field takes: that of the first source that gives one. Without any it takes
none. -/
inductive Chosen (c : SettingsContext) (keywords : Keywords) (f : SettingField) :
    Option HostValue → Prop where
  | keyword {raw : HostValue} (given : keywords.get? f.name = some raw) :
      Chosen c keywords f (some raw)
  | environment {text : String} (noKeyword : keywords.get? f.name = none)
      (given : Binds c.environment.bindings f text) : Chosen c keywords f (some (.text text))
  | file {text : String} (noKeyword : keywords.get? f.name = none)
      (noVariable : ∀ text, ¬Binds c.environment.bindings f text)
      (given : Binds (fileBindings c) f (some text)) : Chosen c keywords f (some (.text text))
  | nowhere (noKeyword : keywords.get? f.name = none)
      (noVariable : ∀ text, ¬Binds c.environment.bindings f text)
      (noBinding : ∀ text, ¬Binds (fileBindings c) f (some text)) : Chosen c keywords f none

variable {c : SettingsContext} {keywords : Keywords} {f : SettingField}

theorem ofEnvironment_eq_some {raw : HostValue} : ofEnvironment c f = some raw ↔
    ∃ text, Binds c.environment.bindings f text ∧ raw = .text text := by
  unfold ofEnvironment
  rw [Option.map_eq_some_iff]
  exact exists_congr fun text => and_congr lookupFolded_eq_some eq_comm

theorem ofFile_eq_some {raw : HostValue} : ofFile c f = some raw ↔
    ∃ text, Binds (fileBindings c) f (some text) ∧ raw = .text text := by
  rw [ofFile_eq, Option.map_eq_some_iff]
  refine exists_congr fun text => and_congr ?_ eq_comm
  rw [Option.join_eq_some_iff, lookupFolded_eq_some]

theorem raw?_chosen (c : SettingsContext) (keywords : Keywords)
    (f : SettingField) : Chosen c keywords f (raw? c keywords f) := by
  -- the sources are asked one after the other, and each answer is the choice of its source
  unfold raw?
  cases hkeyword : keywords.get? f.name with
  | some raw => exact .keyword hkeyword
  | none =>
    cases hvariable : ofEnvironment c f with
    | some raw =>
      obtain ⟨text, given, rfl⟩ := ofEnvironment_eq_some.mp hvariable
      exact .environment hkeyword given
    | none =>
      have noVariable (text : String) : ¬Binds c.environment.bindings f text := fun given =>
        nomatch hvariable.symm.trans (ofEnvironment_eq_some.mpr ⟨text, given, rfl⟩)
      cases hbinding : ofFile c f with
      | some raw =>
        obtain ⟨text, given, rfl⟩ := ofFile_eq_some.mp hbinding
        exact .file hkeyword noVariable given
      | none =>
        exact .nowhere hkeyword noVariable fun text given =>
          nomatch hbinding.symm.trans (ofFile_eq_some.mpr ⟨text, given, rfl⟩)

theorem Chosen.eq_raw? {raw : Option HostValue} (chosen : Chosen c keywords f raw) :
    raw = raw? c keywords f := by
  -- a source that binds no spelling of the variable is passed by
  have noVariable (h : ∀ text, ¬Binds c.environment.bindings f text) :
      ofEnvironment c f = none := by
    cases hvariable : ofEnvironment c f with
    | none => rfl
    | some raw =>
      obtain ⟨text, given, -⟩ := ofEnvironment_eq_some.mp hvariable
      exact absurd given (h text)
  unfold raw?
  cases chosen with
  | keyword given => rw [given]; rfl
  | environment noKeyword given =>
    rw [noKeyword, ofEnvironment_eq_some.mpr ⟨_, given, rfl⟩]
    rfl
  | file noKeyword hnone given =>
    rw [noKeyword, noVariable hnone, ofFile_eq_some.mpr ⟨_, given, rfl⟩]
    rfl
  | nowhere noKeyword hnone noBinding =>
    rw [noKeyword, noVariable hnone]
    cases hbinding : ofFile c f with
    | none => rfl
    | some raw =>
      obtain ⟨text, given, -⟩ := ofFile_eq_some.mp hbinding
      exact absurd given (noBinding text)

theorem chosen_iff {raw : Option HostValue} :
    Chosen c keywords f raw ↔ raw? c keywords f = raw :=
  ⟨fun chosen => chosen.eq_raw?.symm, fun h => h ▸ raw?_chosen c keywords f⟩

section Fields

variable {raw? : SettingField → Option HostValue} {s : Settings}
  {faults : List (SettingField × SettingFault)}

/-- A field as it is made of the raw value that was found for it. -/
def fieldOf (f : SettingField) (raw : Option HostValue) : Except SettingFault f.Value :=
  field f.rule (default.get f) raw

theorem fieldOf_none (f : SettingField) : fieldOf f none = .ok (default.get f) := rfl

theorem fieldOf_some (f : SettingField) (raw : HostValue) : fieldOf f (some raw) = f.rule raw := rfl

theorem fieldOf_eq_error {f : SettingField} {raw : Option HostValue} {fault : SettingFault} :
    fieldOf f raw = .error fault ↔ ∃ value, raw = some value ∧ f.rule value = .error fault := by
  cases raw with
  | none => simp [fieldOf_none]
  | some value => simp [fieldOf_some]

theorem mem_faultOf {f g : SettingField} {result : Except SettingFault α} {fault : SettingFault} :
    (g, fault) ∈ faultOf f result ↔ g = f ∧ result = .error fault := by
  cases result with
  | ok value => simp [faultOf]
  | error other => simp [faultOf, eq_comm]

/-- The faults of the fields in their order. -/
def faultsOf (raw? : SettingField → Option HostValue) : List (SettingField × SettingFault) :=
  SettingField.all.flatMap fun f => faultOf f (fieldOf f (raw? f))

theorem mem_faultsOf {f : SettingField} {fault : SettingFault} :
    (f, fault) ∈ faultsOf raw? ↔ fieldOf f (raw? f) = .error fault := by
  unfold faultsOf
  rw [List.mem_flatMap]
  constructor
  · rintro ⟨g, -, hfault⟩
    obtain ⟨rfl, hfails⟩ := mem_faultOf.mp hfault
    exact hfails
  · exact fun hfails => ⟨f, f.mem_all, mem_faultOf.mpr ⟨rfl, hfails⟩⟩

theorem map_faultsOf_sublist : ((faultsOf raw?).map Prod.fst).Sublist SettingField.all := by
  unfold faultsOf
  induction SettingField.all with
  | nil => exact .slnil
  | cons f rest ih =>
    rw [List.flatMap_cons, List.map_append]
    cases fieldOf f (raw? f) with
    | ok value => exact ih.cons f
    | error fault => exact ih.cons_cons f

/-- Settings are made if all fields are valid, and else all faults are reported. -/
theorem ofRaw_cases (raw? : SettingField → Option HostValue) :
    (∃ s, ofRaw raw? = .ok s ∧ ∀ f, fieldOf f (raw? f) = .ok (s.get f)) ∨
      ofRaw raw? = .error (faultsOf raw?) ∧ ∃ f fault, fieldOf f (raw? f) = .error fault := by
  -- the four fields in their order
  have hfaults : faultsOf raw? = faultOf .optLevel (fieldOf .optLevel (raw? .optLevel)) ++
      faultOf .debugInfo (fieldOf .debugInfo (raw? .debugInfo)) ++
      faultOf .consumeFuel (fieldOf .consumeFuel (raw? .consumeFuel)) ++
      faultOf .fuel (fieldOf .fuel (raw? .fuel)) := by
    simp [faultsOf, SettingField.all]
  unfold ofRaw
  dsimp only
  split
  · next level debug consume fuel hlevel hdebug hconsume hfuel =>
    refine Or.inl ⟨_, rfl, fun f => ?_⟩
    cases f with
    | optLevel => exact hlevel
    | debugInfo => exact hdebug
    | consumeFuel => exact hconsume
    | fuel => exact hfuel
  · next hother =>
    -- if every field were valid, the first case would have applied
    refine Or.inr ⟨congrArg Except.error hfaults.symm, Classical.byContradiction fun hvalid => ?_⟩
    have made (f : SettingField) : ∃ value, fieldOf f (raw? f) = .ok value := by
      cases hfield : fieldOf f (raw? f) with
      | ok value => exact ⟨value, rfl⟩
      | error fault => exact absurd ⟨f, fault, hfield⟩ hvalid
    obtain ⟨level, hlevel⟩ := made .optLevel
    obtain ⟨debug, hdebug⟩ := made .debugInfo
    obtain ⟨consume, hconsume⟩ := made .consumeFuel
    obtain ⟨fuel, hfuel⟩ := made .fuel
    exact hother level debug consume fuel hlevel hdebug hconsume hfuel

theorem fieldOf_of_ok (hmade : ofRaw raw? = .ok s) (f : SettingField) :
    fieldOf f (raw? f) = .ok (s.get f) := by
  rcases ofRaw_cases raw? with ⟨s', hmade', hfields⟩ | ⟨hfailed, -⟩
  · cases hmade.symm.trans hmade'
    exact hfields f
  · exact nomatch hmade.symm.trans hfailed

theorem faults_of_error (hfailed : ofRaw raw? = .error faults) : faults = faultsOf raw? := by
  rcases ofRaw_cases raw? with ⟨s, hmade, -⟩ | ⟨hfailed', -⟩
  · exact nomatch hfailed.symm.trans hmade
  · exact Except.error.inj (hfailed.symm.trans hfailed')

theorem exists_ofRaw_iff :
    (∃ s, ofRaw raw? = .ok s) ↔ ∀ f fault, fieldOf f (raw? f) ≠ .error fault := by
  constructor
  · rintro ⟨s, hmade⟩ f fault hfails
    exact nomatch hfails.symm.trans (fieldOf_of_ok hmade f)
  · intro hvalid
    rcases ofRaw_cases raw? with ⟨s, hmade, -⟩ | ⟨-, f, fault, hfails⟩
    · exact ⟨s, hmade⟩
    · exact absurd hfails (hvalid f fault)

theorem integer_of_fuelOf {raw : HostValue} {n : Nat} (hfuel : fuelOf raw = .ok n) :
    integer raw = .ok (n : Int) := by
  unfold fuelOf at hfuel
  cases hinteger : integer raw with
  | error fault =>
    rw [hinteger] at hfuel
    cases hfuel
  | ok k =>
    rw [hinteger] at hfuel
    change (if k < 0 then .error .negative else .ok k.toNat : Except SettingFault Nat) = _ at hfuel
    split at hfuel
    · cases hfuel
    · cases hfuel
      rw [Int.toNat_of_nonneg (by omega)]

theorem named?_eq_some {name : String} {level : OptLevel} :
    OptLevel.named? name = some level ↔ name = level.name := by
  unfold OptLevel.named?
  constructor
  · intro hnamed
    -- the three names are tried one after the other
    split at hnamed
    · next h => cases hnamed; exact h
    split at hnamed
    · next h => cases hnamed; exact h
    split at hnamed
    · next h => cases hnamed; exact h
    · cases hnamed
  · rintro rfl
    cases level <;> rfl

/-- A raw value spells a text: it is the text, or the bytes of it. -/
inductive Spells : HostValue → String → Prop where
  | text (text : String) : Spells (.text text) text
  | bytes {bytes : List UInt8} {text : String} (hspelled : spelled? bytes = some text) :
      Spells (.bytes bytes) text

theorem spells_of_levelOf {raw : HostValue} {level : OptLevel} (hlevel : levelOf raw = .ok level) :
    Spells raw level.name := by
  unfold levelOf at hlevel
  dsimp only at hlevel
  -- a level is read from a text, or from bytes that are one
  split at hlevel
  · next found hfound =>
    cases hlevel
    obtain ⟨text, htext, hnamed⟩ := Option.bind_eq_some_iff.mp hfound
    rw [named?_eq_some] at hnamed
    subst hnamed
    split at htext
    · cases htext
      exact .text _
    · exact .bytes htext
    · cases htext
  · cases hlevel

end Fields

/-- Names that a field depends on: all spellings of its variable, and whatever the values that the
file has for some of the names refer to. -/
structure Covers (c : SettingsContext) (f : SettingField) (names : String → Bool) : Prop where
  spelled {name : String} (hname : lower name = variableName f) : names name = true
  closed : Dotenv.Closed names (statements c)

/-- Two surroundings have the same for some names. -/
structure SameOn (names : String → Bool) (c c' : SettingsContext) : Prop where
  environment : Dotenv.only names c'.environment.bindings =
    Dotenv.only names c.environment.bindings
  file : Dotenv.only names (statements c') = Dotenv.only names (statements c)

-- What a field takes is the same as long as its keyword and the names are that it depends on.
theorem raw?_congr {c c' : SettingsContext} {keywords keywords' : Keywords}
    {f : SettingField} {names : String → Bool} (covers : Covers c f names)
    (same : SameOn names c c') (keyword : keywords'.get? f.name = keywords.get? f.name) :
    raw? c' keywords' f = raw? c keywords f := by
  -- the same variable is found, since the environments have the same names among those that count
  have hvariable : lookupFolded c'.environment.bindings (variableName f) =
      lookupFolded c.environment.bindings (variableName f) := by
    rw [← lookupFolded_only (fun _ => covers.spelled), same.environment,
      lookupFolded_only (fun _ => covers.spelled)]
  have agree (name : String) (hname : names name = true) :
      c'.environment.get? name = c.environment.get? name := by
    unfold Environment.get?
    rw [← Dotenv.lookup_only hname, same.environment, Dotenv.lookup_only hname]
  -- what the names are bound to in the one file they are bound to in the other
  have hfile : Dotenv.only names (fileBindings c') = Dotenv.only names (fileBindings c) := by
    have closed' : Dotenv.Closed names (statements c') := by
      intro name value reference hmem hname refers
      have honly : (name, some value) ∈ Dotenv.only names (statements c') :=
        List.mem_filter.mpr ⟨hmem, hname⟩
      rw [same.file] at honly
      exact covers.closed (List.mem_filter.mp honly).1 hname refers
    unfold fileBindings
    rw [Dotenv.only_foldl agree closed', same.file,
      ← Dotenv.only_foldl (fun _ _ => rfl) covers.closed]
  have hbinding : lookupFolded (fileBindings c') (variableName f) =
      lookupFolded (fileBindings c) (variableName f) := by
    rw [← lookupFolded_only (fun _ => covers.spelled), hfile,
      lookupFolded_only (fun _ => covers.spelled)]
  unfold raw? ofEnvironment
  rw [keyword, hvariable, ofFile_eq, ofFile_eq, hbinding]

/-- How settings come of keywords, the environment and the file of bindings. -/
structure MadeFromSources (c : SettingsContext) (keywords : Keywords) : Prop where
  chosen (f : SettingField) : ∃! raw, Chosen c keywords f raw
  succeeds : (∃ s, make c keywords = .ok s) ↔
    ∀ f raw, Chosen c keywords f (some raw) → ∃ value, f.rule raw = .ok value
  given {s : Settings} (hmade : make c keywords = .ok s) {f : SettingField} {raw : HostValue}
    (chosen : Chosen c keywords f (some raw)) : f.rule raw = .ok (s.get f)
  default {s : Settings} (hmade : make c keywords = .ok s) {f : SettingField}
    (chosen : Chosen c keywords f none) : s.get f = default.get f
  faults {faults : List (SettingField × SettingFault)} (hfailed : make c keywords = .error faults) :
    (faults.map Prod.fst).Sublist SettingField.all ∧ ∀ f fault, (f, fault) ∈ faults ↔
      ∃ raw, Chosen c keywords f (some raw) ∧ f.rule raw = .error fault
  level {s : Settings} (hmade : make c keywords = .ok s) : s.optLevel ∈ OptLevel.all ∧
    ∀ raw, Chosen c keywords .optLevel (some raw) → Spells raw s.optLevel.name
  fuel {s : Settings} (hmade : make c keywords = .ok s) {raw : HostValue}
    (chosen : Chosen c keywords .fuel (some raw)) : ∃ n, integer raw = .ok n ∧ 0 ≤ n ∧ n = s.fuel
  independent {f : SettingField} {names : String → Bool} (covers : Covers c f names)
    {c' : SettingsContext} (same : SameOn names c c') {keywords' : Keywords}
    (keyword : keywords'.get? f.name = keywords.get? f.name) (raw : Option HostValue) :
    Chosen c' keywords' f raw ↔ Chosen c keywords f raw

/-- Whatever the keywords and the surroundings are, each field takes the value of the first source
that gives one, and settings are made if all that are taken are valid. A field depends on its
keyword, on its variable, and on the names that its values in the file refer to. -/
theorem make_from_sources (c : SettingsContext) (keywords : Keywords) :
    MadeFromSources c keywords where
  chosen f := ⟨_, raw?_chosen c keywords f, fun _ chosen => chosen.eq_raw?⟩
  -- a field is valid if the value that is chosen for it passes its rule
  succeeds := by
    refine exists_ofRaw_iff.trans (forall_congr' fun f => ?_)
    constructor
    · intro hvalid raw chosen
      cases hrule : f.rule raw with
      | ok value => exact ⟨value, rfl⟩
      | error fault =>
        exact absurd (fieldOf_eq_error.mpr ⟨raw, chosen.eq_raw?.symm, hrule⟩) (hvalid fault)
    · intro hvalid fault hfails
      obtain ⟨raw, hraw, hrule⟩ := fieldOf_eq_error.mp hfails
      obtain ⟨value, hvalue⟩ := hvalid raw (chosen_iff.mpr hraw)
      exact nomatch hrule.symm.trans hvalue
  given {s} hmade {f} {raw} chosen := by
    have hfield := fieldOf_of_ok hmade f
    rwa [← chosen.eq_raw?, fieldOf_some] at hfield
  default {s} hmade {f} chosen := by
    have hfield := fieldOf_of_ok hmade f
    rw [← chosen.eq_raw?, fieldOf_none] at hfield
    exact (Except.ok.inj hfield).symm
  faults {faults} hfailed := by
    cases faults_of_error hfailed
    refine ⟨map_faultsOf_sublist, fun f fault => ?_⟩
    rw [mem_faultsOf, fieldOf_eq_error]
    exact exists_congr fun raw => and_congr_left fun _ => chosen_iff.symm
  -- the level of the settings is one of the three, and it was spelled out if it was chosen
  level {s} hmade := by
    refine ⟨by cases s.optLevel <;> decide, fun raw chosen => ?_⟩
    have hfield := fieldOf_of_ok hmade .optLevel
    rw [← chosen.eq_raw?, fieldOf_some] at hfield
    exact spells_of_levelOf hfield
  fuel {s} hmade {raw} chosen := by
    have hfield := fieldOf_of_ok hmade .fuel
    rw [← chosen.eq_raw?, fieldOf_some] at hfield
    exact ⟨s.fuel, integer_of_fuelOf hfield, Int.natCast_nonneg _, rfl⟩
  independent {_ _} covers {_} same {_} keyword raw := by
    rw [chosen_iff, chosen_iff, raw?_congr covers same keyword]

/-- A variable that is of no field counts where the file refers to it. -/
theorem unrelated_variable_counts :
    let file := some (Dotenv.statements "WASM_EMBED_FUEL=$\x7bWASM_EMBED_LIMIT:-7\x7d\n")
    (∀ f, lower "WASM_EMBED_LIMIT" ≠ variableName f) ∧
      make ⟨⟨[("WASM_EMBED_LIMIT", "5")]⟩, file⟩ .empty = .ok ⟨.speed, false, false, 5⟩ ∧
      make ⟨.empty, file⟩ .empty = .ok ⟨.speed, false, false, 7⟩ := by
  intro file
  have hmade {c : SettingsContext} {s : Settings} (h : (make c .empty).toOption = some s) :
      make c .empty = .ok s := by
    cases hmake : make c .empty with
    | error faults => rw [hmake] at h; cases h
    | ok s' => rw [hmake] at h; cases h; rfl
  refine ⟨fun f => ?_, hmade (by decide +kernel), hmade (by decide +kernel)⟩
  cases f <;> decide +kernel

end Settings
end WasmHost
