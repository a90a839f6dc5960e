import WasmHost.Invocation
/-!
Which arguments suit which kinds, and what is wrong with the others.

Both are stated as relations, apart from the checks. The checks find a fault exactly when an
argument does not suit its kind, and the fault they find is the one that the relation describes.
-/
namespace WasmHost

/-- A host value is an integer, plain or of fixed width. Truth values are not. -/
inductive HostValue.DenotesInteger : HostValue → Int → Prop where
  | plain (n : Int) : DenotesInteger (.integer n) n
  | scalar (t : IntegerType) (n : Int) : DenotesInteger (.scalar (.integer t n)) n

/-- A host value is a floating-point number, plain or of fixed width. -/
inductive HostValue.IsFloatingPoint : HostValue → Prop where
  | plain (x : Double) : IsFloatingPoint (.float x)
  | half (x : Floating .half) : IsFloatingPoint (.scalar (.half x))
  | single (x : Floating .single) : IsFloatingPoint (.scalar (.single x))
  | double (x : Double) : IsFloatingPoint (.scalar (.double x))
  | extended (x : Floating .extended) : IsFloatingPoint (.scalar (.extended x))

/-- An argument suits a kind: an integer suits an integer kind in whose range it lies, and a
floating-point number suits the two floating-point kinds. Nothing suits any other kind. -/
inductive Suits : ValueKind → HostValue → Prop where
  | integer {k : NumericKind} {a : HostValue} {n : Int} (hk : k.isInteger = true)
      (ha : a.DenotesInteger n) (low : k.least ≤ n) (high : n ≤ k.greatest) :
      Suits (.ofNumeric k) a
  | floating {k : NumericKind} {a : HostValue} (hk : k.isInteger = false)
      (ha : a.IsFloatingPoint) : Suits (.ofNumeric k) a

/-- What is wrong with an argument that does not suit the kind at its position. -/
inductive Misfit (function : String) (position : Int) : ValueKind → HostValue → Fault → Prop where
  | unsupported {kind : ValueKind} {a : HostValue} (hk : ∀ k, kind ≠ .ofNumeric k) :
      Misfit function position kind a (.unsupportedKind function position kind.name)
  | notAnInteger {k : NumericKind} {a : HostValue} (hk : k.isInteger = true)
      (ha : ∀ n, ¬a.DenotesInteger n) :
      Misfit function position (.ofNumeric k) a
        (.argumentType function position k.name (some "integer"))
  | outOfRange {k : NumericKind} {a : HostValue} {n : Int} (hk : k.isInteger = true)
      (ha : a.DenotesInteger n) (hn : n < k.least ∨ k.greatest < n) (short : isWritable n = true) :
      Misfit function position (.ofNumeric k) a
        (.argumentType function position k.name (some (toString n ++ " is out of range")))
  | outOfRangeAndLong {k : NumericKind} {a : HostValue} {n : Int} (hk : k.isInteger = true)
      (ha : a.DenotesInteger n) (hn : n < k.least ∨ k.greatest < n) (long : isWritable n = false) :
      Misfit function position (.ofNumeric k) a (.plain .integerTooLong)
  | notAFloat {k : NumericKind} {a : HostValue} (hk : k.isInteger = false)
      (ha : ¬a.IsFloatingPoint) :
      Misfit function position (.ofNumeric k) a
        (.argumentType function position k.name (some "float"))

theorem toInteger?_eq_some_iff {a : HostValue} {n : Int} :
    a.toInteger? = some n ↔ a.DenotesInteger n := by
  constructor
  · intro h
    unfold HostValue.toInteger? at h
    split at h
    · cases h
      exact .plain _
    · cases h
      exact .scalar _ _
    · cases h
  · intro h
    cases h <;> rfl

theorem toInteger?_eq_none_iff {a : HostValue} :
    a.toInteger? = none ↔ ∀ n, ¬a.DenotesInteger n := by
  rw [Option.eq_none_iff_forall_ne_some]
  exact forall_congr' fun n => not_congr toInteger?_eq_some_iff

theorem isFloating_iff {a : HostValue} : a.isFloating = true ↔ a.IsFloatingPoint := by
  constructor
  · intro h
    unfold HostValue.isFloating HostValue.toFloat? at h
    split at h
    · exact .plain _
    · rename_i s
      cases s with
      | half x => exact .half x
      | single x => exact .single x
      | double x => exact .double x
      | extended x => exact .extended x
      | truth b => cases h
      | integer t n => cases h
    · cases h
  · intro h
    cases h <;> rfl

theorem ofNumeric_injective {k l : NumericKind}
    (h : ValueKind.ofNumeric k = ValueKind.ofNumeric l) : k = l := by
  have hk := congrArg ValueKind.numeric? h
  rw [ValueKind.numeric?_ofNumeric, ValueKind.numeric?_ofNumeric] at hk
  exact Option.some.inj hk

theorem numeric?_eq_none_iff {kind : ValueKind} :
    kind.numeric? = none ↔ ∀ k, kind ≠ .ofNumeric k := by
  rw [Option.eq_none_iff_forall_ne_some]
  exact forall_congr' fun k => not_congr ValueKind.numeric?_eq_some_iff

theorem suits_integer_iff {k : NumericKind} (hk : k.isInteger = true) {a : HostValue} :
    Suits (.ofNumeric k) a ↔ ∃ n, a.DenotesInteger n ∧ k.inRange n = true := by
  simp only [NumericKind.inRange, Bool.and_eq_true, decide_eq_true_eq]
  constructor
  · rintro h
    generalize hkind : ValueKind.ofNumeric k = kind at h
    cases h with
    | integer _ ha low high =>
      obtain rfl := ofNumeric_injective hkind
      exact ⟨_, ha, low, high⟩
    | floating hk' _ =>
      obtain rfl := ofNumeric_injective hkind
      rw [hk] at hk'
      cases hk'
  · rintro ⟨n, ha, low, high⟩
    exact .integer hk ha low high

theorem suits_floating_iff {k : NumericKind} (hk : k.isInteger = false) {a : HostValue} :
    Suits (.ofNumeric k) a ↔ a.IsFloatingPoint := by
  constructor
  · rintro h
    generalize hkind : ValueKind.ofNumeric k = kind at h
    cases h with
    | integer hk' _ _ _ =>
      obtain rfl := ofNumeric_injective hkind
      rw [hk] at hk'
      cases hk'
    | floating _ ha => exact ha
  · exact .floating hk

theorem not_suits_of_unsupported {kind : ValueKind} (hk : ∀ k, kind ≠ .ofNumeric k)
    (a : HostValue) : ¬Suits kind a := by
  intro h
  cases h with
  | integer _ _ _ _ => exact hk _ rfl
  | floating _ _ => exact hk _ rfl

theorem DenotesInteger_unique {a : HostValue} {m n : Int} (hm : a.DenotesInteger m)
    (hn : a.DenotesInteger n) : m = n :=
  Option.some.inj ((toInteger?_eq_some_iff.mpr hm).symm.trans (toInteger?_eq_some_iff.mpr hn))

/-- The check of an argument finds nothing wrong exactly when the argument suits its kind, and
otherwise finds what is wrong. -/
theorem argumentFault?_spec (function : String) (position : Int) (kind : ValueKind)
    (a : HostValue) :
    match argumentFault? function position kind a with
    | none => Suits kind a
    | some fault => ¬Suits kind a ∧ Misfit function position kind a fault := by
  unfold argumentFault?
  cases hk : kind.numeric? with
  | none =>
    have hkind := numeric?_eq_none_iff.mp hk
    exact ⟨not_suits_of_unsupported hkind a, .unsupported hkind⟩
  | some k =>
    obtain rfl := ValueKind.numeric?_eq_some_iff.mp hk
    dsimp only
    cases hi : k.isInteger with
    | true =>
      -- a number out of range is shown in the fault, unless it is too long to be written
      have hd : k.description = "integer" := by simp only [NumericKind.description, hi, if_true]
      rw [if_pos rfl, suits_integer_iff hi]
      cases ha : a.toInteger? with
      | none =>
        have hno := toInteger?_eq_none_iff.mp ha
        rw [hd]
        exact ⟨fun ⟨n, hn, _⟩ => hno n hn, .notAnInteger hi hno⟩
      | some n =>
        have hn := toInteger?_eq_some_iff.mp ha
        dsimp only
        by_cases hr : k.inRange n = true
        · rw [if_pos hr]
          exact ⟨n, hn, hr⟩
        · have hout : n < k.least ∨ k.greatest < n := by
            simp only [NumericKind.inRange, Bool.and_eq_true, decide_eq_true_eq] at hr
            omega
          have hnot : ¬∃ m, a.DenotesInteger m ∧ k.inRange m = true := by
            rintro ⟨m, hm, hr'⟩
            rw [DenotesInteger_unique hm hn] at hr'
            exact hr hr'
          rw [if_neg hr]
          cases hw : isWritable n with
          | true =>
            rw [integerText?, hw, if_pos rfl]
            exact ⟨hnot, .outOfRange hi hn hout hw⟩
          | false =>
            rw [integerText?, hw, if_neg Bool.false_ne_true]
            exact ⟨hnot, .outOfRangeAndLong hi hn hout hw⟩
    | false =>
      have hd : k.description = "float" := by
        simp only [NumericKind.description, hi, Bool.false_eq_true, if_false]
      rw [if_neg Bool.false_ne_true, suits_floating_iff hi]
      by_cases ha : a.isFloating = true
      · rw [if_pos ha]
        exact isFloating_iff.mp ha
      · have hno : ¬a.IsFloatingPoint := fun h => ha (isFloating_iff.mpr h)
        rw [if_neg ha, hd]
        exact ⟨hno, .notAFloat hi hno⟩

end WasmHost
