import WasmHost.Proofs.NumeralTexts
import WasmHost.Value
/-!
The texts of tagged values.

The text of a value is its kind, a colon, and a numeral. No kind has a colon in its name, so the
numeral is what stands behind the first one; and the numeral is read as the payload again. Two
values of one text are therefore the same value.
-/
namespace WasmHost

/-- What stands behind the first colon of a text. -/
def Text.afterColon (s : String) : String :=
  String.ofList ((s.toList.dropWhile (· ≠ ':')).drop 1)

/-- What stands before the first colon of a text. -/
def Text.beforeColon (s : String) : String := String.ofList (s.toList.takeWhile (· ≠ ':'))

theorem Text.split_at_colon {s : String} (t : String) (hs : ':' ∉ s.toList) :
    beforeColon (s ++ ":" ++ t) = s ∧ afterColon (s ++ ":" ++ t) = t := by
  have hbefore : ∀ c ∈ s.toList, decide (c ≠ ':') = true :=
    fun c hc => decide_eq_true fun hcolon => hs (hcolon ▸ hc)
  have htext : (s ++ ":" ++ t).toList = s.toList ++ ':' :: t.toList := by
    rw [String.toList_append, String.toList_append, List.append_assoc]
    rfl
  rw [beforeColon, afterColon, htext, List.takeWhile_append_of_pos hbefore,
    List.dropWhile_append_of_pos hbefore]
  exact ⟨by simp, by simp⟩

theorem NumericKind.colon_not_mem_name (k : NumericKind) : ':' ∉ k.name.toList := by
  cases k <;> decide

open Numeral

theorem isWritable_iff {n : Int} :
    isWritable n = true ↔ Decimal.digitCount n.natAbs ≤ digitLimit := by
  rw [isWritable, decide_eq_true_iff, Decimal.digitCount_le_iff (by decide)]

theorem toString_eq_withSign (n : Int) :
    toString n = String.ofList (withSign (decide (n < 0)) (Decimal.digits n.natAbs)) := by
  apply String.toList_inj.mp
  rw [String.toList_ofList, Int.toString_eq_repr, Int.repr_eq_if]
  by_cases hneg : n < 0
  · have habs : (-n).toNat = n.natAbs := by omega
    rw [if_neg (by omega), decide_eq_true hneg, habs, String.toList_append, Nat.toList_repr]
    rfl
  · have habs : n.toNat = n.natAbs := by omega
    rw [if_pos (by omega), decide_eq_false hneg, habs, Nat.toList_repr]
    rfl

theorem readInt_toString {n : Int} (short : Decimal.digitCount n.natAbs ≤ digitLimit) :
    readInt (fold (toString n)) = .ok n := by
  -- the digits are plain characters, so that they are read as they stand
  have hplain : ∀ c ∈ Decimal.digits n.natAbs, isPlain c = true :=
    fun c hc => isPlain_of_isDigit (isDigit_of_mem_digits hc)
  rw [toString_eq_withSign, fold_ofList (isPlain_withSign _ hplain), readInt_digits _ short, signed]
  by_cases hneg : n < 0
  · rw [decide_eq_true hneg, if_pos rfl]
    congr 1
    omega
  · rw [decide_eq_false hneg, if_neg Bool.false_ne_true]
    congr 1
    omega

namespace Value

/-- Values with a payload of their kind: an integer of at most 4300 digits, or a floating-point
number other than NaN. -/
inductive Proper : Value → Prop where
  | integer {k : NumericKind} (hk : k.isInteger = true) {n : Int}
      (short : Decimal.digitCount n.natAbs ≤ 4300) : Proper ⟨.ofNumeric k, .integer n⟩
  | float {k : NumericKind} (hk : k.isInteger = false) {x : Double} (number : x.isNaN = false) :
      Proper ⟨.ofNumeric k, .float x⟩

variable {v : Value}

-- A payload is the one made from its own text.
theorem Proper.payload_read (proper : v.Proper) :
    ∃ s, v.payload.text? = some s ∧ ofHost v.kind (.text s) = .ok (some v) := by
  cases proper with
  | @integer k hk n short =>
    -- the text of the payload is read by the conversion that made the payload
    have htext : integerText? n = some (toString n) := if_pos (isWritable_iff.mpr short)
    have hread : (HostValue.text (toString n)).asInteger = .ok n := by
      rw [HostValue.asInteger, coerceInt, readInt_toString short]
    refine ⟨toString n, htext, ?_⟩
    rw [ofHost, ValueKind.numeric?_ofNumeric]
    simp only [hk, if_true, hread, Except.map]
  | @float k hk x number =>
    have hread : (HostValue.text x.text).asFloat = .ok x := by
      rw [HostValue.asFloat, coerceFloat, Floating.text_read number]
    refine ⟨x.text, rfl, ?_⟩
    rw [ofHost, ValueKind.numeric?_ofNumeric]
    simp only [hk, Bool.false_eq_true, if_false, hread, Except.map]

-- The text of a value is its kind, a colon and the text of its payload, and comes apart at the
-- first colon.
theorem Proper.text_splits (proper : v.Proper) :
    ∃ text, v.text? = some text ∧ Text.beforeColon text = v.kind.name ∧
      ofHost v.kind (.text (Text.afterColon text)) = .ok (some v) := by
  obtain ⟨s, hs, hread⟩ := proper.payload_read
  -- no name of a kind has a colon, so that the first one is the one between
  have hkind : ':' ∉ v.kind.name.toList := by
    cases proper with
    | @integer k => exact k.colon_not_mem_name
    | @float k => exact k.colon_not_mem_name
  obtain ⟨hbefore, hafter⟩ := Text.split_at_colon s hkind
  refine ⟨v.kind.name ++ ":" ++ s, ?_, hbefore, ?_⟩
  · rw [text?, hs, Option.map_some]
  · rw [hafter, hread]

theorem Proper.equal_self (proper : v.Proper) : v.equal v = .ok true := by
  rw [equal, if_pos rfl]
  cases proper with
  | integer => simp [HostValue.equal, HostValue.isSpread, HostValue.quantity?, Quantity.equal]
  | float hk number =>
    simp [HostValue.equal, HostValue.isSpread, HostValue.quantity?, Quantity.equal,
      Floating.equalValue, number]

/-- The text of a value identifies it: the value is made again from its kind and what stands behind
the first colon, and no other value has this text. -/
theorem text_identifies (proper : v.Proper) :
    ∃ text, v.text? = some text ∧
      (∃ w, ofHost v.kind (.text (Text.afterColon text)) = .ok (some w) ∧
        w.equal v = .ok true ∧ w = v) ∧
      ∀ w : Value, w.Proper → w.text? = some text → w = v := by
  obtain ⟨text, htext, hbefore, hread⟩ := proper.text_splits
  refine ⟨text, htext, ⟨v, hread, proper.equal_self, rfl⟩, ?_⟩
  intro w proper' htext'
  -- two values of one text have the same kind and the same payload
  obtain ⟨text', htext'', hbefore', hread'⟩ := proper'.text_splits
  obtain rfl : text' = text := Option.some.inj (htext''.symm.trans htext')
  have hkind : w.kind = v.kind := by
    obtain ⟨⟨name⟩, _⟩ := w
    obtain ⟨⟨name'⟩, _⟩ := v
    exact congrArg ValueKind.mk (hbefore'.symm.trans hbefore)
  rw [hkind, hread] at hread'
  exact (Option.some.inj (Except.ok.inj hread')).symm

/-- The least positive double with a minus, as a value of single width. -/
theorem text_identifies_least :
    let v : Value := ⟨.ofNumeric .f32, .float ⟨true, 1, by decide⟩⟩
    v.Proper ∧ v.text? = some "f32:-5e-324" ∧
      ofHost v.kind (.text "-5e-324") = .ok (some v) := by
  intro v
  have proper : v.Proper := .float rfl rfl
  obtain ⟨text, htext, ⟨w, hread, -, rfl⟩, -⟩ := text_identifies proper
  have hleast : v.text? = some "f32:-5e-324" := by decide +kernel
  obtain rfl : text = "f32:-5e-324" := Option.some.inj (htext.symm.trans hleast)
  exact ⟨proper, hleast, hread⟩

end Value
end WasmHost
