import Mathlib.Data.List.TakeWhile
import WasmHost.Decimal.Reading
import WasmHost.Proofs.NearestNumerals
/-!
Numerals that are written are read back.

A written numeral is made of digits and of a few other characters, none of which is changed or taken
away before it is read. An integer is read from its digits. A number with a point is written from
the digits that count and the position of its point, with zeros that fill up the places to the
point; the numeral that is read has the same value, whether it is written positionally or with an
exponent.
-/
namespace WasmHost

/-- Nothing is trimmed from a text without blanks. -/
theorem Text.trim_eq_self {blank : Char → Bool} {cs : List Char} (h : ∀ c ∈ cs, blank c = false) :
    trim blank cs = cs := by
  have hdrop (l : List Char) (hl : ∀ c ∈ l, blank c = false) : l.dropWhile blank = l := by
    cases l with
    | nil => rfl
    | cons c l => rw [List.dropWhile_cons_of_neg (by rw [hl c List.mem_cons_self]; decide)]
  rw [trim, hdrop cs h, hdrop _ fun c hc => h c (List.mem_reverse.mp hc), List.reverse_reverse]

namespace Numeral

/-- A character that stands for itself in a numeral, wherever it is. -/
def isPlain (c : Char) : Bool := 33 ≤ c.toNat && c.toNat < 127 && c ≠ '_'

variable {cs ds whole fraction tail : List Char} {c : Char}

theorem isPlain_iff : isPlain c = true ↔ 33 ≤ c.toNat ∧ c.toNat < 127 ∧ c ≠ '_' := by
  simp only [isPlain, Bool.and_eq_true, decide_eq_true_iff, and_assoc]

theorem isPlain_of_isDigit (hc : c.isDigit = true) : isPlain c = true := by
  have hrange : 48 ≤ c.toNat ∧ c.toNat ≤ 57 := Char.isDigit_iff_toNat.mp hc
  refine isPlain_iff.mpr ⟨by omega, by omega, ?_⟩
  rintro rfl
  exact absurd hc (by decide)

theorem fold_ofList (h : ∀ c ∈ cs, isPlain c = true) : fold (String.ofList cs) = cs := by
  -- folding and trimming keep plain characters, and no plain character is a blank
  have hfold : cs.map foldChar = cs := by
    refine (List.map_congr_left fun c hc => ?_).trans (List.map_id cs)
    exact if_pos (isPlain_iff.mp (h c hc)).2.1
  rw [fold, String.toList_ofList, hfold]
  apply Text.trim_eq_self
  intro c hc
  have hlow := (isPlain_iff.mp (h c hc)).1
  have hspace : c ≠ ' ' := by
    rintro rfl
    exact absurd hlow (by decide)
  rw [isAsciiBlank, decide_eq_false hspace, Bool.false_or, Bool.and_eq_false_iff]
  exact Or.inr (decide_eq_false (by omega))

theorem joinDigits_of_plain (afterDigit : Bool) (h : ∀ c ∈ cs, isPlain c = true) :
    joinDigits afterDigit cs = some cs := by
  induction cs generalizing afterDigit with
  | nil => rfl
  | cons c cs ih =>
    rw [joinDigits]
    · rw [ih c.isDigit fun k hk => h k (List.mem_cons_of_mem _ hk), Option.map_some]
    · exact (isPlain_iff.mp (h c List.mem_cons_self)).2.2

/-- Characters behind the sign that a number has if it is negative. -/
def withSign (negative : Bool) (cs : List Char) : List Char := if negative then '-' :: cs else cs

theorem splitSign_withSign (negative : Bool) (hc : c.isDigit = true) :
    splitSign (withSign negative (c :: cs)) = (negative, c :: cs) := by
  cases negative with
  | true => rfl
  | false =>
    rw [withSign, if_neg Bool.false_ne_true, splitSign]
    · rintro rest heq
      cases heq
      exact absurd hc (by decide)
    · rintro rest heq
      cases heq
      exact absurd hc (by decide)

theorem isPlain_withSign (negative : Bool) (h : ∀ c ∈ cs, isPlain c = true) :
    ∀ c ∈ withSign negative cs, isPlain c = true := by
  cases negative with
  | true => exact List.forall_mem_cons.mpr ⟨rfl, h⟩
  | false => exact h

theorem digitsValue_append (ds es : List Char) :
    digitsValue (ds ++ es) = 10 ^ es.length * digitsValue ds + digitsValue es :=
  (Nat.ofDigitChars_append 0).trans Nat.ofDigitChars_eq_ofDigitChars_zero

theorem digitsValue_zeros (n : Nat) : digitsValue (List.replicate n '0') = 0 :=
  Nat.ofDigitChars_replicate_zero

theorem digitsValue_digits (n : Nat) : digitsValue (Decimal.digits n) = n :=
  Nat.ofDigitChars_ten_toDigits

theorem isDigit_of_mem_digits {n : Nat} (hc : c ∈ Decimal.digits n) : c.isDigit = true :=
  Nat.isDigit_of_mem_toDigits (by decide) (by decide) hc

theorem exists_digits (n : Nat) : ∃ c ds, Decimal.digits n = c :: ds ∧ c.isDigit = true := by
  have nonempty : Decimal.digits n ≠ [] := Nat.toDigits_ne_nil
  obtain ⟨c, ds, hdigits⟩ := List.exists_cons_of_ne_nil nonempty
  exact ⟨c, ds, hdigits, isDigit_of_mem_digits (hdigits ▸ List.mem_cons_self)⟩

-- The integer of some digits behind a sign, unless they are too many.
theorem readInt_digits (negative : Bool) {n : Nat} (short : Decimal.digitCount n ≤ digitLimit) :
    readInt (withSign negative (Decimal.digits n)) = .ok (signed negative n) := by
  obtain ⟨c, ds, hdigits, hc⟩ := exists_digits n
  have hplain : ∀ c ∈ Decimal.digits n, isPlain c = true :=
    fun c hc => isPlain_of_isDigit (isDigit_of_mem_digits hc)
  have hrun : (Decimal.digits n).takeWhile (fun c => c.isDigit || c = '_') = Decimal.digits n :=
    List.takeWhile_eq_self_iff.mpr fun c hc => by rw [isDigit_of_mem_digits hc, Bool.true_or]
  have hsign : splitSign (withSign negative (Decimal.digits n)) = (negative, Decimal.digits n) := by
    rw [hdigits]
    exact splitSign_withSign negative hc
  -- the digits are read up to the end, are not too many, and have their value
  have hempty : (Decimal.digits n).isEmpty = false := by rw [hdigits, List.isEmpty_cons]
  have hcount : ¬ digitLimit < (Decimal.digits n).length := not_lt.mpr short
  rw [readInt, hsign]
  simp only [hrun, joinDigits_of_plain false hplain, hcount, hempty, if_false, lt_irrefl,
    decide_false, Bool.or_false, Bool.false_eq_true, digitsValue_digits]

theorem span_digits (hds : ∀ c ∈ ds, c.isDigit = true)
    (htail : ∀ c ∈ tail.head?, c.isDigit = false) :
    (ds ++ tail).takeWhile Char.isDigit = ds ∧ (ds ++ tail).dropWhile Char.isDigit = tail := by
  rw [List.takeWhile_append_of_pos hds, List.dropWhile_append_of_pos hds]
  cases tail with
  | nil => exact ⟨List.append_nil ds, rfl⟩
  | cons c tail =>
    have hc : ¬ c.isDigit = true := by rw [htail c rfl]; decide
    rw [List.takeWhile_cons_of_neg hc, List.dropWhile_cons_of_neg hc]
    exact ⟨List.append_nil ds, rfl⟩

-- A numeral with a point behind some digits.
theorem readDecimal?_point (hwhole : ∀ c ∈ whole, c.isDigit = true) (nonempty : whole ≠ [])
    (hfraction : ∀ c ∈ fraction, c.isDigit = true) (htail : ∀ c ∈ tail.head?, c.isDigit = false) :
    readDecimal? (whole ++ '.' :: (fraction ++ tail)) =
      (readExponent? tail).map fun e => ⟨digitsValue (whole ++ fraction), e - fraction.length⟩ := by
  have hpoint : ∀ c ∈ ('.' :: (fraction ++ tail)).head?, c.isDigit = false := by
    rintro c ⟨⟩
    decide
  obtain ⟨htake, hdrop⟩ := span_digits hwhole hpoint
  obtain ⟨htake', hdrop'⟩ := span_digits hfraction htail
  have hempty : whole.isEmpty = false := List.isEmpty_eq_false_iff.mpr nonempty
  simp only [readDecimal?, htake, hdrop, htake', hdrop', hempty, Bool.false_and, Bool.false_eq_true,
    if_false]

-- A numeral without a point.
theorem readDecimal?_whole (hwhole : ∀ c ∈ whole, c.isDigit = true) (nonempty : whole ≠ [])
    (htail : ∀ c ∈ tail.head?, c.isDigit = false ∧ c ≠ '.') :
    readDecimal? (whole ++ tail) = (readExponent? tail).map fun e => ⟨digitsValue whole, e⟩ := by
  obtain ⟨htake, hdrop⟩ := span_digits hwhole fun c hc => (htail c hc).1
  have hempty : whole.isEmpty = false := List.isEmpty_eq_false_iff.mpr nonempty
  rw [readDecimal?, htake, hdrop]
  split
  · next rest hpoint =>
    split at hpoint
    · exact absurd rfl (htail '.' rfl).2
    · cases hpoint
      simp [hempty]

theorem forall_isDigit_zeros (n : Nat) : ∀ c ∈ List.replicate n '0', c.isDigit = true := by
  intro c hc
  rw [List.eq_of_mem_replicate hc]
  decide

/-- An exponent is read from its text, whatever zeros it begins with. -/
theorem readExponent?_exponentText (least : Nat) (exponent : Int) :
    readExponent? (Decimal.exponentText least exponent) = some exponent := by
  -- the parts of the text: the sign, the zeros in front, and the digits of the size
  let zeros := List.replicate (least - (Decimal.digits exponent.natAbs).length) '0'
  let size := Decimal.digits exponent.natAbs
  have hsign : splitSign ((if exponent < 0 then '-' else '+') :: (zeros ++ size)) =
      (decide (exponent < 0), zeros ++ size) := by
    by_cases hneg : exponent < 0
    · rw [if_pos hneg, decide_eq_true hneg, splitSign]
    · rw [if_neg hneg, decide_eq_false hneg, splitSign]
  have hall : (zeros ++ size).all Char.isDigit = true := by
    refine List.all_eq_true.mpr fun c hc => ?_
    rcases List.mem_append.mp hc with hc | hc
    · exact forall_isDigit_zeros _ c hc
    · exact isDigit_of_mem_digits hc
  have hempty : (zeros ++ size).isEmpty = false := by
    rw [List.isEmpty_eq_false_iff]
    exact List.append_ne_nil_of_right_ne_nil _ Nat.toDigits_ne_nil
  have hvalue : digitsValue (zeros ++ size) = exponent.natAbs := by
    rw [digitsValue_append, digitsValue_zeros, digitsValue_digits, Nat.mul_zero, Nat.zero_add]
  have htext : Decimal.exponentText least exponent =
      'e' :: (if exponent < 0 then '-' else '+') :: (zeros ++ size) := rfl
  rw [htext, readExponent?, hsign]
  simp only [hall, hempty, hvalue, decide_true, Bool.true_or, Bool.not_false, Bool.and_self,
    if_true, signed]
  by_cases hneg : exponent < 0
  · simp only [hneg, decide_true, if_true, Option.some.injEq]
    omega
  · simp only [hneg, decide_false, Bool.false_eq_true, if_false, Option.some.injEq]
    omega

/-- Characters that begin with a digit, are read as they stand, and are read as a numeral of a given
value. -/
structure Writes (cs : List Char) (d : Decimal) : Prop where
  plain : ∀ c ∈ cs, isPlain c = true
  leading : ∃ c rest, cs = c :: rest ∧ c.isDigit = true
  read : ∃ e, readDecimal? cs = some e ∧ e.value = d.value

theorem exists_leading (hds : ∀ c ∈ ds, c.isDigit = true) (nonempty : ds ≠ []) (tail : List Char) :
    ∃ c rest, ds ++ tail = c :: rest ∧ c.isDigit = true := by
  obtain ⟨c, rest, rfl⟩ := List.exists_cons_of_ne_nil nonempty
  exact ⟨c, rest ++ tail, rfl, hds c List.mem_cons_self⟩

theorem isPlain_exponentText (least : Nat) (exponent : Int) :
    ∀ c ∈ Decimal.exponentText least exponent, isPlain c = true := by
  have hhead : ∀ c ∈ ['e', if exponent < 0 then '-' else '+'], isPlain c = true :=
    List.forall_mem_cons.mpr ⟨rfl, List.forall_mem_singleton.mpr (by split <;> rfl)⟩
  intro c hc
  rcases List.mem_append.mp hc with hc | hc
  · rcases List.mem_append.mp hc with hc | hc
    · exact hhead c hc
    · exact isPlain_of_isDigit (forall_isDigit_zeros _ c hc)
  · exact isPlain_of_isDigit (isDigit_of_mem_digits hc)

-- A word that does not begin with a digit is not what a numeral spells.
theorem ne_word {first : Char} {others : List Char} (hc : c.isDigit = true)
    (hfirst : first.isDigit = false) :
    String.ofList ((c :: cs).map Char.toLower) ≠ String.ofList (first :: others) := by
  -- a digit is no capital letter, and lowering leaves it alone
  have hlower : c.toLower = c := by
    have hrange : 48 ≤ c.toNat ∧ c.toNat ≤ 57 := Char.isDigit_iff_toNat.mp hc
    refine dif_neg fun hupper => ?_
    have hlow : 65 ≤ c.toNat := hupper.1
    omega
  intro heq
  have hhead := List.head_eq_of_cons_eq (String.ofList_injective heq)
  rw [hlower] at hhead
  rw [hhead, hfirst] at hc
  exact absurd hc (by decide)

/-- What is written behind a sign is read as the number nearest to its value. -/
theorem Writes.readFloating? {d : Decimal} (writes : Writes cs d) (f : FloatFormat)
    (negative : Bool) :
    readFloating? f (fold (String.ofList (withSign negative cs))) =
      some (d.toFloating f negative) := by
  obtain ⟨e, hread, hvalue⟩ := writes.read
  obtain ⟨c, rest, rfl, hc⟩ := writes.leading
  have plain := isPlain_withSign negative writes.plain
  -- what is written is not one of the words for numbers without digits
  have hinf : String.ofList ((c :: rest).map Char.toLower) ≠ "inf" := ne_word hc (by decide)
  have hinfinity : String.ofList ((c :: rest).map Char.toLower) ≠ "infinity" :=
    ne_word hc (by decide)
  have hnan : String.ofList ((c :: rest).map Char.toLower) ≠ "nan" := ne_word hc (by decide)
  have hnearest : e.toFloating f negative = d.toFloating f negative := by
    simp only [Decimal.toFloating, Decimal.nearestCode_congr hvalue]
  rw [fold_ofList plain, Numeral.readFloating?, joinDigits_of_plain false plain]
  simp only [Option.bind_eq_bind, Option.bind_some, splitSign_withSign negative hc, hinf, hinfinity,
    hnan, hread, decide_false, Bool.or_self, Bool.false_eq_true, if_false, Option.map_some,
    hnearest]

end Numeral

namespace Decimal

open Numeral

variable {d : Decimal} {ds : List Char} {c : Char}

/-- The digits of a coefficient are those that count and zeros behind them. -/
theorem exists_zeros (d : Decimal) :
    ∃ zeros, digits d.coefficient = d.significantDigits ++ List.replicate zeros '0' := by
  -- the zeros at the end are those at the beginning of the reversed digits
  let reversed := (digits d.coefficient).reverse
  let zeros := reversed.takeWhile (· = '0')
  have hzeros : zeros = List.replicate zeros.length '0' :=
    List.eq_replicate_of_mem fun c (hc : c ∈ reversed.takeWhile (· = '0')) => by
      simpa using List.mem_takeWhile_imp hc
  have hsplit : reversed = zeros ++ reversed.dropWhile (· = '0') :=
    List.takeWhile_append_dropWhile.symm
  refine ⟨zeros.length, ?_⟩
  calc digits d.coefficient
      = reversed.reverse := (List.reverse_reverse _).symm
    _ = (reversed.dropWhile (· = '0')).reverse ++ zeros.reverse := by
      rw [← List.reverse_append, ← hsplit]
    _ = d.significantDigits ++ List.replicate zeros.length '0' := by
      rw [hzeros, List.reverse_replicate, List.length_replicate]
      rfl

theorem isDigit_of_mem_significantDigits (hc : c ∈ d.significantDigits) : c.isDigit = true := by
  obtain ⟨zeros, hdigits⟩ := d.exists_zeros
  exact isDigit_of_mem_digits (hdigits ▸ List.mem_append_left _ hc)

theorem significantDigits_ne_nil (hpos : 0 < d.coefficient) : d.significantDigits ≠ [] := by
  obtain ⟨zeros, hdigits⟩ := d.exists_zeros
  intro hnil
  have hvalue := digitsValue_digits d.coefficient
  rw [hdigits, hnil, List.nil_append, digitsValue_zeros] at hvalue
  omega

-- The value of a numeral, from the digits that count and the position of the point.
theorem value_eq_significant (d : Decimal) :
    d.value = digitsValue d.significantDigits *
      10 ^ (d.position - d.significantDigits.length) := by
  obtain ⟨zeros, hdigits⟩ := d.exists_zeros
  -- the zeros behind the digits count as a power of ten
  have hcoefficient : d.coefficient = 10 ^ zeros * digitsValue d.significantDigits := by
    rw [← digitsValue_digits d.coefficient, hdigits, digitsValue_append, digitsValue_zeros,
      List.length_replicate, Nat.add_zero]
  have hposition : d.position - d.significantDigits.length = zeros + d.exponent := by
    rw [position, digitCount, hdigits, List.length_append, List.length_replicate]
    push_cast
    ring
  rw [value, hposition, hcoefficient, zpow_add₀ (by norm_num), zpow_natCast]
  push_cast
  ring

/-- The digits behind the point as they are written: at least one. -/
def writtenFraction (ds : List Char) (position : Int) : List Char :=
  if (fractionDigits ds position).isEmpty then ['0'] else fractionDigits ds position

/-- Positional writing fills up the places between the digits and the point with zeros, and no more.
-/
theorem exists_filling (hds : ds ≠ []) (position : Int) :
    ∃ before behind : Nat,
      wholeDigits ds position ++ writtenFraction ds position =
        List.replicate before '0' ++ (ds ++ List.replicate behind '0') ∧
      ((writtenFraction ds position).length : Int) = ds.length + behind - position := by
  have hlength : 0 < ds.length := List.length_pos_iff.mpr hds
  by_cases hlow : position ≤ 0
  -- the point is before the digits
  · have hfraction : writtenFraction ds position =
        List.replicate (-position).toNat '0' ++ ds := by
      rw [writtenFraction, fractionDigits, if_pos hlow, if_neg]
      rw [List.isEmpty_iff]
      exact List.append_ne_nil_of_right_ne_nil _ hds
    refine ⟨(-position).toNat + 1, 0, ?_, ?_⟩
    · rw [hfraction, wholeDigits, if_pos hlow, List.replicate_succ, List.replicate_zero,
        List.append_nil]
      rfl
    · rw [hfraction, List.length_append, List.length_replicate]
      omega
  obtain ⟨p, rfl⟩ : ∃ p : Nat, position = p := ⟨position.toNat, by omega⟩
  by_cases hinside : p < ds.length
  -- the point is between two digits
  · have hfraction : writtenFraction ds p = ds.drop p := by
      rw [writtenFraction, fractionDigits, if_neg hlow, Int.toNat_natCast, if_neg]
      rw [List.isEmpty_iff, List.drop_eq_nil_iff]
      omega
    refine ⟨0, 0, ?_, ?_⟩
    · rw [hfraction, wholeDigits, if_neg hlow, Int.toNat_natCast, Nat.sub_eq_zero_of_le hinside.le]
      simp
    · rw [hfraction, List.length_drop]
      omega
  -- the point is behind the digits, and a zero behind the point
  · have hfraction : writtenFraction ds p = ['0'] := by
      rw [writtenFraction, fractionDigits, if_neg hlow, Int.toNat_natCast, if_pos]
      rw [List.isEmpty_iff, List.drop_eq_nil_iff]
      omega
    refine ⟨0, p - ds.length + 1, ?_, ?_⟩
    · rw [hfraction, wholeDigits, if_neg hlow, Int.toNat_natCast, List.take_of_length_le (by omega),
        List.replicate_succ', List.append_assoc]
      rfl
    · rw [hfraction, List.length_singleton]
      omega

theorem isDigit_of_mem_wholeDigits (hds : ∀ c ∈ ds, c.isDigit = true) (position : Int) :
    ∀ c ∈ wholeDigits ds position, c.isDigit = true := by
  unfold wholeDigits
  split
  · exact List.all_eq_true.mp rfl
  · intro c hc
    rcases List.mem_append.mp hc with hc | hc
    · exact hds c (List.mem_of_mem_take hc)
    · exact forall_isDigit_zeros _ c hc

theorem isDigit_of_mem_fractionDigits (hds : ∀ c ∈ ds, c.isDigit = true) (position : Int) :
    ∀ c ∈ fractionDigits ds position, c.isDigit = true := by
  unfold fractionDigits
  split
  · intro c hc
    rcases List.mem_append.mp hc with hc | hc
    · exact forall_isDigit_zeros _ c hc
    · exact hds c hc
  · exact fun c hc => hds c (List.mem_of_mem_drop hc)

theorem isDigit_of_mem_writtenFraction (hds : ∀ c ∈ ds, c.isDigit = true) (position : Int) :
    ∀ c ∈ writtenFraction ds position, c.isDigit = true := by
  unfold writtenFraction
  split
  · exact List.all_eq_true.mp rfl
  · exact isDigit_of_mem_fractionDigits hds position

theorem wholeDigits_ne_nil (hds : ds ≠ []) (position : Int) : wholeDigits ds position ≠ [] := by
  unfold wholeDigits
  split
  · decide
  · refine List.append_ne_nil_of_left_ne_nil ?_ _
    rw [ne_eq, List.take_eq_nil_iff, not_or]
    exact ⟨by omega, hds⟩

/-- The positional text of a numeral is read as a numeral of its value. -/
theorem positionalText_read (hpos : 0 < d.coefficient) :
    ∃ e, readDecimal? d.positionalText = some e ∧ e.value = d.value := by
  have hds : d.significantDigits ≠ [] := significantDigits_ne_nil hpos
  have hdigits : ∀ c ∈ d.significantDigits, c.isDigit = true :=
    fun _ => isDigit_of_mem_significantDigits
  have hread : readDecimal? d.positionalText =
      some ⟨digitsValue (wholeDigits d.significantDigits d.position ++
        writtenFraction d.significantDigits d.position),
        0 - (writtenFraction d.significantDigits d.position).length⟩ := by
    have hnothing : ∀ c ∈ ([] : List Char).head?, c.isDigit = false := by simp
    have hpoint := readDecimal?_point (isDigit_of_mem_wholeDigits hdigits d.position)
      (wholeDigits_ne_nil hds d.position) (isDigit_of_mem_writtenFraction hdigits d.position)
      hnothing
    rwa [List.append_nil] at hpoint
  refine ⟨_, hread, ?_⟩
  -- the filling multiplies the digits by the power of ten that the fraction takes away again
  obtain ⟨before, behind, htext, hlength⟩ := exists_filling hds d.position
  have hvalue : digitsValue (wholeDigits d.significantDigits d.position ++
      writtenFraction d.significantDigits d.position) =
        10 ^ behind * digitsValue d.significantDigits := by
    rw [htext, digitsValue_append, digitsValue_append, digitsValue_zeros, digitsValue_zeros,
      List.length_replicate]
    omega
  have hexponent : (0 : Int) - (writtenFraction d.significantDigits d.position).length =
      d.position - d.significantDigits.length - behind := by omega
  rw [d.value_eq_significant, value, hvalue, hexponent, zpow_sub₀ (by norm_num), zpow_natCast]
  push_cast
  field_simp

/-- The text of a numeral with an exponent is read as a numeral of its value. -/
theorem scientificText_read (hpos : 0 < d.coefficient) :
    ∃ e, readDecimal? d.scientificText = some e ∧ e.value = d.value := by
  obtain ⟨c, rest, hds⟩ := List.exists_cons_of_ne_nil (significantDigits_ne_nil hpos)
  have hdigits : ∀ k ∈ c :: rest, k.isDigit = true :=
    fun _ hk => isDigit_of_mem_significantDigits (hds ▸ hk)
  obtain ⟨hc, hrest⟩ := List.forall_mem_cons.mp hdigits
  have hfirst : ∀ k ∈ [c], k.isDigit = true := List.forall_mem_singleton.mpr hc
  have hexponent := readExponent?_exponentText 2 (d.position - 1)
  have hhead : ∀ k ∈ (exponentText 2 (d.position - 1)).head?, k.isDigit = false ∧ k ≠ '.' := by
    rintro k ⟨⟩
    decide
  rw [d.value_eq_significant, scientificText, hds]
  -- a single digit is written without a point
  cases rest with
  | nil =>
    have hread := readDecimal?_whole hfirst (List.cons_ne_nil c []) hhead
    rw [hexponent] at hread
    exact ⟨_, hread, rfl⟩
  | cons c' rest =>
    have hread := readDecimal?_point hfirst (List.cons_ne_nil c []) hrest fun k hk => (hhead k hk).1
    rw [hexponent] at hread
    refine ⟨_, hread, ?_⟩
    rw [value]
    congr 2
    simp only [List.length_cons]
    omega

theorem positionalText_writes (hpos : 0 < d.coefficient) : Writes d.positionalText d where
  plain := by
    have hdigits : ∀ c ∈ d.significantDigits, c.isDigit = true :=
      fun _ => isDigit_of_mem_significantDigits
    intro c hc
    rcases List.mem_append.mp hc with hc | hc
    · exact isPlain_of_isDigit (isDigit_of_mem_wholeDigits hdigits _ c hc)
    rcases List.mem_cons.mp hc with rfl | hc
    · rfl
    · exact isPlain_of_isDigit (isDigit_of_mem_writtenFraction hdigits _ c hc)
  leading := exists_leading
    (isDigit_of_mem_wholeDigits (fun _ => isDigit_of_mem_significantDigits) d.position)
    (wholeDigits_ne_nil (significantDigits_ne_nil hpos) d.position) _
  read := positionalText_read hpos

theorem scientificText_writes (hpos : 0 < d.coefficient) : Writes d.scientificText d where
  plain := by
    -- every character is a digit, the point, or one of those of the exponent
    intro c hc
    rcases List.mem_append.mp hc with hc | hc
    · rcases List.mem_append.mp hc with hc | hc
      · exact isPlain_of_isDigit (isDigit_of_mem_significantDigits (List.mem_of_mem_take hc))
      split at hc
      · cases hc
      rcases List.mem_cons.mp hc with rfl | hc
      · rfl
      · exact isPlain_of_isDigit (isDigit_of_mem_significantDigits (List.mem_of_mem_drop hc))
    · exact isPlain_exponentText 2 _ c hc
  leading := by
    obtain ⟨c, rest, hds⟩ := List.exists_cons_of_ne_nil (significantDigits_ne_nil hpos)
    rw [scientificText, hds, List.append_assoc]
    exact ⟨c, _, rfl, isDigit_of_mem_significantDigits (hds ▸ List.mem_cons_self)⟩
  read := scientificText_read hpos

end Decimal

namespace Floating

open Numeral

variable {f : FloatFormat}

/-- What is written of a finite number other than zero, without its sign. -/
theorem magnitudeText_writes {x : Floating f} (hpos : 0 < x.code)
    (hfinite : x.code < f.infinityCode) :
    Writes x.magnitudeText (Decimal.shortest f x.code) := by
  have hcoefficient : 0 < (Decimal.shortest f x.code).coefficient :=
    Decimal.coefficient_pos_of_nearestCode (Decimal.shortest_nearestCode hpos hfinite) hpos
  have hinfinite : x.isInfinite = false := decide_eq_false hfinite.ne
  have hzero : x.isZero = false := decide_eq_false hpos.ne'
  simp only [magnitudeText, hinfinite, hzero, Bool.false_eq_true, if_false]
  split
  · exact Decimal.positionalText_writes hcoefficient
  · exact Decimal.scientificText_writes hcoefficient

theorem text_eq_withSign {x : Floating f} (number : x.isNaN = false) :
    x.text = String.ofList (withSign x.negative x.magnitudeText) := by
  rw [text, number]
  rfl

/-- The text of a number is read as this number, down to the sign of a zero. -/
theorem text_read {x : Floating f} (number : x.isNaN = false) :
    readFloating? f (fold x.text) = some x := by
  rw [text_eq_withSign number]
  obtain ⟨negative, code, code_lt⟩ := x
  have hcode : code ≤ f.infinityCode := not_lt.mp (of_decide_eq_false number)
  -- a number is zero, finite or infinite, and each is written in a way of its own
  rcases hcode.lt_or_eq with hfinite | rfl
  · rcases Nat.eq_zero_or_pos code with rfl | hpos
    · have writes : Writes ['0', '.', '0'] ⟨0, -1⟩ :=
        ⟨List.all_eq_true.mp rfl, ⟨_, _, rfl, rfl⟩, _, rfl, rfl⟩
      have hzero : (⟨negative, 0, code_lt⟩ : Floating f).magnitudeText = ['0', '.', '0'] := by
        have hinfinite : (⟨negative, 0, code_lt⟩ : Floating f).isInfinite = false :=
          decide_eq_false hfinite.ne
        rw [magnitudeText, hinfinite]
        rfl
      rw [hzero, writes.readFloating?]
      rfl
    · rw [(magnitudeText_writes hpos hfinite).readFloating?, Decimal.toFloating]
      simp only [Decimal.shortest_nearestCode hpos hfinite]
  · have hinfinite : (⟨negative, f.infinityCode, code_lt⟩ : Floating f).magnitudeText =
        ['i', 'n', 'f'] := if_pos (decide_eq_true rfl)
    rw [hinfinite, fold_ofList (isPlain_withSign negative (List.all_eq_true.mp rfl))]
    cases negative <;> rfl

end Floating
end WasmHost
