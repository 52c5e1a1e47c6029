import Mathlib
import PhraseSheet.Proofs.Counting
import PhraseSheet.Proofs.DecimalReading

namespace PhraseSheet

open Binary

namespace Decimal

/-- What the bits of a number say about its magnitude. -/
structure Dyadic.IsBinary (value : Dyadic) : Prop where
  canonical : IsCanonical value.significand value.exponent
  narrow : value.narrowBelow = decide (value.significand = 2 ^ 52 ∧ -1074 < value.exponent)

section

variable {value : Dyadic}

theorem Dyadic.stepsOn_eq (value : Dyadic) (grid : Int) :
    ((value.stepsOn grid).2 : ℚ) =
      4 * (value.stepsOn grid).1 * (10 ^ grid / 2 ^ value.exponent) := by
  have two : (2 : ℚ) ^ value.exponent.toNat =
      2 ^ value.exponent * 2 ^ (-value.exponent).toNat := by
    rw [← zpow_natCast, ← zpow_natCast, ← zpow_add₀ two_ne_zero]
    congr 1
    omega
  have ten : (10 : ℚ) ^ grid.toNat = 10 ^ grid * 10 ^ (-grid).toNat := by
    rw [← zpow_natCast, ← zpow_natCast, ← zpow_add₀ (by norm_num)]
    congr 1
    omega
  simp only [stepsOn, Nat.pow_eq]
  push_cast
  rw [two, ten]
  field_simp

theorem Dyadic.stepsOn_pos (value : Dyadic) (grid : Int) : 0 < (value.stepsOn grid).1 := by
  simp only [stepsOn, Nat.pow_eq]
  positivity

theorem Dyadic.IsBinary.gap_eq (binary : value.IsBinary) :
    ((4 * value.significand - if value.narrowBelow then 1 else 2 : ℕ) : ℚ) =
      4 * (value.significand - gapBelow value.significand value.exponent) := by
  have positive := binary.canonical.positive
  rw [binary.narrow, gapBelow]
  by_cases narrow : value.significand = 2 ^ 52 ∧ -1074 < value.exponent
  · rw [if_pos narrow, if_pos (decide_eq_true narrow), Nat.cast_sub (by omega)]
    push_cast
    ring
  · rw [if_neg narrow, if_neg (by simpa using narrow), Nat.cast_sub (by omega)]
    push_cast
    ring

/-- The check with whole numbers is the one with fractions. -/
theorem Dyadic.IsBinary.roundsTo (binary : value.IsBinary) {digits : Nat} {grid : Int}
    (rounds : value.rounds digits grid) :
    RoundsTo (digits * 10 ^ grid) value.significand value.exponent := by
  have steps := value.stepsOn_eq grid
  have positive := value.stepsOn_pos grid
  have gap := binary.gap_eq
  unfold Dyadic.rounds at rounds
  generalize value.stepsOn grid = pair at *
  generalize (4 * value.significand - if value.narrowBelow then 1 else 2) = low at *
  obtain ⟨quarter, unit⟩ := pair
  dsimp only at *
  have positive' : (0 : ℚ) < 4 * quarter := by
    have : (0 : ℚ) < quarter := by exact_mod_cast positive
    linarith
  have number : ((digits * unit : ℕ) : ℚ) =
      4 * quarter * (digits * 10 ^ grid / 2 ^ value.exponent) := by
    push_cast
    rw [steps]
    ring
  have below : ((low * quarter : ℕ) : ℚ) =
      4 * quarter * (value.significand - gapBelow value.significand value.exponent) := by
    push_cast
    rw [gap]
    ring
  have above : (((4 * value.significand + 2) * quarter : ℕ) : ℚ) =
      4 * quarter * (value.significand + 1 / 2) := by
    push_cast
    ring
  split at rounds
  · rename_i even
    rw [Bool.and_eq_true, decide_eq_true_iff, decide_eq_true_iff, ← @Nat.cast_le ℚ,
      ← @Nat.cast_le ℚ, number, below, above, mul_le_mul_iff_right₀ positive',
      mul_le_mul_iff_right₀ positive'] at rounds
    exact ⟨rounds.1, rounds.2, fun isOdd => absurd even isOdd⟩
  · rw [Bool.and_eq_true, decide_eq_true_iff, decide_eq_true_iff, ← @Nat.cast_lt ℚ,
      ← @Nat.cast_lt ℚ, number, below, above, mul_lt_mul_iff_right₀ positive',
      mul_lt_mul_iff_right₀ positive'] at rounds
    exact ⟨rounds.1.le, rounds.2.le, fun _ => ⟨rounds.1.ne', rounds.2.ne⟩⟩

theorem Dyadic.rounds_of_onGrid? {tie : Tie} {grid : Int} {number : Digits}
    (found : value.onGrid? tie grid = some number) :
    value.rounds number.digits number.exponent := by
  unfold Dyadic.onGrid? at found
  dsimp only at found
  split at found
  · rename_i below above
    cases found
    have either : ∀ takesAbove : Bool, value.rounds (if takesAbove then _ else _) grid
      | true => above
      | false => below
    exact either _
  · rename_i below _
    cases found
    exact below
  · rename_i _ above
    cases found
    exact above
  · cases found

theorem Dyadic.exactDigits_eq (value : Dyadic) :
    (value.exactDigits.digits : ℚ) * 10 ^ value.exactDigits.exponent =
      value.significand * 2 ^ value.exponent := by
  unfold Dyadic.exactDigits
  split
  · rename_i natural
    obtain ⟨power, power_eq⟩ := Int.eq_ofNat_of_zero_le natural
    simp [power_eq]
  · rename_i negative
    obtain ⟨power, power_eq⟩ : ∃ power : ℕ, value.exponent = -power :=
      ⟨(-value.exponent).toNat, by omega⟩
    simp only [power_eq, neg_neg, Int.toNat_natCast, Nat.pow_eq, zpow_neg, zpow_natCast]
    push_cast
    rw [show (10 : ℚ) = 2 * 5 by norm_num, mul_pow]
    field_simp

/-- The shortest digits round to the value. -/
theorem Dyadic.IsBinary.roundsTo_shortest (binary : value.IsBinary) (tie : Tie) :
    RoundsTo ((value.shortest tie).digits * 10 ^ (value.shortest tie).exponent) value.significand
      value.exponent := by
  unfold Dyadic.shortest
  split
  · rename_i number found
    obtain ⟨n, _, onGrid⟩ := List.exists_of_findSome?_eq_some found
    exact binary.roundsTo (Dyadic.rounds_of_onGrid? onGrid)
  · rw [value.exactDigits_eq]
    exact roundsTo_self _ _

end

theorem digitsNumber_zeros_append (count : Nat) (digits : List Char) :
    digitsNumber (zeros count ++ digits) = digitsNumber digits := by
  unfold digitsNumber zeros
  rw [List.foldl_append]
  congr 1
  induction count with
  | zero => rfl
  | succ count ih => exact ih

theorem digitsNumber_append_zeros (digits : List Char) (count : Nat) :
    digitsNumber (digits ++ zeros count) = digitsNumber digits * 10 ^ count := by
  unfold digitsNumber zeros
  rw [List.foldl_append]
  generalize digits.foldl _ 0 = number
  induction count generalizing number with
  | zero => simp
  | succ count ih =>
    have nothing : digitValue '0' = 0 := rfl
    rw [List.replicate_succ, List.foldl_cons, ih, pow_succ, nothing]
    ring

theorem readUnsigned?_fraction (count n : Nat) :
    readUnsigned? (['0'] ++ '.' :: (zeros count ++ natDigits n)) =
      some ⟨n, -(count + (natDigits n).length)⟩ := by
  have digits := List.forall_mem_append.mpr ⟨zeros_isDigit count, natDigits_isDigit n⟩
  have whole : ['0'] ++ (zeros count ++ natDigits n) = zeros (count + 1) ++ natDigits n := rfl
  rw [Token.readUnsigned?_pointed (by decide) (by decide) digits, whole,
    digitsNumber_zeros_append, digitsNumber_natDigits, List.length_append, zeros,
    List.length_replicate, Nat.cast_add]

theorem readUnsigned?_natural (n power : Nat) :
    readUnsigned? (natDigits n ++ zeros power) = some ⟨n * 10 ^ power, 0⟩ := by
  have any : natDigits n ≠ [] := Nat.toDigits_ne_nil
  have digits := List.forall_mem_append.mpr ⟨natDigits_isDigit n, zeros_isDigit power⟩
  rw [Token.readUnsigned?_whole digits (by simp [any]), digitsNumber_append_zeros,
    digitsNumber_natDigits]

theorem readUnsigned?_split {count n : Nat} (some : 0 < count) (within : count ≤ (natDigits n).length) :
    readUnsigned? ((natDigits n).take count ++ '.' :: (natDigits n).drop count) =
      .some ⟨n, count - (natDigits n).length⟩ := by
  have digits := natDigits_isDigit n
  have any : (natDigits n).take count ≠ [] := by
    rw [← List.length_pos_iff, List.length_take]
    omega
  rw [Token.readUnsigned?_pointed (fun c member => digits c (List.mem_of_mem_take member)) any
    (fun c member => digits c (List.mem_of_mem_drop member)), List.take_append_drop,
    digitsNumber_natDigits, List.length_drop, Nat.cast_sub within, neg_sub]

/-- The places in which digits are written are read as the same number. -/
theorem readUnsigned?_place (number : Digits) :
    ∃ read, readUnsigned? (valueLayout.place number) = some read ∧
      (read.digits : ℚ) * 10 ^ read.exponent = number.digits * 10 ^ number.exponent := by
  obtain ⟨digits, exponent⟩ := number
  unfold Layout.place
  simp only [valueLayout, Bool.false_eq_true, if_false, List.append_nil]
  split
  · rename_i small
    obtain ⟨count, count_eq⟩ : ∃ count : ℕ,
        -(((natDigits digits).length : ℤ) + exponent) = count :=
      ⟨_, (Int.toNat_of_nonneg (by omega)).symm⟩
    have same : -((count : ℤ) + (natDigits digits).length) = exponent := by omega
    rw [count_eq, Int.toNat_natCast]
    exact ⟨_, readUnsigned?_fraction count digits, by rw [same]⟩
  · split
    · rename_i natural
      obtain ⟨power, rfl⟩ := Int.eq_ofNat_of_zero_le natural
      refine ⟨_, readUnsigned?_natural digits power, ?_⟩
      push_cast
      rw [mul_one, zpow_natCast]
    · rename_i large broken
      obtain ⟨count, count_eq⟩ : ∃ count : ℕ, ((natDigits digits).length : ℤ) + exponent = count :=
        ⟨_, (Int.toNat_of_nonneg (by omega)).symm⟩
      have same : (count : ℤ) - (natDigits digits).length = exponent := by omega
      rw [count_eq, Int.toNat_natCast, List.append_assoc]
      exact ⟨_, readUnsigned?_split (by omega) (by omega), by rw [same]⟩

/-- The written digits of a binary number are read as the number. -/
theorem readMagnitude?_place {number : Digits} {significand : ℕ} {exponent : ℤ}
    (rounds : RoundsTo (number.digits * 10 ^ number.exponent) significand exponent)
    (canonical : IsCanonical significand exponent) (most : exponent ≤ 971) :
    ∃ x, readMagnitude? (valueLayout.place number) = some x ∧
      Binary.IsBinary x .positive significand exponent := by
  obtain ⟨read, reads, same⟩ := readUnsigned?_place number
  refine ⟨nearest read, ?_, ?_⟩
  · rw [Token.readMagnitude?_decimal (place_decimal number), reads]
    rfl
  · have any : read.digits ≠ 0 := by
      intro nothing
      have positive := (rounds.bounds canonical most).1
      rw [← same, nothing, Nat.cast_zero, zero_mul] at positive
      exact absurd positive (not_le.mpr (by positivity))
    exact isBinary_nearest rounds canonical most any same.symm

end Decimal

open Float.Model Float.Model.UnpackedFloat

private theorem eq_of_unpack_zero {x : Float} {sign : UnpackedFloat.Sign}
    (zero : x.toModel.unpack = .zero sign) : x = Float.ofModel (Float.Model.pack (.zero sign)) := by
  apply eq_of_unpack_eq
  rw [zero]
  exact unpack_packedZero.symm

private theorem neg_eq_of_isBinary {x y : Float} {significand : ℕ} {exponent : ℤ}
    (read : IsBinary x .positive significand exponent)
    (binary : IsBinary y .negative significand exponent) : -x = y := by
  apply eq_of_unpack_eq
  rw [binary.unpacked]
  change (Float.Model.pack x.toModel.unpack.neg).unpack = _
  rw [read.unpacked]
  exact unpack_pack read.canonical read.most .negative

/-- The text is a decimal number that is read as this floating-point number. -/
structure Writes (text : List Char) (x : Float) : Prop where
  decimal : Token.DecimalText text
  reads : Decimal.readMagnitude? text = some x

/-- A finite number is written as a decimal number that is read as it, or as one behind a minus sign
that is read as its opposite. Negative zero is written without its sign. -/
theorem write_of_isFinite {x : Float} (finite : x.isFinite) (notNegativeZero : x ≠ -0.0) :
    Writes (valueLayout.write x) x ∨
      ∃ text y, valueLayout.write x = '-' :: text ∧ Writes text y ∧ -y = x := by
  unfold Decimal.Layout.write
  rcases finite_cases finite with ⟨sign, zero, magnitude, _⟩ |
    ⟨sign, significand, exponent, binary, magnitude, negative⟩
  · have same := eq_of_unpack_zero zero
    cases sign with
    | negative => exact absurd (same.trans (by decide +kernel)) notNegativeZero
    | positive =>
      rw [magnitude, same]
      exact .inl ⟨.whole (by decide) (by decide), by decide +kernel⟩
  · have dyadic : Decimal.Dyadic.IsBinary ⟨significand, exponent,
        decide (significand = 2 ^ 52 ∧ -1074 < exponent)⟩ := ⟨binary.canonical, rfl⟩
    obtain ⟨y, reads, read⟩ := Decimal.readMagnitude?_place
      (dyadic.roundsTo_shortest valueLayout.tie) binary.canonical binary.most
    rw [magnitude]
    dsimp only
    rw [if_neg binary.canonical.positive.ne']
    cases sign with
    | positive =>
      have plain : Decimal.isNegative x = false := by simp [Bool.eq_false_iff, negative]
      have same : y = x := eq_of_unpack_eq (read.unpacked.trans binary.unpacked.symm)
      rw [plain, if_neg Bool.false_ne_true, List.nil_append]
      exact .inl ⟨place_decimal _, same ▸ reads⟩
    | negative =>
      rw [negative.mpr rfl, if_pos rfl]
      exact .inr ⟨_, y, rfl, ⟨place_decimal _, reads⟩, neg_eq_of_isBinary read binary⟩

/-- The text that is written for a finite number is read as the number. -/
theorem ofText?_numberText {x : Float} (finite : x.isFinite) (notNegativeZero : x ≠ -0.0) :
    Decimal.ofText? (numberText x) = some x := by
  have text : (numberText x).toList = valueLayout.write x := String.toList_ofList
  rw [Decimal.ofText?, text]
  rcases write_of_isFinite finite notNegativeZero with writes | ⟨body, y, same, writes, rfl⟩
  · rw [Token.read?_eq_readMagnitude? writes.decimal, writes.reads]
  · rw [same]
    change (Decimal.readMagnitude? body).map (fun y => -y) = _
    rw [writes.reads]
    rfl

end PhraseSheet
