import Mathlib
import PhraseSheet.Decimal.Read
import PhraseSheet.Proofs.Doubles

namespace PhraseSheet.Binary

open Float.Model Float.Model.UnpackedFloat

theorem log2_shiftLeft_eq {whole : ℕ} (positive : 0 < whole) (small : whole < 2 ^ 53) :
    2 ^ 52 ≤ whole <<< (52 - whole.log2) ∧ whole <<< (52 - whole.log2) < 2 ^ 53 := by
  have log : whole.log2 < 53 := (Nat.log2_lt positive.ne').mpr small
  have low := Nat.log2_self_le positive.ne'
  have high := @Nat.lt_log2_self whole
  rw [Nat.shiftLeft_eq]
  constructor
  · calc 2 ^ 52 = 2 ^ whole.log2 * 2 ^ (52 - whole.log2) := by rw [← pow_add]; congr 1; omega
      _ ≤ whole * 2 ^ (52 - whole.log2) := Nat.mul_le_mul_right _ low
  · calc whole * 2 ^ (52 - whole.log2) < 2 ^ (whole.log2 + 1) * 2 ^ (52 - whole.log2) :=
          Nat.mul_lt_mul_of_pos_right high (by positivity)
      _ = 2 ^ 53 := by rw [← pow_add]; congr 1; omega

theorem isBinary_toFloat {whole : ℕ} (positive : 0 < whole) (small : whole < 2 ^ 53) :
    ∃ significand exponent, IsBinary whole.toUInt64.toFloat .positive significand exponent ∧
      2 ^ 52 ≤ significand ∧ (significand : ℚ) * 2 ^ exponent = whole := by
  have log : whole.log2 < 53 := (Nat.log2_lt positive.ne').mpr small
  obtain ⟨full, below⟩ := log2_shiftLeft_eq positive small
  obtain ⟨count, count_eq⟩ : ∃ count, 52 - whole.log2 = count := ⟨_, rfl⟩
  rw [count_eq] at full below
  have canonical : IsCanonical (whole <<< count) (-count) :=
    ⟨by omega, below, by omega, .inl full⟩
  have value : ((whole <<< count : ℕ) : ℚ) * 2 ^ (-count : ℤ) = whole := by
    rw [Nat.shiftLeft_eq, zpow_neg, zpow_natCast]
    push_cast
    field_simp
  refine ⟨whole <<< count, -count, ⟨canonical, by omega, ?_⟩, full, value⟩
  rw [← unpack_pack canonical (by omega) .positive]
  have same : whole.toUInt64.toNat = whole := by
    rw [Nat.toUInt64_eq, UInt64.toNat_ofNat']
    exact Nat.mod_eq_of_lt (by omega)
  change (Float.Model.pack (normalize Format.binary64 (whole.toUInt64.toNat : ℤ) 0 .positive)).unpack = _
  rw [same]
  congr 2
  have target : Format.binary64.targetExponent (totalExponent whole 0) = -count := by
    rw [targetExponent_eq, totalExponent]
    omega
  have finer : decreaseExponent whole 0 (-count) = (whole <<< count, (-count : ℤ)) := by
    simp [decreaseExponent]
  have fine : (-count : ℤ) ≤ Format.binary64.targetExponent
      (totalExponent (whole <<< count) (-count)) := by
    have bits : 52 ≤ (whole <<< count).log2 := (Nat.le_log2 canonical.positive.ne').mpr full
    rw [targetExponent_eq, totalExponent]
    omega
  have stands : StandsFor (whole <<< count)
      (((whole <<< count : ℕ) : ℚ) * 2 ^ (-count : ℤ) / 2 ^ (-count : ℤ)) .exact :=
    mul_div_cancel_right₀ _ (by positivity)
  have rounded := (roundsTo_self (whole <<< count) (-count)).roundWithAccuracy_eq canonical
    .positive stands fine
  unfold UnpackedFloat.normalize
  rw [Int.compare_eq_gt.mpr (by exact_mod_cast positive)]
  simp only [Int.toNat_natCast, UnpackedFloat.round, target, finer, rounded]

/-- The number is unpacked as that power of ten, without a sign. -/
def isPowerOfTen (x : Float) (power : ℕ) : Bool :=
  match x.toModel.unpack with
  | .finite .positive significand exponent _ =>
    decide (significand * 2 ^ exponent.toNat = 10 ^ power * 2 ^ (-exponent).toNat)
  | _ => false

theorem isPowerOfTen_table (power : Fin Float.exactlyRepresentablePowersOfTen.size) :
    isPowerOfTen Float.exactlyRepresentablePowersOfTen[power.val] power.val = true := by
  revert power
  decide +kernel

theorem isBinary_of_isPowerOfTen {x : Float} {power : ℕ} (checked : isPowerOfTen x power) :
    ∃ significand exponent, IsBinary x .positive significand exponent ∧
      (significand : ℚ) * 2 ^ exponent = 10 ^ power := by
  unfold isPowerOfTen at checked
  split at checked
  · rename_i significand exponent positive unpacked
    have finite : x.isFinite := by
      change x.toModel.unpack.isFinite = true
      rw [unpacked]
      rfl
    rcases finite_cases finite with ⟨sign, zero, _⟩ | ⟨sign, other, power', binary, _⟩
    · rw [zero] at unpacked
      cases unpacked
    · have same := binary.unpacked
      rw [unpacked] at same
      cases same
      refine ⟨significand, exponent, binary, ?_⟩
      have whole : (significand : ℚ) * 2 ^ exponent.toNat = 10 ^ power * 2 ^ (-exponent).toNat := by
        exact_mod_cast of_decide_eq_true checked
      have split : (2 : ℚ) ^ exponent * 2 ^ (-exponent).toNat = 2 ^ exponent.toNat := by
        rw [← zpow_natCast, ← zpow_natCast, ← zpow_add₀ two_ne_zero]
        congr 1
        omega
      have positive : (2 : ℚ) ^ (-exponent).toNat ≠ 0 := by positivity
      apply mul_right_cancel₀ positive
      rw [mul_assoc, split, whole]
  · cases checked

/-- A number that rounds to a floating-point number is no smaller than half the least one, and smaller
than the least power of two beyond them. -/
theorem RoundsTo.bounds {x : ℚ} {significand : ℕ} {exponent : ℤ}
    (rounds : RoundsTo x significand exponent) (canonical : IsCanonical significand exponent)
    (most : exponent ≤ 971) : 2 ^ (-1075 : ℤ) ≤ x ∧ x < 2 ^ (1024 : ℤ) := by
  have unit : (0 : ℚ) < 2 ^ exponent := by positivity
  have low := rounds.low
  have high := rounds.high
  have gap := gapBelow_le significand exponent
  have some : (1 : ℚ) ≤ significand := by exact_mod_cast canonical.positive
  have small : (significand : ℚ) + 1 ≤ 2 ^ 53 := by exact_mod_cast canonical.small
  constructor
  · calc (2 : ℚ) ^ (-1075 : ℤ) = 1 / 2 * 2 ^ (-1074 : ℤ) := by
          rw [one_div, ← zpow_neg_one, ← zpow_add₀ two_ne_zero]
          rfl
      _ ≤ 1 / 2 * 2 ^ exponent :=
          mul_le_mul_of_nonneg_left (zpow_le_zpow_right₀ one_le_two canonical.least) (by norm_num)
      _ ≤ x / 2 ^ exponent * 2 ^ exponent := mul_le_mul_of_nonneg_right (by linarith) unit.le
      _ = x := div_mul_cancel₀ x unit.ne'
  · calc x = x / 2 ^ exponent * 2 ^ exponent := (div_mul_cancel₀ x unit.ne').symm
      _ < 2 ^ 53 * 2 ^ exponent := mul_lt_mul_of_pos_right (by linarith) unit
      _ ≤ 2 ^ 53 * 2 ^ (971 : ℤ) :=
          mul_le_mul_of_nonneg_left (zpow_le_zpow_right₀ one_le_two most) (by positivity)
      _ = 2 ^ (1024 : ℤ) := by
          rw [← zpow_natCast, ← zpow_add₀ two_ne_zero]
          rfl

theorem natDigits_bounds {whole : ℕ} (any : whole ≠ 0) :
    10 ^ ((Decimal.natDigits whole).length - 1) ≤ whole ∧
      whole < 10 ^ (Decimal.natDigits whole).length := by
  have some : 0 < (Decimal.natDigits whole).length := Nat.length_toDigits_pos
  refine ⟨?_, (Nat.length_toDigits_le_iff (by decide) some).mp (le_refl _)⟩
  by_cases one : (Decimal.natDigits whole).length = 1
  · rw [one]
    exact Nat.pos_of_ne_zero any
  · by_contra below
    have shorter : (Decimal.natDigits whole).length ≤ (Decimal.natDigits whole).length - 1 :=
      (Nat.length_toDigits_le_iff (by decide) (by omega)).mpr (not_le.mp below)
    omega

theorem natDigits_length_le (whole : ℕ) : (Decimal.natDigits whole).length ≤ whole.log2 + 1 := by
  refine (Nat.length_toDigits_le_iff (by decide) (Nat.succ_pos _)).mpr ?_
  calc whole < 2 ^ (whole.log2 + 1) := Nat.lt_log2_self
    _ ≤ 10 ^ (whole.log2 + 1) := Nat.pow_le_pow_left (by decide) _

section

variable {x : ℚ} {significand : ℕ} {exponent : ℤ} (rounds : RoundsTo x significand exponent)
  (canonical : IsCanonical significand exponent) (most : exponent ≤ 971)

include rounds canonical most

theorem isBinary_mul {one other : Float} {oneSignificand otherSignificand : ℕ}
    {oneExponent otherExponent : ℤ} (oneBinary : IsBinary one .positive oneSignificand oneExponent)
    (otherBinary : IsBinary other .positive otherSignificand otherExponent)
    (full : 2 ^ 52 ≤ oneSignificand)
    (value : x = oneSignificand * 2 ^ oneExponent * (otherSignificand * 2 ^ otherExponent)) :
    IsBinary (one * other) .positive significand exponent where
  canonical := canonical
  most := most
  unpacked := by
    have bits : 2 ^ 52 ≤ oneSignificand * otherSignificand :=
      Nat.le_trans full (Nat.le_mul_of_pos_right _ otherBinary.canonical.positive)
    change (Float.Model.pack (UnpackedFloat.mul Format.binary64 one.toModel.unpack
      other.toModel.unpack)).unpack = _
    rw [oneBinary.unpacked, otherBinary.unpacked,
      rounds.mul_eq canonical oneBinary.canonical.positive otherBinary.canonical.positive
        .positive .positive value bits]
    exact unpack_pack canonical most .positive

theorem isBinary_div {one other : Float} {oneSignificand otherSignificand : ℕ}
    {oneExponent otherExponent : ℤ} (oneBinary : IsBinary one .positive oneSignificand oneExponent)
    (otherBinary : IsBinary other .positive otherSignificand otherExponent)
    (value : x = oneSignificand * 2 ^ oneExponent / (otherSignificand * 2 ^ otherExponent)) :
    IsBinary (one / other) .positive significand exponent where
  canonical := canonical
  most := most
  unpacked := by
    change (Float.Model.pack (UnpackedFloat.div Format.binary64 one.toModel.unpack
      other.toModel.unpack)).unpack = _
    rw [oneBinary.unpacked, otherBinary.unpacked,
      rounds.div_eq canonical oneBinary.canonical.positive otherBinary.canonical.positive
        .positive .positive value]
    exact unpack_pack canonical most .positive

variable {number : Decimal.Digits} (any : number.digits ≠ 0)
  (value : x = number.digits * 10 ^ number.exponent)

include any value

/-- Few digits and a small power of ten are themselves floating-point numbers. -/
theorem isBinary_of_powers (small : number.digits < 2 ^ 53)
    (listed : number.exponent.natAbs < Float.exactlyRepresentablePowersOfTen.size) :
    IsBinary
      (if number.exponent < 0 then
        number.digits.toUInt64.toFloat /
          Float.exactlyRepresentablePowersOfTen[number.exponent.natAbs]
      else
        number.digits.toUInt64.toFloat *
          Float.exactlyRepresentablePowersOfTen[number.exponent.natAbs])
      .positive significand exponent := by
  obtain ⟨digits, unit, digitsBinary, full, digits_eq⟩ :=
    isBinary_toFloat (Nat.pos_of_ne_zero any) small
  obtain ⟨ten, tenUnit, tenBinary, ten_eq⟩ := isBinary_of_isPowerOfTen
    (isPowerOfTen_table ⟨number.exponent.natAbs, listed⟩)
  split
  · rename_i negative
    refine isBinary_div rounds canonical most digitsBinary tenBinary ?_
    rw [value, digits_eq, ten_eq, div_eq_mul_inv, ← zpow_natCast, ← zpow_neg]
    congr 2
    dsimp only
    omega
  · rename_i natural
    refine isBinary_mul rounds canonical most digitsBinary tenBinary full ?_
    rw [value, digits_eq, ten_eq, ← zpow_natCast]
    congr 2
    dsimp only
    omega

omit most in
/-- Other digits are multiplied with the power of ten, or divided by it, and rounded once. -/
theorem ofScientific_eq (low : -(2 ^ 11 + (number.digits.log2 : ℤ)) ≤ number.exponent)
    (high : number.exponent ≤ 2 ^ 11) :
    UnpackedFloat.ofScientific Format.binary64 number.digits number.exponent =
      .finite .positive significand exponent canonical.positive := by
  have notHigh : ¬ number.exponent > 2 ^ Format.binary64.exponentBits := not_lt.mpr high
  have notLow : ¬ number.exponent < -(2 ^ Format.binary64.exponentBits + (number.digits.log2 : ℤ)) :=
    not_lt.mpr low
  have bits : Format.binary64.mantissaBits = 53 := rfl
  unfold UnpackedFloat.ofScientific
  rw [dif_neg any, if_neg notHigh, if_neg notLow]
  split
  · rename_i natural
    obtain ⟨power, power_eq⟩ := Int.eq_ofNat_of_zero_le natural
    refine rounds.mul_eq canonical _ _ .positive .positive ?_ ?_
    · rw [value, power_eq, bits, Nat.shiftLeft_eq, Int.toNat_natCast]
      push_cast
      rw [zpow_neg, zpow_natCast]
      field_simp
      norm_num
    · rw [bits, Nat.shiftLeft_eq]
      have some : 0 < number.digits * 10 ^ number.exponent.toNat :=
        Nat.mul_pos (Nat.pos_of_ne_zero any) (by positivity)
      nlinarith
  · rename_i negative
    obtain ⟨power, power_eq⟩ : ∃ power : ℕ, number.exponent = -power :=
      ⟨(-number.exponent).toNat, by omega⟩
    refine rounds.div_eq canonical _ _ .positive .positive ?_
    rw [value, power_eq, neg_neg, Int.toNat_natCast, zpow_neg, zpow_natCast]
    push_cast
    field_simp

theorem isBinary_ofScientific (low : -(2 ^ 11 + (number.digits.log2 : ℤ)) ≤ number.exponent)
    (high : number.exponent ≤ 2 ^ 11) :
    IsBinary (Float.ofScientific number.digits (decide (number.exponent < 0))
      number.exponent.natAbs) .positive significand exponent := by
  unfold Float.ofScientific
  split
  · rename_i few
    have powers := isBinary_of_powers rounds canonical most any value few.1
      (Nat.lt_succ_of_le few.2)
    simp only [decide_eq_true_eq]
    exact powers
  · refine ⟨canonical, most, ?_⟩
    have signed : (if decide (number.exponent < 0) = true then Int.negOfNat number.exponent.natAbs
        else Int.ofNat number.exponent.natAbs) = number.exponent := by
      split
      · rename_i negative
        have := of_decide_eq_true negative
        rw [Int.negOfNat_eq, Int.ofNat_eq_natCast]
        omega
      · rename_i natural
        have := of_decide_eq_false (Bool.eq_false_iff.mpr natural)
        rw [Int.ofNat_eq_natCast]
        omega
    dsimp only
    rw [signed]
    change (Float.Model.pack (UnpackedFloat.ofScientific Format.binary64 number.digits
      number.exponent)).unpack = _
    rw [ofScientific_eq rounds canonical any value low high]
    exact unpack_pack canonical most .positive

/-- The power of ten of the leading digit lies within the reach of floating-point numbers. -/
theorem leading_bounds :
    -400 ≤ ((Decimal.natDigits number.digits).length : ℤ) + number.exponent ∧
      ((Decimal.natDigits number.digits).length : ℤ) + number.exponent ≤ 400 := by
  obtain ⟨above, below⟩ := natDigits_bounds any
  obtain ⟨low, high⟩ := rounds.bounds canonical most
  have some : 0 < (Decimal.natDigits number.digits).length := Nat.length_toDigits_pos
  obtain ⟨length, length_eq⟩ : ∃ length, (Decimal.natDigits number.digits).length = length + 1 :=
    ⟨_, (Nat.succ_pred_eq_of_pos some).symm⟩
  rw [length_eq] at above below ⊢
  have unit : (0 : ℚ) < 10 ^ number.exponent := by positivity
  have ten : (10 : ℚ) ≠ 0 := by norm_num
  have atLeast : (10 : ℚ) ^ ((length : ℤ) + number.exponent) ≤ x := by
    rw [value, zpow_add₀ ten, zpow_natCast]
    exact mul_le_mul_of_nonneg_right (by exact_mod_cast above) unit.le
  have atMost : x < 10 ^ ((length : ℤ) + 1 + number.exponent) := by
    rw [value, zpow_add₀ ten]
    exact mul_lt_mul_of_pos_right (by exact_mod_cast below) unit
  have reach : (2 : ℚ) ^ (1200 : ℤ) ≤ 10 ^ (400 : ℤ) := by
    calc (2 : ℚ) ^ (1200 : ℤ) = (2 ^ (3 : ℤ)) ^ (400 : ℤ) := by rw [← zpow_mul]; rfl
      _ ≤ 10 ^ (400 : ℤ) := zpow_le_zpow_left₀ (by norm_num) (by norm_num) (by norm_num)
  have top : (2 : ℚ) ^ (1024 : ℤ) ≤ 10 ^ (400 : ℤ) :=
    (zpow_le_zpow_right₀ one_le_two (by norm_num)).trans reach
  have bottom : (10 : ℚ) ^ (-400 : ℤ) ≤ 2 ^ (-1075 : ℤ) := by
    rw [zpow_neg, zpow_neg]
    exact inv_anti₀ (by positivity)
      ((zpow_le_zpow_right₀ one_le_two (by norm_num)).trans reach)
  push_cast
  constructor
  · have less := (zpow_lt_zpow_iff_right₀ (by norm_num)).mp (lt_of_le_of_lt (bottom.trans low) atMost)
    omega
  · have less := (zpow_lt_zpow_iff_right₀ (by norm_num)).mp
      (lt_of_le_of_lt atLeast (lt_of_lt_of_le high top))
    omega

/-- Digits are read as the floating-point number that they round to. -/
theorem isBinary_nearest : IsBinary (Decimal.nearest number) .positive significand exponent := by
  obtain ⟨low, high⟩ := leading_bounds rounds canonical most any value
  have few := natDigits_length_le number.digits
  have some : 0 < (Decimal.natDigits number.digits).length := Nat.length_toDigits_pos
  unfold Decimal.nearest
  dsimp only
  rw [if_neg any, if_neg (by omega), if_neg (by omega)]
  exact isBinary_ofScientific rounds canonical most any value (by omega) (by omega)

end

end PhraseSheet.Binary
