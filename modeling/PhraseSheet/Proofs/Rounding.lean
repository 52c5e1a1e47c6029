import Mathlib

/-! Rounding to binary numbers of double precision. A number that lies nearer to a binary number than
to its neighbours is rounded to it, in whatever way products and quotients arrive at it. -/

namespace PhraseSheet.Binary

open Float.Model Float.Model.UnpackedFloat

/-- The whole number, with what is known of the part behind it, stands for the number. -/
def StandsFor (whole : ℕ) (x : ℚ) : Accuracy → Prop
  | .exact => x = whole
  | .inexact .lt => whole < x ∧ x < whole + 1 / 2
  | .inexact .eq => x = whole + 1 / 2
  | .inexact .gt => whole + 1 / 2 < x ∧ x < whole + 1

/-- The whole number is the nearest, and an even one if another is as near. -/
def IsNearest (x : ℚ) (whole : ℕ) : Prop :=
  (whole : ℚ) - 1 / 2 < x ∧ x < whole + 1 / 2 ∨
    (x = whole - 1 / 2 ∨ x = whole + 1 / 2) ∧ whole % 2 = 0

theorem StandsFor.le {whole : ℕ} {x : ℚ} {accuracy : Accuracy}
    (stands : StandsFor whole x accuracy) : whole ≤ x := by
  unfold StandsFor at stands
  split at stands <;> linarith

theorem StandsFor.lt {whole : ℕ} {x : ℚ} {accuracy : Accuracy}
    (stands : StandsFor whole x accuracy) : x < whole + 1 := by
  unfold StandsFor at stands
  split at stands <;> linarith

theorem IsNearest.low {x : ℚ} {whole : ℕ} (isNearest : IsNearest x whole) : whole - 1 / 2 ≤ x := by
  rcases isNearest with ⟨above, _⟩ | ⟨same | same, _⟩ <;> linarith

theorem IsNearest.high {x : ℚ} {whole : ℕ} (isNearest : IsNearest x whole) : x ≤ whole + 1 / 2 := by
  rcases isNearest with ⟨_, below⟩ | ⟨same | same, _⟩ <;> linarith

theorem IsNearest.even {x : ℚ} {whole : ℕ} (isNearest : IsNearest x whole)
    (half : x = whole - 1 / 2 ∨ x = whole + 1 / 2) : whole % 2 = 0 := by
  rcases isNearest with ⟨above, below⟩ | ⟨_, even⟩
  · rcases half with rfl | rfl
    · exact absurd above (lt_irrefl _)
    · exact absurd below (lt_irrefl _)
  · exact even

/-- Between the midpoints to its neighbours, an even whole number is the nearest, and an odd one is
unless the number is a midpoint. -/
theorem isNearest_of_between {x : ℚ} {whole : ℕ} (low : whole - 1 / 2 ≤ x)
    (high : x ≤ whole + 1 / 2)
    (apart : whole % 2 ≠ 0 → x ≠ whole - 1 / 2 ∧ x ≠ whole + 1 / 2) : IsNearest x whole := by
  by_cases half : x = whole - 1 / 2 ∨ x = whole + 1 / 2
  · refine .inr ⟨half, ?_⟩
    by_contra isOdd
    exact half.elim (apart isOdd).1 (apart isOdd).2
  · rw [not_or] at half
    exact .inl ⟨lt_of_le_of_ne low (Ne.symm half.1), lt_of_le_of_ne high half.2⟩

theorem StandsFor.rounded {whole nearest : ℕ} {x : ℚ} {accuracy : Accuracy}
    (stands : StandsFor whole x accuracy) (isNearest : IsNearest x nearest) :
    accuracy.roundToNearestEven whole = nearest := by
  have low := isNearest.low
  have high := isNearest.high
  have cases : nearest = whole ∨ nearest = whole + 1 := by
    have first : (whole : ℚ) < (nearest + 1 : ℕ) := by push_cast; linarith [stands.le]
    have second : (nearest : ℚ) < (whole + 2 : ℕ) := by push_cast; linarith [stands.lt]
    have first' : whole < nearest + 1 := by exact_mod_cast first
    have second' : nearest < whole + 2 := by exact_mod_cast second
    omega
  rcases accuracy with _ | (_ | _ | _) <;> rcases cases with rfl | rfl <;>
    simp only [StandsFor] at stands <;> push_cast at low high
  · rfl
  · linarith
  · rfl
  · linarith
  · have even := isNearest.even (.inr stands)
    simp [Accuracy.roundToNearestEven, even]
  · have even := isNearest.even (.inl (by push_cast; linarith))
    simp only [Accuracy.roundToNearestEven]
    omega
  · linarith
  · rfl

theorem standsFor_quotient {numerator denominator : ℕ} (positive : 0 < denominator) :
    StandsFor (numerator / denominator) ((numerator : ℚ) / denominator)
      (accuracyOfFraction (numerator % denominator) denominator) := by
  have less := Nat.mod_lt numerator positive
  have split := Nat.div_add_mod numerator denominator
  generalize numerator / denominator = whole at *
  generalize numerator % denominator = rest at *
  have positive' : (0 : ℚ) < denominator := by exact_mod_cast positive
  have part : (numerator : ℚ) / denominator = whole + (rest : ℚ) / denominator := by
    rw [← split]
    push_cast
    field_simp
  rw [part]
  unfold accuracyOfFraction
  split
  · rename_i nothing
    simp [StandsFor, nothing]
  · rename_i something
    have some : (0 : ℚ) < rest := by exact_mod_cast Nat.pos_of_ne_zero something
    have proper : (rest : ℚ) / denominator < 1 := by
      rw [div_lt_one positive']
      exact_mod_cast less
    have above : (0 : ℚ) < rest / denominator := div_pos some positive'
    cases order : compare (2 * rest) denominator with
    | lt =>
      have below : (2 * rest : ℚ) < denominator := by exact_mod_cast Nat.compare_eq_lt.mp order
      have half : (rest : ℚ) / denominator < 1 / 2 := by
        rw [div_lt_iff₀ positive']
        linarith
      exact ⟨by linarith, by linarith⟩
    | eq =>
      have same : (2 * rest : ℚ) = denominator := by exact_mod_cast Nat.compare_eq_eq.mp order
      have half : (rest : ℚ) / denominator = 1 / 2 := by
        rw [div_eq_iff positive'.ne']
        linarith
      rw [StandsFor, half]
    | gt =>
      have beyond : (denominator : ℚ) < 2 * rest := by exact_mod_cast Nat.compare_eq_gt.mp order
      have half : 1 / 2 < (rest : ℚ) / denominator := by
        rw [lt_div_iff₀ positive']
        linarith
      exact ⟨by linarith, by linarith⟩

theorem StandsFor.shiftRightOne {extended : ExtendedMantissa} {x : ℚ}
    (stands : StandsFor extended.mantissa x extended.accuracy) :
    StandsFor extended.shiftRightOne.mantissa (x / 2) extended.shiftRightOne.accuracy := by
  obtain ⟨whole, roundBit, stickyBit⟩ := extended
  have split : (whole : ℚ) = 2 * (whole / 2 : ℕ) + (whole % 2 : ℕ) := by
    exact_mod_cast (Nat.div_add_mod whole 2).symm
  change StandsFor (whole / 2) (x / 2)
    (ExtendedMantissa.accuracy ⟨whole / 2, whole % 2 != 0, roundBit || stickyBit⟩)
  generalize whole / 2 = half at *
  -- The bit that is shifted out is the new round bit.
  rcases Nat.mod_two_eq_zero_or_one whole with even | odd
  · rw [even, Nat.cast_zero, add_zero] at split
    rw [even]
    cases roundBit <;> cases stickyBit <;> dsimp [StandsFor, ExtendedMantissa.accuracy] at stands
    · exact show x / 2 = half by linarith
    · exact ⟨by linarith, by linarith⟩
    · exact ⟨by linarith, by linarith⟩
    · exact ⟨by linarith, by linarith⟩
  · rw [odd, Nat.cast_one] at split
    rw [odd]
    cases roundBit <;> cases stickyBit <;> dsimp [StandsFor, ExtendedMantissa.accuracy] at stands
    · exact show x / 2 = half + 1 / 2 by linarith
    · exact ⟨by linarith, by linarith⟩
    · exact ⟨by linarith, by linarith⟩
    · exact ⟨by linarith, by linarith⟩

theorem StandsFor.shiftRight {extended : ExtendedMantissa} {x : ℚ}
    (stands : StandsFor extended.mantissa x extended.accuracy) (count : ℕ) :
    StandsFor (extended >>> count).mantissa (x / 2 ^ count) (extended >>> count).accuracy := by
  induction count with
  | zero => simpa [HShiftRight.hShiftRight, Nat.repeat] using stands
  | succ count ih =>
    rw [pow_succ, ← div_div]
    exact ih.shiftRightOne

theorem ofMantissaAndAccuracy_mantissa (whole : ℕ) (accuracy : Accuracy) :
    (ExtendedMantissa.ofMantissaAndAccuracy whole accuracy).mantissa = whole := by
  rcases accuracy with _ | (_ | _ | _) <;> rfl

theorem ofMantissaAndAccuracy_accuracy (whole : ℕ) (accuracy : Accuracy) :
    (ExtendedMantissa.ofMantissaAndAccuracy whole accuracy).accuracy = accuracy := by
  rcases accuracy with _ | (_ | _ | _) <;> rfl

theorem StandsFor.extended {whole : ℕ} {x : ℚ} {accuracy : Accuracy}
    (stands : StandsFor whole x accuracy) :
    StandsFor (ExtendedMantissa.ofMantissaAndAccuracy whole accuracy).mantissa x
      (ExtendedMantissa.ofMantissaAndAccuracy whole accuracy).accuracy := by
  rwa [ofMantissaAndAccuracy_mantissa, ofMantissaAndAccuracy_accuracy]

/-- The exponents of a binary number: as small as fifty-three bits allow, but not below the least
one. -/
theorem targetExponent_eq (total : ℤ) :
    Format.binary64.targetExponent total = max (total - 53) (-1074) := rfl

/-- The significand has fifty-three bits, or fewer at the least exponent. -/
structure IsCanonical (significand : ℕ) (exponent : ℤ) : Prop where
  positive : 0 < significand
  small : significand < 2 ^ 53
  least : -1074 ≤ exponent
  full : 2 ^ 52 ≤ significand ∨ exponent = -1074

/-- The distance to the midpoint below in units of the last place. Below a power of two the numbers
stand closer. -/
def gapBelow (significand : ℕ) (exponent : ℤ) : ℚ :=
  if significand = 2 ^ 52 ∧ -1074 < exponent then 1 / 4 else 1 / 2

/-- In units of the last place, the number lies between the midpoints to the neighbours of the binary
number, on a midpoint only if the significand is even. -/
structure RoundsTo (x : ℚ) (significand : ℕ) (exponent : ℤ) : Prop where
  low : significand - gapBelow significand exponent ≤ x / 2 ^ exponent
  high : x / 2 ^ exponent ≤ significand + 1 / 2
  apart : significand % 2 ≠ 0 →
    x / 2 ^ exponent ≠ significand - gapBelow significand exponent ∧
      x / 2 ^ exponent ≠ significand + 1 / 2

theorem gapBelow_cases (significand : ℕ) (exponent : ℤ) :
    gapBelow significand exponent = 1 / 2 ∨
      gapBelow significand exponent = 1 / 4 ∧ significand = 2 ^ 52 ∧ -1074 < exponent := by
  unfold gapBelow
  split
  · rename_i narrow
    exact .inr ⟨rfl, narrow⟩
  · exact .inl rfl

theorem gapBelow_pos (significand : ℕ) (exponent : ℤ) : 0 < gapBelow significand exponent := by
  rcases gapBelow_cases significand exponent with same | ⟨same, _⟩ <;> rw [same] <;> norm_num

theorem gapBelow_le (significand : ℕ) (exponent : ℤ) : gapBelow significand exponent ≤ 1 / 2 := by
  rcases gapBelow_cases significand exponent with same | ⟨same, _⟩ <;> rw [same]
  norm_num

theorem roundsTo_self (significand : ℕ) (exponent : ℤ) :
    RoundsTo (significand * 2 ^ exponent) significand exponent := by
  have gap := gapBelow_pos significand exponent
  have exact : (significand : ℚ) * 2 ^ exponent / 2 ^ exponent = significand :=
    mul_div_cancel_right₀ _ (by positivity)
  constructor <;> rw [exact]
  · linarith
  · linarith
  · exact fun _ => ⟨by linarith, by linarith⟩

section

variable {x : ℚ} {significand : ℕ} {exponent target : ℤ}

theorem RoundsTo.isNearest (rounds : RoundsTo x significand exponent) :
    IsNearest (x / 2 ^ exponent) significand := by
  have gap := gapBelow_le significand exponent
  refine isNearest_of_between (by linarith [rounds.low]) rounds.high ?_
  intro isOdd
  rcases gapBelow_cases significand exponent with same | ⟨_, rfl, _⟩
  · rw [← same]
    exact ⟨(rounds.apart isOdd).1, fun high => (rounds.apart isOdd).2 (by rw [high, same])⟩
  · exact absurd (by norm_num) isOdd

/-- The number is rounded on the grid of its own exponent, or on the next finer one up to a power of
two. -/
theorem RoundsTo.isNearest_on (rounds : RoundsTo x significand exponent)
    (canonical : IsCanonical significand exponent) (least : -1074 ≤ target)
    (below : x / 2 ^ target < 2 ^ 53) (above : target = -1074 ∨ 2 ^ 52 ≤ x / 2 ^ target) :
    target = exponent ∧ IsNearest (x / 2 ^ target) significand ∨
      target + 1 = exponent ∧ significand = 2 ^ 52 ∧ IsNearest (x / 2 ^ target) (2 ^ 53) := by
  obtain ⟨steps, rfl⟩ : ∃ steps, exponent = target + steps := ⟨exponent - target, by omega⟩
  have scaled : x / 2 ^ target = x / 2 ^ (target + steps) * 2 ^ steps := by
    rw [zpow_add₀ two_ne_zero]
    field_simp
  have low := rounds.low
  have high := rounds.high
  have gap := gapBelow_le significand (target + steps)
  have small : (significand : ℚ) + 1 ≤ 2 ^ 53 := by exact_mod_cast canonical.small
  rcases show steps ≤ -1 ∨ steps = 0 ∨ 1 ≤ steps by omega with finer | rfl | coarser
  · -- So coarse a grid is taken at the least exponent only.
    have half : (2 : ℚ) ^ steps ≤ 1 / 2 := by
      calc (2 : ℚ) ^ steps ≤ 2 ^ (-1 : ℤ) := zpow_le_zpow_right₀ one_le_two finer
        _ = 1 / 2 := by norm_num
    have unit : (0 : ℚ) < 2 ^ steps := by positivity
    have reach : x / 2 ^ target < 2 ^ 52 := by
      rw [scaled]
      nlinarith
    have bottom := above.resolve_right (not_le.mpr reach)
    have := canonical.least
    omega
  · rw [zpow_zero, mul_one] at scaled
    rw [scaled]
    exact .inl ⟨(add_zero target).symm, rounds.isNearest⟩
  · have full : 2 ^ 52 ≤ significand := canonical.full.resolve_right (by omega)
    have full' : (2 : ℚ) ^ 52 ≤ significand := by exact_mod_cast full
    have double : (2 : ℚ) ≤ 2 ^ steps := by
      calc (2 : ℚ) = 2 ^ (1 : ℤ) := (zpow_one 2).symm
        _ ≤ 2 ^ steps := zpow_le_zpow_right₀ one_le_two coarser
    rw [scaled] at below
    have power : significand = 2 ^ 52 := by
      by_contra other
      have more : (2 : ℚ) ^ 52 + 1 ≤ significand := by
        exact_mod_cast Nat.lt_of_le_of_ne full (Ne.symm other)
      nlinarith
    have next : steps = 1 := by
      by_contra other
      have quadruple : (4 : ℚ) ≤ 2 ^ steps := by
        calc (4 : ℚ) = 2 ^ (2 : ℤ) := by norm_num
          _ ≤ 2 ^ steps := zpow_le_zpow_right₀ one_le_two (by omega)
      nlinarith
    subst power next
    have narrow : gapBelow (2 ^ 52) (target + 1) = 1 / 4 := if_pos ⟨rfl, by omega⟩
    refine .inr ⟨rfl, rfl, ?_⟩
    rw [narrow] at low
    push_cast at low
    rw [zpow_one] at scaled below
    rw [scaled]
    refine isNearest_of_between ?_ ?_ ?_
    · push_cast
      linarith
    · push_cast
      linarith
    · intro isOdd
      exact absurd (by norm_num) isOdd

end

theorem lt_two_zpow_total {whole : ℕ} {x : ℚ} {accuracy : Accuracy} {exponent : ℤ}
    (stands : StandsFor whole (x / 2 ^ exponent) accuracy) :
    x < 2 ^ totalExponent whole exponent := by
  have unit : (0 : ℚ) < 2 ^ exponent := by positivity
  have bound : (whole : ℚ) + 1 ≤ 2 ^ (whole.log2 + 1) := by exact_mod_cast Nat.lt_log2_self
  have below : x / 2 ^ exponent < 2 ^ (whole.log2 + 1) := lt_of_lt_of_le stands.lt bound
  rw [div_lt_iff₀ unit] at below
  rw [totalExponent, zpow_add₀ two_ne_zero]
  exact_mod_cast below

theorem two_zpow_total_le {whole : ℕ} {x : ℚ} {accuracy : Accuracy} {exponent : ℤ}
    (stands : StandsFor whole (x / 2 ^ exponent) accuracy) (positive : whole ≠ 0) :
    2 ^ (totalExponent whole exponent - 1) ≤ x := by
  have unit : (0 : ℚ) < 2 ^ exponent := by positivity
  have bound : (2 : ℚ) ^ whole.log2 ≤ whole := by exact_mod_cast Nat.log2_self_le positive
  have above : (2 : ℚ) ^ whole.log2 ≤ x / 2 ^ exponent := le_trans bound stands.le
  rw [le_div_iff₀ unit] at above
  have total : totalExponent whole exponent - 1 = (whole.log2 : ℤ) + exponent := by
    rw [totalExponent]
    ring
  rw [total, zpow_add₀ two_ne_zero]
  exact_mod_cast above

/-- Shifted to the target exponent, the number has at most fifty-three bits in front of the point, and
all of them unless the target is the least exponent. -/
theorem target_bounds {whole : ℕ} {x : ℚ} {accuracy : Accuracy} {exponent target : ℤ}
    (stands : StandsFor whole (x / 2 ^ exponent) accuracy)
    (target_eq : Format.binary64.targetExponent (totalExponent whole exponent) = target)
    (fine : exponent ≤ target) :
    x / 2 ^ target < 2 ^ 53 ∧ (target = -1074 ∨ 2 ^ 52 ≤ x / 2 ^ target) := by
  have unit : (0 : ℚ) < 2 ^ target := by positivity
  rw [targetExponent_eq] at target_eq
  constructor
  · rw [div_lt_iff₀ unit]
    calc x < 2 ^ totalExponent whole exponent := lt_two_zpow_total stands
      _ ≤ 2 ^ (53 + target) := zpow_le_zpow_right₀ one_le_two (by omega)
      _ = 2 ^ 53 * 2 ^ target := by rw [zpow_add₀ two_ne_zero]; norm_cast
  · by_cases bottom : target = -1074
    · exact .inl bottom
    · have positive : whole ≠ 0 := by
        rintro rfl
        simp only [totalExponent, Nat.log2_zero] at target_eq
        omega
      refine .inr ?_
      rw [le_div_iff₀ unit]
      calc (2 : ℚ) ^ 52 * 2 ^ target = 2 ^ (52 + target) := by
            rw [zpow_add₀ two_ne_zero]; norm_cast
        _ = 2 ^ (totalExponent whole exponent - 1) := by congr 1; omega
        _ ≤ x := two_zpow_total_le stands positive

theorem shiftToTargetExponent_canonical {significand : ℕ} {exponent : ℤ}
    (small : significand < 2 ^ 53) (least : -1074 ≤ exponent) :
    shiftToTargetExponent Format.binary64 significand exponent .exact =
      (.ofMantissaAndAccuracy significand .exact, exponent) := by
  have bits : significand.log2 < 53 := by
    rcases Nat.eq_zero_or_pos significand with rfl | positive
    · decide
    · exact (Nat.log2_lt positive.ne').mpr small
  have stay : (max (totalExponent significand exponent - 53) (-1074) - exponent).toNat = 0 := by
    rw [totalExponent]
    omega
  simp [shiftToTargetExponent, shiftToExponent, targetExponent_eq, stay, HShiftRight.hShiftRight,
    Nat.repeat]

theorem shiftToTargetExponent_power {exponent : ℤ} (least : -1074 ≤ exponent) :
    shiftToTargetExponent Format.binary64 (2 ^ 53) exponent .exact =
      (.ofMantissaAndAccuracy (2 ^ 52) .exact, exponent + 1) := by
  have once : (max (totalExponent (2 ^ 53) exponent - 53) (-1074) - exponent).toNat = 1 := by
    rw [totalExponent, Nat.log2_two_pow]
    omega
  simp only [shiftToTargetExponent, shiftToExponent, targetExponent_eq, once]
  rfl

/-- Rounding shifts to the target exponent, and once more if rounding up gave one bit too many. -/
theorem roundWithAccuracy_of_shifts {whole significand : ℕ} {unit target exponent : ℤ}
    {accuracy : Accuracy} {extended : ExtendedMantissa} (sign : Sign)
    (first : shiftToTargetExponent Format.binary64 whole unit accuracy = (extended, target))
    (second : shiftToTargetExponent Format.binary64 extended.roundedMantissa target .exact =
      (.ofMantissaAndAccuracy significand .exact, exponent)) (positive : 0 < significand) :
    roundWithAccuracy Format.binary64 sign whole unit accuracy =
      .finite sign significand exponent positive := by
  unfold roundWithAccuracy
  simp [first, second, ofMantissaAndAccuracy_mantissa, positive.ne']

/-- A number given in units so fine that nothing is lost is rounded to the binary number that it lies
nearest to. -/
theorem RoundsTo.roundWithAccuracy_eq {x : ℚ} {significand : ℕ} {exponent : ℤ}
    (rounds : RoundsTo x significand exponent) (canonical : IsCanonical significand exponent)
    {whole : ℕ} {unit : ℤ} {accuracy : Accuracy} (sign : Sign)
    (stands : StandsFor whole (x / 2 ^ unit) accuracy)
    (fine : unit ≤ Format.binary64.targetExponent (totalExponent whole unit)) :
    roundWithAccuracy Format.binary64 sign whole unit accuracy =
      .finite sign significand exponent canonical.positive := by
  obtain ⟨target, target_eq⟩ : ∃ target,
      Format.binary64.targetExponent (totalExponent whole unit) = target := ⟨_, rfl⟩
  rw [target_eq] at fine
  obtain ⟨below, above⟩ := target_bounds stands target_eq fine
  have least : -1074 ≤ target := by
    rw [targetExponent_eq] at target_eq
    omega
  obtain ⟨count, rfl⟩ : ∃ count : ℕ, target = unit + count := ⟨(target - unit).toNat, by omega⟩
  have shifted : shiftToTargetExponent Format.binary64 whole unit accuracy =
      (ExtendedMantissa.ofMantissaAndAccuracy whole accuracy >>> count, unit + count) := by
    simp [shiftToTargetExponent, shiftToExponent, target_eq]
  have grid : x / 2 ^ unit / 2 ^ count = x / 2 ^ (unit + count) := by
    rw [zpow_add₀ two_ne_zero, zpow_natCast, div_div]
  have onGrid := stands.extended.shiftRight count
  rw [grid] at onGrid
  rcases rounds.isNearest_on canonical least below above with
    ⟨rfl, isNearest⟩ | ⟨rfl, rfl, isNearest⟩
  · have rounded : ExtendedMantissa.roundedMantissa _ = significand := onGrid.rounded isNearest
    have stays := shiftToTargetExponent_canonical canonical.small least
    exact roundWithAccuracy_of_shifts sign shifted (rounded ▸ stays) canonical.positive
  · have rounded : ExtendedMantissa.roundedMantissa _ = 2 ^ 53 := onGrid.rounded isNearest
    have carries := shiftToTargetExponent_power least
    exact roundWithAccuracy_of_shifts sign shifted (rounded ▸ carries) canonical.positive

/-- Enough bits are put behind the numerator for the quotient to have fifty-three. -/
theorem le_log2_quotient {one other count : ℕ} (onePositive : 0 < one) (otherPositive : 0 < other)
    (logs : other.log2 + 53 ≤ one.log2 + count) : 52 ≤ (one <<< count / other).log2 := by
  have quotient : 2 ^ 52 ≤ one <<< count / other := by
    rw [Nat.le_div_iff_mul_le otherPositive, Nat.shiftLeft_eq]
    calc 2 ^ 52 * other ≤ 2 ^ 52 * 2 ^ (other.log2 + 1) :=
          Nat.mul_le_mul_left _ (Nat.le_of_lt Nat.lt_log2_self)
      _ = 2 ^ (other.log2 + 53) := by rw [← pow_add]; congr 1; omega
      _ ≤ 2 ^ (one.log2 + count) := Nat.pow_le_pow_right two_pos logs
      _ = 2 ^ one.log2 * 2 ^ count := pow_add 2 _ _
      _ ≤ one * 2 ^ count := Nat.mul_le_mul_right _ (Nat.log2_self_le onePositive.ne')
  exact (Nat.le_log2 (by omega)).mpr quotient

section

variable {x : ℚ} {significand : ℕ} {exponent : ℤ} (rounds : RoundsTo x significand exponent)
  (canonical : IsCanonical significand exponent) {one other : ℕ} {oneUnit otherUnit : ℤ}
  (onePositive : 0 < one) (otherPositive : 0 < other) (sign otherSign : Sign)

include rounds

theorem RoundsTo.mul_eq (value : x = one * 2 ^ oneUnit * (other * 2 ^ otherUnit))
    (bits : 2 ^ 52 ≤ one * other) :
    UnpackedFloat.mul Format.binary64 (.finite sign one oneUnit onePositive)
        (.finite otherSign other otherUnit otherPositive) =
      .finite (sign * otherSign) significand exponent canonical.positive := by
  have log : 52 ≤ (one * other).log2 :=
    (Nat.le_log2 (Nat.mul_pos onePositive otherPositive).ne').mpr bits
  have product : x / 2 ^ (oneUnit + otherUnit) = (one * other : ℕ) := by
    rw [value, zpow_add₀ two_ne_zero]
    push_cast
    field_simp
  have stands : StandsFor (one * other) (x / 2 ^ (oneUnit + otherUnit)) .exact := product
  refine rounds.roundWithAccuracy_eq canonical (sign * otherSign) stands ?_
  rw [targetExponent_eq, totalExponent]
  omega

/-- A quotient is rounded to the binary number nearest to it. -/
theorem RoundsTo.div_eq (value : x = one * 2 ^ oneUnit / (other * 2 ^ otherUnit)) :
    UnpackedFloat.div Format.binary64 (.finite sign one oneUnit onePositive)
        (.finite otherSign other otherUnit otherPositive) =
      .finite (sign / otherSign) significand exponent canonical.positive := by
  obtain ⟨unit, unit_eq⟩ : ∃ unit, min (oneUnit - otherUnit) (Format.binary64.targetExponent
      (totalExponent one oneUnit - totalExponent other otherUnit)) = unit := ⟨_, rfl⟩
  obtain ⟨count, count_eq⟩ : ∃ count : ℕ, oneUnit - otherUnit - unit = count :=
    ⟨(oneUnit - otherUnit - unit).toNat, by omega⟩
  have core : divCore Format.binary64 one oneUnit other otherUnit =
      (one <<< count / other, unit, accuracyOfFraction (one <<< count % other) other) := by
    simp [divCore, unit_eq, count_eq]
  have quotient : x / 2 ^ unit = ((one <<< count : ℕ) : ℚ) / other := by
    have exponents : (2 : ℚ) ^ oneUnit = 2 ^ count * 2 ^ unit * 2 ^ otherUnit := by
      rw [← zpow_natCast, ← zpow_add₀ two_ne_zero, ← zpow_add₀ two_ne_zero]
      congr 1
      omega
    have positive : (0 : ℚ) < other := by exact_mod_cast otherPositive
    rw [value, exponents, Nat.shiftLeft_eq]
    push_cast
    field_simp
  have stands : StandsFor (one <<< count / other) (x / 2 ^ unit)
      (accuracyOfFraction (one <<< count % other) other) := by
    rw [quotient]
    exact standsFor_quotient otherPositive
  have fine : unit ≤ Format.binary64.targetExponent (totalExponent (one <<< count / other) unit) := by
    rw [targetExponent_eq, totalExponent] at unit_eq ⊢
    by_cases bottom : unit ≤ -1074
    · omega
    · rw [totalExponent] at unit_eq
      have bits := le_log2_quotient onePositive otherPositive
        (show other.log2 + 53 ≤ one.log2 + count by omega)
      omega
  have result := rounds.roundWithAccuracy_eq canonical (sign / otherSign) stands fine
  simpa only [UnpackedFloat.div, core] using result

end

end PhraseSheet.Binary
