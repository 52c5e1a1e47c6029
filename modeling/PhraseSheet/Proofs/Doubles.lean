import Mathlib
import PhraseSheet.Decimal.Dyadic
import PhraseSheet.Proofs.Rounding

/-! Floating-point numbers as binary numbers: what their bits say, and that a binary number within reach
is the floating-point number that is packed from it. -/

namespace PhraseSheet.Binary

open Float.Model Float.Model.UnpackedFloat

/-- The bit that is not stored stands in front of the stored ones. -/
theorem toNat_implicit (stored : BitVec 52) : (1#1 ++ stored).toNat = 2 ^ 52 + stored.toNat := by
  rw [BitVec.toNat_append, ← Nat.shiftLeft_add_eq_or_of_lt stored.isLt]
  simp [Nat.shiftLeft_eq]

theorem unpack_top (sign : Sign) (stored : BitVec 52) :
    (UnpackedFloat.unpack Format.binary64
      (packComponents Format.binary64 sign (-1#11) stored)).isFinite = false := by
  simp only [UnpackedFloat.unpack, unpackExponent_packComponents, if_true]
  split <;> rfl

theorem unpack_normal (sign : Sign) {biased : BitVec 11} (notTop : biased ≠ -1#11)
    (notZero : biased ≠ 0#11) (stored : BitVec 52) :
    UnpackedFloat.unpack Format.binary64 (packComponents Format.binary64 sign biased stored) =
      .finite sign (2 ^ 52 + stored.toNat) (biased.toNat - 1075) (by positivity) := by
  simp only [UnpackedFloat.unpack, unpackExponent_packComponents, unpackMantissa_packComponents,
    unpackSign_packComponents, Sign.ofBitVec_toBitVec, if_neg notTop, if_neg notZero,
    toNat_implicit]
  rfl

theorem toNat_pos {stored : BitVec 52} (any : stored ≠ 0#52) : 0 < stored.toNat :=
  Nat.pos_of_ne_zero fun zero => any (BitVec.eq_of_toNat_eq zero)

theorem unpack_subnormal (sign : Sign) {stored : BitVec 52} (any : stored ≠ 0#52) :
    UnpackedFloat.unpack Format.binary64 (packComponents Format.binary64 sign 0#11 stored) =
      .finite sign stored.toNat (-1074) (toNat_pos any) := by
  have notTop : (0#11) ≠ -1#11 := by decide
  simp only [UnpackedFloat.unpack, unpackExponent_packComponents, unpackMantissa_packComponents,
    unpackSign_packComponents, Sign.ofBitVec_toBitVec, if_neg notTop, if_true, dif_neg any]
  rfl

theorem unpack_pack {significand : ℕ} {exponent : ℤ} (canonical : IsCanonical significand exponent)
    (most : exponent ≤ 971) (sign : Sign) :
    (Float.Model.pack (.finite sign significand exponent canonical.positive)).unpack =
      .finite sign significand exponent canonical.positive := by
  obtain ⟨positive, small, least, full⟩ := canonical
  obtain ⟨biased, rfl⟩ : ∃ biased : ℕ, exponent = biased - 1075 :=
    ⟨(exponent + 1075).toNat, by omega⟩
  have biased_eq : ((biased : ℤ) - 1075 + (1023 : ℕ) + (52 : ℕ)).toNat = biased := by omega
  have bias : Format.binary64.exponentBias = 1023 := rfl
  have within : ¬ 2 ^ 11 ≤ biased + 1 := by omega
  change UnpackedFloat.unpack Format.binary64 (UnpackedFloat.pack Format.binary64 _) = _
  have stored : (BitVec.ofNat 52 significand).toNat = significand % 2 ^ 52 := BitVec.toNat_ofNat _ _
  have bits : (BitVec.ofNat 11 biased).toNat = biased := by
    rw [BitVec.toNat_ofNat, Nat.mod_eq_of_lt (by omega)]
  by_cases normal : 2 ^ 52 ≤ significand
  · have log : significand.log2 + 1 = Format.binary64.mantissaBits := by
      have bits : significand.log2 = 52 := (Nat.log2_eq_iff positive.ne').mpr ⟨normal, small⟩
      rw [bits]
      rfl
    have implicit : 2 ^ 52 + (BitVec.ofNat 52 significand).toNat = significand := by
      rw [stored]
      omega
    simp only [UnpackedFloat.pack, bias, biased_eq, if_neg within, if_pos log]
    have notTop : BitVec.ofNat 11 biased ≠ -1#11 := by
      intro top
      have same : biased = 2047 := bits.symm.trans (congrArg BitVec.toNat top)
      omega
    have notZero : BitVec.ofNat 11 biased ≠ 0#11 := by
      intro zero
      have same : biased = 0 := bits.symm.trans (congrArg BitVec.toNat zero)
      omega
    rw [unpack_normal sign notTop notZero]
    simp only [implicit, bits]
  · have below : significand < 2 ^ 52 := Nat.lt_of_not_le normal
    have log : significand.log2 + 1 ≠ Format.binary64.mantissaBits := by
      have bits : significand.log2 < 52 := (Nat.log2_lt positive.ne').mpr below
      exact Nat.ne_of_lt (Nat.succ_lt_succ bits)
    rw [Nat.mod_eq_of_lt below] at stored
    have any : BitVec.ofNat 52 significand ≠ 0#52 := by
      intro zero
      rw [zero] at stored
      exact positive.ne stored
    simp only [UnpackedFloat.pack, bias, biased_eq, if_neg within, if_neg log]
    rw [unpack_subnormal sign any]
    simp only [stored, full.resolve_left normal]

/-- The number with this sign, significand and exponent. -/
structure IsBinary (x : Float) (sign : Sign) (significand : ℕ) (exponent : ℤ) : Prop where
  canonical : IsCanonical significand exponent
  most : exponent ≤ 971
  unpacked : x.toModel.unpack = .finite sign significand exponent canonical.positive

theorem eq_of_unpack_eq {x y : Float} (same : x.toModel.unpack = y.toModel.unpack) : x = y := by
  rw [← Float.ofBits_toBits x, ← Float.ofBits_toBits y]
  exact congrArg (fun unpacked => Float.ofModel (Float.Model.pack unpacked)) same

def exponentField (x : Float) : BitVec 11 :=
  @unpackExponent Format.binary64 x.toBits.toBitVec

def storedField (x : Float) : BitVec 52 :=
  @unpackMantissa Format.binary64 x.toBits.toBitVec

def signField (x : Float) : Sign :=
  Sign.ofBitVec (@unpackSign Format.binary64 x.toBits.toBitVec)

theorem exponentField_toNat (x : Float) :
    (exponentField x).toNat = x.toBits.toNat / 2 ^ 52 % 2 ^ 11 := by
  rw [exponentField, unpackExponent_def, BitVec.extractLsb'_toNat, Nat.shiftRight_eq_div_pow]
  rfl

theorem storedField_toNat (x : Float) : (storedField x).toNat = x.toBits.toNat % 2 ^ 52 := by
  rw [storedField, unpackMantissa_def, BitVec.extractLsb'_toNat, Nat.shiftRight_eq_div_pow]
  simp

theorem isNegative_iff (x : Float) :
    Decimal.isNegative x = true ↔ signField x = .negative := by
  have bit : (@unpackSign Format.binary64 x.toBits.toBitVec).toNat = x.toBits.toNat / 2 ^ 63 := by
    have below : x.toBits.toNat / 2 ^ 63 < 2 ^ 1 := by
      have := x.toBits.toNat_lt
      omega
    rw [unpackSign_def, BitVec.extractLsb'_toNat, Nat.shiftRight_eq_div_pow]
    exact Nat.mod_eq_of_lt below
  have shifted : (x.toBits >>> 63).toNat = x.toBits.toNat / 2 ^ 63 := by
    rw [UInt64.toNat_shiftRight, Nat.shiftRight_eq_div_pow]
    rfl
  have negative : Decimal.isNegative x = true ↔ x.toBits.toNat / 2 ^ 63 ≠ 0 := by
    rw [← shifted, Decimal.isNegative, bne_iff_ne, ne_eq, ne_eq, ← UInt64.toNat_inj]
    rfl
  rw [negative, ← bit, signField, Sign.ofBitVec]
  split
  · rename_i zero
    simp [zero]
  · rename_i one
    simp only [iff_true]
    exact fun zero => one (BitVec.eq_of_toNat_eq zero)

/-- The three fields are all of the number. -/
theorem unpack_eq_fields (x : Float) :
    x.toModel.unpack = UnpackedFloat.unpack Format.binary64
      (packComponents Format.binary64 (signField x) (exponentField x) (storedField x)) :=
  congrArg (UnpackedFloat.unpack Format.binary64)
    (@packComponents_unpackSign_unpackExponent_unpackMantissa Format.binary64
      x.toBits.toBitVec).symm

theorem magnitude_eq {x : Float} {biased stored : ℕ}
    (biased_eq : biased = x.toBits.toNat / 2 ^ 52 % 2 ^ 11)
    (stored_eq : stored = x.toBits.toNat % 2 ^ 52) :
    Decimal.magnitude x =
      if biased = 2047 then if stored = 0 then .infinite else .undefined
      else if biased = 0 then .finite ⟨stored, -1074, false⟩
      else .finite ⟨2 ^ 52 + stored, (biased : ℤ) - 1075, stored == 0 && decide (1 < biased)⟩ := by
  subst biased_eq stored_eq
  rfl

/-- A finite number is a zero or a binary number, as its bits say. -/
theorem finite_cases {x : Float} (finite : x.isFinite) :
    (∃ sign, x.toModel.unpack = .zero sign ∧ Decimal.magnitude x = .finite ⟨0, -1074, false⟩ ∧
        (Decimal.isNegative x = true ↔ sign = .negative)) ∨
      ∃ sign significand exponent, IsBinary x sign significand exponent ∧
        Decimal.magnitude x =
          .finite ⟨significand, exponent, decide (significand = 2 ^ 52 ∧ -1074 < exponent)⟩ ∧
        (Decimal.isNegative x = true ↔ sign = .negative) := by
  have negative := isNegative_iff x
  have magnitude := magnitude_eq (exponentField_toNat x) (storedField_toNat x)
  have unpacked := unpack_eq_fields x
  change x.toModel.unpack.isFinite = true at finite
  generalize exponentField x = biased at *
  generalize storedField x = stored at *
  generalize signField x = sign at *
  have biased_lt := biased.isLt
  have stored_lt := stored.isLt
  by_cases top : biased = -1#11
  · rw [unpacked, top, unpack_top] at finite
    cases finite
  have notTop : biased.toNat ≠ 2047 := fun same => top (BitVec.eq_of_toNat_eq same)
  rw [if_neg notTop] at magnitude
  by_cases zero : biased = 0#11
  · subst zero
    rw [if_pos (show (0#11).toNat = 0 from rfl)] at magnitude
    by_cases nothing : stored = 0#52
    · subst nothing
      exact .inl ⟨sign, unpacked.trans unpack_packedZero, magnitude, negative⟩
    · rw [unpack_subnormal sign nothing] at unpacked
      refine .inr ⟨sign, stored.toNat, -1074, ⟨⟨toNat_pos nothing, by omega, le_refl _, .inr rfl⟩,
        by decide, unpacked⟩, ?_, negative⟩
      simpa using magnitude
  · have notZero : biased.toNat ≠ 0 := fun same => zero (BitVec.eq_of_toNat_eq same)
    rw [if_neg notZero] at magnitude
    rw [unpack_normal sign top zero] at unpacked
    have canonical : IsCanonical (2 ^ 52 + stored.toNat) (biased.toNat - 1075) :=
      ⟨by positivity, by omega, by omega, .inl (Nat.le_add_right _ _)⟩
    refine .inr ⟨sign, _, _, ⟨canonical, by omega, unpacked⟩, ?_, negative⟩
    rw [magnitude]
    congr 2
    rw [Bool.eq_iff_iff]
    simp only [Bool.and_eq_true, beq_iff_eq, decide_eq_true_eq]
    omega

end PhraseSheet.Binary
