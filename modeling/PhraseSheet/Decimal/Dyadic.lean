namespace PhraseSheet.Decimal

/-- A finite value without its sign, `significand * 2 ^ exponent`. -/
structure Dyadic where
  significand : Nat
  exponent : Int
  /-- The value below is half as far away as the value above. -/
  narrowBelow : Bool

/-- What a number is apart from its sign. -/
inductive Magnitude where
  | undefined
  | infinite
  | finite (value : Dyadic)

def isNegative (x : Float) : Bool := x.toBits >>> 63 != 0

/-- The magnitude is read off the bits: eleven of exponent above fifty-two of fraction. -/
def magnitude (x : Float) : Magnitude :=
  let bits := x.toBits.toNat
  let exponent : Nat := bits / Nat.pow 2 52 % Nat.pow 2 11
  let fraction : Nat := bits % Nat.pow 2 52
  if exponent = 2047 then if fraction = 0 then .infinite else .undefined
  else if exponent = 0 then .finite ⟨fraction, -1074, false⟩
  else
    .finite
      ⟨Nat.pow 2 52 + fraction, (exponent : Int) - 1075, fraction == 0 && decide (1 < exponent)⟩

namespace Dyadic

/-- The value in units of `10 ^ grid`, as a fraction whose numerator counts quarters of a step
between neighbouring values. -/
def stepsOn (value : Dyadic) (grid : Int) : Nat × Nat :=
  (Nat.pow 2 value.exponent.toNat * Nat.pow 10 (-grid).toNat,
   4 * (Nat.pow 2 (-value.exponent).toNat * Nat.pow 10 grid.toNat))

/-- Whether `digits * 10 ^ grid` rounds to the value: it lies between the midpoints to both
neighbours, on a midpoint only if the significand is even. -/
def rounds (value : Dyadic) (digits : Nat) (grid : Int) : Bool :=
  let (quarter, unit) := value.stepsOn grid
  let low := (4 * value.significand - if value.narrowBelow then 1 else 2) * quarter
  let high := (4 * value.significand + 2) * quarter
  if value.significand % 2 = 0 then decide (low ≤ digits * unit) && decide (digits * unit ≤ high)
  else decide (low < digits * unit) && decide (digits * unit < high)

end Dyadic

/-- The number without its fraction, held within a limit on both sides; an undefined number counts
as zero. -/
def truncated (limit : Nat) (x : Float) : Int :=
  let size := match magnitude x with
    | .undefined => 0
    | .infinite => limit
    | .finite value =>
      min limit (value.significand * Nat.pow 2 value.exponent.toNat /
        Nat.pow 2 (-value.exponent).toNat)
  if isNegative x then -(size : Int) else size

end PhraseSheet.Decimal
