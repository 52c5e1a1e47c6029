import PhraseSheet.Decimal.Dyadic

/-! The fewest decimal digits that round to a binary value, and of those the nearest. -/

namespace PhraseSheet.Decimal

/-- The number `digits * 10 ^ exponent`. -/
structure Digits where
  digits : Nat
  exponent : Int
deriving DecidableEq

/-- Which of two equally near numbers is taken. -/
inductive Tie where
  | up
  | toEven
deriving DecidableEq

namespace Dyadic

/-- The neighbour of the value on the grid of multiples of `10 ^ grid` that rounds to it, if there
is one: of two, the nearer. -/
def onGrid? (value : Dyadic) (tie : Tie) (grid : Int) : Option Digits :=
  let (quarter, unit) := value.stepsOn grid
  let exact := 4 * value.significand * quarter
  let below := exact / unit
  let above := below + 1
  match value.rounds below grid, value.rounds above grid with
  | true, true =>
    let takesAbove := match compare (2 * (exact % unit)) unit with
      | .lt => false
      | .gt => true
      | .eq => match tie with
        | .up => true
        | .toEven => below % 2 == 1
    some ⟨if takesAbove then above else below, grid⟩
  | true, false => some ⟨below, grid⟩
  | false, true => some ⟨above, grid⟩
  | false, false => none

def exactDigits (value : Dyadic) : Digits :=
  if 0 ≤ value.exponent then ⟨value.significand * Nat.pow 2 value.exponent.toNat, 0⟩
  else ⟨value.significand * Nat.pow 5 (-value.exponent).toNat, value.exponent⟩

/-- An exponent such that the value is below that power of ten. -/
def scale (value : Dyadic) : Int :=
  (value.significand.log2 + 1 + value.exponent) * 30103 / 100000 + 1

/-- The digits on the coarsest grid that has a number rounding to the value. Seventeen digits
suffice; the exact value stands in where none is found. -/
def shortest (value : Dyadic) (tie : Tie) : Digits :=
  match (List.range 20).findSome? fun (n : Nat) => value.onGrid? tie (value.scale - n) with
  | some digits => digits
  | none => value.exactDigits

end Dyadic

end PhraseSheet.Decimal
