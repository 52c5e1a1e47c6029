import PhraseSheet.Decimal.Numeral
import PhraseSheet.Decimal.Shortest

namespace PhraseSheet.Decimal

/-- The choices in which written forms of numbers differ. -/
structure Layout where
  /-- Numbers whose leading digit has this power of ten are written with an exponent. -/
  exponential : Int → Bool
  plusSign : Bool
  /-- A whole number is written with `.0`. -/
  pointZero : Bool
  /-- The sign of zero is written. -/
  signedZero : Bool
  /-- The choice between two equally near shortest forms. -/
  tie : Tie

def zeros (count : Nat) : List Char := List.replicate count '0'

namespace Layout

/-- Places the point among the digits, or adds the exponent. -/
def place (layout : Layout) (number : Digits) : List Char :=
  let digits := natDigits number.digits
  let before : Int := digits.length + number.exponent
  if layout.exponential (before - 1) then
    let mantissa := match digits with
      | [] => []
      | [digit] => [digit]
      | digit :: rest => digit :: '.' :: rest
    let plus := if layout.plusSign && decide (0 < before - 1) then ['+'] else []
    mantissa ++ ['e'] ++ plus ++ (toString (before - 1)).toList
  else if before ≤ 0 then ['0', '.'] ++ zeros (-before).toNat ++ digits
  else if 0 ≤ number.exponent then
    digits ++ zeros number.exponent.toNat ++ if layout.pointZero then ['.', '0'] else []
  else digits.take before.toNat ++ ['.'] ++ digits.drop before.toNat

/-- The number in its shortest form. -/
def write (layout : Layout) (x : Float) : List Char :=
  let sign := if isNegative x then ['-'] else []
  match magnitude x with
  | .undefined => ['N', 'a', 'N']
  | .infinite => sign ++ ['i', 'n', 'f']
  | .finite value =>
    if value.significand = 0 then
      (if layout.signedZero then sign else []) ++
        if layout.pointZero then ['0', '.', '0'] else ['0']
    else sign ++ layout.place (value.shortest layout.tie)

def render (layout : Layout) (x : Float) : String := String.ofList (layout.write x)

end Layout

/-- The quotient rounded to the nearest whole number, a half to the even one. -/
def roundedQuotient (numerator denominator : Nat) : Nat :=
  let whole := numerator / denominator
  match compare (2 * (numerator % denominator)) denominator with
  | .lt => whole
  | .gt => whole + 1
  | .eq => if whole % 2 = 0 then whole else whole + 1

/-- The exact value rounded to so many decimal places, with all of them written. -/
def fixed (places : Nat) (x : Float) : String :=
  let sign := if isNegative x then ['-'] else []
  String.ofList <| match magnitude x with
    | .undefined => ['N', 'a', 'N']
    | .infinite => sign ++ ['i', 'n', 'f']
    | .finite value =>
      let rounded := roundedQuotient
        (value.significand * Nat.pow 2 value.exponent.toNat * Nat.pow 10 places)
        (Nat.pow 2 (-value.exponent).toNat)
      let digits := natDigits rounded
      let padded := zeros (places + 1 - digits.length) ++ digits
      sign ++ padded.take (padded.length - places) ++ ['.'] ++ padded.drop (padded.length - places)

end PhraseSheet.Decimal
