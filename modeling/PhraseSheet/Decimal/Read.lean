import PhraseSheet.Decimal.Numeral
import PhraseSheet.Decimal.Shortest

namespace PhraseSheet.Decimal

/-- The binary value nearest to `digits * 10 ^ exponent`. Powers beyond the range of binary values
are cut short: they give infinity or zero. -/
def nearest (number : Digits) : Float :=
  let leading : Int := ((natDigits number.digits).length : Int) + number.exponent
  if number.digits = 0 then 0
  else if leading > 400 then 1 / 0
  else if leading < -400 then 0
  else Float.ofScientific number.digits (decide (number.exponent < 0)) number.exponent.natAbs

/-- A signed whole number behind the exponent mark. -/
def readExponent? : List Char → Option Int
  | '-' :: digits => (number? digits).map fun n => -(n : Int)
  | '+' :: digits => (number? digits).map Int.ofNat
  | digits => (number? digits).map Int.ofNat

/-- Digits with at most one point among them and an optional exponent; at least one digit. -/
def readUnsigned? (text : List Char) : Option Digits := do
  let whole := text.takeWhile Char.isDigit
  let (fraction, rest) := match text.dropWhile Char.isDigit with
    | '.' :: tail => (tail.takeWhile Char.isDigit, tail.dropWhile Char.isDigit)
    | tail => ([], tail)
  if whole.isEmpty && fraction.isEmpty then failure
  let number := digitsNumber (whole ++ fraction)
  match rest with
  | [] => pure ⟨number, -(fraction.length : Int)⟩
  | mark :: tail =>
    if mark == 'e' || mark == 'E' then
      let exponent ← readExponent? tail
      pure ⟨number, exponent - fraction.length⟩
    else failure

/-- An unsigned number in decimal, or a word for infinity or for the undefined number in any letter
case. -/
def readMagnitude? (text : List Char) : Option Float :=
  let word := String.ofList (text.map Char.toLower)
  if word = "inf" || word = "infinity" then some (1 / 0)
  else if word = "nan" then some (0 / 0)
  else (readUnsigned? text).map nearest

/-- Reads a number with an optional sign; nothing else may stand around it. -/
def read? (text : List Char) : Option Float :=
  match text with
  | '-' :: rest => (readMagnitude? rest).map fun x => -x
  | '+' :: rest => readMagnitude? rest
  | _ => readMagnitude? text

def ofText? (text : String) : Option Float := read? text.toList

end PhraseSheet.Decimal
