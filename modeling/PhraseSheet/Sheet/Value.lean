import PhraseSheet.Decimal.Layout
import PhraseSheet.Decimal.Read
import PhraseSheet.Sheet.CellError
import PhraseSheet.Text.Blank

namespace PhraseSheet

/-- A value of a cell or a formula. -/
inductive Value where
  | number (x : Float)
  | boolean (truth : Bool)
  | text (content : String)
  | error (cause : CellError)
  /-- The rows of a range or of a written table; they may differ in length. -/
  | array (rows : List (List Value))
  | empty
deriving Inhabited

/-- Numbers are written with the fewest digits that read back, never with an exponent; zero has no
sign. -/
def valueLayout : Decimal.Layout where
  exponential _ := false
  plusSign := false
  pointZero := false
  signedZero := false
  tie := .up

def numberText (x : Float) : String := valueLayout.render x

namespace Value

/-- The value as a number, where it has one: truth counts as one, and text may spell a number. -/
def asNumber? : Value → Option Float
  | .number x => some x
  | .boolean truth => some (if truth then 1 else 0)
  | .text content => Decimal.read? (Text.trim content.toList)
  | .empty => some 0
  | .error _ | .array _ => none

/-- The value as a condition, where it is one. -/
def asBool? : Value → Option Bool
  | .boolean truth => some truth
  | .number x => some (x != 0)
  | .text content =>
    if Text.sameIgnoringCase content "TRUE" then some true
    else if Text.sameIgnoringCase content "FALSE" then some false
    else none
  | .empty => some false
  | .error _ | .array _ => none

def truthText (truth : Bool) : String := if truth then "TRUE" else "FALSE"

/-- The value as text to be joined with other text; an array has none and gives an error's text. -/
def asText : Value → String
  | .number x => numberText x
  | .boolean truth => truthText truth
  | .text content => content
  | .error cause => cause.text
  | .array _ => CellError.wrongType.text
  | .empty => ""

/-- The value as it is shown: text in quotes, an array by its number of rows. -/
def display : Value → String
  | .text content => "\"" ++ content ++ "\""
  | .array rows => "\x7b" ++ Nat.repr rows.length ++ " rows\x7d"
  | .empty => "null"
  | value => value.asText

def error? : Value → Option CellError
  | .error cause => some cause
  | _ => none

def isError (value : Value) : Bool := value.error?.isSome

def isEmpty : Value → Bool
  | .empty => true
  | _ => false

def isArray : Value → Bool
  | .array _ => true
  | _ => false

/-- Compares texts character by character; a text comes after its own beginnings. -/
def compareChars : List Char → List Char → Ordering
  | [], [] => .eq
  | [], _ :: _ => .lt
  | _ :: _, [] => .gt
  | a :: left, b :: right =>
    if a < b then .lt else if b < a then .gt else compareChars left right

/-- Compares numbers; an undefined number is level with every number. -/
def compareFloats (x y : Float) : Ordering :=
  if x < y then .lt else if y < x then .gt else .eq

/-- An empty value counts as zero. -/
def filled : Value → Value
  | .empty => .number 0
  | value => value

/-- Compares filled values: numbers below texts below truth values, texts in lower case, false
before true, errors by their code. Other kinds are level. -/
def compareFilled : Value → Value → Ordering
  | .number x, .number y => compareFloats x y
  | .text left, .text right => compareChars (Text.lower left.toList) (Text.lower right.toList)
  | .boolean left, .boolean right => compare left.toNat right.toNat
  | .number _, .text _ => .lt
  | .text _, .number _ => .gt
  | .number _, .boolean _ => .lt
  | .boolean _, .number _ => .gt
  | .text _, .boolean _ => .lt
  | .boolean _, .text _ => .gt
  | .error left, .error right => compare left.code right.code
  | _, _ => .eq

/-- The order in which the comparisons see two values. -/
def order (left right : Value) : Ordering := compareFilled left.filled right.filled

end Value

end PhraseSheet
