import PhraseSheet.Decimal.Read
import PhraseSheet.Text.Blank

namespace PhraseSheet.Amount

def isCurrencySign (c : Char) : Bool :=
  c == '$' || c == '€' || c == '£' || c == '¥' || c == '₫'

/-- The endings that mark an amount of dong. -/
def dongEndings : List (List Char) :=
  [['V', 'N', 'D'], ['v', 'n', 'd'], ['V', 'n', 'd'], ['đ'], ['₫']]

/-- The text without an ending that marks dong, if it has one. -/
def withoutEnding? (text : List Char) : Option (List Char) :=
  dongEndings.findSome? fun ending =>
    if ending.isSuffixOf text then some (Text.trimEnd (text.take (text.length - ending.length)))
    else none

/-- The text behind a minus sign, or the whole text if there is none. -/
def unsigned : List Char → List Char
  | '-' :: rest => rest
  | text => text

/-- One or more groups of a point and three digits, and nothing else. -/
def isPointGroups : List Char → Bool
  | '.' :: a :: b :: c :: rest =>
    a.isDigit && b.isDigit && c.isDigit && (rest.isEmpty || isPointGroups rest)
  | _ => false

/-- Points separate the thousands of the whole number: one to three digits stand in front of
groups. -/
def hasPointGroups (text : List Char) : Bool :=
  let size := ((unsigned text).takeWhile Char.isDigit).length
  0 < size && size ≤ 3 && isPointGroups ((unsigned text).drop size)

/-- Digits with at most one point in front, among or behind them. -/
def isPlain (text : List Char) : Bool :=
  let whole := (unsigned text).takeWhile Char.isDigit
  match (unsigned text).dropWhile Char.isDigit with
  | [] => !whole.isEmpty
  | '.' :: fraction => fraction.all Char.isDigit && !(whole.isEmpty && fraction.isEmpty)
  | _ => false

/-- Reads the digits of an amount. Commas separate thousands, and points do so in amounts of dong
and where there are several. -/
def readDigits? (isDong : Bool) (text : List Char) : Option Float :=
  let plain := if hasPointGroups text && (isDong || 1 < text.count '.')
    then text.filter (· != '.') else text.filter (· != ',')
  if isPlain plain then Decimal.read? plain else none

def read? (text : List Char) : Option Float :=
  let inner := Text.trim text
  let marked? := withoutEnding? inner
  let bare := marked?.getD inner
  readDigits? (marked?.isSome || bare.contains '₫')
    (bare.filter fun c => !isCurrencySign c && !Text.isBlank c)

end PhraseSheet.Amount
