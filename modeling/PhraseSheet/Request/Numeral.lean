import PhraseSheet.Decimal.Read
import PhraseSheet.Text.Canonical
import PhraseSheet.Text.Case

namespace PhraseSheet

/-- A number of a request; `10%` has the value ten. -/
structure Numeral where
  value : Float
  percent : Bool

namespace Numeral

def isSeparator (c : Char) : Bool := c == '.' || c == ','

def without (sign : Char) (text : List Char) : List Char := text.filter (· != sign)

def pointed (sign : Char) (text : List Char) : List Char :=
  text.map fun c => if c == sign then '.' else c

/-- The text with a point for the decimal sign and no other sign. Of two kinds of signs the last is
the decimal sign. Signs of one kind group the digits if there are several, or if exactly three
characters follow a single one. -/
def plain (text : List Char) : List Char :=
  match text.reverse.find? isSeparator with
  | none => text
  | some sign =>
    let other := if sign == '.' then ',' else '.'
    let tail := text.reverse.takeWhile (· != sign)
    if text.contains other then pointed sign (without other text)
    else if 1 < text.count sign || tail.length == 3 then without sign text
    else pointed sign text

def read? (text : List Char) : Option Float := Decimal.read? (plain text)

/-- Digits with a single separator between groups of them; `fresh` says that a group has to begin
here. -/
def isGrouped (fresh : Bool) : List Char → Bool
  | [] => !fresh
  | c :: rest =>
    if c.isDigit then isGrouped false rest
    else !fresh && isSeparator c && isGrouped true rest

/-- Reads digits behind which a percent sign, a `k` for thousands or a `tr` for millions may
stand. -/
def literal? (word : List Char) : Option Numeral :=
  let isDigitOrSeparator (c : Char) := c.isDigit || isSeparator c
  let digits := word.takeWhile isDigitOrSeparator
  if isGrouped true digits then
    match read? digits, word.dropWhile isDigitOrSeparator with
    | some value, [] => some ⟨value, false⟩
    | some value, ['%'] => some ⟨value, true⟩
    | some value, ['k'] => some ⟨value * 1000, false⟩
    | some value, ['t', 'r'] => some ⟨value * 1000000, false⟩
    | _, _ => none
  else none

/-- The number words. They keep their diacritics: `sáu` is six and `sau` is no number. -/
def names : List (String × Float) :=
  [("một", 1), ("hai", 2), ("ba", 3), ("bốn", 4), ("năm", 5), ("sáu", 6), ("bảy", 7), ("bẩy", 7),
   ("tám", 8), ("chín", 9), ("mười", 10), ("trăm", 100), ("nghìn", 1000), ("ngàn", 1000),
   ("triệu", 1000000), ("tỷ", 1000000000), ("tỉ", 1000000000)]

/-- The value of a number word in lower case. -/
def ofName? (word : String) : Option Float := names.lookup word

/-- The number that a word of a request writes. -/
def ofWord? (word : List Char) : Option Numeral :=
  let lower := Text.lower (Text.compose word)
  match ofName? (String.ofList lower) with
  | some value => some ⟨value, false⟩
  | none => literal? lower

end Numeral

end PhraseSheet
