import PhraseSheet.Decimal.Layout
import PhraseSheet.Json.Basic
import PhraseSheet.Text.Quoted

namespace PhraseSheet

/-- Numbers are written with the fewest digits that read back, with `.0` where they are whole, and
with a signed exponent from ten to the sixteenth on and below a hundred thousandth. -/
def jsonLayout : Decimal.Layout where
  exponential power := decide (power < -5) || decide (15 < power)
  plusSign := true
  pointZero := true
  signedZero := true
  tie := .toEven

namespace JsonNumber

def write : JsonNumber → List Char
  | .whole value => (if value < 0 then ['-'] else []) ++ Decimal.natDigits value.natAbs
  | .real value => jsonLayout.write value

end JsonNumber

namespace Json

def unitDigits (n : Nat) : List Char :=
  let digits := Text.hexDigits n
  List.replicate (4 - digits.length) '0' ++ digits

/-- The written form of a character inside a text. -/
def escapedChar (c : Char) : List Char :=
  match c with
  | '"' => ['\\', '"']
  | '\\' => ['\\', '\\']
  | '\x08' => ['\\', 'b']
  | '\x0c' => ['\\', 'f']
  | '\n' => ['\\', 'n']
  | '\r' => ['\\', 'r']
  | '\t' => ['\\', 't']
  | c => if c.toNat < 0x20 then '\\' :: 'u' :: unitDigits c.toNat else [c]

def writeText (text : String) : List Char := '"' :: (text.toList.flatMap escapedChar ++ ['"'])

mutual

/-- The document on one line, without space. -/
def compactChars : Json → List Char
  | .null => ['n', 'u', 'l', 'l']
  | .bool true => ['t', 'r', 'u', 'e']
  | .bool false => ['f', 'a', 'l', 's', 'e']
  | .number value => value.write
  | .text value => writeText value
  | .list items => '[' :: (compactItems items ++ [']'])
  | .record members => '\x7b' :: (compactMembers members ++ ['\x7d'])

def compactItems : List Json → List Char
  | [] => []
  | [item] => compactChars item
  | item :: rest => compactChars item ++ ',' :: compactItems rest

def compactMembers : List (String × Json) → List Char
  | [] => []
  | [(name, value)] => writeText name ++ ':' :: compactChars value
  | (name, value) :: rest =>
    writeText name ++ ':' :: (compactChars value ++ ',' :: compactMembers rest)

end

def compact (document : Json) : String := String.ofList (compactChars document)

/-- A new line, indented by two spaces for each level. -/
def newLine (level : Nat) : List Char := '\n' :: List.replicate (2 * level) ' '

mutual

/-- The document with each item and member on a line of its own, inside so many levels. -/
def prettyChars (level : Nat) : Json → List Char
  | .list [] => ['[', ']']
  | .list items => '[' :: (prettyItems (level + 1) items ++ newLine level ++ [']'])
  | .record [] => ['\x7b', '\x7d']
  | .record members => '\x7b' :: (prettyMembers (level + 1) members ++ newLine level ++ ['\x7d'])
  | document => compactChars document

def prettyItems (level : Nat) : List Json → List Char
  | [] => []
  | [item] => newLine level ++ prettyChars level item
  | item :: rest => newLine level ++ prettyChars level item ++ ',' :: prettyItems level rest

def prettyMembers (level : Nat) : List (String × Json) → List Char
  | [] => []
  | [(name, value)] => newLine level ++ writeText name ++ ':' :: ' ' :: prettyChars level value
  | (name, value) :: rest =>
    newLine level ++ writeText name ++ ':' :: ' ' :: prettyChars level value ++
      ',' :: prettyMembers level rest

end

def pretty (document : Json) : String := String.ofList (prettyChars 0 document)

end Json

end PhraseSheet
