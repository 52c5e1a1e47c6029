import PhraseSheet.Text.Alphabet
import PhraseSheet.Text.CaseTable

namespace PhraseSheet.Text

/-- The code point that the first run holding `code` maps it to. -/
def CaseRun.map? (run : CaseRun) (code : Nat) : Option Nat :=
  if run.first ≤ code && code ≤ run.last && (code - run.first) % run.step == 0 then
    some (code + run.shift).toNat
  else none

/-- A character's case mapping: its own expansion, else its partner in a run, else itself. -/
def mapCase (expansions : List (Nat × List Nat)) (runs : List CaseRun) (c : Char) : List Char :=
  match expansions.lookup c.toNat with
  | some codes => codes.map Char.ofNat
  | none =>
    match runs.findSome? (·.map? c.toNat) with
    | some code => [Char.ofNat code]
    | none => [c]

def lowerChar (c : Char) : List Char := mapCase lowerExpansions lowerRuns c

def upperChar (c : Char) : List Char := mapCase upperExpansions upperRuns c

def upper (text : List Char) : List Char := text.flatMap upperChar

/-- Whether the first character that case does not ignore is a cased one. -/
def meetsCased (text : List Char) : Bool :=
  match text.dropWhile (caseIgnorable.covers ·.toNat) with
  | [] => false
  | c :: _ => cased.covers c.toNat

/-- Lower-cases the text, where `before` is what stands before it, last character first. -/
def lowerAfter (before : List Char) : List Char → List Char
  | [] => []
  | c :: rest =>
    (if c == 'Σ' then
      [if meetsCased before && !meetsCased rest then 'ς' else 'σ']
    else lowerChar c) ++ lowerAfter (c :: before) rest

/-- The text in lower case; a capital sigma at the end of a word becomes a final sigma. -/
def lower (text : List Char) : List Char := lowerAfter [] text

def lowered (text : String) : String := String.ofList (lower text.toList)

def uppered (text : String) : String := String.ofList (upper text.toList)

/-- Equality of texts up to the case of the ASCII letters. -/
def sameIgnoringCase (left right : String) : Bool :=
  left.toList.map Char.toLower == right.toList.map Char.toLower

end PhraseSheet.Text
