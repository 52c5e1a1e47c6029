import PhraseSheet.Text.Blank
import PhraseSheet.Text.Class

/-! How the text of a request is cut into words. Only white space lies between words, and every
other character belongs to one. -/

namespace PhraseSheet

/-- A word of a request, with the white space in front of it. -/
structure Word where
  gap : List Char
  chars : List Char
deriving DecidableEq

namespace Word

/-- Letters, marks, numerals and the low line are written together in one word; recent characters
stand alone. -/
def inRun (c : Char) : Bool :=
  !Text.isRecent c && (Text.isLetter c || Text.isMark c || Text.isNumeral c || c == '_')

/-- The number of characters of a cell at the start of the text: ASCII letters and digits. -/
def cellLength? (text : List Char) : Option Nat :=
  let letters := text.takeWhile Char.isAlpha
  let digits := (text.dropWhile Char.isAlpha).takeWhile Char.isDigit
  if letters.isEmpty || digits.isEmpty then none else some (letters.length + digits.length)

/-- The number of characters of two cells with a colon between them at the start of the text. -/
def rangeLength? (text : List Char) : Option Nat := do
  let one ← cellLength? text
  match text.drop one with
  | ':' :: rest =>
    let other ← cellLength? rest
    pure (one + 1 + other)
  | _ => none

/-- A comparison sign of two characters stands at the start of the text. -/
def startsComparison : List Char → Bool
  | '>' :: '=' :: _ | '<' :: '=' :: _ | '<' :: '>' :: _ | '!' :: '=' :: _ | '=' :: '=' :: _ => true
  | _ => false

/-- The number of characters in further groups, each of a point or comma and a run. -/
def groupsLength : List Char → Nat
  | [] => 0
  | c :: rest =>
    let size := (rest.takeWhile inRun).length
    if (c == '.' || c == ',') && 0 < size then 1 + size + groupsLength (rest.drop size) else 0
termination_by text => text.length
decreasing_by simp only [List.length_drop, List.length_cons]; omega

/-- The number of characters of a run with its groups and a percent sign at its end. -/
def runLength (text : List Char) : Nat :=
  let size := (text.takeWhile inRun).length
  let grouped := size + groupsLength (text.drop size)
  if (text.drop grouped).head? == some '%' then grouped + 1 else grouped

/-- The number of characters of the word that starts with `c`: a range, a comparison sign, a run, or
the character alone. -/
def wordLength (c : Char) (rest : List Char) : Nat :=
  match rangeLength? (c :: rest) with
  | some length => length
  | none =>
    if startsComparison (c :: rest) then 2
    else if inRun c then runLength (c :: rest)
    else 1

def split (text : List Char) : List Word :=
  match _found : text.dropWhile Text.isBlank with
  | [] => []
  | c :: rest =>
    let more := wordLength c rest - 1
    ⟨text.takeWhile Text.isBlank, c :: rest.take more⟩ :: split (rest.drop more)
termination_by text.length
decreasing_by
  have shorter := (List.dropWhile_sublist Text.isBlank (l := text)).length_le
  rw [_found, List.length_cons] at shorter
  simp only [List.length_drop]
  omega

end Word

end PhraseSheet
