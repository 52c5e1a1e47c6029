import PhraseSheet.Text.CombiningTable
import PhraseSheet.Text.DecompositionTable

/-! Canonical decomposition and composition of text. -/

namespace PhraseSheet.Text

/-- The number of trailing positions of a Hangul syllable block, the empty one included. -/
def trailCount : Nat := 28

/-- The number of vowels of a Hangul syllable block. -/
def vowelCount : Nat := 21

/-- The parts of a Hangul syllable, given by its place among the syllables. -/
def syllableParts (place : Nat) : List Nat :=
  let lead := 0x1100 + place / (vowelCount * trailCount)
  let vowel := 0x1161 + place % (vowelCount * trailCount) / trailCount
  let trail := place % trailCount
  if trail = 0 then [lead, vowel] else [lead, vowel, 0x11A7 + trail]

/-- The full canonical decomposition of one character. -/
def decomposeChar (c : Char) : List Char :=
  let code := c.toNat
  if code < 0xC0 then [c]
  else if 0xAC00 ≤ code && code ≤ 0xD7A3 then (syllableParts (code - 0xAC00)).map Char.ofNat
  else
    match composites.lookup code with
    | some codes => codes.map Char.ofNat
    | none =>
      match singletons.lookup code with
      | some other => [Char.ofNat other]
      | none => [c]

/-- The class of a mark; zero for every character that starts a combining sequence. -/
def combiningClass (c : Char) : Nat :=
  match combiningRanges.find? fun (first, last, _) => first ≤ c.toNat && c.toNat ≤ last with
  | some (_, _, rank) => rank
  | none => 0

/-- Puts a character behind a text kept last character first: a mark passes the marks of a greater
class, so that each run of marks stays sorted by class. -/
def place (c : Char) : List Char → List Char
  | [] => [c]
  | d :: before =>
    if combiningClass c ≠ 0 && combiningClass c < combiningClass d then d :: place c before
    else c :: d :: before

/-- The canonical decomposition of the text, each run of marks in order of class. -/
def decompose (text : List Char) : List Char :=
  ((text.flatMap decomposeChar).foldl (fun done c => place c done) []).reverse

/-- The syllable that two Hangul parts make. -/
def joinSyllable? (first second : Nat) : Option Nat :=
  if 0x1100 ≤ first && first < 0x1113 && 0x1161 ≤ second && second < 0x1176 then
    some (0xAC00 + ((first - 0x1100) * vowelCount + (second - 0x1161)) * trailCount)
  else if 0xAC00 ≤ first && first ≤ 0xD7A3 && (first - 0xAC00) % trailCount = 0 &&
      0x11A7 < second && second < 0x11C3 then
    some (first + (second - 0x11A7))
  else none

/-- The character whose full decomposition is that of the first followed by the second, if
composition may produce it. -/
def compose? (first second : Char) : Option Char :=
  if second.toNat < 0x300 then none
  else
    match joinSyllable? first.toNat second.toNat with
    | some code => some (Char.ofNat code)
    | none =>
      let parts := (decomposeChar first).map Char.toNat ++ [second.toNat]
      match composites.find? fun (code, codes) => codes == parts && !uncomposable.contains code with
      | some (code, _) => some (Char.ofNat code)
      | none => none

/-- Composes a decomposed text behind the current starter; `marks` are the marks that stayed on it,
last one first. A mark is blocked by a mark of its own or a greater class. -/
def composeAfter (starter : Char) (marks : List Char) : List Char → List Char
  | [] => starter :: marks.reverse
  | c :: rest =>
    let free := match marks with
      | [] => true
      | mark :: _ => decide (combiningClass mark < combiningClass c)
    match if free then compose? starter c else none with
    | some whole => composeAfter whole marks rest
    | none =>
      if combiningClass c = 0 then starter :: (marks.reverse ++ composeAfter c [] rest)
      else composeAfter starter (c :: marks) rest

/-- Composes a decomposed text; marks before the first starter stay as they are. -/
def composeFrom : List Char → List Char
  | [] => []
  | c :: rest => if combiningClass c = 0 then composeAfter c [] rest else c :: composeFrom rest

/-- The canonical composition of the text. -/
def compose (text : List Char) : List Char := composeFrom (decompose text)

end PhraseSheet.Text
