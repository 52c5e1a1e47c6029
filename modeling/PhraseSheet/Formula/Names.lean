import PhraseSheet.Text.Blank
import PhraseSheet.Text.Case
import PhraseSheet.Text.Class

/-! The names and cells that the text of a formula mentions. The text is cut into parts, which
together are the text; some of them are names, and those can be replaced. -/

namespace PhraseSheet

/-- A part of the text of a formula. -/
structure FormulaPart where
  chars : List Char
  /-- The part is a name or a cell whose value the formula reads. -/
  isName : Bool
deriving DecidableEq

namespace FormulaPart

/-- The number of characters up to the end of a text in quotes, behind its opening quote. Two quotes
stand for one inside the text. -/
def quotedLength : List Char → Nat
  | [] => 0
  | '"' :: '"' :: rest => quotedLength rest + 2
  | '"' :: _ => 1
  | _ :: rest => quotedLength rest + 1

/-- The number of characters of an error behind its `#`. -/
def errorLength (text : List Char) : Nat :=
  let inError (c : Char) := Text.isAlphanumeric c || c == '/'
  let size := (text.takeWhile inError).length
  match text.drop size with
  | '!' :: _ | '?' :: _ => size + 1
  | _ => size

/-- The characters that a name may start with. -/
def startsName (c : Char) : Bool := Text.isAlphabetic c || c == '_' || c == '$'

/-- The characters that a name may go on with. -/
def continuesName (c : Char) : Bool := Text.isAlphanumeric c || c == '_' || c == '$'

/-- The number of characters that belong to the part behind its first character. -/
def lengthAfter (c : Char) (rest : List Char) : Nat :=
  if c == '"' then quotedLength rest
  else if c == '#' then errorLength rest
  else if c.isDigit || c == '.' then
    (rest.takeWhile fun d => Text.isAlphanumeric d || d == '.').length
  else if startsName c then (rest.takeWhile continuesName).length
  else 0

/-- Truth values are no names, and what stands in front of a parenthesis is a function. -/
def readsValue (name : List Char) (after : List Char) : Bool :=
  let text := String.ofList name
  (Text.trimStart after).head? != some '(' && !Text.sameIgnoringCase text "TRUE" &&
    !Text.sameIgnoringCase text "FALSE"

def cut : List Char → List FormulaPart
  | [] => []
  | c :: rest =>
    let size := lengthAfter c rest
    let chars := c :: rest.take size
    let after := rest.drop size
    ⟨chars, startsName c && readsValue chars after⟩ :: cut after
termination_by text => text.length
decreasing_by simp only [List.length_drop, List.length_cons]; omega

def name? (part : FormulaPart) : Option String :=
  if part.isName then some (String.ofList part.chars) else none

/-- The text of the part, where names may be replaced. -/
def replaced (replacement? : String → Option String) (part : FormulaPart) : String :=
  (part.name?.bind replacement?).getD (String.ofList part.chars)

/-- The names and cells that the text of a formula reads, each once, in the order of their first
mention. -/
def mentioned (formula : String) : List String :=
  ((cut formula.toList).filterMap name?).eraseDups

/-- The text with other texts in place of the names that have a replacement. -/
def rename (replacement? : String → Option String) (formula : String) : String :=
  String.join ((cut formula.toList).map (replaced replacement?))

end FormulaPart

end PhraseSheet
