import PhraseSheet.Request.Phrase
import PhraseSheet.Request.Words
import PhraseSheet.Text.Fold

/-! Requests: texts that ask for a formula, cut into phrases. Every word has a meaning, and two or
three words that together spell a phrase of the vocabulary are joined. -/

namespace PhraseSheet

/-- Joined words with their meaning, and the white space in front of them. -/
structure Piece where
  gap : List Char
  chars : List Char
  folded : String
  meaning : Meaning

namespace Piece

/-- The two corners of a word that is a range. -/
def corners? (word : List Char) : Option (String × String) :=
  if Word.rangeLength? word = some word.length then
    let upper := word.map Char.toUpper
    some (String.ofList (upper.takeWhile (· != ':')),
      String.ofList ((upper.dropWhile (· != ':')).drop 1))
  else none

/-- Neither letters, numerals nor white space. -/
def isPunctuation (word : List Char) : Bool :=
  word.all fun c => !Text.isAlphanumeric c && !Text.isBlank c

/-- The meaning of a single word: what comes first here counts. -/
def meaningOf (word : List Char) (folded : String) : Meaning :=
  let known := ((Numeral.ofWord? word).map .number).or <|
    ((Operation.ofPhrase? folded).map .operation).or <|
      ((Field.ofPhrase? folded).map .field).or <|
        ((Comparison.ofPhrase? folded).map .comparison).or <|
          ((Connective.ofPhrase? folded).map .connective).or <|
            (corners? word).map fun (first, last) => .range first last
  known.getD (if isPunctuation word then .punctuation else .unknown)

def ofWord (word : Word) : Piece :=
  let folded := Text.fold (String.ofList word.chars)
  ⟨word.gap, word.chars, folded, meaningOf word.chars folded⟩

def textOf : List Piece → List Char
  | [] => []
  | first :: rest => first.chars ++ rest.flatMap fun piece => piece.gap ++ piece.chars

/-- Neighbouring pieces as one, if together they spell a phrase. -/
def joined? (first : Piece) (rest : List Piece) : Option Piece :=
  let folded := " ".intercalate ((first :: rest).map Piece.folded)
  (Meaning.ofPhrase? folded).map fun meaning =>
    ⟨first.gap, textOf (first :: rest), folded, meaning⟩

/-- Joins pieces from the left, three where they spell a phrase, else two. What was joined is not
joined again. -/
def join : List Piece → List Piece
  | one :: two :: three :: rest =>
    match joined? one [two, three], joined? one [two] with
    | some piece, _ => piece :: join rest
    | none, some piece => piece :: join (three :: rest)
    | none, none => one :: join (two :: three :: rest)
  | [one, two] =>
    match joined? one [two] with
    | some piece => [piece]
    | none => [one, two]
  | [one] => [one]
  | [] => []

/-- The pieces as phrases, the first gap starting at the given place. -/
def place (start : Nat) : List Piece → List Phrase
  | [] => []
  | piece :: rest =>
    let phrase : Phrase :=
      { meaning := piece.meaning
        text := String.ofList piece.chars
        folded := piece.folded
        position := start + (String.ofList piece.gap).utf8ByteSize }
    phrase :: place phrase.stop rest

end Piece

/-- A text that asks for a formula. -/
structure Request where
  text : String
  folded : String
  phrases : List Phrase

namespace Request

/-- Reads a request. Every text is one; words without a meaning are kept as such. -/
def ofText (text : String) : Request where
  text := text
  folded := Text.fold text
  phrases := Piece.place 0 (Piece.join ((Word.split text.toList).map Piece.ofWord))

/-- The fields of the phrases, in order, repeated where the text repeats them. -/
def fields (request : Request) : List Field := request.phrases.filterMap Phrase.field?

def operations (request : Request) : List Operation := request.phrases.filterMap Phrase.operation?

def numbers (request : Request) : List Float :=
  (request.phrases.filterMap Phrase.numeral?).map Numeral.value

def ranges (request : Request) : List String := request.phrases.filterMap Phrase.range?

def comparisons (request : Request) : List Comparison :=
  request.phrases.filterMap Phrase.comparison?

end Request

end PhraseSheet
