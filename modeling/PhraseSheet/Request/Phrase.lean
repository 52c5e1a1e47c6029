import PhraseSheet.Request.Lexicon
import PhraseSheet.Request.Numeral

namespace PhraseSheet

/-- What a phrase says. -/
inductive Meaning where
  | operation (operation : Operation)
  | field (field : Field)
  | number (numeral : Numeral)
  | comparison (comparison : Comparison)
  | connective (connective : Connective)
  /-- A range of cells, its corners in upper case. -/
  | range (first last : String)
  /-- A word without a meaning of its own. -/
  | unknown
  | punctuation

/-- A piece of a request. -/
structure Phrase where
  meaning : Meaning
  text : String
  /-- The text in the form in which the vocabulary is kept. -/
  folded : String
  /-- The number of bytes of the request in front of the phrase. -/
  position : Nat

namespace Phrase

def length (phrase : Phrase) : Nat := phrase.text.utf8ByteSize

/-- The place behind the phrase. -/
def stop (phrase : Phrase) : Nat := phrase.position + phrase.length

def field? (phrase : Phrase) : Option Field :=
  match phrase.meaning with
  | .field field => some field
  | _ => none

def operation? (phrase : Phrase) : Option Operation :=
  match phrase.meaning with
  | .operation operation => some operation
  | _ => none

def numeral? (phrase : Phrase) : Option Numeral :=
  match phrase.meaning with
  | .number numeral => some numeral
  | _ => none

def range? (phrase : Phrase) : Option String :=
  match phrase.meaning with
  | .range first last => some (first ++ ":" ++ last)
  | _ => none

def comparison? (phrase : Phrase) : Option Comparison :=
  match phrase.meaning with
  | .comparison comparison => some comparison
  | _ => none

end Phrase

namespace Meaning

/-- The meaning of a folded phrase of several words: fields come before operations and operations
before comparisons. -/
def ofPhrase? (phrase : String) : Option Meaning :=
  ((Field.ofPhrase? phrase).map .field).or <|
    ((Operation.ofPhrase? phrase).map .operation).or <|
      (Comparison.ofPhrase? phrase).map .comparison

end Meaning

end PhraseSheet
