import PhraseSheet.Json.Basic
import PhraseSheet.Request.Basic

namespace PhraseSheet

namespace Meaning

def kind : Meaning → String
  | .operation _ => "OPERATION"
  | .field _ => "FIELD"
  | .number _ => "NUMBER"
  | .comparison _ => "COMPARISON"
  | .connective _ => "LOGICAL"
  | .range _ _ => "RANGE"
  | .unknown => "TEXT"
  | .punctuation => "PUNCTUATION"

/-- What the meaning has besides its kind. -/
def payload? : Meaning → Option Json
  | .operation meant => some (.text meant.name)
  | .field meant => some (.record [("canonical", .text meant.name)])
  | .number numeral =>
    some (.record [("value", .ofFloat numeral.value), ("percent", .bool numeral.percent)])
  | .comparison meant => some (.text meant.symbol)
  | .connective meant => some (.text meant.name)
  | .range first last => some (.record [("start", .text first), ("end", .text last)])
  | .unknown | .punctuation => none

def toJson (meaning : Meaning) : Json :=
  .record <| ("type", .text meaning.kind) ::
    match meaning.payload? with
    | some payload => [("payload", payload)]
    | none => []

end Meaning

namespace Phrase

def toJson (phrase : Phrase) : Json :=
  .record
    [("kind", phrase.meaning.toJson), ("value", .text phrase.text),
     ("normalized", .text phrase.folded), ("position", .ofNat phrase.position),
     ("length", .ofNat phrase.length)]

end Phrase

namespace Request

def toJson (request : Request) : Json :=
  .record
    [("tokens", .list (request.phrases.map Phrase.toJson)), ("originalText", .text request.text),
     ("normalizedText", .text request.folded)]

end Request

end PhraseSheet
