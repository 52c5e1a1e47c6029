import PhraseSheet.Formula.Token
import PhraseSheet.Request.Document
import PhraseSheet.Text.Quoted

namespace PhraseSheet

namespace Comparison

def word : Comparison → String
  | .greater => "Greater"
  | .greaterOrEqual => "GreaterEqual"
  | .less => "Less"
  | .lessOrEqual => "LessEqual"
  | .equal => "Equal"
  | .notEqual => "NotEqual"

end Comparison

namespace Meaning

/-- The first letter, and behind it the others in lower case. -/
private def capitalized (text : String) : String :=
  match text.toList with
  | [] => ""
  | c :: rest => String.ofList (c :: rest.map Char.toLower)

def title (meaning : Meaning) : String := capitalized meaning.kind

/-- The meaning with all that belongs to it. -/
def describe (meaning : Meaning) : String :=
  match meaning with
  | .operation meant => "Operation(" ++ capitalized meant.name ++ ")"
  | .field meant => "Field \x7b canonical: " ++ Text.quoted meant.name ++ " \x7d"
  | .number numeral =>
    "Number \x7b value: " ++ Token.messageLayout.render numeral.value ++ ", percent: " ++
      (if numeral.percent then "true" else "false") ++ " \x7d"
  | .comparison meant => "Comparison(" ++ meant.word ++ ")"
  | .connective meant => "Logical(" ++ capitalized meant.name ++ ")"
  | .range first last =>
    "Range \x7b start: " ++ Text.quoted first ++ ", end: " ++ Text.quoted last ++ " \x7d"
  | .unknown | .punctuation => meaning.title

end Meaning

end PhraseSheet
