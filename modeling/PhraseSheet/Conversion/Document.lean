import PhraseSheet.Conversion.Basic
import PhraseSheet.Draft.Document
import PhraseSheet.Sheet.Document

namespace PhraseSheet

namespace Conversion

/-- The value, and the error if the value is one or the formula could not be read. -/
def outcomeToJson (outcome : Except ParseError Value) : Json :=
  match outcome with
  | .ok value =>
    .record
      [("value", value.toJson), ("error", .ofText? (value.error?.map CellError.text))]
  | .error error =>
    .record [("value", .null), ("error", .text (FormulaError.parse error.reason).message)]

/-- The conversion, which took so many milliseconds. -/
def toJson (elapsed : Float) (conversion : Conversion) : Json :=
  .record
    [("success", .bool conversion.succeeded), ("formula", .ofText? conversion.formula?),
     ("intent", conversion.intent.toJson),
     ("formulaResult", (conversion.draft?.map Draft.toJson).getD .null),
     ("alternativeIntents", .list (conversion.alternatives.map Intent.toJson)),
     ("evaluation", (conversion.outcome?.map outcomeToJson).getD .null),
     ("error", .ofText? conversion.error?), ("executionTimeMs", .ofFloat elapsed)]

end Conversion

namespace Prospect

def toJson (prospect : Prospect) : Json :=
  .record
    [("canConvert", .bool prospect.isConvertible), ("confidence", .ofFloat prospect.confidence),
     ("reason", .text prospect.reason)]

end Prospect

namespace Suggestion

def toJson (suggestion : Suggestion) : Json :=
  .record
    [("formula", .text suggestion.formula), ("description", .text suggestion.description),
     ("confidence", .ofFloat suggestion.confidence)]

end Suggestion

namespace Recipe

def toJson (recipe : Recipe) : Json :=
  .record
    [("intent", .text recipe.goal.name), ("template", .text recipe.template.text),
     ("description", .text recipe.description),
     ("requiredFields", .ofTexts (recipe.required.map Field.name))]

end Recipe

end PhraseSheet
