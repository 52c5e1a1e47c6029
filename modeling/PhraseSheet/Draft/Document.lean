import PhraseSheet.Draft.Basic
import PhraseSheet.Json.Basic

namespace PhraseSheet

namespace Intent

def toJson (intent : Intent) : Json :=
  .record
    [("type", .text intent.goal.name), ("confidence", .ofFloat intent.confidence),
     ("fields", .ofTexts intent.fields),
     ("operations", .ofTexts (intent.operations.map Operation.name)),
     ("numbers", .list (intent.numbers.map Json.ofFloat)), ("ranges", .ofTexts intent.ranges),
     ("comparisons", .ofTexts (intent.comparisons.map Comparison.symbol)),
     ("rawInput", .text intent.text), ("suggestedFormula", .ofText? intent.formula?),
     ("description", .text intent.description)]

end Intent

namespace Draft

def toJson (draft : Draft) : Json :=
  .record
    [("formula", .text draft.formula), ("isValid", .bool draft.isValid),
     ("description", .text draft.description), ("variables", .ofTexts draft.reads),
     ("warnings", .ofTexts draft.warnings)]

end Draft

end PhraseSheet
