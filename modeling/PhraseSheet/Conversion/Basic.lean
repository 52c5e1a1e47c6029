import PhraseSheet.Formula.Error
import PhraseSheet.Formula.Evaluate
import PhraseSheet.Formula.Parser
import PhraseSheet.Intent.Detection

/-! Conversions: from the text of a request to a formula and, on demand, to its value. Also quick
checks and suggestions for texts that are still being written. -/

namespace PhraseSheet

/-- How a text is to be converted. -/
structure ConversionOptions where
  /-- An intent with less confidence is refused. -/
  leastConfidence : Float := Intent.leastConfidence
  alternatives : Nat := 3
  knowledge : Knowledge := {}
  /-- The values with which the formula is evaluated. -/
  sample? : Option Context := none

/-- What became of a text. -/
structure Conversion where
  intent : Intent
  /-- The draft, unless the intent was refused. -/
  draft? : Option Draft
  alternatives : List Intent
  /-- The value of a valid formula on the sample values. -/
  outcome? : Option (Except ParseError Value)
  error? : Option String

/-- Whether a text could be converted, and why. -/
structure Prospect where
  isConvertible : Bool
  confidence : Float
  reason : String

/-- A formula that a text may mean. -/
structure Suggestion where
  formula : String
  description : String
  confidence : Float

namespace Conversion

/-- There is a valid formula. -/
def succeeded (conversion : Conversion) : Bool := conversion.draft?.any Draft.isValid

def formula? (conversion : Conversion) : Option String :=
  conversion.draft?.bind fun draft => if draft.formula.isEmpty then none else some draft.formula

/-- The wording where an intent is refused. -/
def doubt (confidence least : Float) : String :=
  "Không đủ tin cậy để tạo công thức (độ tin cậy " ++ Decimal.fixed 2 confidence ++ " < " ++
    Decimal.fixed 2 least ++ ")"

/-- The wording where a draft is not valid: its warnings, if it has any. -/
def complaint (draft : Draft) : String :=
  if draft.warnings.isEmpty then "Công thức không hợp lệ" else "; ".intercalate draft.warnings

def evaluate (sample : Context) (formula : String) : Except ParseError Value := do
  let expr ← Expr.parse formula
  pure (expr.evaluate sample)

/-- The other intents that the request may have, from the surest on. -/
def alternativesTo (intent : Intent) (request : Request) : List Intent :=
  (Intent.candidates request).filter fun other => other.goal ≠ intent.goal

/-- Converts a text. -/
def ofText (options : ConversionOptions) (text : String) : Conversion :=
  let request := Request.ofText text
  let intent := Intent.detect request
  let alternatives := (alternativesTo intent request).take options.alternatives
  if intent.confidence < options.leastConfidence then
    { intent := intent
      draft? := none
      alternatives := alternatives
      outcome? := none
      error? := some (doubt intent.confidence options.leastConfidence) }
  else
    let draft := Draft.ofIntent options.knowledge intent
    { intent := intent
      draft? := some draft
      alternatives := alternatives
      outcome? := if draft.isValid
        then options.sample?.map fun sample => evaluate sample draft.formula else none
      error? := if draft.isValid then none else some (complaint draft) }

end Conversion

namespace Prospect

/-- Whether the text could be converted. -/
def ofText (text : String) : Prospect :=
  let intent := Intent.detect (Request.ofText text)
  let isConvertible :=
    intent.goal ≠ .unknown && decide (Intent.leastConfidence ≤ intent.confidence)
  { isConvertible := isConvertible
    confidence := intent.confidence
    reason :=
      if isConvertible then "Nhận diện: " ++ intent.description
      else if intent.goal = .unknown then "Không nhận diện được phép tính hoặc trường dữ liệu"
      else "Độ tin cậy thấp (" ++ Decimal.fixed 2 intent.confidence ++ ")" }

end Prospect

namespace Suggestion

/-- The formula of an intent, if it has one. -/
def ofIntent? (intent : Intent) : Option Suggestion :=
  intent.formula?.map fun formula => ⟨formula, intent.description, intent.confidence⟩

def ofRecipe (recipe : Recipe) : Suggestion := ⟨recipe.template.text, recipe.description, 0⟩

/-- All that a text may mean. A text of white space may mean every template. -/
def all (text : String) : List Suggestion :=
  if (Text.trim text.toList).isEmpty then Recipe.catalog.map ofRecipe
  else
    let request := Request.ofText text
    let listed := (Intent.candidates request).filterMap ofIntent?
    if listed.isEmpty then (ofIntent? (Intent.detect request)).toList else listed

def ofText (limit : Nat) (text : String) : List Suggestion := (all text).take limit

end Suggestion

end PhraseSheet
