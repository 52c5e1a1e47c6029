import PhraseSheet.Intent.Goal
import PhraseSheet.Request.Basic

namespace PhraseSheet

/-- A classified request. -/
structure Intent where
  goal : Goal
  /-- How sure the classification is, up to one. -/
  confidence : Float
  /-- The names of the fields, each once. -/
  fields : List String
  operations : List Operation
  numbers : List Float
  ranges : List String
  comparisons : List Comparison
  text : String
  formula? : Option String
  description : String

namespace Intent

/-- The intent with what the request says, and without a formula. -/
def ofRequest (request : Request) (goal : Goal) (confidence : Float) (description : String) :
    Intent where
  goal := goal
  confidence := confidence
  fields := (request.fields.map Field.name).eraseDups
  operations := request.operations
  numbers := request.numbers
  ranges := request.ranges
  comparisons := request.comparisons
  text := request.text
  formula? := none
  description := description

end Intent

end PhraseSheet
