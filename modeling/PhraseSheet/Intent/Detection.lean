import PhraseSheet.Draft.Basic
import PhraseSheet.Intent.Pattern

/-! The intents of requests: the surest pattern of the catalog, or else a formula composed of what
the request names. -/

namespace PhraseSheet.Intent

/-- A pattern with less confidence is passed over. -/
def leastConfidence : Float := 0.3

/-- A pattern that is listed among others has more confidence than this. -/
def listedAbove : Float := 0.1

/-- The intent of a request that follows the pattern, with the formula if it is complete. -/
def ofPattern (request : Request) (pattern : Pattern) (confidence : Float) : Intent :=
  let intent := ofRequest request pattern.goal confidence pattern.description
  let draft := Draft.ofIntent ⟨Labelled.empty, false⟩ intent
  { intent with formula? := if draft.isValid then some draft.formula else none }

/-- The surer of two; of equally sure ones the first. -/
def surer (best? : Option (Pattern × Float)) (pattern : Pattern) (confidence : Float) :
    Option (Pattern × Float) :=
  match best? with
  | some (best, top) => if top < confidence then some (pattern, confidence) else some (best, top)
  | none => some (pattern, confidence)

/-- The surest pattern, if any has a cue. -/
def surest? (request : Request) : Option (Pattern × Float) :=
  Pattern.catalog.foldl (fun best? pattern =>
    match pattern.score? request with
    | some confidence => surer best? pattern confidence
    | none => best?) none

/-- Puts an intent behind the last one that is not less sure, in a list that starts with its last
item. -/
def insertLast (intent : Intent) : List Intent → List Intent
  | [] => [intent]
  | last :: earlier =>
    if last.confidence < intent.confidence then last :: insertLast intent earlier
    else intent :: last :: earlier

/-- The intents from the surest on; equally sure ones keep their order. -/
def sortByConfidence (intents : List Intent) : List Intent :=
  (intents.foldl (fun sorted intent => insertLast intent sorted) []).reverse

/-- The intents of all patterns that a request may follow, from the surest on. -/
def candidates (request : Request) : List Intent :=
  sortByConfidence <| Pattern.catalog.filterMap fun pattern =>
    match pattern.score? request with
    | some confidence =>
      if listedAbove < confidence then some (ofPattern request pattern confidence) else none
    | none => none

/-- The fields of the request, or its numbers if it names no field. -/
def operands (intent : Intent) : List String :=
  if intent.fields.isEmpty then intent.numbers.map numberText else intent.fields

/-- The operation on the operands as a formula, and the confidence in it. -/
def compose (operation : Operation) (operands : List String) : String × Float :=
  match operation.sign?, operation with
  | some sign, _ => ("=" ++ sign.intercalate operands, 0.5)
  | none, .sum | none, .average =>
    ("=" ++ operation.name ++ "(" ++ ",".intercalate operands ++ ")", 0.5)
  | none, _ => ("=" ++ operation.name ++ "(" ++ ",".intercalate operands ++ ")", 0.4)

/-- The intent of a request that follows no pattern: its first operation on its operands. -/
def ofOperation (request : Request) : Intent :=
  let unknown := ofRequest request .unknown 0.2 "Không xác định được yêu cầu"
  match request.operations, unknown.operands with
  | operation :: _, first :: rest =>
    let (formula, confidence) := compose operation (first :: rest)
    { unknown with
      goal := .custom
      confidence := confidence
      formula? := some formula
      description := "Công thức tùy chỉnh: " ++ formula }
  | _, _ => unknown

def detect (request : Request) : Intent :=
  match surest? request with
  | some (pattern, confidence) =>
    if leastConfidence ≤ confidence then ofPattern request pattern confidence
    else ofOperation request
  | none => ofOperation request

end PhraseSheet.Intent
