import PhraseSheet.Draft.Fault
import PhraseSheet.Formula.Literal
import PhraseSheet.Formula.Names
import PhraseSheet.Intent.Basic
import PhraseSheet.Sheet.Context
import PhraseSheet.Template.Catalog

/-! Drafts: formulas written for intents. A template's slots are filled with what the request says
and with known values, and the text is checked for faults. -/

namespace PhraseSheet

/-- A formula in writing. -/
structure Draft where
  formula : String
  /-- No fault was found and every slot is filled. -/
  isValid : Bool
  description : String
  /-- The names and cells that the formula reads. -/
  reads : List String
  warnings : List String

/-- What is known when a formula is written. -/
structure Knowledge where
  /-- Values of fields, and of the slots for ranges, conditions and numbers. -/
  context : Context := Labelled.empty
  /-- Fields are named even if their values are known. -/
  keepNames : Bool := false

namespace Draft

def refused (description warning : String) : Draft := ⟨"", false, description, [], [warning]⟩

/-- The text as a draft, with its faults as warnings behind the given ones. -/
def ofFormula (formula description : String) (warnings : List String) : Draft :=
  let faults := Fault.find formula
  { formula := formula
    isValid := faults.isEmpty && !Fault.hasMarker formula.toList
    description := description
    reads := FormulaPart.mentioned formula
    warnings := warnings ++ faults.map Fault.message }

/-- The value of a field if it is known, has a written form and may stand for the name; else the
name. -/
def fieldText (knowledge : Knowledge) (name : String) : String :=
  match knowledge.context.get? name with
  | some value => if knowledge.keepNames then name else value.literal?.getD name
  | none => name

/-- The first range of the request, else the column of its first field, else the known range. For a
lookup one column is no table. -/
def rangeText? (knowledge : Knowledge) (intent : Intent) : Option String :=
  let column? := if intent.goal = .lookup then none
    else intent.fields.head?.map fun field => field ++ ":" ++ field
  intent.ranges.head?.or <| column?.or <|
    (knowledge.context.get? "range").bind Value.formulaText?

/-- The known number, else the first one of the request. -/
def numberText? (knowledge : Knowledge) (intent : Intent) : Option String :=
  ((knowledge.context.get? "number").bind Value.literal?).or (intent.numbers.head?.map numberText)

/-- The first field compared with the first number, by default as at least as great. -/
def comparisonText? (intent : Intent) : Option String := do
  let field ← intent.fields.head?
  let number ← intent.numbers.head?
  let comparison := intent.comparisons.head?.getD .greaterOrEqual
  pure (field ++ comparison.symbol ++ numberText number)

/-- The text of the branch that is taken, by default the words for passing and failing. -/
def branchText (knowledge : Knowledge) (name fallback : String) : String :=
  ((knowledge.context.get? name).bind Value.literal?).getD (Value.quotedLiteral fallback)

/-- The condition and the branches of a conditional. -/
def conditionText? (knowledge : Knowledge) (intent : Intent) (name : String) : Option String :=
  if name = "condition" then
    ((knowledge.context.get? name).bind Value.formulaText?).or (comparisonText? intent)
  else if name = "trueValue" then some (branchText knowledge name "Đạt")
  else some (branchText knowledge name "Không đạt")

/-- What fills the slot, if anything is known that does. -/
def slotText? (knowledge : Knowledge) (intent : Intent) (name : String) : Option String :=
  match SlotKind.ofName name with
  | .field => some (fieldText knowledge name)
  | .range => rangeText? knowledge intent
  | .condition => conditionText? knowledge intent name
  | .number => numberText? knowledge intent

/-- The text of a template in which slots are filled; a slot that is not stays visible. -/
def fill (slotText? : String → Option String) (template : Template) : String :=
  String.join <| template.segments.map fun segment =>
    match segment with
    | .literal content => content
    | .slot name => (slotText? name).getD (Segment.marker name)

/-- The required fields that neither the request names nor the context knows. -/
def missingFields (knowledge : Knowledge) (intent : Intent) (recipe : Recipe) : List String :=
  (recipe.required.map Field.name).filter fun name =>
    !intent.fields.contains name && !knowledge.context.contains name

def openSlots (slotText? : String → Option String) (template : Template) : List String :=
  (template.slots.filter fun name => (slotText? name).isNone).eraseDups

def ofRecipe (knowledge : Knowledge) (intent : Intent) (recipe : Recipe) : Draft :=
  let text? := slotText? knowledge intent
  let missing := (missingFields knowledge intent recipe).map fun name => "Thiếu trường: " ++ name
  let unfilled := (openSlots text? recipe.template).map fun name =>
    "Chưa có giá trị cho " ++ Segment.marker name
  ofFormula (fill text? recipe.template) recipe.description (missing ++ unfilled)

def ofIntent (knowledge : Knowledge) (intent : Intent) : Draft :=
  match intent.goal with
  | .unknown => refused intent.description "Không xác định được yêu cầu, không thể tạo công thức"
  | .custom =>
    match intent.formula? with
    | some formula => ofFormula formula intent.description []
    | none => refused intent.description "Không có công thức tùy chỉnh"
  | goal =>
    match Recipe.ofGoal? goal with
    | some recipe => ofRecipe knowledge intent recipe
    | none => refused intent.description "Không có mẫu công thức cho yêu cầu này"

def withCells (cell? : String → Option String) (draft : Draft) : Draft :=
  if draft.formula.isEmpty then draft
  else
    let formula := FormulaPart.rename cell? draft.formula
    { draft with formula := formula, reads := FormulaPart.mentioned formula }

end Draft

end PhraseSheet
