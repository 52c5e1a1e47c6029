import PhraseSheet.Formula.Evaluate
import PhraseSheet.Formula.Parser
import PhraseSheet.Row.Amount
import PhraseSheet.Row.Column
import PhraseSheet.Sheet.Context

/-! Rows of a sheet. Some cells of a row hold formulas, which read the other cells by their headers.
Formulas are resolved from the left, and each sees the results in front of it. -/

namespace PhraseSheet

/-- The cells of a row under the headers of their columns. -/
abbrev Row := Labelled Value

namespace Value

/-- The formula that a cell holds: a text that starts with an equals sign. -/
def formula? : Value → Option String
  | .text content =>
    if (Text.trimStart content.toList).head? == some '=' then some content else none
  | _ => none

def isFormula (value : Value) : Bool := value.formula?.isSome

/-- A value as formulas see it: amounts of money are numbers, and texts have no white space around
them. -/
def cleaned : Value → Value
  | .text content =>
    match Amount.read? content.toList with
    | some x => .number x
    | none => .text (Text.trimmed content)
  | value => value

/-- A value as the row shows it: text that is a number becomes one. -/
def coerced : Value → Value
  | .text content =>
    match Decimal.read? (Text.trim content.toList) with
    | some x => if x.isFinite then .number x else .text content
    | none => .text content
  | value => value

end Value

namespace Row

/-- Adds a cell's value under the field that its header stands for, and under the header. -/
def addCell (context : Context) (header : String) (value : Value) : Context :=
  let aliased := match Field.ofHeader? header with
    | some field => context.put field.name value.cleaned
    | none => context
  aliased.put header value.cleaned

def addCells (context : Context) (cells : List (String × Value)) : Context :=
  cells.foldl (fun grown (header, value) => addCell grown header value) context

/-- The values of a row by header and field. -/
def context (row : Row) : Context := addCells Labelled.empty row.entries

/-- The cells that hold no formula. -/
def plainCells (row : Row) : List (String × Value) :=
  row.entries.filter fun (_, value) => !value.isFormula

/-- What the formulas of a row can read: the given values, the plain cells by header and field, and
then by header as the row shows them. -/
def startContext (extra : Context) (row : Row) : Context :=
  (addCells extra row.plainCells).putAll
    (row.plainCells.map fun (header, value) => (header, value.coerced))

/-- The value of a formula, unless it cannot be read or gives an error. -/
def result? (context : Context) (formula : String) : Option Value :=
  match Expr.parse formula with
  | .ok expr =>
    let value := expr.evaluate context
    if value.isError then none else some value
  | .error _ => none

/-- Resolves cells from the left. A formula without a value leaves an empty cell and nothing for the
formulas behind it. -/
def resolveCells (context : Context) : List (String × Value) → List (String × Value)
  | [] => []
  | (header, value) :: rest =>
    match value.formula? with
    | none => (header, value.coerced) :: resolveCells context rest
    | some formula =>
      match result? context formula with
      | some result => (header, result) :: resolveCells (context.put header result) rest
      | none => (header, .empty) :: resolveCells context rest

theorem names_resolveCells (context : Context) (cells : List (String × Value)) :
    (resolveCells context cells).map Prod.fst = cells.map Prod.fst := by
  induction cells generalizing context with
  | nil => rfl
  | cons cell rest ih =>
    obtain ⟨header, value⟩ := cell
    simp only [resolveCells]
    split
    · simp [ih]
    · split <;> simp [ih]

def resolve (extra : Context) (row : Row) : Row where
  entries := resolveCells (startContext extra row) row.entries
  distinct := by
    rw [names_resolveCells]
    exact row.distinct

/-- Rows are resolved apart from each other. -/
def resolveAll (extra : Context) (rows : List Row) : List Row := rows.map (resolve extra)

end Row

end PhraseSheet
