import PhraseSheet.Json.Basic
import PhraseSheet.Json.Printer
import PhraseSheet.Sheet.Value

/-! Values in documents. A value is written without a tag, so that its kind shows in its form; an
error is written as its text and read back as text. -/

namespace PhraseSheet

/-- What a document holds where something else was wanted. -/
inductive DocumentError where
  | notAValue
  | unknownError (text : String)
  /-- A text was wanted; the document holds the described kind. -/
  | notAText (found : String)
deriving DecidableEq

namespace DocumentError

def message : DocumentError → String
  | .notAValue => "data did not match any variant of untagged enum FormulaValue"
  | .unknownError text => "unknown error value: " ++ text
  | .notAText found => "invalid type: " ++ found ++ ", expected a string"

end DocumentError

namespace Value

mutual

/-- The value in a document. -/
def toJson : Value → Json
  | .number x => Json.ofFloat x
  | .boolean truth => .bool truth
  | .text content => .text content
  | .error cause => .text cause.text
  | .array rows => .list (rowsToJson rows)
  | .empty => .null

def cellsToJson : List Value → List Json
  | [] => []
  | cell :: rest => cell.toJson :: cellsToJson rest

def rowsToJson : List (List Value) → List Json
  | [] => []
  | row :: rest => .list (cellsToJson row) :: rowsToJson rest

end

mutual

/-- The value that a document holds: a list is an array if all its items are lists of values. -/
def ofJson? : Json → Option Value
  | .number value => some (.number value.toFloat)
  | .bool truth => some (.boolean truth)
  | .text content => some (.text content)
  | .list items => (rowsOfJson? items).map .array
  | .null => some .empty
  | .record _ => none

def cellsOfJson? : List Json → Option (List Value)
  | [] => some []
  | item :: rest => do
    let cell ← ofJson? item
    let others ← cellsOfJson? rest
    pure (cell :: others)

def rowsOfJson? : List Json → Option (List (List Value))
  | [] => some []
  | .list cells :: rest => do
    let row ← cellsOfJson? cells
    let others ← rowsOfJson? rest
    pure (row :: others)
  | _ :: _ => none

end

/-- Reads the value that a document holds. -/
def ofJson (document : Json) : Except DocumentError Value :=
  match ofJson? document with
  | some value => .ok value
  | none => .error .notAValue

end Value

namespace CellError

/-- The kind of a document, as messages name it; numbers stand as they do in documents. -/
def kindOf : Json → String
  | .null => "null"
  | .bool truth => "boolean `" ++ (if truth then "true" else "false") ++ "`"
  | .number (.whole value) => "integer `" ++ toString value ++ "`"
  | .number (.real value) => "floating point `" ++ jsonLayout.render value ++ "`"
  | .text content => "string " ++ content
  | .list _ => "sequence"
  | .record _ => "map"

/-- Reads the error whose text a document holds. -/
def ofJson : Json → Except DocumentError CellError
  | .text content =>
    match ofText? content with
    | some cause => .ok cause
    | none => .error (.unknownError content)
  | other => .error (.notAText (kindOf other))

end CellError

end PhraseSheet
