import PhraseSheet.Json.Printer
import PhraseSheet.Json.Reader
import PhraseSheet.Row.Basic
import PhraseSheet.Sheet.Document

namespace PhraseSheet

/-- Why a text holds no rows. -/
inductive RowsError where
  | notJson
  | notAList
  /-- The item at this place, counted from zero, is no record. -/
  | notARecord (place : Nat)
deriving DecidableEq

namespace RowsError

def message : RowsError → String
  | .notJson => "Input is not valid JSON"
  | .notAList => "Expected a JSON array of row objects"
  | .notARecord place => "Row " ++ Nat.repr place ++ " is not an object"

end RowsError

namespace Value

/-- The value of a member; lists and records are kept as their text. -/
def ofMember : Json → Value
  | .null => .empty
  | .bool truth => .boolean truth
  | .number value => .number value.toFloat
  | .text content => .text content
  | document => .text document.compact

end Value

namespace Row

def ofMembers (members : List (String × Json)) : Row :=
  Labelled.ofList (members.map fun (header, value) => (header, Value.ofMember value))

/-- The rows of a list's items, the first of which has the given place. -/
def ofItems (place : Nat) : List Json → Except RowsError (List Row)
  | [] => .ok []
  | .record members :: rest => do
    let others ← ofItems (place + 1) rest
    pure (ofMembers members :: others)
  | _ :: _ => .error (.notARecord place)

def readAll (text : String) : Except RowsError (List Row) :=
  match Json.read? text with
  | none => .error .notJson
  | some (.list items) => ofItems 0 items
  | some _ => .error .notAList

def toJson (row : Row) : Json :=
  .record (row.entries.map fun (header, value) => (header, value.toJson))

end Row

end PhraseSheet
