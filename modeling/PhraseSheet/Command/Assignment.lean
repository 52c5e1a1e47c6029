import PhraseSheet.Sheet.Context

namespace PhraseSheet

/-- Why a text is no assignment. -/
inductive AssignmentError where
  | noSign (text : String)
  | noName (text : String)
deriving DecidableEq

namespace AssignmentError

def message : AssignmentError → String
  | .noSign text => "Expected NAME=VALUE, got '" ++ text ++ "'"
  | .noName text => "Missing name in '" ++ text ++ "'"

end AssignmentError

namespace Value

/-- The value that a text writes: a number, a truth value, or the text itself. -/
def ofScalar (text : String) : Value :=
  match Decimal.ofText? text with
  | some x => .number x
  | none =>
    if Text.sameIgnoringCase text "TRUE" then .boolean true
    else if Text.sameIgnoringCase text "FALSE" then .boolean false
    else .text text

end Value

namespace Context

/-- Writes a value under a name, or as that of a cell if the name is an address. -/
def bind (context : Context) (name : String) (value : Value) : Context :=
  match Address.parse name with
  | .ok address => context.put address.key value
  | .error _ => context.put name value

/-- Writes what the text assigns: what stands behind the first equals sign to what stands in front
of it. -/
def assign (context : Context) (text : String) : Except AssignmentError Context :=
  match text.toList.dropWhile (· != '=') with
  | [] => .error (.noSign text)
  | _ :: value =>
    let name := Text.trim (text.toList.takeWhile (· != '='))
    if name.isEmpty then .error (.noName text)
    else .ok (context.bind (String.ofList name) (Value.ofScalar (String.ofList (Text.trim value))))

def ofAssignments (texts : List String) : Except AssignmentError Context :=
  texts.foldlM assign Labelled.empty

end Context

end PhraseSheet
