import PhraseSheet.Sheet.CellError

namespace PhraseSheet

/-- A failure while a formula is read or evaluated. -/
inductive FormulaError where
  | parse (reason : String)
  | evaluation (reason : String)
  | argument (reason : String)
  | unknownFunction (name : String)
  | argumentCount (function expected : String) (actual : Nat)
  | invalidReference (reason : String)
deriving DecidableEq

namespace FormulaError

def message : FormulaError → String
  | .parse reason => "Parse error: " ++ reason
  | .evaluation reason => "Evaluation error: " ++ reason
  | .argument reason => "Invalid argument: " ++ reason
  | .unknownFunction name => "Unknown function: " ++ name
  | .argumentCount function expected actual =>
    "Wrong number of arguments for " ++ function ++ ": expected " ++ expected ++ ", got " ++
      Nat.repr actual
  | .invalidReference reason => "Invalid reference: " ++ reason

/-- The error that a cell shows for the failure. -/
def cellError : FormulaError → CellError
  | .unknownFunction _ => .unknownName
  | .invalidReference _ => .badReference
  | .parse _ | .evaluation _ | .argument _ | .argumentCount _ _ _ => .wrongType

end FormulaError

end PhraseSheet
