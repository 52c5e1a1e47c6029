import PhraseSheet.Sheet.CellError
import PhraseSheet.Sheet.Comparison
import PhraseSheet.Sheet.Range

namespace PhraseSheet

inductive Arithmetic where
  | add
  | subtract
  | multiply
  | divide
  | power
deriving DecidableEq, Repr

namespace Arithmetic

def symbol : Arithmetic → String
  | .add => "+"
  | .subtract => "-"
  | .multiply => "*"
  | .divide => "/"
  | .power => "^"

end Arithmetic

/-- An operator between two values. -/
inductive Operator where
  | arithmetic (op : Arithmetic)
  | comparison (op : Comparison)
  | join
deriving DecidableEq, Repr

namespace Operator

def symbol : Operator → String
  | .arithmetic op => op.symbol
  | .comparison op => op.symbol
  | .join => "&"

end Operator

/-- An operator on one value. -/
inductive Sign where
  | negate
  | percent
deriving DecidableEq, Repr

inductive Expr where
  | number (x : Float)
  | text (content : String)
  | boolean (truth : Bool)
  | error (cause : CellError)
  | cell (address : Address)
  | range (cells : Range)
  /-- A name whose value the context holds. -/
  | name (name : String)
  | binary (op : Operator) (left right : Expr)
  /-- A range whose ends are not both cells. -/
  | span (left right : Expr)
  | unary (sign : Sign) (operand : Expr)
  | call (function : String) (arguments : List Expr)
  | array (rows : List (List Expr))

end PhraseSheet
