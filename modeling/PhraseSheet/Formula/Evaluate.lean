import PhraseSheet.Formula.Expr
import PhraseSheet.Formula.Function
import PhraseSheet.Sheet.Context

/-! The values of expressions. Whatever goes wrong becomes an error value. -/

namespace PhraseSheet

namespace Value

/-- The value as a number, or the failure that says it has none. -/
def toNumber (value : Value) : Except FormulaError Float :=
  match value.asNumber? with
  | some x => .ok x
  | none => .error (.evaluation ("Cannot convert " ++ value.display ++ " to number"))

end Value

namespace Arithmetic

/-- The result of the operation on binary numbers; division by zero and numbers out of reach are
errors. -/
def apply (op : Arithmetic) (x y : Float) : Value :=
  let checked (result : Float) : Value :=
    if result.isFinite then .number result else .error .badNumber
  match op with
  | .add => checked (x + y)
  | .subtract => checked (x - y)
  | .multiply => checked (x * y)
  | .divide => if y == 0 then .error .divisionByZero else checked (x / y)
  | .power => checked (x.pow y)

end Arithmetic

namespace Operator

/-- The result on values that are no errors. Arithmetic needs two values with numbers. -/
def applyPlain (op : Operator) (left right : Value) : Value :=
  match op with
  | .arithmetic op =>
    match left.asNumber?, right.asNumber? with
    | some x, some y => op.apply x y
    | _, _ => .error .wrongType
  | .comparison op => .boolean (op.holds (left.order right))
  | .join => .text (left.asText ++ right.asText)

/-- The result; an operand that is an error is the result, the left one first. -/
def apply (op : Operator) (left right : Value) : Value :=
  match left.error?, right.error? with
  | some cause, _ => .error cause
  | none, some cause => .error cause
  | none, none => op.applyPlain left right

end Operator

namespace Sign

/-- The result; an operand that is an error is the result. -/
def apply (sign : Sign) (operand : Value) : Value :=
  match operand.error?, operand.asNumber? with
  | some cause, _ => .error cause
  | none, none => .error .wrongType
  | none, some x =>
    match sign with
    | .negate => .number (-x)
    | .percent => .number (x / 100)

end Sign

namespace Function

def call (name : String) (arguments : List Value) : Except FormulaError Value :=
  match Registry.standard.function? name with
  | none => .error (.unknownFunction name)
  | some function =>
    if arguments.length < function.least then
      .error (.argumentCount name ("at least " ++ Nat.repr function.least) arguments.length)
    else
      match function.most with
      | some most =>
        if most < arguments.length then
          .error (.argumentCount name ("at most " ++ Nat.repr most) arguments.length)
        else function.apply arguments
      | none => function.apply arguments

end Function

namespace Expr

def nameValue (context : Context) (name : String) : Value :=
  (context.get? name).getD (.error .unknownName)

/-- The range from a name to itself names a whole column, of which this row holds one value. -/
def spanValue (context : Context) : Expr → Expr → Value
  | .name one, .name other =>
    if Text.sameIgnoringCase one other then nameValue context one else .error .badReference
  | _, _ => .error .badReference

mutual

/-- The value of an expression where names and cells have the values of the context. -/
def evaluate (context : Context) : Expr → Value
  | .number x => .number x
  | .text content => .text content
  | .boolean truth => .boolean truth
  | .error cause => .error cause
  | .cell address => (context.cell? address).getD (.error .badReference)
  | .range cells => context.rangeValue cells
  | .name label => nameValue context label
  | .binary op left right => op.apply (evaluate context left) (evaluate context right)
  | .span left right => spanValue context left right
  | .unary sign operand => sign.apply (evaluate context operand)
  | .call function arguments =>
    match Function.call function (evaluateAll context arguments) with
    | .ok value => value
    | .error failure => .error failure.cellError
  | .array rows => .array (evaluateRows context rows)

def evaluateAll (context : Context) : List Expr → List Value
  | [] => []
  | expr :: rest => evaluate context expr :: evaluateAll context rest

def evaluateRows (context : Context) : List (List Expr) → List (List Value)
  | [] => []
  | row :: rest => evaluateAll context row :: evaluateRows context rest

end

end Expr

end PhraseSheet
