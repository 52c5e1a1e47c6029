import PhraseSheet.Formula.Expr
import PhraseSheet.Formula.Token

/-! Reading formulas. Each level of precedence is a reader built from the reader of the level that
binds tighter; parentheses, arguments and signs lead back to whole expressions, one level of nesting
deeper. -/

namespace PhraseSheet

/-- Why a text is no formula. -/
inductive ParseError where
  | emptyFormula
  | endOfFormula
  | tooDeep
  /-- The token cannot start an operand. -/
  | unexpected (token : Token)
  /-- The characters belong to no token. -/
  | invalidText (content : String)
  | expected (wanted : Token) (next : List Token)
  /-- A cell of a written table is followed by something other than a separator. -/
  | noSeparator
  /-- Tokens are left over behind a whole expression. -/
  | trailing (next : List Token)

namespace ParseError

def reason : ParseError → String
  | .emptyFormula => "Empty formula"
  | .endOfFormula => "Unexpected end of formula"
  | .tooDeep => "formula nested too deeply"
  | .unexpected token => "Unexpected token: " ++ token.describe
  | .invalidText content => "Unexpected character(s) '" ++ content ++ "'"
  | .expected wanted next =>
    "Expected " ++ wanted.describe ++ ", got " ++ Token.describeNext next
  | .noSeparator => "Expected ',' ';' or '\x7d' in array"
  | .trailing next => "Unexpected " ++ Token.describeNext next ++ " after expression"

end ParseError

/-- The deepest nesting of parentheses, arguments and signs that is read. -/
def nestingLimit : Nat := 128

/-- A reader of an expression at the start of the tokens. -/
abbrev ExprReader := (tokens : List Token) → Except ParseError (Expr × Remainder tokens)

namespace ExprReader

/-- Continues an expression with the operators of one level, taken from the left. -/
def extend (operator? : Token → Option Operator) (readOperand : ExprReader) (left : Expr)
    (tokens : List Token) : Except ParseError (Expr × Leftover tokens) :=
  match tokens with
  | [] => .ok (left, .whole [])
  | token :: rest =>
    match operator? token with
    | none => .ok (left, .whole (token :: rest))
    | some op =>
      match readOperand rest with
      | .error failure => .error failure
      | .ok (right, after) =>
        match extend operator? readOperand (.binary op left right) after.val with
        | .error failure => .error failure
        | .ok (whole, last) =>
          .ok (whole, (((Remainder.tail token rest).beyond after).upTo last).toLeftover)
termination_by tokens.length
decreasing_by exact Nat.lt_succ_of_lt after.property

/-- A chain of operands joined by the operators of one level, grouped from the left. -/
def chain (operator? : Token → Option Operator) (readOperand : ExprReader) : ExprReader :=
  fun tokens => do
    let (first, after) ← readOperand tokens
    let (whole, last) ← extend operator? readOperand first after.val
    pure (whole, after.upTo last)

def comparison? : Token → Option Operator
  | .comparison op => some (.comparison op)
  | _ => none

def join? : Token → Option Operator
  | .ampersand => some .join
  | _ => none

def sum? : Token → Option Operator
  | .plus => some (.arithmetic .add)
  | .minus => some (.arithmetic .subtract)
  | _ => none

def product? : Token → Option Operator
  | .star => some (.arithmetic .multiply)
  | .slash => some (.arithmetic .divide)
  | _ => none

/-- A whole expression, given the reader of powers. -/
def expression (readPower : ExprReader) : ExprReader :=
  chain comparison? (chain join? (chain sum? (chain product? readPower)))

/-- A power: an operand, or an operand raised to an inner power. -/
def power (readOperand readInner : ExprReader) : ExprReader := fun tokens => do
  let (base, after) ← readOperand tokens
  match starts : after.val with
  | .caret :: _ =>
    let next := after.next starts
    let (exponent, last) ← readInner next.val
    pure (.binary (.arithmetic .power) base exponent, next.beyond last)
  | _ => pure (base, after)

/-- What is left behind a token that must come next. -/
def expect (wanted : Token) (isWanted : Token → Bool) :
    (tokens : List Token) → Except ParseError (Remainder tokens)
  | [] => .error (.expected wanted [])
  | token :: rest =>
    if isWanted token then .ok (.tail token rest) else .error (.expected wanted (token :: rest))

def isRightParen : Token → Bool
  | .rightParen => true
  | _ => false

/-- The arguments of a call from the next one on, with the closing parenthesis. -/
def arguments (readExpr : ExprReader) (tokens : List Token) :
    Except ParseError (List Expr × Remainder tokens) :=
  match readExpr tokens with
  | .error failure => .error failure
  | .ok (argument, after) =>
    match starts : after.val with
    | .comma :: _ =>
      let next := after.next starts
      match arguments readExpr next.val with
      | .error failure => .error failure
      | .ok (others, last) => .ok (argument :: others, next.beyond last)
    | _ =>
      match expect .rightParen isRightParen after.val with
      | .error failure => .error failure
      | .ok last => .ok ([argument], after.beyond last)
termination_by tokens.length
decreasing_by exact next.property

def call (readExpr : ExprReader) (function : String) (tokens : List Token) :
    Except ParseError (Expr × Remainder tokens) :=
  match tokens with
  | .rightParen :: rest => .ok (.call function [], .tail .rightParen rest)
  | tokens => (arguments readExpr tokens).map fun (found, after) => (.call function found, after)

/-- The rest of a row of a written table and the rows below it, with the closing brace. -/
def rows (readExpr : ExprReader) (tokens : List Token) :
    Except ParseError (List Expr × List (List Expr) × Remainder tokens) :=
  match readExpr tokens with
  | .error failure => .error failure
  | .ok (cell, after) =>
    match starts : after.val with
    | .comma :: _ =>
      let next := after.next starts
      match rows readExpr next.val with
      | .error failure => .error failure
      | .ok (row, below, last) => .ok (cell :: row, below, next.beyond last)
    | .semicolon :: _ =>
      let next := after.next starts
      match rows readExpr next.val with
      | .error failure => .error failure
      | .ok (row, below, last) => .ok ([cell], row :: below, next.beyond last)
    | .rightBrace :: _ => .ok ([cell], [], after.next starts)
    | _ => .error .noSeparator
termination_by tokens.length
decreasing_by all_goals exact next.property

def table (readExpr : ExprReader) (tokens : List Token) :
    Except ParseError (Expr × Remainder tokens) :=
  match tokens with
  | .rightBrace :: rest => .ok (.array [], .tail .rightBrace rest)
  | tokens => (rows readExpr tokens).map fun (row, below, after) => (.array (row :: below), after)

/-- A call if a parenthesis follows the name, else the name itself. Function names are in upper
case. -/
def nameOrCall (readExpr : ExprReader) (name : String) :
    (tokens : List Token) → Except ParseError (Expr × Leftover tokens)
  | .leftParen :: inside =>
    (call readExpr (Text.uppered name) inside).map fun (found, after) =>
      (found, ((Remainder.tail .leftParen inside).beyond after).toLeftover)
  | tokens => .ok (.name name, .whole tokens)

/-- A literal, a reference, a call, a table, or an expression in parentheses. -/
def primary (readExpr : ExprReader) : ExprReader
  | [] => .error .endOfFormula
  | token :: rest =>
    let first := Remainder.tail token rest
    match token with
    | .number x => .ok (.number x, first)
    | .text content => .ok (.text content, first)
    | .boolean truth => .ok (.boolean truth, first)
    | .error cause => .ok (.error cause, first)
    | .cell address => .ok (.cell address, first)
    | .leftParen => do
      let (inside, after) ← readExpr rest
      let last ← expect .rightParen isRightParen after.val
      pure (inside, first.beyond (after.beyond last))
    | .leftBrace => (table readExpr rest).map fun (found, after) => (found, first.beyond after)
    | .identifier name =>
      (nameOrCall readExpr name rest).map fun (found, after) => (found, first.upTo after)
    | .invalid content => .error (.invalidText content)
    | other => .error (.unexpected other)

/-- The range between two expressions: of cells if both are cells. -/
def rangeOf : Expr → Expr → Expr
  | .cell one, .cell other => .range (.spanning one other)
  | left, right => .span left right

/-- A primary expression, or two with a colon between them. -/
def range (readPrimary : ExprReader) : ExprReader := fun tokens => do
  let (left, after) ← readPrimary tokens
  match starts : after.val with
  | .colon :: _ =>
    let next := after.next starts
    let (right, last) ← readPrimary next.val
    pure (rangeOf left right, next.beyond last)
  | _ => pure (left, after)

/-- The expression under the percent signs that follow it. -/
def percents (operand : Expr) : (tokens : List Token) → Expr × Leftover tokens
  | .percent :: rest =>
    let (whole, after) := percents (.unary .percent operand) rest
    (whole, ((Remainder.tail .percent rest).upTo after).toLeftover)
  | tokens => (operand, .whole tokens)

/-- An operand: a range with percent signs behind it, or a sign in front of an inner operand. A plus
sign leaves nothing behind. -/
def operand (readInner readExpr : ExprReader) : ExprReader
  | .minus :: rest =>
    (readInner rest).map fun (inner, after) =>
      (.unary .negate inner, (Remainder.tail .minus rest).beyond after)
  | .plus :: rest =>
    (readInner rest).map fun (inner, after) => (inner, (Remainder.tail .plus rest).beyond after)
  | tokens =>
    (range (primary readExpr) tokens).map fun (base, after) =>
      let (whole, last) := percents base after.val
      (whole, after.upTo last)

/-- The readers of operands and of powers at one level of nesting. -/
structure Level where
  operand : ExprReader
  power : ExprReader

/-- The readers that may nest so many levels deeper. -/
def level : Nat → Level
  | 0 => ⟨fun _ => .error .tooDeep, fun _ => .error .tooDeep⟩
  | depth + 1 =>
    let inner := level depth
    let readOperand := operand inner.operand (expression inner.power)
    ⟨readOperand, power readOperand inner.power⟩

end ExprReader

namespace Expr

/-- The characters of a formula without the white space around it and without its leading `=`. -/
def formulaBody (formula : String) : List Char :=
  match Text.trim formula.toList with
  | '=' :: body => body
  | body => body

/-- Reads the expression that the tokens of a formula write. -/
def ofTokens (tokens : List Token) : Except ParseError Expr := do
  let (whole, after) ← ExprReader.expression (ExprReader.level nestingLimit).power tokens
  match after.val with
  | [] => pure whole
  | next => throw (.trailing next)

/-- Reads a formula; the `=` in front may be missing. -/
def parse (formula : String) : Except ParseError Expr :=
  let body := formulaBody formula
  if body.all Text.isBlank then .error .emptyFormula else ofTokens (Token.scan body)

end Expr

end PhraseSheet
