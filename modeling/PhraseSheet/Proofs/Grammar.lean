import PhraseSheet.Formula.Expr
import PhraseSheet.Formula.Token

/-! The grammar of formulas, said without a reader: which tokens write which expression, and how
many levels of nesting that takes. Only signs in front of operands, operands themselves and the
exponents of powers open a level. -/

namespace PhraseSheet.Grammar

/-- The chains of operators that group from the left, from the loosest on. -/
inductive Chain where
  | comparisons
  | joins
  | sums
  | products

/-- The kinds of expressions, told apart by how tightly their parts are bound. -/
inductive Category where
  | chain (chain : Chain)
  | power
  | operand
  | range
  | primary

/-- Whole expressions. -/
abbrev Category.whole : Category := .chain .comparisons

def Chain.parts : Chain → Category
  | .comparisons => .chain .joins
  | .joins => .chain .sums
  | .sums => .chain .products
  | .products => .power

/-- A token writes an operator of the chain. -/
inductive Writes : Chain → Token → Operator → Prop where
  | comparison (op : Comparison) : Writes .comparisons (.comparison op) (.comparison op)
  | join : Writes .joins .ampersand .join
  | add : Writes .sums .plus (.arithmetic .add)
  | subtract : Writes .sums .minus (.arithmetic .subtract)
  | multiply : Writes .products .star (.arithmetic .multiply)
  | divide : Writes .products .slash (.arithmetic .divide)

def underPercents : Nat → Expr → Expr
  | 0, operand => operand
  | count + 1, operand => underPercents count (.unary .percent operand)

mutual

/-- The tokens write an expression of the category, which takes so many levels of nesting. -/
inductive Derives : Category → List Token → Expr → Nat → Prop where
  | part (only : Derives chain.parts tokens tree need) : Derives (.chain chain) tokens tree need
  | chain (left : Derives (.chain chain) before leftTree leftNeed)
      (sign : Writes chain token op)
      (right : Derives chain.parts after rightTree rightNeed) :
      Derives (.chain chain) (before ++ token :: after) (.binary op leftTree rightTree)
        (max leftNeed rightNeed)
  | base (only : Derives .operand tokens tree need) : Derives .power tokens tree need
  | power (base : Derives .operand before baseTree baseNeed)
      (exponent : Derives .power after exponentTree exponentNeed) :
      Derives .power (before ++ .caret :: after)
        (.binary (.arithmetic .power) baseTree exponentTree) (max baseNeed (exponentNeed + 1))
  | negated (inner : Derives .operand tokens tree need) :
      Derives .operand (.minus :: tokens) (.unary .negate tree) (need + 1)
  | signed (inner : Derives .operand tokens tree need) :
      Derives .operand (.plus :: tokens) tree (need + 1)
  | percents (count : Nat) (inner : Derives .range tokens tree need) :
      Derives .operand (tokens ++ List.replicate count .percent) (underPercents count tree)
        (need + 1)
  | single (only : Derives .primary tokens tree need) : Derives .range tokens tree need
  | corners (left : Derives .primary before (.cell one) leftNeed)
      (right : Derives .primary after (.cell other) rightNeed) :
      Derives .range (before ++ .colon :: after) (.range (.spanning one other))
        (max leftNeed rightNeed)
  | span (left : Derives .primary before leftTree leftNeed)
      (right : Derives .primary after rightTree rightNeed)
      (apart : ∀ one other, ¬ (leftTree = .cell one ∧ rightTree = .cell other)) :
      Derives .range (before ++ .colon :: after) (.span leftTree rightTree)
        (max leftNeed rightNeed)
  | number (x : Float) : Derives .primary [.number x] (.number x) 0
  | text (content : String) : Derives .primary [.text content] (.text content) 0
  | boolean (truth : Bool) : Derives .primary [.boolean truth] (.boolean truth) 0
  | error (cause : CellError) : Derives .primary [.error cause] (.error cause) 0
  | cell (address : Address) : Derives .primary [.cell address] (.cell address) 0
  | name (label : String) : Derives .primary [.identifier label] (.name label) 0
  | emptyCall (function : String) :
      Derives .primary [.identifier function, .leftParen, .rightParen]
        (.call (Text.uppered function) []) 0
  | call (function : String) (arguments : Lists inside trees need) :
      Derives .primary (.identifier function :: .leftParen :: (inside ++ [.rightParen]))
        (.call (Text.uppered function) trees) need
  | group (inner : Derives .whole inside tree need) :
      Derives .primary (.leftParen :: (inside ++ [.rightParen])) tree need
  | emptyTable : Derives .primary [.leftBrace, .rightBrace] (.array []) 0
  | table (rows : Stacks inside rowTrees need) :
      Derives .primary (.leftBrace :: (inside ++ [.rightBrace])) (.array rowTrees) need

/-- The tokens write one or more expressions with commas between them. -/
inductive Lists : List Token → List Expr → Nat → Prop where
  | last (only : Derives .whole tokens tree need) : Lists tokens [tree] need
  | more (first : Derives .whole before tree firstNeed) (others : Lists after trees otherNeed) :
      Lists (before ++ .comma :: after) (tree :: trees) (max firstNeed otherNeed)

/-- The tokens write one or more rows of expressions with semicolons between them. -/
inductive Stacks : List Token → List (List Expr) → Nat → Prop where
  | last (only : Lists tokens row need) : Stacks tokens [row] need
  | more (first : Lists before row firstNeed) (below : Stacks after rows belowNeed) :
      Stacks (before ++ .semicolon :: after) (row :: rows) (max firstNeed belowNeed)

end

end PhraseSheet.Grammar
