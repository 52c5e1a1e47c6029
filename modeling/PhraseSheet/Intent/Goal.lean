namespace PhraseSheet

inductive Goal where
  | margin
  | markup
  | profit
  | revenue
  | discount
  | tax
  | sum
  | average
  | count
  | least
  | greatest
  | conditional
  | lookup
  /-- A formula composed of the operation and the operands that the request names. -/
  | custom
  | unknown
deriving DecidableEq, Repr

namespace Goal

def all : List Goal :=
  [.margin, .markup, .profit, .revenue, .discount, .tax, .sum, .average, .count, .least, .greatest,
   .conditional, .lookup, .custom, .unknown]

theorem mem_all (goal : Goal) : goal ∈ all := by
  cases goal <;> simp [all]

def name : Goal → String
  | .margin => "CALCULATE_MARGIN"
  | .markup => "CALCULATE_MARKUP"
  | .profit => "CALCULATE_PROFIT"
  | .revenue => "CALCULATE_REVENUE"
  | .discount => "CALCULATE_DISCOUNT"
  | .tax => "CALCULATE_TAX"
  | .sum => "SUM_RANGE"
  | .average => "AVERAGE_RANGE"
  | .count => "COUNT_ITEMS"
  | .least => "MIN_VALUE"
  | .greatest => "MAX_VALUE"
  | .conditional => "CONDITIONAL"
  | .lookup => "LOOKUP"
  | .custom => "CUSTOM_FORMULA"
  | .unknown => "UNKNOWN"

def ofName? (name : String) : Option Goal := all.find? fun goal => goal.name == name

end Goal

end PhraseSheet
