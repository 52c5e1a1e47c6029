import PhraseSheet.Text.Blank

namespace PhraseSheet

inductive Fault where
  | noEqualsSign
  | unbalanced
  | doubledOperator
  | trailingOperator
deriving DecidableEq, Repr

namespace Fault

def message : Fault → String
  | .noEqualsSign => "Công thức phải bắt đầu bằng '='"
  | .unbalanced => "Dấu ngoặc không cân bằng"
  | .doubledOperator => "Toán tử lặp không hợp lệ"
  | .trailingOperator => "Công thức kết thúc bằng toán tử"

/-- Outside quotes, `depth` parentheses are open in front of the text, and it closes them and its
own and no others. -/
def isBalanced (inQuotes : Bool) (depth : Nat) : List Char → Bool
  | [] => depth == 0
  | '"' :: rest => isBalanced (!inQuotes) depth rest
  | c :: rest =>
    if inQuotes then isBalanced inQuotes depth rest
    else if c == '(' then isBalanced inQuotes (depth + 1) rest
    else if c == ')' then 0 < depth && isBalanced inQuotes (depth - 1) rest
    else isBalanced inQuotes depth rest

/-- Two slashes or two stars stand together, in quotes or not. -/
def hasDoubled : List Char → Bool
  | '/' :: '/' :: _ | '*' :: '*' :: _ => true
  | _ :: rest => hasDoubled rest
  | [] => false

def isOperator (c : Char) : Bool := c == '+' || c == '-' || c == '*' || c == '/'

def find (formula : String) : List Fault :=
  let text := formula.toList
  (if text.head? == some '=' then [] else [noEqualsSign]) ++
    (if isBalanced false 0 text then [] else [unbalanced]) ++
    (if hasDoubled text then [doubledOperator] else []) ++
    if (Text.trimEnd text).getLast?.any isOperator then [trailingOperator] else []

/-- An empty slot stands in the text. -/
def hasMarker : List Char → Bool
  | '$' :: '\x7b' :: _ => true
  | _ :: rest => hasMarker rest
  | [] => false

end Fault

end PhraseSheet
