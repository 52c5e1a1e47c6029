import PhraseSheet.Decimal.Layout
import PhraseSheet.Decimal.Read
import PhraseSheet.Reading.Remainder
import PhraseSheet.Sheet.Address
import PhraseSheet.Sheet.CellError
import PhraseSheet.Sheet.Comparison
import PhraseSheet.Text.Blank
import PhraseSheet.Text.Quoted

/-! The words and signs of formulas, and how a text is cut into them. White space between them does
not count. -/

namespace PhraseSheet

inductive Token where
  | number (x : Float)
  | text (content : String)
  | boolean (truth : Bool)
  | error (cause : CellError)
  | identifier (name : String)
  | cell (address : Address)
  | comparison (op : Comparison)
  | plus
  | minus
  | star
  | slash
  | caret
  | percent
  | ampersand
  | colon
  | comma
  | semicolon
  | leftParen
  | rightParen
  | leftBrace
  | rightBrace
  /-- Text that is no part of a formula. -/
  | invalid (content : String)

namespace Token

/-- The token that a single character always is. -/
def sign? : Char → Option Token
  | '+' => some .plus
  | '-' => some .minus
  | '*' => some .star
  | '/' => some .slash
  | '^' => some .caret
  | '%' => some .percent
  | '&' => some .ampersand
  | ':' => some .colon
  | ',' => some .comma
  | ';' => some .semicolon
  | '(' => some .leftParen
  | ')' => some .rightParen
  | '\x7b' => some .leftBrace
  | '\x7d' => some .rightBrace
  | '=' => some (.comparison .equal)
  | _ => none

/-- The comparison that starts with `<`. -/
def scanLess : (input : List Char) → Token × Leftover input
  | '=' :: rest => (.comparison .lessOrEqual, (Remainder.tail '=' rest).toLeftover)
  | '>' :: rest => (.comparison .notEqual, (Remainder.tail '>' rest).toLeftover)
  | input => (.comparison .less, .whole input)

/-- The comparison that starts with `>`. -/
def scanGreater : (input : List Char) → Token × Leftover input
  | '=' :: rest => (.comparison .greaterOrEqual, (Remainder.tail '=' rest).toLeftover)
  | input => (.comparison .greater, .whole input)

/-- The content of a text up to its closing quote; a doubled quote stands for one. The second part
is absent if the text never closes. -/
def readQuoted : (input : List Char) → List Char × Option (Leftover input)
  | [] => ([], none)
  | '"' :: '"' :: rest =>
    let (content, after?) := readQuoted rest
    ('"' :: content, after?.map fun after =>
      ⟨after.val, by have := after.property; simp only [List.length_cons]; omega⟩)
  | c :: rest =>
    if c == '"' then ([], some (Remainder.tail c rest).toLeftover)
    else
      let (content, after?) := readQuoted rest
      (c :: content, after?.map fun after =>
        ⟨after.val, by have := after.property; simp only [List.length_cons]; omega⟩)

/-- A text behind its opening quote. -/
def scanText (input : List Char) : Token × Leftover input :=
  match readQuoted input with
  | (content, some after) => (.text (String.ofList content), after)
  | (content, none) =>
    (.invalid ("unterminated string \"" ++ String.ofList content), ⟨[], Nat.zero_le _⟩)

/-- The length of the exponent at the start of the text; zero if no digit follows the mark. -/
def exponentLength (text : List Char) : Nat :=
  match text with
  | mark :: rest =>
    if mark == 'e' || mark == 'E' then
      let (signLength, digits) := match rest with
        | sign :: tail => if sign == '+' || sign == '-' then (1, tail) else (0, rest)
        | [] => (0, [])
      let digitCount := (digits.takeWhile Char.isDigit).length
      if digitCount = 0 then 0 else 1 + signLength + digitCount
    else 0
  | [] => 0

/-- The length of the number at the start of the text: digits, a point with digits, an exponent. -/
def numberLength (text : List Char) : Nat :=
  let whole := (text.takeWhile Char.isDigit).length
  let fraction := match text.drop whole with
    | '.' :: rest => 1 + (rest.takeWhile Char.isDigit).length
    | _ => 0
  whole + fraction + exponentLength (text.drop (whole + fraction))

def numberOf (content : List Char) : Token :=
  match Decimal.read? content with
  | some x => .number x
  | none => .invalid (String.ofList content)

/-- The characters of an error behind its `#`. -/
def isErrorChar (c : Char) : Bool := c.isAlphanum || c == '!' || c == '/' || c == '?'

def errorOf (content : List Char) : Token :=
  match CellError.ofText? (String.ofList content) with
  | some cause => .error cause
  | none => .invalid (String.ofList content)

/-- The characters that a name may start with. -/
def startsName (c : Char) : Bool := Text.isAlphabetic c || c == '_' || c == '$'

/-- The characters that a name may go on with. -/
def continuesName (c : Char) : Bool :=
  Text.isAlphanumeric c || c == '_' || c == '$' || c == '.'

/-- An optional `$`, ASCII letters, an optional `$`, ASCII digits. -/
def looksLikeCell (content : List Char) : Bool :=
  let (_, unmarked) := Address.splitFixed content
  let (_, digits) := Address.splitFixed (unmarked.dropWhile Char.isAlpha)
  !(unmarked.takeWhile Char.isAlpha).isEmpty && !digits.isEmpty && digits.all Char.isDigit

/-- A name, a truth value or a cell. In front of a parenthesis it is always a name. -/
def nameOf (content : List Char) (after : List Char) : Token :=
  let name := String.ofList content
  if (Text.trimStart after).head? == some '(' then .identifier name
  else if Text.sameIgnoringCase name "TRUE" then .boolean true
  else if Text.sameIgnoringCase name "FALSE" then .boolean false
  else if looksLikeCell content then
    match Address.parse name with
    | .ok address => .cell address
    | .error _ => .identifier name
  else .identifier name

/-- A token that takes so many characters behind the first one. -/
def taking (count : Nat) (c : Char) (rest : List Char)
    (token : List Char → List Char → Token) : Token × Remainder (c :: rest) :=
  (token (c :: rest.take count) (rest.drop count),
    ⟨rest.drop count, by simp only [List.length_drop, List.length_cons]; omega⟩)

/-- The token that starts with the character, and what follows it. -/
def scanFrom (c : Char) (rest : List Char) : Token × Remainder (c :: rest) :=
  let first := Remainder.tail c rest
  match sign? c with
  | some token => (token, first)
  | none =>
    if c == '<' then
      let (token, after) := scanLess rest
      (token, first.upTo after)
    else if c == '>' then
      let (token, after) := scanGreater rest
      (token, first.upTo after)
    else if c == '"' then
      let (token, after) := scanText rest
      (token, first.upTo after)
    else if c.isDigit || c == '.' && (rest.head?.any Char.isDigit) then
      taking (numberLength (c :: rest) - 1) c rest fun content _ => numberOf content
    else if c == '#' then
      taking (rest.takeWhile isErrorChar).length c rest fun content _ => errorOf content
    else if startsName c then taking (rest.takeWhile continuesName).length c rest nameOf
    else (.invalid (String.singleton c), first)

def scan (input : List Char) : List Token :=
  match _found : Leftover.dropping Text.isBlank input with
  | ⟨[], _⟩ => []
  | ⟨c :: rest, _⟩ =>
    let (token, after) := scanFrom c rest
    token :: scan after.val
termination_by input.length
decreasing_by
  rename_i bound
  exact Nat.lt_of_lt_of_le after.property bound

/-- Numbers in messages show their point, and an exponent from ten to the sixteenth on and below a
ten thousandth. -/
def messageLayout : Decimal.Layout where
  exponential power := decide (power < -4) || decide (15 < power)
  plusSign := false
  pointZero := true
  signedZero := true
  tie := .up

private def truthWord (truth : Bool) : String := if truth then "true" else "false"

private def errorWord : CellError → String
  | .emptyIntersection => "Null"
  | .divisionByZero => "Div0"
  | .wrongType => "Value"
  | .badReference => "Ref"
  | .unknownName => "Name"
  | .badNumber => "Num"
  | .notAvailable => "Na"

private def comparisonWord : Comparison → String
  | .equal => "Equal"
  | .notEqual => "NotEqual"
  | .less => "LessThan"
  | .lessOrEqual => "LessEqual"
  | .greater => "GreaterThan"
  | .greaterOrEqual => "GreaterEqual"

private def addressWord (address : Address) : String :=
  "CellAddress \x7b row: " ++ Nat.repr address.row ++ ", col: " ++ Nat.repr address.column ++
    ", row_absolute: " ++ truthWord address.rowFixed ++
    ", col_absolute: " ++ truthWord address.columnFixed ++ " \x7d"

/-- The token as messages name it. -/
def describe : Token → String
  | .number x => "Number(" ++ messageLayout.render x ++ ")"
  | .text content => "String(" ++ Text.quoted content ++ ")"
  | .boolean truth => "Boolean(" ++ truthWord truth ++ ")"
  | .error cause => "Error(" ++ errorWord cause ++ ")"
  | .identifier name => "Identifier(" ++ Text.quoted name ++ ")"
  | .cell address => "CellRef(" ++ addressWord address ++ ")"
  | .comparison op => comparisonWord op
  | .plus => "Plus"
  | .minus => "Minus"
  | .star => "Star"
  | .slash => "Slash"
  | .caret => "Caret"
  | .percent => "Percent"
  | .ampersand => "Ampersand"
  | .colon => "Colon"
  | .comma => "Comma"
  | .semicolon => "Semicolon"
  | .leftParen => "LeftParen"
  | .rightParen => "RightParen"
  | .leftBrace => "LeftBrace"
  | .rightBrace => "RightBrace"
  | .invalid content => "Invalid(" ++ Text.quoted content ++ ")"

/-- The next token, or the end of the formula, as messages name it. -/
def describeNext : List Token → String
  | [] => "Eof"
  | token :: _ => token.describe

end Token

end PhraseSheet
