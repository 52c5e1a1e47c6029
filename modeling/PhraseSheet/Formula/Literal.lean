import PhraseSheet.Sheet.Value

namespace PhraseSheet.Value

/-- A text in quotes, with each quote inside it doubled. -/
def quotedLiteral (content : String) : String :=
  String.ofList ('"' :: (content.toList.flatMap fun c => if c == '"' then [c, c] else [c]) ++ ['"'])

/-- The value as a formula writes it. Errors, arrays and empty values have no such form. -/
def literal? : Value → Option String
  | .number x => some (numberText x)
  | .text content => some (quotedLiteral content)
  | .boolean truth => some (truthText truth)
  | .error _ | .array _ | .empty => none

/-- The value as a piece of a formula: text is taken as it stands, without the white space around
it. -/
def formulaText? : Value → Option String
  | .text content =>
    let inner := Text.trimmed content
    if inner.isEmpty then none else some inner
  | .number x => some (numberText x)
  | .boolean _ | .error _ | .array _ | .empty => none

end PhraseSheet.Value
