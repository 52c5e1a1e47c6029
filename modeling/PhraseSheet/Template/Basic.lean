/-! Templates: the text of a formula with slots that are filled in later. A slot is written as a
dollar sign and its name in braces. -/

namespace PhraseSheet

/-- A part of a template. -/
inductive Segment where
  | literal (content : String)
  | slot (name : String)
deriving DecidableEq, Repr

/-- What a slot is filled with. -/
inductive SlotKind where
  | field
  | range
  | condition
  | number
deriving DecidableEq, Repr

/-- A formula with slots. -/
structure Template where
  segments : List Segment
deriving DecidableEq, Repr

/-- Why a text is no template. -/
inductive TemplateError where
  | unterminated (template : String)
  | badName (template name : String)
deriving DecidableEq, Repr

namespace SlotKind

/-- Five names say what their slots are filled with; every other name is that of a field. -/
def ofName (name : String) : SlotKind :=
  if name = "range" then .range
  else if name = "condition" ∨ name = "trueValue" ∨ name = "falseValue" then .condition
  else if name = "number" then .number
  else .field

end SlotKind

namespace TemplateError

def message : TemplateError → String
  | .unterminated template => "malformed template '" ++ template ++ "': unterminated placeholder"
  | .badName template name =>
    "malformed template '" ++ template ++ "': invalid placeholder name '" ++ name ++ "'"

end TemplateError

namespace Segment

def slot? : Segment → Option String
  | .literal _ => none
  | .slot name => some name

/-- The written form of an empty slot. -/
def marker (name : String) : String := "$\x7b" ++ name ++ "\x7d"

def text : Segment → String
  | .literal content => content
  | .slot name => marker name

end Segment

namespace Template

/-- The slots in order, repeated where the template repeats them. -/
def slots (template : Template) : List String := template.segments.filterMap Segment.slot?

def text (template : Template) : String := String.join (template.segments.map Segment.text)

/-- Names of slots are made of ASCII letters, digits and low lines. -/
def isName (name : List Char) : Bool :=
  !name.isEmpty && name.all fun c => c.isAlphanum || c == '_'

/-- The characters as a segment in front of others; no characters make no segment. -/
def withLiteral (literal : List Char) (segments : List Segment) : List Segment :=
  if literal.isEmpty then segments else .literal (String.ofList literal) :: segments

/-- Reads the segments of a text behind the characters of a literal that has begun. -/
def segmentsFrom (whole : String) (literal : List Char) :
    List Char → Except TemplateError (List Segment)
  | [] => .ok (withLiteral literal [])
  | '$' :: '\x7b' :: rest =>
    let name := rest.takeWhile (· != '\x7d')
    match _found : rest.dropWhile (· != '\x7d') with
    | [] => .error (.unterminated whole)
    | _ :: after =>
      if isName name then do
        let others ← segmentsFrom whole [] after
        pure (withLiteral literal (.slot (String.ofList name) :: others))
      else .error (.badName whole (String.ofList name))
  | c :: rest => segmentsFrom whole (literal ++ [c]) rest
termination_by text => text.length
decreasing_by
  · have shorter := (List.dropWhile_sublist (l := rest) (· != '\x7d')).length_le
    rw [_found, List.length_cons] at shorter
    simp only [List.length_cons]
    omega
  · simp

def parse (text : String) : Except TemplateError Template := do
  let segments ← segmentsFrom text [] text.toList
  pure ⟨segments⟩

end Template

end PhraseSheet
