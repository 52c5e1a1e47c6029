import PhraseSheet.Decimal.Read

namespace PhraseSheet

/-- A number of a document. Whole numbers of up to 64 bits are kept exactly. -/
inductive JsonNumber where
  | whole (value : Int)
  | real (value : Float)
deriving Inhabited

namespace JsonNumber

/-- The nearest binary value. -/
def toFloat : JsonNumber → Float
  | .whole value =>
    let size := Decimal.nearest ⟨value.natAbs, 0⟩
    if value < 0 then -size else size
  | .real value => value

end JsonNumber

/-- A document or a part of one. -/
inductive Json where
  | null
  | bool (value : Bool)
  | number (value : JsonNumber)
  | text (value : String)
  | list (items : List Json)
  | record (members : List (String × Json))
deriving Inhabited

namespace Json

def ofNat (n : Nat) : Json := .number (.whole n)

/-- A number, or null where it has no written form. -/
def ofFloat (x : Float) : Json := if x.isFinite then .number (.real x) else .null

/-- The text, or null where there is none. -/
def ofText? (text? : Option String) : Json :=
  match text? with
  | some content => .text content
  | none => .null

def ofTexts (texts : List String) : Json := .list (texts.map .text)

/-- Puts a member at its place among sorted members, instead of one with the same name. -/
def insertMember (name : String) (value : Json) : List (String × Json) → List (String × Json)
  | [] => [(name, value)]
  | (other, kept) :: rest =>
    if name < other then (name, value) :: (other, kept) :: rest
    else if name = other then (name, value) :: rest
    else (other, kept) :: insertMember name value rest

/-- The members sorted by name; of several with one name the last counts. -/
def sortMembers (members : List (String × Json)) : List (String × Json) :=
  members.foldl (fun sorted (name, value) => insertMember name value sorted) []

mutual

/-- The document with the members of every record sorted by name. -/
def sorted : Json → Json
  | .list items => .list (sortedItems items)
  | .record members => .record (sortMembers (sortedMembers members))
  | document => document

def sortedItems : List Json → List Json
  | [] => []
  | item :: rest => sorted item :: sortedItems rest

/-- The members in their order, each value sorted within itself. -/
def sortedMembers : List (String × Json) → List (String × Json)
  | [] => []
  | (name, value) :: rest => (name, sorted value) :: sortedMembers rest

end

/-- The member of that name, if the document is a record that has one. -/
def member? (document : Json) (name : String) : Option Json :=
  match document with
  | .record members => members.lookup name
  | _ => none

end Json

end PhraseSheet
