import PhraseSheet.Text.Case

/-! The error values a cell may hold. An error is an ordinary value of the sheet, told apart by its
kind. -/

namespace PhraseSheet

/-- What went wrong where a cell shows an error. -/
inductive CellError where
  /-- Two ranges do not meet. -/
  | emptyIntersection
  | divisionByZero
  | wrongType
  /-- A reference names no cell. -/
  | badReference
  | unknownName
  | badNumber
  | notAvailable
deriving DecidableEq, Repr

namespace CellError

def all : List CellError :=
  [.emptyIntersection, .divisionByZero, .wrongType, .badReference, .unknownName, .badNumber,
   .notAvailable]

/-- The text a cell shows for the error. -/
def text : CellError → String
  | .emptyIntersection => "#NULL!"
  | .divisionByZero => "#DIV/0!"
  | .wrongType => "#VALUE!"
  | .badReference => "#REF!"
  | .unknownName => "#NAME?"
  | .badNumber => "#NUM!"
  | .notAvailable => "#N/A"

/-- The rank of the error when errors are compared. -/
def code : CellError → Nat
  | .emptyIntersection => 0x00
  | .divisionByZero => 0x07
  | .wrongType => 0x0F
  | .badReference => 0x17
  | .unknownName => 0x1D
  | .badNumber => 0x24
  | .notAvailable => 0x2A

/-- The error with the given text, in any letter case. -/
def ofText? (text : String) : Option CellError :=
  all.find? fun error => error.text == Text.uppered text

theorem mem_all (error : CellError) : error ∈ all := by
  cases error <;> simp [all]

end CellError

end PhraseSheet
