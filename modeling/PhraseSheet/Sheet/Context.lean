import PhraseSheet.Sheet.Labelled
import PhraseSheet.Sheet.Range
import PhraseSheet.Sheet.Value

namespace PhraseSheet

/-- Named values and cell values; a cell's value stands under the key of its address. -/
abbrev Context := Labelled Value

/-- Ranges of more cells are not read. -/
def rangeCellLimit : Nat := 100000

namespace Context

/-- Writes the value of the cell that the text names. -/
def putCell (context : Context) (cell : String) (value : Value) : Except AddressError Context := do
  let address ← Address.parse cell
  pure (context.put address.key value)

/-- The smaller of a name and the smallest one so far. -/
def smaller (least? : Option String) (name : String) : Option String :=
  match least? with
  | none => some name
  | some least => some (if name < least then name else least)

/-- The smallest name that equals the given one up to the case of the ASCII letters. -/
def alias? (context : Context) (name : String) : Option String :=
  (context.names.filter (Text.sameIgnoringCase · name)).foldl smaller none

/-- The value under the name, or under the smallest name that differs only in letter case. -/
def get? (context : Context) (name : String) : Option Value :=
  match context.find? name with
  | some value => some value
  | none => (context.alias? name).bind context.find?

def contains (context : Context) (name : String) : Bool := (context.get? name).isSome

def cell? (context : Context) (address : Address) : Option Value := context.find? address.key

/-- The values of a range, row by row; cells without a value are empty. -/
def rangeValue (context : Context) (range : Range) : Value :=
  if range.cellCount > rangeCellLimit then .error .badReference
  else .array (range.cellRows.map fun row => row.map fun address =>
    (context.cell? address).getD .empty)

end Context

end PhraseSheet
