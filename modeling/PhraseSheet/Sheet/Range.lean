import PhraseSheet.Sheet.Address

namespace PhraseSheet

/-- A rectangle of cells, given by its top left and bottom right corners. -/
structure Range where
  first : Address
  last : Address
  row_le : first.row ≤ last.row
  column_le : first.column ≤ last.column
deriving DecidableEq

/-- Why a text is no range. -/
inductive RangeError where
  /-- A text without a colon is no address. -/
  | badCell (cause : AddressError)
  /-- One side of the colon is no address. -/
  | badCorner (text : String) (cause : AddressError)
deriving DecidableEq

namespace Range

/-- The rectangle with the two cells at opposite corners, whichever they are. -/
def spanning (one other : Address) : Range where
  first :=
    { row := min one.row other.row
      column := min one.column other.column
      rowFixed := false
      columnFixed := false
      row_lt := by have := one.row_lt; omega
      column_lt := by have := one.column_lt; omega }
  last :=
    { row := max one.row other.row
      column := max one.column other.column
      rowFixed := false
      columnFixed := false
      row_lt := by have := one.row_lt; have := other.row_lt; omega
      column_lt := by have := one.column_lt; have := other.column_lt; omega }
  row_le := by show min one.row other.row ≤ max one.row other.row; omega
  column_le := by show min one.column other.column ≤ max one.column other.column; omega

/-- Reads two addresses joined by a colon, or one address as the range of that cell. -/
def parse (text : String) : Except RangeError Range :=
  let chars := Text.trim text.toList
  let corner (part : List Char) : Except RangeError Address :=
    (Address.parse (String.ofList part)).mapError (.badCorner (String.ofList chars))
  match chars.dropWhile (· != ':') with
  | [] => do
    let address ← (Address.parse (String.ofList chars)).mapError .badCell
    pure (spanning address address)
  | _ :: afterColon => do
    let one ← corner (chars.takeWhile (· != ':'))
    let other ← corner afterColon
    pure (spanning one other)

def rowCount (range : Range) : Nat := range.last.row - range.first.row + 1

def columnCount (range : Range) : Nat := range.last.column - range.first.column + 1

def cellCount (range : Range) : Nat := range.rowCount * range.columnCount

/-- The range in A1 notation; a range of one cell is written as that cell. -/
def text (range : Range) : String :=
  if range.first = range.last then range.first.text
  else range.first.text ++ ":" ++ range.last.text

/-- The cell in the given row and column of the range. -/
def cell (range : Range) (row : Fin range.rowCount) (column : Fin range.columnCount) : Address where
  row := range.first.row + row.val
  column := range.first.column + column.val
  rowFixed := false
  columnFixed := false
  row_lt := by
    have := row.isLt; have := range.last.row_lt; have := range.row_le
    simp only [rowCount] at *; omega
  column_lt := by
    have := column.isLt; have := range.last.column_lt; have := range.column_le
    simp only [columnCount] at *; omega

/-- The cells of the range, row by row. -/
def cellRows (range : Range) : List (List Address) :=
  List.ofFn fun row => List.ofFn fun column => range.cell row column

/-- A walk over a range row by row, about to visit the given cell; below the last row it is over. -/
structure Walk where
  range : Range
  row : Nat
  column : Nat
  column_le : column ≤ range.last.column

/-- The walk that has visited nothing yet. -/
def walk (range : Range) : Walk := ⟨range, range.first.row, range.first.column, range.column_le⟩

namespace Walk

/-- The cell that is visited next, if any is left, and the walk after it. -/
def next (walk : Walk) : Option Address × Walk :=
  if row_le : walk.row ≤ walk.range.last.row then
    let visited : Address :=
      { row := walk.row
        column := walk.column
        rowFixed := false
        columnFixed := false
        row_lt := Nat.lt_of_le_of_lt row_le walk.range.last.row_lt
        column_lt := Nat.lt_of_le_of_lt walk.column_le walk.range.last.column_lt }
    if column_lt : walk.column + 1 ≤ walk.range.last.column then
      (some visited, ⟨walk.range, walk.row, walk.column + 1, column_lt⟩)
    else
      (some visited,
        ⟨walk.range, walk.row + 1, walk.range.first.column, walk.range.column_le⟩)
  else (none, walk)

/-- Skips that many cells and visits the one after them; a walk that ends on the way stays over. -/
def skip : Nat → Walk → Option Address × Walk
  | 0, walk => walk.next
  | count + 1, walk =>
    match walk.next with
    | (some _, rest) => skip count rest
    | (none, rest) => (none, rest)

/-- The number of cells that are still to be visited. -/
def left (walk : Walk) : Nat :=
  if walk.row ≤ walk.range.last.row then
    (walk.range.last.row - walk.row) * walk.range.columnCount +
      (walk.range.last.column - walk.column + 1)
  else 0

end Walk

end Range

namespace RangeError

def message : RangeError → String
  | .badCell cause => cause.message
  | .badCorner text cause => "Invalid cell range: '" ++ text ++ "': " ++ cause.message

end RangeError

end PhraseSheet
