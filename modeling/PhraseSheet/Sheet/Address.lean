import PhraseSheet.Decimal.Numeral
import PhraseSheet.Text.Blank

/-! Cell addresses in A1 notation. Column letters count in base 26 without a zero; `$` marks a row
or column that stays fixed when a formula is copied. -/

namespace PhraseSheet

abbrev rowLimit : Nat := 1048576

/-- The number of columns of a sheet; the last one is `XFD`. -/
abbrev columnLimit : Nat := 16384

/-- The greatest number that a written row may have before it is no number at all. -/
abbrev writtenRowLimit : Nat := 4294967295

/-- A cell of the sheet; rows and columns count from zero. -/
structure Address where
  row : Nat
  column : Nat
  rowFixed : Bool
  columnFixed : Bool
  row_lt : row < rowLimit
  column_lt : column < columnLimit
deriving DecidableEq

/-- Why a text is no cell address. -/
inductive AddressError where
  | emptyAddress
  | emptyColumn
  | noColumn (text : String)
  | badColumnLetter (letter : Char)
  | columnBeyondLast (letters : String)
  | noRow (text : String)
  | badRow (text : String)
  | rowZero (text : String)
  /-- The row, counted from zero, lies below the last one. -/
  | rowOutOfBounds (row : Nat)
deriving DecidableEq

namespace Address

/-- The letter with the given rank in the alphabet, counted from zero. -/
def letter (rank : Nat) : Char := Char.ofNat ('A'.toNat + rank)

/-- The rank of a letter in the alphabet, counted from one. -/
def letterRank (c : Char) : Nat := c.toUpper.toNat - 'A'.toNat + 1

/-- The letters of a count in base 26 with the digits one to twenty-six. -/
def countLetters : Nat → List Char
  | 0 => []
  | count + 1 => countLetters (count / 26) ++ [letter (count % 26)]
termination_by count => count
decreasing_by omega

/-- The letters of a column: A is the first column, AA the twenty-seventh. -/
def columnLetters (column : Nat) : List Char := countLetters (column + 1)

/-- A column counted from one that lies on the sheet, or zero before the first letter is read. -/
abbrev ColumnCount := { count : Nat // count ≤ columnLimit }

/-- Reads column letters behind those already counted; `whole` is the text they belong to. -/
def countFrom (whole : String) : ColumnCount → List Char → Except AddressError ColumnCount
  | count, [] => .ok count
  | count, c :: rest =>
    if !c.isAlpha then .error (.badColumnLetter c)
    else if within : count.val * 26 + letterRank c ≤ columnLimit then
      countFrom whole ⟨count.val * 26 + letterRank c, within⟩ rest
    else .error (.columnBeyondLast whole)

/-- The column that letters name, counted from zero. -/
def columnOfLetters (letters : List Char) :
    Except AddressError { column : Nat // column < columnLimit } :=
  if letters.isEmpty then .error .emptyColumn
  else do
    let count ← countFrom (String.ofList letters) ⟨0, Nat.zero_le _⟩ letters
    pure ⟨count.val - 1, by have := count.property; simp only [columnLimit] at *; omega⟩

/-- A written row: digits, with a plus sign allowed in front. -/
def rowNumber? (text : List Char) : Option Nat :=
  let digits := match text with
    | '+' :: rest => rest
    | _ => text
  (Decimal.number? digits).filter (· ≤ writtenRowLimit)

/-- A leading `$`, and what follows it. -/
def splitFixed : List Char → Bool × List Char
  | '$' :: rest => (true, rest)
  | text => (false, text)

/-- Reads an address in A1 notation, with white space allowed around it. -/
def parse (text : String) : Except AddressError Address := do
  let chars := Text.trim text.toList
  let shown := String.ofList chars
  if chars.isEmpty then throw .emptyAddress
  let (columnFixed, afterMark) := splitFixed chars
  let letters := afterMark.takeWhile Char.isAlpha
  if letters.isEmpty then throw (.noColumn shown)
  let column ← columnOfLetters letters
  let (rowFixed, digits) := splitFixed (afterMark.dropWhile Char.isAlpha)
  if digits.isEmpty then throw (.noRow shown)
  match rowNumber? digits with
  | none => throw (.badRow shown)
  | some 0 => throw (.rowZero shown)
  | some (row + 1) =>
    if row_lt : row < rowLimit then
      pure ⟨row, column.val, rowFixed, columnFixed, row_lt, column.property⟩
    else throw (.rowOutOfBounds row)

/-- The name of a cell without marks: column letters and row, counted from one. -/
def keyOf (row column : Nat) : String :=
  String.ofList (columnLetters column) ++ Nat.repr (row + 1)

/-- The name under which the cell's value is kept. -/
def key (address : Address) : String := keyOf address.row address.column

/-- The address in A1 notation, with its `$` marks. -/
def text (address : Address) : String :=
  (if address.columnFixed then "$" else "") ++ String.ofList (columnLetters address.column) ++
    (if address.rowFixed then "$" else "") ++ Nat.repr (address.row + 1)

def unfixed (address : Address) : Address :=
  { address with rowFixed := false, columnFixed := false }

end Address

namespace AddressError

private def inQuotes (reason text : String) : String := reason ++ " in '" ++ text ++ "'"

def message : AddressError → String
  | .emptyAddress => "Invalid cell address: empty address"
  | .emptyColumn => "Invalid cell address: empty column letters"
  | .noColumn text => inQuotes "Invalid cell address: no column letters" text
  | .badColumnLetter letter =>
    "Invalid cell address: invalid column letter '" ++ String.singleton letter ++ "'"
  | .columnBeyondLast letters =>
    "Invalid cell address: column '" ++ letters ++ "' is beyond " ++
      String.ofList (Address.columnLetters (columnLimit - 1))
  | .noRow text => inQuotes "Invalid cell address: no row number" text
  | .badRow text => inQuotes "Invalid cell address: invalid row number" text
  | .rowZero text => inQuotes "Invalid cell address: row number must be >= 1" text
  | .rowOutOfBounds row =>
    "Row index " ++ Nat.repr row ++ " out of bounds (max: " ++ Nat.repr (rowLimit - 1) ++ ")"

end AddressError

end PhraseSheet
