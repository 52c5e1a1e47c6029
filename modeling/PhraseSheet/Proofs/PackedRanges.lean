import PhraseSheet.Proofs.Counting
import PhraseSheet.Proofs.MachineWords
import PhraseSheet.Proofs.Walks

/-! Addresses, ranges and walks packed into words: rows in 32 bits, columns in 16, and numbers of
cells in 64. Reading, counting and walking stay within the words, and say on them what they say on
numbers. -/

namespace PhraseSheet

/-- An address in words. -/
structure PackedAddress where
  row : BitVec 32
  column : BitVec 16
  rowFixed : Bool
  columnFixed : Bool
deriving DecidableEq

namespace Address

def packed (address : Address) : PackedAddress where
  row := BitVec.ofNatLT address.row (Nat.lt_trans address.row_lt (by decide))
  column := BitVec.ofNatLT address.column (Nat.lt_trans address.column_lt (by decide))
  rowFixed := address.rowFixed
  columnFixed := address.columnFixed

def packedCount (count : ColumnCount) : BitVec 32 :=
  BitVec.ofNatLT count.val (Nat.lt_of_le_of_lt count.property (by decide))

def packedColumn (column : { column : Nat // column < columnLimit }) : BitVec 16 :=
  BitVec.ofNatLT column.val (Nat.lt_trans column.property (by decide))

end Address

namespace PackedAddress

def letterRank? (c : Char) : Option (BitVec 32) := do
  let place ← MachineWord.minus? c.toUpper.val.toBitVec 'A'.val.toBitVec
  MachineWord.plus? place 1#32

/-- Reads column letters behind those already counted; a letter that leads beyond the last column is
counted before it is refused. -/
def countFrom (whole : String) (count : BitVec 32) :
    List Char → ExceptT AddressError Option (BitVec 32)
  | [] => pure count
  | c :: rest =>
    if !c.isAlpha then throw (.badColumnLetter c)
    else do
      let shifted ← MachineWord.times? count 26#32
      let rank ← letterRank? c
      let grown ← MachineWord.plus? shifted rank
      if grown.toNat ≤ columnLimit then countFrom whole grown rest
      else throw (.columnBeyondLast whole)

/-- The column that letters name; the bits that have no place in it are cut off. -/
def columnOfLetters (letters : List Char) : ExceptT AddressError Option (BitVec 16) :=
  if letters.isEmpty then throw .emptyColumn
  else do
    let count ← countFrom (String.ofList letters) 0#32 letters
    let column ← MachineWord.minus? count 1#32
    pure (column.setWidth 16)

/-- A written row; one that has no place in the word is no number. -/
def rowNumber? (text : List Char) : Option (BitVec 32) :=
  (Address.rowNumber? text).bind MachineWord.ofNat?

def parse (text : String) : ExceptT AddressError Option PackedAddress := do
  let chars := Text.trim text.toList
  let shown := String.ofList chars
  if chars.isEmpty then throw .emptyAddress
  let (columnFixed, afterMark) := Address.splitFixed chars
  let letters := afterMark.takeWhile Char.isAlpha
  if letters.isEmpty then throw (.noColumn shown)
  let column ← columnOfLetters letters
  let (rowFixed, digits) := Address.splitFixed (afterMark.dropWhile Char.isAlpha)
  if digits.isEmpty then throw (.noRow shown)
  match rowNumber? digits with
  | none => throw (.badRow shown)
  | some number =>
    if number = 0#32 then throw (.rowZero shown)
    else
      let row ← MachineWord.minus? number 1#32
      if row.toNat < rowLimit then pure ⟨row, column, rowFixed, columnFixed⟩
      else throw (.rowOutOfBounds row.toNat)

theorem toNat_A_le {c : Char} (isAlpha : c.isAlpha) : 'A'.toNat ≤ c.toUpper.toNat := by
  have each : ∀ code < 128, (Char.ofNat code).isAlpha →
      'A'.toNat ≤ (Char.ofNat code).toUpper.toNat := by
    decide
  exact of_ascii (P := fun c => c.isAlpha → 'A'.toNat ≤ c.toUpper.toNat) each
    (toNat_lt_of_isAlpha isAlpha) isAlpha

theorem letterRank?_eq {c : Char} (isAlpha : c.isAlpha) :
    ∃ rank, letterRank? c = some rank ∧ rank.toNat = Address.letterRank c := by
  have within : Address.letterRank c < 2 ^ 32 :=
    Nat.lt_of_le_of_lt (Address.letterRank_bounds isAlpha).2 (by decide)
  refine ⟨BitVec.ofNatLT (Address.letterRank c) within, ?_, rfl⟩
  rw [letterRank?, MachineWord.minus?_eq_some (toNat_A_le isAlpha)]
  exact MachineWord.plus?_eq_some within

/-- Before each letter the count is on the sheet, which leaves room for one letter more. -/
theorem countFrom_refines (whole : String) (count : Address.ColumnCount) (letters : List Char) :
    Refines (countFrom whole (Address.packedCount count) letters)
      (Address.countFrom whole count letters) Address.packedCount := by
  induction letters generalizing count with
  | nil => exact .pure count
  | cons c rest ih =>
    rw [countFrom, Address.countFrom]
    cases isAlpha : c.isAlpha with
    | false => rfl
    | true =>
      obtain ⟨rank, ranked, value⟩ := letterRank?_eq isAlpha
      have atMost := (Address.letterRank_bounds isAlpha).2
      have within := count.property
      simp only [columnLimit] at within
      have shifted : count.val * 26 < 2 ^ 32 := by omega
      have grown : count.val * 26 + rank.toNat < 2 ^ 32 := by omega
      rw [← value]
      exact .step (MachineWord.times?_eq_some shifted) (.step ranked
        (.step (MachineWord.plus?_eq_some grown) (.bounded fun fits => ih ⟨_, fits⟩)))

theorem columnOfLetters_refines (letters : List Char) :
    Refines (columnOfLetters letters) (Address.columnOfLetters letters) Address.packedColumn := by
  unfold columnOfLetters Address.columnOfLetters
  split
  · rfl
  · rename_i any
    refine .bind (countFrom_refines _ ⟨0, Nat.zero_le _⟩ letters) fun count counted => ?_
    -- a letter counts at least one, so that there is one to take away
    obtain ⟨isAlpha, total⟩ := Address.countFrom_eq_ok_iff.mp counted
    have positive : 1 ≤ count.val :=
      total ▸ Address.letterCount_pos (by simpa using any) isAlpha
    have within := count.property
    simp only [columnLimit] at within
    have fits : count.val - 1 < 2 ^ 16 := by omega
    refine .step (MachineWord.minus?_eq_some positive) ?_
    rw [MachineWord.setWidth_eq fits]
    rfl

theorem rowNumber?_eq {text : List Char} {number : Nat}
    (written : Address.rowNumber? text = some number) :
    ∃ fits : number < 2 ^ 32, rowNumber? text = some (BitVec.ofNatLT number fits) := by
  have atMost : number ≤ writtenRowLimit :=
    of_decide_eq_true (Option.filter_eq_some_iff.mp written).2
  have fits : number < 2 ^ 32 := Nat.lt_of_le_of_lt atMost (by decide)
  refine ⟨fits, ?_⟩
  rw [rowNumber?, written]
  exact dif_pos fits

theorem parse_refines (text : String) :
    Refines (parse text) (Address.parse text) Address.packed := by
  unfold parse Address.parse
  dsimp only
  refine .check fun _ => ?_
  rcases Address.splitFixed (Text.trim text.toList) with ⟨columnFixed, afterMark⟩
  refine .check fun _ => .bind (columnOfLetters_refines _) fun column _ => ?_
  rcases Address.splitFixed (afterMark.dropWhile Char.isAlpha) with ⟨rowFixed, digits⟩
  refine .check fun _ => ?_
  dsimp only
  cases written : Address.rowNumber? digits with
  | none =>
    rw [rowNumber?, written]
    rfl
  | some number =>
    obtain ⟨fits, packed⟩ := rowNumber?_eq written
    rw [packed]
    cases number with
    | zero => rfl
    | succ row =>
      have positive : BitVec.ofNatLT (row + 1) fits ≠ 0#32 :=
        fun zero => Nat.succ_ne_zero row (congrArg BitVec.toNat zero)
      dsimp only
      rw [if_neg positive]
      exact .step (MachineWord.minus?_eq_some (Nat.le_add_left 1 row)) (.bounded fun _ => .pure _)

end PackedAddress

/-- A range in words. -/
structure PackedRange where
  first : PackedAddress
  last : PackedAddress
deriving DecidableEq

def Range.packed (range : Range) : PackedRange := ⟨range.first.packed, range.last.packed⟩

namespace PackedRange

def spanning (one other : PackedAddress) : PackedRange where
  first :=
    { row := MachineWord.lesser one.row other.row
      column := MachineWord.lesser one.column other.column
      rowFixed := false
      columnFixed := false }
  last :=
    { row := MachineWord.greater one.row other.row
      column := MachineWord.greater one.column other.column
      rowFixed := false
      columnFixed := false }

def parse (text : String) : ExceptT RangeError Option PackedRange :=
  let chars := Text.trim text.toList
  let corner (part : List Char) : ExceptT RangeError Option PackedAddress :=
    (PackedAddress.parse (String.ofList part)).adapt (.badCorner (String.ofList chars))
  match chars.dropWhile (· != ':') with
  | [] => do
    let address ← (PackedAddress.parse (String.ofList chars)).adapt .badCell
    pure (spanning address address)
  | _ :: afterColon => do
    let one ← corner (chars.takeWhile (· != ':'))
    let other ← corner afterColon
    pure (spanning one other)

def rowCount? (range : PackedRange) : Option (BitVec 32) := do
  let rows ← MachineWord.minus? range.last.row range.first.row
  MachineWord.plus? rows 1#32

def columnCount? (range : PackedRange) : Option (BitVec 16) := do
  let columns ← MachineWord.minus? range.last.column range.first.column
  MachineWord.plus? columns 1#16

def cellCount? (range : PackedRange) : Option (BitVec 64) := do
  let rows ← range.rowCount?
  let columns ← range.columnCount?
  MachineWord.times? (rows.setWidth 64) (columns.setWidth 64)

theorem packed_spanning (one other : Address) :
    (Range.spanning one other).packed = spanning one.packed other.packed := by
  simp only [Range.packed, Address.packed, spanning, PackedRange.mk.injEq, PackedAddress.mk.injEq,
    ← BitVec.toNat_inj, MachineWord.toNat_lesser, MachineWord.toNat_greater]
  exact ⟨⟨rfl, rfl, rfl, rfl⟩, rfl, rfl, rfl, rfl⟩

theorem parse_refines (text : String) : Refines (parse text) (Range.parse text) Range.packed := by
  have span : ∀ one other : Address, Refines
      (pure (spanning one.packed other.packed) : ExceptT RangeError Option PackedRange)
      (pure (Range.spanning one other)) Range.packed := by
    intro one other
    rw [← packed_spanning]
    exact .pure _
  unfold parse Range.parse
  dsimp only
  cases (Text.trim text.toList).dropWhile (· != ':') with
  | nil =>
    exact .bind (.mapError (PackedAddress.parse_refines _)) fun address _ => span address address
  | cons colon afterColon =>
    exact .bind (.mapError (PackedAddress.parse_refines _)) fun one _ =>
      .bind (.mapError (PackedAddress.parse_refines _)) fun other _ => span one other

theorem rowCount_gives (range : Range) :
    MachineWord.Gives range.packed.rowCount? range.rowCount := by
  have last := range.last.row_lt
  simp only [rowLimit] at last
  have fits : range.last.row - range.first.row + 1 < 2 ^ 32 := by omega
  exact .bind (.minus range.row_le rfl rfl) fun rows value => .plus fits value rfl

theorem columnCount_gives (range : Range) :
    MachineWord.Gives range.packed.columnCount? range.columnCount := by
  have last := range.last.column_lt
  simp only [columnLimit] at last
  have fits : range.last.column - range.first.column + 1 < 2 ^ 16 := by omega
  exact .bind (.minus range.column_le rfl rfl) fun columns value => .plus fits value rfl

theorem cellCount_gives (range : Range) :
    MachineWord.Gives range.packed.cellCount? range.cellCount := by
  refine .bind (rowCount_gives range) fun rows rowCount => ?_
  refine .bind (columnCount_gives range) fun columns columnCount => ?_
  have fits : range.rowCount * range.columnCount < 2 ^ 64 := by
    rw [← rowCount, ← columnCount]
    exact Nat.lt_trans (MachineWord.product_lt rows columns) (by decide)
  exact .times fits (MachineWord.toNat_widened (by decide) rowCount)
    (MachineWord.toNat_widened (by decide) columnCount)

end PackedRange

/-- A walk in words. -/
structure PackedWalk where
  range : PackedRange
  row : BitVec 32
  column : BitVec 16
deriving DecidableEq

def PackedRange.walk (range : PackedRange) : PackedWalk :=
  ⟨range, range.first.row, range.first.column⟩

namespace PackedWalk

def next? (walk : PackedWalk) : Option (Option PackedAddress × PackedWalk) :=
  if walk.row.toNat ≤ walk.range.last.row.toNat then do
    let visited : PackedAddress := ⟨walk.row, walk.column, false, false⟩
    let column ← MachineWord.plus? walk.column 1#16
    if column.toNat ≤ walk.range.last.column.toNat then
      some (some visited, ⟨walk.range, walk.row, column⟩)
    else
      let row ← MachineWord.plus? walk.row 1#32
      some (some visited, ⟨walk.range, row, walk.range.first.column⟩)
  else some (none, walk)

def left? (walk : PackedWalk) : Option (BitVec 64) :=
  if walk.row.toNat ≤ walk.range.last.row.toNat then do
    let width ← walk.range.columnCount?
    let fullRows ← MachineWord.minus? walk.range.last.row walk.row
    let aside ← MachineWord.minus? walk.range.last.column walk.column
    let inRow ← MachineWord.plus? (aside.setWidth 64) 1#64
    let inFull ← MachineWord.times? (fullRows.setWidth 64) (width.setWidth 64)
    MachineWord.plus? inFull inRow
  else some 0#64

/-- The walk after so many steps. -/
def run? (walk : PackedWalk) : Nat → Option PackedWalk
  | 0 => some walk
  | steps + 1 => do
    let (_, rest) ← walk.next?
    rest.run? steps

end PackedWalk

namespace Range.Walk

variable {walk : Walk}

/-- The walk has a place in words: it is at most one row below the sheet. -/
def packed (walk : Walk) (inside : walk.row ≤ rowLimit) : PackedWalk where
  range := walk.range.packed
  row := BitVec.ofNatLT walk.row (Nat.lt_of_le_of_lt inside (by decide))
  column := BitVec.ofNatLT walk.column
    (Nat.lt_of_le_of_lt walk.column_le (Nat.lt_trans walk.range.last.column_lt (by decide)))

/-- A step adds one to the column or to the row only while the walk is not beyond the last one. -/
theorem next?_packed (inside : walk.row ≤ rowLimit) :
    ∃ stays : walk.next.2.row ≤ rowLimit, (walk.packed inside).next? =
      some (walk.next.1.map Address.packed, walk.next.2.packed stays) := by
  have lastColumn := walk.range.last.column_lt
  have column_le := walk.column_le
  simp only [columnLimit] at lastColumn
  have aside : walk.column + 1 < 2 ^ 16 := by omega
  unfold PackedWalk.next? next
  by_cases row_le : walk.row ≤ walk.range.last.row
  · have onward : walk.row + 1 ≤ rowLimit :=
      Nat.succ_le_of_lt (Nat.lt_of_le_of_lt row_le walk.range.last.row_lt)
    have below : walk.row + 1 < 2 ^ 32 := Nat.lt_of_le_of_lt onward (by decide)
    have more : (walk.packed inside).row.toNat ≤ (walk.packed inside).range.last.row.toNat := row_le
    have column := MachineWord.plus?_eq_some (x := (walk.packed inside).column) (y := 1#16) aside
    have row := MachineWord.plus?_eq_some (x := (walk.packed inside).row) (y := 1#32) below
    rw [dif_pos row_le, if_pos more, column]
    by_cases column_lt : walk.column + 1 ≤ walk.range.last.column
    · rw [dif_pos column_lt]
      exact ⟨inside, if_pos column_lt⟩
    · rw [dif_neg column_lt]
      refine ⟨onward, (if_neg column_lt).trans ?_⟩
      rw [row]
      rfl
  · rw [dif_neg row_le]
    exact ⟨inside, if_neg row_le⟩

theorem run?_packed (steps : Nat) (inside : walk.row ≤ rowLimit) :
    ∃ stays : (walk.run (List.replicate steps .next)).row ≤ rowLimit,
      (walk.packed inside).run? steps =
        some ((walk.run (List.replicate steps .next)).packed stays) := by
  induction steps generalizing walk with
  | zero => exact ⟨inside, rfl⟩
  | succ steps ih =>
    obtain ⟨stays, step⟩ := next?_packed inside
    obtain ⟨remains, later⟩ := ih stays
    refine ⟨remains, ?_⟩
    rw [PackedWalk.run?, step]
    exact later

theorem left_gives (inside : walk.row ≤ rowLimit) :
    MachineWord.Gives (walk.packed inside).left? walk.left := by
  unfold PackedWalk.left? left
  by_cases row_le : walk.row ≤ walk.range.last.row
  · have more : (walk.packed inside).row.toNat ≤ (walk.packed inside).range.last.row.toNat := row_le
    rw [if_pos row_le, if_pos more]
    refine .bind (PackedRange.columnCount_gives walk.range) fun width widthValue => ?_
    refine .bind (.minus row_le rfl rfl) fun rows rowsValue => ?_
    refine .bind (.minus walk.column_le rfl rfl) fun aside asideValue => ?_
    have inRow : walk.range.last.column - walk.column < 2 ^ 16 := asideValue ▸ aside.isLt
    have inFull : (walk.range.last.row - walk.row) * walk.range.columnCount < 2 ^ (32 + 16) :=
      rowsValue ▸ widthValue ▸ MachineWord.product_lt rows width
    refine .bind (.plus (b := 1) (by omega) (MachineWord.toNat_widened (by decide) asideValue) rfl)
      fun one oneValue => ?_
    refine .bind (.times (by omega) (MachineWord.toNat_widened (by decide) rowsValue)
      (MachineWord.toNat_widened (by decide) widthValue)) fun full fullValue => ?_
    exact .plus (by omega) fullValue oneValue
  · have below : ¬ (walk.packed inside).row.toNat ≤ (walk.packed inside).range.last.row.toNat :=
      row_le
    rw [if_neg row_le, if_neg below]
    exact ⟨_, rfl, rfl⟩

end Range.Walk

/-- Whatever is read, however many steps a walk takes: each sum, difference and product has a place
in its word, and what is read, counted and visited is what the numbers say. -/
theorem Range.words_suffice :
    (∀ letters, Refines (PackedAddress.columnOfLetters letters) (Address.columnOfLetters letters)
      Address.packedColumn) ∧
    (∀ text, Refines (PackedAddress.parse text) (Address.parse text) Address.packed) ∧
    (∀ text, Refines (PackedRange.parse text) (Range.parse text) Range.packed) ∧
    ∀ range : Range,
      MachineWord.Gives range.packed.rowCount? range.rowCount ∧
      MachineWord.Gives range.packed.columnCount? range.columnCount ∧
      MachineWord.Gives range.packed.cellCount? range.cellCount ∧
      ∀ steps,
        let reached := range.walk.run (List.replicate steps .next)
        ∃ walk, range.packed.walk.run? steps = some walk ∧
          (∃ rest, walk.next? = some (reached.next.1.map Address.packed, rest)) ∧
          MachineWord.Gives walk.left? reached.left := by
  refine ⟨PackedAddress.columnOfLetters_refines, PackedAddress.parse_refines,
    PackedRange.parse_refines, fun range => ⟨PackedRange.rowCount_gives range,
      PackedRange.columnCount_gives range, PackedRange.cellCount_gives range, fun steps => ?_⟩⟩
  have inside : range.walk.row ≤ rowLimit := Nat.le_of_lt range.first.row_lt
  obtain ⟨stays, ran⟩ := Walk.run?_packed steps inside
  obtain ⟨_, step⟩ := Walk.next?_packed stays
  exact ⟨_, ran, ⟨_, step⟩, Walk.left_gives stays⟩

end PhraseSheet
