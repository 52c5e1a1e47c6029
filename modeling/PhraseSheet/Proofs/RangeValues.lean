import Mathlib.Data.List.OfFn
import PhraseSheet.Proofs.Exchange
import PhraseSheet.Proofs.RoundTrip
import PhraseSheet.Proofs.Walks

namespace PhraseSheet

open Grammar

section

variable {α : Type u} {width : Nat} {rows : List (List α)}

theorem toChunks_go_fill (fill others : List α) (row : Array α) (done : Array (List α))
    (fits : row.size + fill.length ≤ width) :
    List.toChunks.go width (fill ++ others) row done =
      List.toChunks.go width others (row ++ fill) done := by
  induction fill generalizing row with
  | nil => simp
  | cons x more ih =>
    rw [List.length_cons] at fits
    have notFull : (row.size == width) = false := by
      rw [beq_eq_false_iff_ne]
      omega
    rw [List.cons_append, List.toChunks.go, notFull, if_neg Bool.false_ne_true,
      ih (row.push x) (by rw [Array.size_push]; omega)]
    simp

theorem toChunks_go_flatten (pos : 0 < width) (even : ∀ row ∈ rows, row.length = width)
    (full : Array α) (done : Array (List α)) (isFull : full.size = width) :
    List.toChunks.go width rows.flatten full done = done.toList ++ full.toList :: rows := by
  induction rows generalizing full done with
  | nil => simp [List.toChunks.go]
  | cons row rest ih =>
    obtain ⟨same, others⟩ := List.forall_mem_cons.mp even
    obtain ⟨x, more, rfl⟩ := List.exists_cons_of_length_pos (same ▸ pos)
    rw [List.length_cons] at same
    rw [List.flatten_cons, List.cons_append, List.toChunks.go, isFull, beq_self_eq_true, if_pos rfl,
      toChunks_go_fill more _ _ _ (by simp [← same, Nat.add_comm]),
      ih others _ _ (by simp [← same])]
    simp

/-- Rows of one width that stand side by side are got back by cutting at this width. -/
theorem toChunks_flatten (pos : 0 < width) (even : ∀ row ∈ rows, row.length = width) :
    rows.flatten.toChunks width = rows := by
  cases rows with
  | nil => rfl
  | cons row rest =>
    obtain ⟨same, others⟩ := List.forall_mem_cons.mp even
    obtain ⟨x, more, rfl⟩ := List.exists_cons_of_length_pos (same ▸ pos)
    rw [List.length_cons] at same
    rw [List.flatten_cons, List.cons_append, ← same, List.toChunks, same,
      toChunks_go_fill more _ _ _ (by simp [← same, Nat.add_comm]),
      toChunks_go_flatten pos others _ _ (by simp [← same])]
    · simp
    · simp

end

namespace Range

/-- Side by side, the rows of a range are the cells that a walk visits. -/
theorem flatten_cellRows (range : Range) : range.cellRows.flatten = range.walk.cells := by
  have width := range.columnCount_pos
  let cellAt (position : Fin (range.rowCount * range.columnCount)) : Address :=
    range.cell ⟨position / range.columnCount, (Nat.div_lt_iff_lt_mul width).mpr position.isLt⟩
      ⟨position % range.columnCount, Nat.mod_lt _ width⟩
  have joined : range.cellRows.flatten = List.ofFn cellAt := by
    rw [List.ofFn_mul, cellRows]
    congr 3
    funext row
    congr 1
    funext column
    have split := (Nat.div_mod_unique (a := row * range.columnCount + column) (c := column.val)
      (d := row.val) width).mpr ⟨by rw [Nat.mul_comm]; omega, column.isLt⟩
    simp only [cellAt, cell, split.1, split.2]
  rw [joined]
  apply List.ext_getElem
  · rw [List.length_ofFn, Walk.length_cells_walk, cellCount]
  · intro position inRows inWalk
    obtain ⟨row, column, rowFree, columnFree⟩ :=
      (Walk.isAt_walk range).cells _ (List.getElem?_eq_getElem inWalk)
    rw [Nat.zero_add] at row column
    rw [List.getElem_ofFn]
    generalize range.walk.cells[position] = visited at *
    cases visited
    cases row; cases column; cases rowFree; cases columnFree
    rfl

end Range

/-- The other two cells stand at opposite corners of the same rectangle. -/
def Address.Opposite (one other third fourth : Address) : Prop :=
  (third.row = one.row ∧ fourth.row = other.row ∨
      third.row = other.row ∧ fourth.row = one.row) ∧
    (third.column = one.column ∧ fourth.column = other.column ∨
      third.column = other.column ∧ fourth.column = one.column)

theorem Address.Opposite.spanning_eq {one other third fourth : Address}
    (opposite : Opposite one other third fourth) :
    Range.spanning third fourth = Range.spanning one other := by
  obtain ⟨⟨row, row'⟩ | ⟨row, row'⟩, ⟨column, column'⟩ | ⟨column, column'⟩⟩ := opposite <;>
    simp [Range.spanning, row, row', column, column', Nat.min_comm, Nat.max_comm]

namespace Reference

theorem cuts (reference : Reference) : Cuts reference.text.toList [.cell reference.address] := by
  obtain ⟨c, more, same, starts, goesOn, _⟩ := Token.name_of_looksLikeCell reference.isCell
  have spells : SpellsName reference.text.toList := by
    rw [same]
    exact .mk starts goesOn
  refine ⟨?_, spells.endsVisibly⟩
  intro rest stopped
  rw [spells.scan stopped.apart, nameOf_stopped stopped, reference.nameOf_text rfl]
  rfl

def ofAddress (address : Address) : Reference where
  text := address.text
  address := address
  isCell := by
    rw [address.toList_text]
    exact address.spelling.looksLikeCell_chars rfl
  named := address.parse_text

/-- Two cells with a colon between them are read as the range that they span. -/
theorem parse_range (one other : Reference) :
    Expr.parse ("=" ++ one.text ++ ":" ++ other.text) =
      .ok (.range (.spanning one.address other.address)) := by
  have written : "=" ++ one.text ++ ":" ++ other.text =
      String.ofList ('=' :: (one.text.toList ++ ':' :: other.text.toList)) := by
    rw [← String.toList_inj]
    simp
  have range : Derives .range ([.cell one.address] ++ .colon :: [.cell other.address])
      (.range (.spanning one.address other.address)) 0 :=
    .corners (.cell one.address) (.cell other.address)
  have operand := Derives.percents 0 range
  rw [List.replicate_zero, List.append_nil] at operand
  have colon : Token.sign? ':' = some .colon := rfl
  have cuts := one.cuts.join colon (by decide) other.cuts
  rw [written]
  exact cuts.parse (.part (.part (.part (.part (.base operand))))) (by decide)

end Reference

namespace Context

/-- The value of a range of a readable size is a table with one value for each cell. -/
theorem rangeValue_rows (context : Context) (range : Range) :
    let value := fun cell => (context.cell? cell).getD .empty
    let rows := range.cellRows.map fun row => row.map value
    rows.length = range.rowCount ∧ (∀ row ∈ rows, row.length = range.columnCount) ∧
      (∀ i j, i < range.rowCount → j < range.columnCount → ∃ cell : Address,
        cell.row = range.first.row + i ∧ cell.column = range.first.column + j ∧
          rows[i]?.bind (·[j]?) = some (value cell)) ∧
      rows = (range.walk.cells.map value).toChunks range.columnCount := by
  intro value rows
  have even : ∀ row ∈ rows, row.length = range.columnCount := by simp [rows, Range.cellRows]
  refine ⟨by simp [rows, Range.cellRows], even, ?_, ?_⟩
  · intro i j inRows inColumns
    refine ⟨range.cell ⟨i, inRows⟩ ⟨j, inColumns⟩, rfl, rfl, ?_⟩
    simp [rows, Range.cellRows, inRows, inColumns]
  · rw [← Range.flatten_cellRows, List.map_flatten]
    exact (toChunks_flatten range.columnCount_pos even).symm

/-- A formula that names a rectangle by two opposite corners, whichever they are and however they
are marked and spelled, gives the table of its values: those of the cells that a walk visits, cut
into rows. Cells without a value are empty. Too large a rectangle is a bad reference. -/
theorem hasValue_corners (context : Context) (one other : Address) :
    let range := Range.spanning one other
    ∃ result : Value,
      HasValue context ("=" ++ one.text ++ ":" ++ other.text) result ∧
      (∀ third fourth : Reference, Address.Opposite one other third.address fourth.address →
        HasValue context ("=" ++ third.text ++ ":" ++ fourth.text) result) ∧
      (range.cellCount ≤ rangeCellLimit → ∃ rows, result = .array rows ∧
        rows.length = range.rowCount ∧ (∀ row ∈ rows, row.length = range.columnCount) ∧
        (∀ i j, i < range.rowCount → j < range.columnCount → ∃ cell : Address,
          cell.row = min one.row other.row + i ∧ cell.column = min one.column other.column + j ∧
            rows[i]?.bind (·[j]?) = some ((context.cell? cell).getD .empty)) ∧
        rows = (range.walk.cells.map fun cell => (context.cell? cell).getD .empty).toChunks
          range.columnCount) ∧
      (rangeCellLimit < range.cellCount → result = .error .badReference) := by
  intro range
  have named : ∀ third fourth : Reference,
      Address.Opposite one other third.address fourth.address →
      HasValue context ("=" ++ third.text ++ ":" ++ fourth.text) (context.rangeValue range) := by
    intro third fourth opposite
    refine ⟨_, third.parse_range fourth, ?_⟩
    rw [opposite.spanning_eq]
    rfl
  have itself : Address.Opposite one other one other := ⟨.inl ⟨rfl, rfl⟩, .inl ⟨rfl, rfl⟩⟩
  refine ⟨context.rangeValue range, named (.ofAddress one) (.ofAddress other) itself, named, ?_, ?_⟩
  · intro small
    exact ⟨_, if_neg (Nat.not_lt_of_le small), context.rangeValue_rows range⟩
  · exact fun large => if_pos large

end Context

end PhraseSheet
