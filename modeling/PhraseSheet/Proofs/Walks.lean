import Mathlib.Data.List.Basic
import PhraseSheet.Sheet.Range

/-! Walks over ranges. A walk stands for the list of the cells it has still to visit: a step takes
cells from its front, and the number of cells left is its length. The cells of a range come row by
row. -/

namespace PhraseSheet.Range

theorem columnCount_pos (range : Range) : 0 < range.columnCount := Nat.succ_pos _

namespace Walk

variable {walk rest : Walk} {range : Range} {cell : Address} {position count : Nat}

/-- A cell is visited where the walk stands, and the walk goes on to its right, or to the row below
if there is none. -/
theorem next_some (visits : walk.next = (some cell, rest)) :
    cell.row = walk.row ∧ cell.column = walk.column ∧
      cell.rowFixed = false ∧ cell.columnFixed = false ∧
      walk.row ≤ walk.range.last.row ∧ rest.range = walk.range ∧
      (walk.column < walk.range.last.column ∧ rest.row = walk.row ∧
          rest.column = walk.column + 1 ∨
        walk.column = walk.range.last.column ∧ rest.row = walk.row + 1 ∧
          rest.column = walk.range.first.column) := by
  have column_le := walk.column_le
  unfold next at visits
  split at visits
  · rename_i row_le
    split at visits
    · rename_i column_lt
      cases visits
      exact ⟨rfl, rfl, rfl, rfl, row_le, rfl, .inl ⟨column_lt, rfl, rfl⟩⟩
    · rename_i last
      cases visits
      exact ⟨rfl, rfl, rfl, rfl, row_le, rfl, .inr ⟨by omega, rfl, rfl⟩⟩
  · cases visits

/-- A walk that visits nothing is below the last row and stays there. -/
theorem next_none (ended : walk.next = (none, rest)) :
    walk.range.last.row < walk.row ∧ rest = walk := by
  unfold next at ended
  split at ended
  · split at ended <;> cases ended
  · rename_i below
    cases ended
    exact ⟨Nat.lt_of_not_le below, rfl⟩

theorem left_of_next_none (ended : walk.next = (none, rest)) : walk.left = 0 :=
  if_neg (Nat.not_le_of_lt (next_none ended).1)

/-- Each cell that is visited is one less to visit. -/
theorem left_of_next_some (visits : walk.next = (some cell, rest)) :
    walk.left = rest.left + 1 := by
  obtain ⟨_, _, _, _, row_le, same, within | wraps⟩ := next_some visits
  · obtain ⟨column_lt, row, column⟩ := within
    rw [left, left, same, row, column, if_pos row_le, if_pos row_le]
    omega
  · obtain ⟨last, row, column⟩ := wraps
    rw [left, left, same, row, column, if_pos row_le, last]
    split
    · rename_i more
      obtain ⟨below, split⟩ : ∃ below, walk.range.last.row - walk.row = below + 1 :=
        ⟨walk.range.last.row - walk.row - 1, by omega⟩
      have rows : walk.range.last.row - (walk.row + 1) = below := by omega
      rw [split, rows, Nat.succ_mul, columnCount]
      omega
    · have none : walk.range.last.row - walk.row = 0 := by omega
      simp [none]

/-- The cells that are visited from here on. -/
def cells (walk : Walk) : List Address :=
  match _visits : walk.next with
  | (none, _) => []
  | (some cell, rest) => cell :: rest.cells
termination_by walk.left
decreasing_by
  rw [left_of_next_some _visits]
  exact Nat.lt_succ_self _

theorem cells_of_next_none (ended : walk.next = (none, rest)) : walk.cells = [] := by
  rw [cells]
  split
  · rfl
  · rename_i visits
    cases visits.symm.trans ended

theorem cells_of_next_some (visits : walk.next = (some cell, rest)) :
    walk.cells = cell :: rest.cells := by
  rw [cells]
  split
  · rename_i ended
    cases ended.symm.trans visits
  · rename_i same
    cases same.symm.trans visits
    rfl

/-- A walk is over, or it visits a first cell and goes on. -/
theorem next_cases (walk : Walk) :
    (walk.next = (none, walk) ∧ walk.left = 0 ∧ walk.cells = []) ∨
      ∃ cell rest, walk.next = (some cell, rest) ∧ walk.left = rest.left + 1 ∧
        walk.cells = cell :: rest.cells := by
  cases outcome : walk.next with
  | mk visited rest =>
    cases visited with
    | none =>
      obtain rfl := (next_none outcome).2
      exact .inl ⟨rfl, left_of_next_none outcome, cells_of_next_none outcome⟩
    | some cell =>
      exact .inr ⟨cell, rest, rfl, left_of_next_some outcome, cells_of_next_some outcome⟩

theorem left_eq_length (walk : Walk) : walk.left = walk.cells.length := by
  induction remaining : walk.left generalizing walk with
  | zero =>
    rcases walk.next_cases with ⟨_, _, nothing⟩ | ⟨_, rest, _, more, _⟩
    · rw [nothing, List.length_nil]
    · cases remaining.symm.trans more
  | succ remaining' ih =>
    rcases walk.next_cases with ⟨_, nothing, _⟩ | ⟨_, rest, _, more, front⟩
    · cases remaining.symm.trans nothing
    · rw [front, List.length_cons, ← ih rest (Nat.succ.inj (more.symm.trans remaining))]

/-- A skip visits the cell behind those it passes over, if there is one. -/
theorem skip_eq (count : Nat) (walk : Walk) :
    (walk.skip count).1 = walk.cells[count]? ∧
      (walk.skip count).2.cells = walk.cells.drop (count + 1) := by
  induction count generalizing walk with
  | zero =>
    rw [skip]
    rcases walk.next_cases with ⟨ends, _, nothing⟩ | ⟨cell, rest, visits, _, front⟩
    · simp [ends, nothing]
    · simp [visits, front]
  | succ count ih =>
    rw [skip]
    rcases walk.next_cases with ⟨ends, _, nothing⟩ | ⟨cell, rest, visits, _, front⟩
    · simp [ends, nothing]
    · rw [visits, front, List.getElem?_cons_succ, List.drop_succ_cons]
      exact ih rest

/-- The walk is at the cell in that position of the range, counted row by row. -/
structure IsAt (walk : Walk) (range : Range) (position : Nat) : Prop where
  range_eq : walk.range = range
  row_eq : walk.row = range.first.row + position / range.columnCount
  column_eq : walk.column = range.first.column + position % range.columnCount

theorem isAt_walk (range : Range) : range.walk.IsAt range 0 where
  range_eq := rfl
  row_eq := by rw [Nat.zero_div]; rfl
  column_eq := by rw [Nat.zero_mod]; rfl

theorem IsAt.next (isAt : walk.IsAt range position) (visits : walk.next = (some cell, rest)) :
    rest.IsAt range (position + 1) := by
  obtain ⟨same, row, column⟩ := isAt
  obtain ⟨_, _, _, _, _, kept, move⟩ := next_some visits
  rw [same] at kept move
  have width := range.columnCount_pos
  have bound := Nat.mod_lt position width
  have whole := Nat.div_add_mod position range.columnCount
  have last : range.last.column + 1 = range.first.column + range.columnCount := by
    have := range.column_le
    rw [columnCount]
    omega
  generalize position / range.columnCount = above at *
  generalize position % range.columnCount = aside at *
  obtain ⟨before, row', column'⟩ | ⟨atLast, row', column'⟩ := move
  · have split := (Nat.div_mod_unique (a := position + 1) (c := aside + 1) (d := above) width).mpr
      ⟨by omega, by omega⟩
    exact ⟨kept, by rw [split.1]; omega, by rw [split.2]; omega⟩
  · have split := (Nat.div_mod_unique (a := position + 1) (c := 0) (d := above + 1) width).mpr
      ⟨by rw [Nat.mul_succ]; omega, width⟩
    exact ⟨kept, by rw [split.1]; omega, by rw [split.2]; omega⟩

theorem IsAt.cells (isAt : walk.IsAt range position) :
    ∀ cell ∈ walk.cells[count]?,
      cell.row = range.first.row + (position + count) / range.columnCount ∧
        cell.column = range.first.column + (position + count) % range.columnCount ∧
        cell.rowFixed = false ∧ cell.columnFixed = false := by
  intro cell member
  induction count generalizing walk position with
  | zero =>
    rcases walk.next_cases with ⟨_, _, nothing⟩ | ⟨own, rest, visits, _, front⟩
    · simp [nothing] at member
    · rw [front] at member
      cases member
      obtain ⟨row, column, rowFree, columnFree, _⟩ := next_some visits
      exact ⟨row.trans isAt.row_eq, column.trans isAt.column_eq, rowFree, columnFree⟩
  | succ count ih =>
    rcases walk.next_cases with ⟨_, _, nothing⟩ | ⟨own, rest, visits, _, front⟩
    · simp [nothing] at member
    · rw [front, List.getElem?_cons_succ] at member
      rw [Nat.add_comm count 1, ← Nat.add_assoc]
      exact ih (isAt.next visits) member

theorem length_cells_walk (range : Range) : range.walk.cells.length = range.cellCount := by
  have within : range.walk.row ≤ range.walk.range.last.row := range.row_le
  rw [← left_eq_length, left, if_pos within]
  change (range.last.row - range.first.row) * range.columnCount + range.columnCount = _
  rw [← Nat.succ_mul]
  rfl

/-- A step of a walk: to the next cell, or over so many cells to the one behind them. -/
inductive Step where
  | next
  | skip (count : Nat)

namespace Step

def passed : Step → Nat
  | .next => 0
  | .skip count => count

/-- The cell that the step visits, and the walk after it. -/
def apply (step : Step) (walk : Walk) : Option Address × Walk :=
  match step with
  | .next => walk.next
  | .skip count => walk.skip count

theorem apply_eq (step : Step) (walk : Walk) :
    (step.apply walk).1 = walk.cells[step.passed]? ∧
      (step.apply walk).2.cells = walk.cells.drop (step.passed + 1) := by
  cases step with
  | next => exact skip_eq 0 walk
  | skip count => exact skip_eq count walk

end Step

def run (walk : Walk) (steps : List Step) : Walk :=
  steps.foldl (fun reached step => (step.apply reached).2) walk

/-- The number of cells that the steps pass over or visit, as long as there are any. -/
def covered : List Step → Nat
  | [] => 0
  | step :: others => step.passed + 1 + covered others

theorem cells_run (walk : Walk) (steps : List Step) :
    (walk.run steps).cells = walk.cells.drop (covered steps) := by
  induction steps generalizing walk with
  | nil => rfl
  | cons step others ih =>
    have first : walk.run (step :: others) = (step.apply walk).2.run others := rfl
    rw [first, ih, (step.apply_eq walk).2, List.drop_drop, covered]

/-- After any steps from the start of a range, a step to a position within the range visits the
cell there, counted row by row, and leaves the cells behind it. A step beyond the last cell visits
nothing and leaves nothing, and neither does any later step. -/
theorem step_run (range : Range) (before : List Step) (step : Step) :
    let position := covered before + step.passed
    let outcome := step.apply (range.walk.run before)
    (position < range.cellCount →
      (∃ cell, outcome.1 = some cell ∧
        cell.row = range.first.row + position / range.columnCount ∧
        cell.column = range.first.column + position % range.columnCount ∧
        cell.rowFixed = false ∧ cell.columnFixed = false) ∧
      outcome.2.left = range.cellCount - position - 1) ∧
    (range.cellCount ≤ position →
      outcome.1 = none ∧ outcome.2.left = 0 ∧
      ∀ (later : List Step) (another : Step),
        (another.apply (outcome.2.run later)).1 = none ∧
          (another.apply (outcome.2.run later)).2.left = 0) := by
  intro position outcome
  obtain ⟨visited, leaves⟩ := step.apply_eq (range.walk.run before)
  rw [cells_run, List.getElem?_drop] at visited
  rw [cells_run, List.drop_drop, ← Nat.add_assoc] at leaves
  constructor
  · intro within
    have inside : position < range.walk.cells.length := by rwa [length_cells_walk]
    obtain ⟨row, column, rowFree, columnFree⟩ :=
      (isAt_walk range).cells _ (List.getElem?_eq_getElem inside)
    rw [Nat.zero_add] at row column
    refine ⟨⟨_, visited.trans (List.getElem?_eq_getElem inside), row, column, rowFree, columnFree⟩,
      ?_⟩
    rw [left_eq_length, leaves, List.length_drop, length_cells_walk]
    omega
  · intro beyond
    have outside : range.walk.cells.length ≤ position := by rwa [length_cells_walk]
    have nothing : outcome.2.cells = [] :=
      leaves.trans (List.drop_of_length_le (Nat.le_succ_of_le outside))
    refine ⟨visited.trans (List.getElem?_eq_none outside), ?_, ?_⟩
    · rw [left_eq_length, nothing, List.length_nil]
    · intro later another
      have ended : (outcome.2.run later).cells = [] := by rw [cells_run, nothing, List.drop_nil]
      obtain ⟨none, rest⟩ := another.apply_eq (outcome.2.run later)
      rw [ended] at none rest
      exact ⟨none, by rw [left_eq_length, rest, List.drop_nil, List.length_nil]⟩

end Walk

end PhraseSheet.Range
