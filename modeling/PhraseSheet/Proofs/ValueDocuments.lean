import PhraseSheet.Proofs.Aggregates
import PhraseSheet.Sheet.Document

/-! Values that are written to a document and read back. A document has no mark for the kind of a
value, so the kind is told from the form, at each level of nesting anew: an error leaf comes back
as a text, and a number without a written form as no value. Every other leaf stays what it was. -/

namespace PhraseSheet.Value

mutual

/-- The value with other values at its leaves. -/
def mapLeaves (replace : Value → Value) : Value → Value
  | .array rows => .array (mapLeavesOfRows replace rows)
  | leaf => replace leaf

def mapLeavesOfRow (replace : Value → Value) : List Value → List Value
  | [] => []
  | cell :: rest => mapLeaves replace cell :: mapLeavesOfRow replace rest

def mapLeavesOfRows (replace : Value → Value) : List (List Value) → List (List Value)
  | [] => []
  | row :: rest => mapLeavesOfRow replace row :: mapLeavesOfRows replace rest

end

variable {replace other : Value → Value}

mutual

theorem mapLeaves_eq_iff : ∀ value : Value,
    value.mapLeaves replace = value.mapLeaves other ↔
      ∀ leaf ∈ value.leaves, replace leaf = other leaf
  | .array rows => by
    rw [mapLeaves, mapLeaves, leaves, array.injEq]
    exact mapLeavesOfRows_eq_iff rows
  | .number _ | .boolean _ | .text _ | .error _ | .empty => by simp [mapLeaves, leaves]

theorem mapLeavesOfRow_eq_iff : ∀ row : List Value,
    mapLeavesOfRow replace row = mapLeavesOfRow other row ↔
      ∀ leaf ∈ leavesOfRow row, replace leaf = other leaf
  | [] => by simp [mapLeavesOfRow, leavesOfRow]
  | cell :: rest => by
    rw [mapLeavesOfRow, mapLeavesOfRow, leavesOfRow, List.cons.injEq, List.forall_mem_append,
      mapLeaves_eq_iff cell, mapLeavesOfRow_eq_iff rest]

theorem mapLeavesOfRows_eq_iff : ∀ rows : List (List Value),
    mapLeavesOfRows replace rows = mapLeavesOfRows other rows ↔
      ∀ leaf ∈ leavesOfRows rows, replace leaf = other leaf
  | [] => by simp [mapLeavesOfRows, leavesOfRows]
  | row :: rest => by
    rw [mapLeavesOfRows, mapLeavesOfRows, leavesOfRows, List.cons.injEq, List.forall_mem_append,
      mapLeavesOfRow_eq_iff row, mapLeavesOfRows_eq_iff rest]

end

mutual

theorem mapLeaves_id : ∀ value : Value, value.mapLeaves id = value
  | .array rows => by rw [mapLeaves, mapLeavesOfRows_id rows]
  | .number _ | .boolean _ | .text _ | .error _ | .empty => rfl

theorem mapLeavesOfRow_id : ∀ row : List Value, mapLeavesOfRow id row = row
  | [] => rfl
  | cell :: rest => by rw [mapLeavesOfRow, mapLeaves_id cell, mapLeavesOfRow_id rest]

theorem mapLeavesOfRows_id : ∀ rows : List (List Value), mapLeavesOfRows id rows = rows
  | [] => rfl
  | row :: rest => by rw [mapLeavesOfRows, mapLeavesOfRow_id row, mapLeavesOfRows_id rest]

end

/-- The kinds of values that are read. -/
inductive Kind where
  | number
  | boolean
  | text
  | array
  | empty
deriving DecidableEq

namespace Kind

/-- The order in which the kinds are tried. -/
def inOrder : List Kind := [number, boolean, text, array, empty]

/-- The value of that kind that the document holds. -/
def read? : Kind → Json → Option Value
  | .number, .number value => some (.number value.toFloat)
  | .boolean, .bool truth => some (.boolean truth)
  | .text, .text content => some (.text content)
  | .array, .list items => (rowsOfJson? items).map .array
  | .empty, .null => some .empty
  | _, _ => none

def ofForm? : Json → Option Kind
  | .number _ => some number
  | .bool _ => some boolean
  | .text _ => some text
  | .list _ => some array
  | .null => some empty
  | .record _ => none

/-- No document is read as values of two kinds, whatever the order. -/
theorem ofForm?_of_read? {kind : Kind} {document : Json} {value : Value}
    (reads : kind.read? document = some value) : ofForm? document = some kind := by
  cases kind <;> cases document <;> first | rfl | cases reads

end Kind

/-- The value of a document is that of the first kind that reads it. -/
theorem ofJson?_eq_findSome? (document : Json) :
    ofJson? document = Kind.inOrder.findSome? (·.read? document) := by
  cases document with
  | list items =>
    cases rows : rowsOfJson? items <;> simp [ofJson?, Kind.inOrder, Kind.read?, rows]
  | _ => rfl

def readBack : Value → Value
  | .number x => if x.isFinite then .number x else .empty
  | .error cause => .text cause.text
  | leaf => leaf

mutual

theorem ofJson?_toJson : ∀ value : Value, ofJson? value.toJson = some (value.mapLeaves readBack)
  | .number x => by
    rw [toJson, Json.ofFloat, mapLeaves, readBack]
    · split <;> rfl
    · exact nofun
  | .array rows => by
    rw [toJson, ofJson?, rowsOfJson?_rowsToJson rows, mapLeaves]
    rfl
  | .boolean _ | .text _ | .error _ | .empty => rfl

theorem cellsOfJson?_cellsToJson : ∀ row : List Value,
    cellsOfJson? (cellsToJson row) = some (mapLeavesOfRow readBack row)
  | [] => rfl
  | cell :: rest => by
    rw [cellsToJson, cellsOfJson?, ofJson?_toJson cell, cellsOfJson?_cellsToJson rest]
    rfl

theorem rowsOfJson?_rowsToJson : ∀ rows : List (List Value),
    rowsOfJson? (rowsToJson rows) = some (mapLeavesOfRows readBack rows)
  | [] => rfl
  | row :: rest => by
    rw [rowsToJson, rowsOfJson?, cellsOfJson?_cellsToJson row, rowsOfJson?_rowsToJson rest]
    rfl

end

/-- An error becomes its text, and any other value stays. -/
def errorAsText : Value → Value
  | .error cause => .text cause.text
  | leaf => leaf

/-- A value of finite numbers comes back with the texts of its errors in their place, so it comes
back as it was just if it has none. -/
theorem ofJson_toJson {value : Value} (finite : ∀ x, .number x ∈ value.leaves → x.isFinite) :
    ofJson value.toJson = .ok (value.mapLeaves errorAsText) ∧
      (ofJson value.toJson = .ok value ↔ ∀ cause, .error cause ∉ value.leaves) := by
  have back : value.mapLeaves readBack = value.mapLeaves errorAsText := by
    refine (mapLeaves_eq_iff value).mpr fun leaf member => ?_
    cases leaf with
    | number x => exact if_pos (finite x member)
    | _ => rfl
  have read : ofJson value.toJson = .ok (value.mapLeaves errorAsText) := by
    rw [ofJson, ofJson?_toJson, back]
  refine ⟨read, ?_⟩
  have same : value.mapLeaves errorAsText = value.mapLeaves id ↔
      ∀ leaf ∈ value.leaves, errorAsText leaf = id leaf := mapLeaves_eq_iff value
  rw [mapLeaves_id] at same
  rw [read, Except.ok.injEq, same]
  constructor
  · intro kept cause member
    cases kept _ member
  · intro free leaf member
    cases leaf with
    | error cause => exact absurd member (free cause)
    | _ => rfl

/-- A table with a table in it. -/
theorem ofJson_toJson_table :
    let value : Value := .array
      [[.number 1.5, .text "12"], [.array [[.boolean true, .empty], []], .error .notAvailable]]
    (∀ x, .number x ∈ value.leaves → x.isFinite) ∧
      ofJson value.toJson = .ok (.array
        [[.number 1.5, .text "12"], [.array [[.boolean true, .empty], []], .text "#N/A"]]) := by
  intro value
  have finite : ∀ x, .number x ∈ value.leaves → x.isFinite := by
    intro x member
    simp only [value, leaves, leavesOfRows, leavesOfRow, List.append_nil, List.cons_append,
      List.nil_append, List.mem_cons, number.injEq, reduceCtorEq, or_false,
      List.not_mem_nil] at member
    subst member
    decide +kernel
  exact ⟨finite, (ofJson_toJson finite).1⟩

end PhraseSheet.Value
