import PhraseSheet.Proofs.HeaderReading

namespace PhraseSheet

theorem Value.isError_eq_false_iff {value : Value} :
    value.isError = false ↔ ∀ cause, value ≠ .error cause := by
  cases value <;> simp [isError, error?]

namespace Row

variable {extra seen : Context} {row : Row} {header formula : String} {value : Value}

theorem find?_resolve_plain (plain : (header, value) ∈ row.plainCells) :
    (resolve extra row).find? header = some value.coerced := by
  obtain ⟨present, unwritten⟩ := mem_plainCells.mp plain
  apply Labelled.find?_of_mem
  apply mem_resolveCells_plain present
  simpa [Value.isFormula] using unwritten

theorem resolveCells_plain {cells : List (String × Value)}
    (plain : ∀ cell ∈ cells, cell.2.isFormula = false) (seen : Context) :
    resolveCells seen cells = cells.map fun (header, value) => (header, value.coerced) := by
  induction cells with
  | nil => rfl
  | cons cell rest ih =>
    obtain ⟨header, value⟩ := cell
    obtain ⟨first, others⟩ := List.forall_mem_cons.mp plain
    have unwritten : value.formula? = none := by simpa [Value.isFormula] using first
    simp [resolveCells, unwritten, ih others]

/-- What a formula cell shows, given what can be read there: nothing if the formula fails, else its
value. -/
inductive Shows (seen : Context) (formula : String) : Value → Prop where
  | failed (fails : Fails seen formula) : Shows seen formula .empty
  | resolved (hasValue : HasValue seen formula result) (good : result.isError = false) :
      Shows seen formula result

theorem Shows.isError {shown : Value} (shows : Shows seen formula shown) :
    shown.isError = false := by
  cases shows with
  | failed fails => rfl
  | resolved hasValue good => exact good

theorem shows_result (seen : Context) (formula : String) :
    Shows seen formula ((result? seen formula).getD .empty) := by
  cases read : Expr.parse formula with
  | error failure =>
    have fails : Fails seen formula := .inl ⟨failure, read⟩
    rw [result?_eq_none fails]
    exact .failed fails
  | ok tree =>
    by_cases bad : ∃ cause, tree.evaluate seen = .error cause
    · obtain ⟨cause, isCause⟩ := bad
      have fails : Fails seen formula := .inr ⟨tree, cause, read, isCause⟩
      rw [result?_eq_none fails]
      exact .failed fails
    · have good : (tree.evaluate seen).isError = false :=
        Value.isError_eq_false_iff.mpr fun cause isCause => bad ⟨cause, isCause⟩
      have result : result? seen formula = some (tree.evaluate seen) := by
        simp [result?, read, good]
      rw [result]
      exact .resolved ⟨tree, read, rfl⟩ good

/-- A resolved row has the headers of the row in their order. A plain column shows its own cell,
whatever else is given. A formula column is empty if the formula fails on what can be read there and
shows its value if not, which is no error. A row without formulas is shown cell by cell, and a row of
numbers stays as it is. -/
theorem resolve_shape (extra : Context) (row : Row) :
    (resolve extra row).names = row.names ∧
    (∀ header value, (header, value) ∈ row.plainCells →
      (resolve extra row).find? header = some value.coerced) ∧
    (∀ before header value formula after, row.entries = before ++ (header, value) :: after →
      value.formula? = some formula →
        ∃ shown, (resolve extra row).find? header = some shown ∧ shown.isError = false ∧
          Shows (contextAfter (startContext extra row) before) formula shown) ∧
    ((∀ cell ∈ row.entries, cell.2.isFormula = false) →
      resolve extra row = row.mapValues fun _ value => value.coerced) ∧
    ((∀ cell ∈ row.entries, ∃ x, cell.2 = .number x) → resolve extra row = row) := by
  have cellByCell : (∀ cell ∈ row.entries, cell.2.isFormula = false) →
      resolve extra row = row.mapValues fun _ value => value.coerced := by
    intro plain
    apply Labelled.eq_of_entries_eq
    exact resolveCells_plain plain (startContext extra row)
  refine ⟨names_resolveCells _ row.entries, fun _ _ => find?_resolve_plain, ?_, cellByCell, ?_⟩
  · intro before header value formula after split written
    have shows := shows_result (contextAfter (startContext extra row) before) formula
    exact ⟨_, find?_resolve_formula split written, shows.isError, shows⟩
  · intro numbers
    have plain : ∀ cell ∈ row.entries, cell.2.isFormula = false := by
      intro cell member
      obtain ⟨x, isNumber⟩ := numbers cell member
      rw [isNumber]
      rfl
    rw [cellByCell plain]
    apply Labelled.eq_of_entries_eq
    have unchanged : ∀ cell ∈ row.entries, (cell.1, cell.2.coerced) = cell := by
      intro cell member
      obtain ⟨x, isNumber⟩ := numbers cell member
      exact Prod.ext rfl (by rw [isNumber]; rfl)
    exact (List.map_congr_left unchanged).trans (List.map_id _)

/-- A written number and an error between formulas, one of which cannot be read. -/
theorem resolve_shape_mixed :
    let row : Row := ⟨[("size", .text " 4 "), ("broken", .text "="), ("lost", .error .badReference),
      ("copy", .text "=size")], by decide⟩
    let numbers : Row := ⟨[("size", .number 4), ("price", .number 2)], by decide⟩
    (resolve .empty row).names = ["size", "broken", "lost", "copy"] ∧
      (resolve .empty row).find? "size" = some (.number 4) ∧
      (resolve .empty row).find? "lost" = some (.error .badReference) ∧
      (resolve .empty row).find? "broken" = some .empty ∧
      (∃ shown, (resolve .empty row).find? "copy" = some shown ∧ shown.isError = false) ∧
      resolve .empty numbers = numbers := by
  intro row numbers
  obtain ⟨names, plain, written, _, _⟩ := resolve_shape .empty row
  obtain ⟨_, _, _, _, unchanged⟩ := resolve_shape .empty numbers
  have reads : Decimal.read? (Text.trim " 4 ".toList) = some 4 := by decide +kernel
  have finite : (4 : Float).isFinite := by decide +kernel
  have coerced : (Value.text " 4 ").coerced = .number 4 := by
    simp only [Value.coerced, reads, finite, if_true]
  refine ⟨names, ?_, ?_, ?_, ?_, unchanged (by simp [numbers])⟩
  · rw [← coerced]
    exact plain "size" (.text " 4 ") (mem_plainCells.mpr ⟨by simp [row], rfl⟩)
  · exact plain "lost" (.error .badReference) (mem_plainCells.mpr ⟨by simp [row], rfl⟩)
  · obtain ⟨shown, found, _, shows⟩ := written [("size", .text " 4 ")] "broken" (.text "=") "="
      [("lost", .error .badReference), ("copy", .text "=size")] rfl rfl
    cases shows with
    | failed fails => exact found
    | resolved hasValue good =>
      obtain ⟨tree, read, _⟩ := hasValue
      cases read
  · obtain ⟨shown, found, good, _⟩ := written
      [("size", .text " 4 "), ("broken", .text "="), ("lost", .error .badReference)] "copy"
      (.text "=size") "=size" [] rfl rfl
    exact ⟨shown, found, good⟩

end Row

end PhraseSheet
