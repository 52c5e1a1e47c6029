import PhraseSheet.Proofs.RowContext

/-! What the formulas of a row read. Under the header of a plain column stands its value as the row
shows it. Under the name of a field that is no header stands the cleaned value of the column for the
field. The formulas in front write under their own headers only. -/

namespace PhraseSheet

namespace Labelled

variable {α : Type u}

theorem lookup_absent {entries : List (String × α)} {name : String}
    (absent : name ∉ entries.map Prod.fst) : entries.lookup name = none := by
  rw [List.lookup_eq_none_iff]
  intro entry member
  rw [bne_iff_ne]
  rintro rfl
  exact absent (List.mem_map.mpr ⟨entry, member, rfl⟩)

theorem find?_eq_some_iff {table : Labelled α} {name : String} {value : α} :
    table.find? name = some value ↔ (name, value) ∈ table.entries :=
  ⟨mem_of_find?, find?_of_mem⟩

theorem mem_names_iff {table : Labelled α} {name : String} :
    name ∈ table.names ↔ ∃ value, table.find? name = some value := by
  simp only [names, find?_eq_some_iff, List.mem_map, Prod.exists, exists_and_right, exists_eq_right]

theorem find?_perm {one other : Labelled α} (order : one.entries.Perm other.entries)
    (name : String) : one.find? name = other.find? name := by
  apply Option.ext
  intro value
  rw [find?_eq_some_iff, find?_eq_some_iff, order.mem_iff]

/-- Of entries with one name the last stays. -/
theorem find?_putAll (table : Labelled α) (entries : List (String × α)) (name : String) :
    (table.putAll entries).find? name = (entries.reverse.lookup name).or (table.find? name) := by
  induction entries generalizing table with
  | nil => rfl
  | cons entry rest ih =>
    obtain ⟨label, value⟩ := entry
    have grown : table.putAll ((label, value) :: rest) = (table.put label value).putAll rest := rfl
    rw [grown, ih, find?_put, List.reverse_cons, List.lookup_append, List.lookup_cons,
      Option.or_assoc]
    by_cases same : label = name
    · simp [same]
    · simp [same, beq_false_of_ne (Ne.symm same)]

theorem find?_putAll_of_nodup {entries : List (String × α)}
    (distinct : (entries.map Prod.fst).Nodup) (table : Labelled α) (name : String) :
    (table.putAll entries).find? name = (entries.lookup name).or (table.find? name) := by
  have order := entries.reverse_perm
  let turned : Labelled α := ⟨entries.reverse, (order.map Prod.fst).nodup_iff.mpr distinct⟩
  have looked : entries.reverse.lookup name = entries.lookup name :=
    @find?_perm _ turned ⟨entries, distinct⟩ order name
  rw [find?_putAll, looked]

end Labelled

namespace Value

variable {content : String}

theorem cleaned_text {x : Float} (reads : Amount.read? content.toList = some x) :
    (text content).cleaned = .number x := by
  unfold cleaned
  simp only [reads]

theorem coerced_text (unread : Decimal.read? (Text.trim content.toList) = none) :
    (text content).coerced = .text content := by
  rw [coerced, unread]

end Value

namespace Row

variable {extra : Context} {row : Row} {name header : String} {value : Value}

theorem mem_plainCells : (header, value) ∈ row.plainCells ↔
    (header, value) ∈ row.entries ∧ value.isFormula = false := by
  simp [plainCells]

theorem nodup_plainCells (row : Row) : (row.plainCells.map Prod.fst).Nodup :=
  row.distinct.sublist (List.filter_sublist.map Prod.fst)

/-- The plain cells as the row shows them are written behind all others. -/
theorem find?_startContext (extra : Context) (row : Row) (name : String) :
    (startContext extra row).find? name =
      ((row.plainCells.lookup name).map Value.coerced).or
        ((addCells extra row.plainCells).find? name) := by
  have shown : ∀ cells : List (String × Value),
      (cells.map fun cell => (cell.1, cell.2.coerced)).lookup name =
        (cells.lookup name).map Value.coerced := by
    intro cells
    induction cells with
    | nil => rfl
    | cons cell rest ih =>
      rw [List.map_cons, List.lookup_cons, List.lookup_cons, ih]
      cases name == cell.1 <;> rfl
  have names : (row.plainCells.map fun cell => (cell.1, cell.2.coerced)).map Prod.fst =
      row.plainCells.map Prod.fst := by simp
  have distinct := nodup_plainCells row
  rw [← names] at distinct
  rw [startContext, Labelled.find?_putAll_of_nodup distinct, shown]

theorem find?_startContext_header (plain : (header, value) ∈ row.plainCells) :
    (startContext extra row).find? header = some value.coerced := by
  let plainRow : Row := ⟨row.plainCells, nodup_plainCells row⟩
  have found : row.plainCells.lookup header = some value :=
    @Labelled.find?_of_mem _ plainRow header value plain
  rw [find?_startContext, found]
  rfl

theorem find?_startContext_name (absent : name ∉ row.plainCells.map Prod.fst) :
    (startContext extra row).find? name = (addCells extra row.plainCells).find? name := by
  rw [find?_startContext, Labelled.lookup_absent absent]
  rfl

theorem find?_contextAfter {cells : List (String × Value)}
    (unwritten : ∀ cell ∈ cells, cell.2.isFormula → cell.1 ≠ name) (context : Context) :
    (contextAfter context cells).find? name = context.find? name := by
  induction cells generalizing context with
  | nil => rfl
  | cons cell rest ih =>
    obtain ⟨header, value⟩ := cell
    obtain ⟨first, others⟩ := List.forall_mem_cons.mp unwritten
    rw [contextAfter]
    split
    · rename_i result found
      obtain ⟨formula, written, _⟩ := Option.bind_eq_some_iff.mp found
      have apart : header ≠ name := first (by simp [Value.isFormula, written])
      rw [ih others, Labelled.find?_put, if_neg apart]
    · exact ih others context

/-- The name of a field that has headers is itself a header for the field. -/
theorem standsFor_name {field : Field} (stands : standsFor field.name header) :
    standsFor field.name field.name := by
  have distinct : ∀ one ∈ Field.all, ∀ other ∈ Field.all, one.name = other.name → one = other := by
    decide
  have named : ∀ field ∈ Field.all, field.headers ≠ [] → standsFor field.name field.name := by
    decide +kernel
  unfold standsFor at stands
  cases found : Field.ofHeader? header with
  | none => simp [found] at stands
  | some known =>
    have same : known = field :=
      distinct known known.mem_all field field.mem_all (by simpa [found] using stands)
    have listed := List.find?_some found
    refine named field field.mem_all ?_
    intro none
    rw [same, none] at listed
    cases listed

/-- Of the cells that write under the name the last one counts. -/
theorem find?_addCells_last {before after : List (String × Value)}
    (writes : header = name ∨ standsFor name header)
    (others : ∀ cell ∈ after, cell.1 ≠ name ∧ standsFor name cell.1 = false) :
    (addCells extra (before ++ (header, value) :: after)).find? name = some value.cleaned := by
  have absent : name ∉ after.map Prod.fst := by
    intro member
    obtain ⟨cell, listed, same⟩ := List.mem_map.mp member
    exact (others cell listed).1 same
  have none : lastFor? name after = none := by
    rw [lastFor?, List.filter_eq_nil_iff.mpr]
    · rfl
    · intro cell listed
      simp [(others cell listed).2]
  have own : (addCell (addCells extra before) header value).find? name = some value.cleaned := by
    rw [find?_addCell, if_pos (by simpa using writes)]
  rw [addCells, List.foldl_append, ← addCells, ← addCells, addCells_cons,
    find?_addCells absent, none, own]
  rfl

/-- The one cell among others whose header stands for the field is read under the field's name. -/
theorem find?_addCells_alone {field : Field} {cells : List (String × Value)}
    (alone : (cells.filter fun cell => standsFor field.name cell.1) = [(header, value)]) :
    (addCells extra cells).find? field.name = some value.cleaned := by
  obtain ⟨before, after, rfl, _, stands, rest⟩ := List.filter_eq_cons_iff.mp alone
  refine find?_addCells_last (.inr stands) ?_
  intro cell member
  have apart : standsFor field.name cell.1 = false := by
    simpa using List.filter_eq_nil_iff.mp rest cell member
  refine ⟨?_, apart⟩
  intro same
  rw [same, standsFor_name stands] at apart
  cases apart

section

variable {field : Field}

/-- The column for a field is read under the field's name: as the row shows it if it has that name,
as it is cleaned if it has another header. -/
theorem find?_startContext_field
    (alone : (row.plainCells.filter fun cell => standsFor field.name cell.1) = [(header, value)]) :
    (startContext extra row).find? field.name =
      some (if header = field.name then value.coerced else value.cleaned) := by
  have listed : (header, value) ∈
      row.plainCells.filter fun cell => standsFor field.name cell.1 := by
    rw [alone]
    exact List.mem_singleton_self _
  obtain ⟨plain, stands⟩ := List.mem_filter.mp listed
  split
  · rename_i same
    rw [← same]
    exact find?_startContext_header plain
  · rename_i other
    -- a plain column of that name would be a second one for the field
    have absent : field.name ∉ row.plainCells.map Prod.fst := by
      intro named
      obtain ⟨cell, alsoPlain, same⟩ := List.mem_map.mp named
      have alsoListed : cell ∈ row.plainCells.filter fun cell => standsFor field.name cell.1 :=
        List.mem_filter.mpr ⟨alsoPlain, by rw [same]; exact standsFor_name stands⟩
      rw [alone, List.mem_singleton] at alsoListed
      exact other (by rw [← same, alsoListed])
    rw [find?_startContext_name absent, find?_addCells_alone alone]

theorem find?_context_field
    (alone : (row.plainCells.filter fun cell => standsFor field.name cell.1) = [(header, value)])
    (noFormula : ∀ cell ∈ row.entries, cell.2.isFormula → standsFor field.name cell.1 = false) :
    row.context.find? field.name = some value.cleaned := by
  apply find?_addCells_alone
  rw [← alone, plainCells, List.filter_filter]
  apply List.filter_congr
  intro cell member
  cases written : cell.2.isFormula with
  | false => simp [written]
  | true => simp [noFormula cell member written]

/-- Let one plain column stand for a field, and let no formula column have the field's name. Then
every formula reads the cleaned value of the column under that name, as it can be read of the row
itself, unless the column has that very name and the row shows another value than the cleaned
one. -/
theorem get?_field_iff (extra : Context) (row : Row) (field : Field) (header : String)
    (value : Value)
    (alone : (row.plainCells.filter fun cell => standsFor field.name cell.1) = [(header, value)])
    (noFormula : ∀ cell ∈ row.entries, cell.2.isFormula → cell.1 ≠ field.name) :
    (∀ before label formula after, row.entries = before ++ (label, formula) :: after →
      ((contextAfter (startContext extra row) before).get? field.name = some value.cleaned ↔
        (header = field.name → value.coerced = value.cleaned))) ∧
    ((∀ cell ∈ row.entries, cell.2.isFormula → standsFor field.name cell.1 = false) →
      row.context.get? field.name = some value.cleaned) := by
  constructor
  · intro before label formula after split
    have unwritten : ∀ cell ∈ before, cell.2.isFormula → cell.1 ≠ field.name := by
      intro cell member
      exact noFormula cell (by rw [split]; exact List.mem_append_left _ member)
    have found := (find?_contextAfter unwritten (startContext extra row)).trans
      (find?_startContext_field alone)
    rw [get?_of_find? found, Option.some.injEq]
    by_cases same : header = field.name <;> simp [same]
  · exact fun unaliased => get?_of_find? (find?_context_field alone unaliased)

/-- An amount in dollars under the name of the field, which formulas read as a text, and under
another header for it. -/
theorem get?_field_dollars :
    let row : Row := ⟨[("retailPrice", .text "$5"), ("double", .text "=retailPrice*2")], by decide⟩
    let renamed : Row :=
      ⟨[("Retail Price", .text "$5"), ("double", .text "=retailPrice*2")], by decide⟩
    (contextAfter (startContext .empty row) [("retailPrice", .text "$5")]).get? "retailPrice" ≠
        some (.number 5) ∧
      row.context.get? "retailPrice" = some (.number 5) ∧
      (contextAfter (startContext .empty renamed) [("Retail Price", .text "$5")]).get?
        "retailPrice" = some (.number 5) := by
  intro row renamed
  have cleaned : (Value.text "$5").cleaned = .number 5 := Value.cleaned_text (by decide +kernel)
  have coerced : (Value.text "$5").coerced = .text "$5" := Value.coerced_text (by decide +kernel)
  have noFormula : (Value.text "$5").isFormula = false := rfl
  have plain : row.plainCells = [("retailPrice", .text "$5")] := rfl
  have renamedPlain : renamed.plainCells = [("Retail Price", .text "$5")] := rfl
  have stands : standsFor "retailPrice" "retailPrice" = true := by decide +kernel
  have renamedStands : standsFor "retailPrice" "Retail Price" = true := by decide +kernel
  have apart : standsFor "retailPrice" "double" = false := by decide +kernel
  obtain ⟨read, exposed⟩ := get?_field_iff .empty row .retailPrice "retailPrice" (.text "$5")
    (by simp [plain, Field.name, stands]) (by simp [row, Field.name, noFormula])
  obtain ⟨renamedRead, _⟩ := get?_field_iff .empty renamed .retailPrice "Retail Price" (.text "$5")
    (by simp [renamedPlain, Field.name, renamedStands]) (by simp [renamed, Field.name, noFormula])
  have own := read [("retailPrice", .text "$5")] "double" (.text "=retailPrice*2") [] rfl
  have other := renamedRead [("Retail Price", .text "$5")] "double" (.text "=retailPrice*2") [] rfl
  rw [cleaned] at own other exposed
  refine ⟨?_, ?_, ?_⟩
  · intro found
    have same := own.mp found rfl
    rw [coerced] at same
    cases same
  · exact exposed (by simp [row, Field.name, noFormula, apart])
  · exact other.mpr fun named => absurd named (by decide)

end

end Row

end PhraseSheet
