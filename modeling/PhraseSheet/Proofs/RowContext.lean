import PhraseSheet.Proofs.Resolution

/-! What can be read of a row under its headers and under the names of fields. A column also writes
under the field that its header stands for, and there it writes over a column of that very name in
front of it. -/

namespace PhraseSheet

namespace Labelled

variable {α : Type u}

theorem lookup_putEntry (name other : String) (value : α) (entries : List (String × α)) :
    (putEntry name value entries).lookup other =
      if name = other then some value else entries.lookup other := by
  induction entries with
  | nil =>
    by_cases same : name = other
    · simp [putEntry, same]
    · simp [putEntry, List.lookup_cons, same, beq_false_of_ne (Ne.symm same)]
  | cons entry rest ih =>
    obtain ⟨label, kept⟩ := entry
    by_cases here : label = name
    · subst here
      by_cases same : label = other
      · simp [putEntry, same]
      · simp [putEntry, List.lookup_cons, same, beq_false_of_ne (Ne.symm same)]
    · simp only [putEntry, if_neg here, List.lookup_cons, ih]
      by_cases same : name = other
      · have apart : (other == label) = false := beq_false_of_ne (same ▸ Ne.symm here)
        simp [same, apart]
      · simp only [if_neg same]

theorem find?_put (table : Labelled α) (name other : String) (value : α) :
    (table.put name value).find? other = if name = other then some value else table.find? other :=
  lookup_putEntry name other value table.entries

end Labelled

namespace Row

/-- The header stands for the field of this name. -/
def standsFor (name header : String) : Bool :=
  (Field.ofHeader? header).any (·.name == name)

/-- The value of the last cell whose header stands for the field of this name. -/
def lastFor? (name : String) (cells : List (String × Value)) : Option Value :=
  ((cells.filter fun (header, _) => standsFor name header).getLast?).map Prod.snd

theorem lastFor?_cons (name header : String) (value : Value) (rest : List (String × Value)) :
    lastFor? name ((header, value) :: rest) =
      (lastFor? name rest).or (if standsFor name header then some value else none) := by
  simp only [lastFor?, List.filter_cons]
  cases standsFor name header with
  | false => simp
  | true => cases last : (rest.filter fun (other, _) => standsFor name other).getLast? <;>
      simp [List.getLast?_cons, last]

theorem find?_addCell (context : Context) (header name : String) (value : Value) :
    (addCell context header value).find? name =
      if header = name || standsFor name header then some value.cleaned
      else context.find? name := by
  rw [addCell, Labelled.find?_put]
  unfold standsFor
  generalize Field.ofHeader? header = known
  by_cases same : header = name
  · simp [same]
  · cases known with
    | none => simp [same]
    | some field => simp [same, Labelled.find?_put]

theorem addCells_cons (context : Context) (header : String) (value : Value)
    (rest : List (String × Value)) :
    addCells context ((header, value) :: rest) = addCells (addCell context header value) rest := by
  rw [addCells, List.foldl_cons]
  rfl

theorem find?_addCells {name : String} {cells : List (String × Value)}
    (absent : name ∉ cells.map Prod.fst) (context : Context) :
    (addCells context cells).find? name =
      ((lastFor? name cells).map Value.cleaned).or (context.find? name) := by
  induction cells generalizing context with
  | nil => simp [addCells, lastFor?]
  | cons cell rest ih =>
    obtain ⟨header, value⟩ := cell
    rw [List.map_cons, List.mem_cons, not_or] at absent
    rw [addCells_cons, ih absent.2, find?_addCell, lastFor?_cons]
    cases lastFor? name rest with
    | some last => simp
    | none => cases stands : standsFor name header <;> simp [Ne.symm absent.1]

section

variable {row : Row}

/-- Under a header stands the cell's own value, unless a column behind it stands for the field of
that name. -/
theorem find?_context_header {before after : List (String × Value)} {header : String}
    {value : Value} (split : row.entries = before ++ (header, value) :: after) :
    row.context.find? header = some ((lastFor? header after).getD value).cleaned := by
  have absent : header ∉ after.map Prod.fst := (Labelled.absent_around split).2
  have own : (addCell (addCells Labelled.empty before) header value).find? header =
      some value.cleaned := by simp [find?_addCell]
  rw [context, split, addCells, List.foldl_append, ← addCells, ← addCells, addCells_cons,
    find?_addCells absent, own]
  cases lastFor? header after <;> rfl

theorem find?_context_name {name : String} {last : Value} (absent : name ∉ row.names)
    (found : lastFor? name row.entries = some last) :
    row.context.find? name = some last.cleaned := by
  rw [context, find?_addCells absent, found]
  rfl

theorem get?_of_find? {context : Context} {name : String} {value : Value}
    (found : context.find? name = some value) : context.get? name = some value := by
  rw [Context.get?, found]

/-- A column can be read under its own header just if no column behind it stands for the field of
that name, or the last that does has the same value. Under the name of a field that is no header, the
last column for the field can be read. -/
theorem context_get?_iff (row : Row) :
    (∀ before header value after, row.entries = before ++ (header, value) :: after →
      (row.context.get? header = some value.cleaned ↔
        ∀ last, lastFor? header after = some last → last.cleaned = value.cleaned)) ∧
    ∀ (field : Field) (last : Value), field.name ∉ row.names →
      lastFor? field.name row.entries = some last →
        row.context.get? field.name = some last.cleaned := by
  constructor
  · intro before header value after split
    rw [get?_of_find? (find?_context_header split)]
    cases lastFor? header after <;> simp
  · intro field last absent found
    exact get?_of_find? (find?_context_name absent found)

/-- A price behind a column named for the retail price is read in its place. -/
theorem context_get?_retailPrice :
    let row : Row := ⟨[("retailPrice", .number 1), ("price", .number 2)], by decide⟩
    let renamed : Row := ⟨[("cost", .number 1), ("price", .number 2)], by decide⟩
    row.context.get? "retailPrice" ≠ some (.number 1) ∧
      renamed.context.get? "retailPrice" = some (.number 2) := by
  intro row renamed
  have price : standsFor "retailPrice" "price" = true := by decide +kernel
  have cost : standsFor "retailPrice" "cost" = false := by decide +kernel
  constructor
  · intro own
    have same := ((context_get?_iff row).1 [] "retailPrice" (.number 1) [("price", .number 2)]
      rfl).mp own (.number 2) (by simp [lastFor?, price])
    exact absurd (Value.number.inj same) (by decide)
  · exact (context_get?_iff renamed).2 .retailPrice (.number 2) (by decide)
      (by simp [renamed, lastFor?, Field.name, price, cost])

end

end Row

end PhraseSheet
