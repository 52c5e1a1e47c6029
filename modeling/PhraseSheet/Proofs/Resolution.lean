import PhraseSheet.Row.Basic

namespace PhraseSheet

namespace Labelled

variable {α : Type u}

def without (table : Labelled α) (name : String) : Labelled α where
  entries := table.entries.filter fun entry => entry.1 != name
  distinct := table.distinct.sublist (List.filter_sublist.map Prod.fst)

theorem eq_of_entries_eq {one other : Labelled α} (same : one.entries = other.entries) :
    one = other := by
  cases one
  cases other
  cases same
  rfl

theorem absent_around {table : Labelled α} {before after : List (String × α)} {name : String}
    {value : α} (split : table.entries = before ++ (name, value) :: after) :
    name ∉ before.map Prod.fst ∧ name ∉ after.map Prod.fst := by
  have distinct := table.distinct
  rw [split, List.map_append, List.map_cons, List.nodup_append] at distinct
  obtain ⟨_, rest, apart⟩ := distinct
  refine ⟨?_, (List.nodup_cons.mp rest).1⟩
  intro present
  exact apart name present name List.mem_cons_self rfl

theorem find?_of_mem {table : Labelled α} {name : String} {value : α}
    (present : (name, value) ∈ table.entries) : table.find? name = some value := by
  obtain ⟨before, after, split⟩ := List.append_of_mem present
  unfold find?
  rw [List.lookup_eq_some_iff]
  refine ⟨before, after, split, ?_⟩
  intro entry earlier
  rw [bne_iff_ne]
  rintro rfl
  exact (absent_around split).1 (List.mem_map_of_mem earlier)

theorem filter_absent {entries : List (String × α)} {name : String}
    (absent : name ∉ entries.map Prod.fst) :
    (entries.filter fun entry => entry.1 != name) = entries := by
  rw [List.filter_eq_self]
  intro entry present
  rw [bne_iff_ne]
  rintro rfl
  exact absent (List.mem_map_of_mem present)

theorem entries_without {table : Labelled α} {before after : List (String × α)} {name : String}
    {value : α} (split : table.entries = before ++ (name, value) :: after) :
    (table.without name).entries = before ++ after := by
  obtain ⟨absentBefore, absentAfter⟩ := absent_around split
  simp [without, split, filter_absent absentBefore, filter_absent absentAfter]

end Labelled

namespace Row

/-- The formula cannot be read, or its value is an error. -/
def Fails (context : Context) (formula : String) : Prop :=
  (∃ failure, Expr.parse formula = .error failure) ∨
    ∃ expr cause, Expr.parse formula = .ok expr ∧ expr.evaluate context = .error cause

/-- What can be read behind the cells. -/
def contextAfter (context : Context) : List (String × Value) → Context
  | [] => context
  | (header, value) :: rest =>
    match value.formula?.bind (result? context) with
    | some result => contextAfter (context.put header result) rest
    | none => contextAfter context rest

section

variable {context : Context} {header formula : String} {value : Value}
variable {cells : List (String × Value)}

theorem result?_eq_none (fails : Fails context formula) : result? context formula = none := by
  unfold result?
  rcases fails with ⟨failure, unread⟩ | ⟨expr, cause, read, bad⟩
  · rw [unread]
  · rw [read]
    simp [bad, Value.isError, Value.error?]

theorem resolveCells_append (context : Context) (cells others : List (String × Value)) :
    resolveCells context (cells ++ others) =
      resolveCells context cells ++ resolveCells (contextAfter context cells) others := by
  induction cells generalizing context with
  | nil => rfl
  | cons cell rest ih =>
    obtain ⟨header, value⟩ := cell
    simp only [List.cons_append, resolveCells, contextAfter]
    cases written : value.formula? with
    | none => simp [ih]
    | some formula => cases result : result? context formula <;> simp [ih, result]

theorem resolveCells_failed (written : value.formula? = some formula)
    (fails : Fails context formula) :
    resolveCells context ((header, value) :: cells) =
      (header, .empty) :: resolveCells context cells := by
  simp [resolveCells, written, result?_eq_none fails]

/-- A cell that is no formula is shown as it is, whatever stands around it. -/
theorem mem_resolveCells_plain (present : (header, value) ∈ cells)
    (unwritten : value.formula? = none) :
    (header, value.coerced) ∈ resolveCells context cells := by
  obtain ⟨before, after, rfl⟩ := List.append_of_mem present
  rw [resolveCells_append]
  simp [resolveCells, unwritten]

end

/-- The second list has formula columns between and around the cells of the first. -/
inductive Widens : List (String × Value) → List (String × Value) → Prop where
  | done : Widens [] []
  | keep (cell : String × Value) (others : Widens cells wider) :
      Widens (cell :: cells) (cell :: wider)
  | insert (header : String) (written : value.isFormula) (others : Widens cells wider) :
      Widens cells ((header, value) :: wider)

/-- The cells are those of a row after an edit at a formula column or behind it: the column has
another formula, is deleted, or is followed by further formula columns. -/
inductive Edits (before : List (String × Value)) (header : String) (value : Value)
    (after : List (String × Value)) : List (String × Value) → Prop where
  | replace (written : other.isFormula) :
      Edits before header value after (before ++ (header, other) :: after)
  | delete : Edits before header value after (before ++ after)
  | insert (wider : Widens after more) :
      Edits before header value after (before ++ (header, value) :: more)

section

variable {extra : Context} {header formula : String} {value : Value}
variable {before after cells wider : List (String × Value)}

private abbrev plain (cells : List (String × Value)) : List (String × Value) :=
  cells.filter fun (_, value) => !value.isFormula

private theorem plain_widened (widens : Widens cells wider) : plain wider = plain cells := by
  induction widens with
  | done => rfl
  | keep cell others ih => simp [plain, List.filter_cons, ih]
  | insert header written others ih => simp [plain, written, ih]

private theorem edited_start (edits : Edits before header value after cells)
    (written : value.isFormula) :
    ∃ rest, cells = before ++ rest ∧ plain rest = plain ((header, value) :: after) := by
  cases edits with
  | replace other => exact ⟨_, rfl, by simp [plain, written, other]⟩
  | delete => exact ⟨_, rfl, by simp [plain, written]⟩
  | insert wider =>
    exact ⟨_, rfl, by simp [plain, written, plain_widened wider]⟩

theorem startContext_congr {one other : Row} (same : one.plainCells = other.plainCells) :
    startContext extra one = startContext extra other := by
  unfold startContext
  rw [same]

/-- Rows that start alike and have the same cells without formulas show the same in all of these. -/
theorem find?_resolve_congr {one other : Row} {rest otherRest : List (String × Value)}
    (split : one.entries = before ++ rest) (otherSplit : other.entries = before ++ otherRest)
    (same : plain rest = plain otherRest) {name : String}
    (kept : name ∈ one.plainCells.map Prod.fst ∨ name ∈ before.map Prod.fst) :
    (resolve extra one).find? name = (resolve extra other).find? name := by
  have samePlain : one.plainCells = other.plainCells := by
    unfold plainCells
    rw [split, otherSplit, List.filter_append, List.filter_append]
    exact congrArg _ same
  have sameStart : startContext extra one = startContext extra other := startContext_congr samePlain
  suffices common : ∃ value, (name, value) ∈ (resolve extra one).entries ∧
      (name, value) ∈ (resolve extra other).entries by
    obtain ⟨value, present, otherPresent⟩ := common
    rw [Labelled.find?_of_mem present, Labelled.find?_of_mem otherPresent]
  rcases kept with isPlain | inFront
  · obtain ⟨⟨_, value⟩, present, rfl⟩ := List.mem_map.mp isPlain
    have otherPresent := samePlain ▸ present
    obtain ⟨member, unwritten⟩ := List.mem_filter.mp present
    obtain ⟨otherMember, _⟩ := List.mem_filter.mp otherPresent
    have none : value.formula? = none := by simpa [Value.isFormula] using unwritten
    exact ⟨value.coerced, mem_resolveCells_plain member none,
      mem_resolveCells_plain otherMember none⟩
  · rw [← names_resolveCells (startContext extra one)] at inFront
    obtain ⟨⟨_, value⟩, present, rfl⟩ := List.mem_map.mp inFront
    refine ⟨value, ?_, ?_⟩
    · simp only [resolve, split, resolveCells_append, List.mem_append]
      exact .inl present
    · simp only [resolve, otherSplit, resolveCells_append, List.mem_append, ← sameStart]
      exact .inl present

/-- A failed formula leaves everything else as if its column were not there. -/
theorem resolve_without {row : Row} (split : row.entries = before ++ (header, value) :: after)
    (written : value.formula? = some formula)
    (fails : Fails (contextAfter (startContext extra row) before) formula) :
    (resolve extra row).find? header = some .empty ∧
      resolve extra (row.without header) = (resolve extra row).without header := by
  have resolved : (resolve extra row).entries =
      resolveCells (startContext extra row) before ++ (header, .empty) ::
        resolveCells (contextAfter (startContext extra row) before) after := by
    simp only [resolve, split, resolveCells_append, resolveCells_failed written fails]
  have remaining := Labelled.entries_without split
  have sameStart : startContext extra (row.without header) = startContext extra row := by
    apply startContext_congr
    unfold plainCells
    rw [remaining, split]
    simp [Value.isFormula, written]
  constructor
  · apply Labelled.find?_of_mem
    simp [resolved]
  · apply Labelled.eq_of_entries_eq
    rw [Labelled.entries_without resolved]
    simp only [resolve, remaining, sameStart, resolveCells_append]

end

/-- No edit of a formula column or behind it shows in the columns without formulas and in those
before it; and if the formula fails, the other columns are those of the row without it. -/
theorem resolve_confined (extra : Context) (row : Row) {before after : List (String × Value)}
    {header formula : String} {value : Value}
    (split : row.entries = before ++ (header, value) :: after)
    (written : value.formula? = some formula) :
    (∀ edited : Row, Edits before header value after edited.entries →
      ∀ name, name ∈ row.plainCells.map Prod.fst ∨ name ∈ before.map Prod.fst →
        (resolve extra edited).find? name = (resolve extra row).find? name) ∧
    (Fails (contextAfter (startContext extra row) before) formula →
      (resolve extra row).find? header = some .empty ∧
        resolve extra (row.without header) = (resolve extra row).without header) := by
  constructor
  · intro edited edits name kept
    obtain ⟨rest, otherSplit, same⟩ := edited_start edits (by simp [Value.isFormula, written])
    exact (find?_resolve_congr split otherSplit same.symm kept).symm
  · exact resolve_without split written

/-- A column whose formula cannot be read, between two others. -/
theorem resolve_confined_blank :
    let row : Row :=
      ⟨[("price", .number 2), ("broken", .text "="), ("label", .text "new")], by decide⟩
    resolve .empty (row.without "broken") = (resolve .empty row).without "broken" := by
  intro row
  have confined := @resolve_confined .empty row [("price", .number 2)] [("label", .text "new")]
    "broken" "=" (.text "=") rfl rfl
  exact (confined.2 (.inl ⟨.emptyFormula, rfl⟩)).2

end Row

end PhraseSheet
