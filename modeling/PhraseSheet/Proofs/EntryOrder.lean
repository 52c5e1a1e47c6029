import PhraseSheet.Proofs.CellStore
import PhraseSheet.Proofs.Dependence

/-! The order of entries. Nothing that reads a context depends on the order in which its entries
came or are listed: an exact look-up finds the one entry of the name, and an inexact one takes the
smallest name, wherever it stands. -/

namespace PhraseSheet

namespace Context

/-- The contexts have the same value under each key, or none. -/
def SameEntries (one other : Context) : Prop := ∀ key, one.find? key = other.find? key

namespace SameEntries

variable {one other : Context} (same : SameEntries one other)
include same

theorem alias? (name : String) : one.alias? name = other.alias? name := by
  have names : ∀ key, key ∈ one.names ↔ key ∈ other.names := by
    intro key
    rw [Labelled.mem_names_iff, Labelled.mem_names_iff, same key]
  apply Option.ext
  intro least
  simp only [alias?_eq_some_iff, names]

theorem get? (name : String) : one.get? name = other.get? name := by
  have found : one.find? = other.find? := funext same
  rw [Context.get?, Context.get?, same.alias?, found]

theorem rangeValue (range : Range) : one.rangeValue range = other.rangeValue range := by
  have cells : one.cell? = other.cell? := funext fun address => same address.key
  rw [Context.rangeValue, Context.rangeValue, cells]

theorem evaluate (expr : Expr) : expr.evaluate one = expr.evaluate other := by
  apply Expr.evaluate_congr
  intro part _
  cases part with
  | name label => exact same.get? label
  | cell address => exact same address.key
  | range cells => exact same.rangeValue cells
  | _ => trivial

theorem result? (formula : String) : Row.result? one formula = Row.result? other formula := by
  unfold Row.result?
  cases Expr.parse formula with
  | error failure => rfl
  | ok expr => simp only [same.evaluate]

theorem put (name : String) (value : Value) :
    SameEntries (one.put name value) (other.put name value) := by
  intro key
  rw [Labelled.find?_put, Labelled.find?_put, same key]

omit same

theorem putAll (same : SameEntries one other) (entries : List (String × Value)) :
    SameEntries (one.putAll entries) (other.putAll entries) := by
  induction entries generalizing one other with
  | nil => exact same
  | cons entry rest ih => exact ih (same.put entry.1 entry.2)

theorem addCell (same : SameEntries one other) (header : String) (value : Value) :
    SameEntries (Row.addCell one header value) (Row.addCell other header value) := by
  unfold Row.addCell
  cases Field.ofHeader? header with
  | none => exact same.put header value.cleaned
  | some field => exact (same.put field.name value.cleaned).put header value.cleaned

theorem addCells (same : SameEntries one other) (cells : List (String × Value)) :
    SameEntries (Row.addCells one cells) (Row.addCells other cells) := by
  induction cells generalizing one other with
  | nil => exact same
  | cons cell rest ih =>
    obtain ⟨header, value⟩ := cell
    rw [Row.addCells_cons, Row.addCells_cons]
    exact ih (same.addCell header value)

theorem startContext (same : SameEntries one other) (row : Row) :
    SameEntries (Row.startContext one row) (Row.startContext other row) :=
  (same.addCells row.plainCells).putAll _

theorem resolveCells (same : SameEntries one other) (cells : List (String × Value)) :
    Row.resolveCells one cells = Row.resolveCells other cells := by
  induction cells generalizing one other with
  | nil => rfl
  | cons cell rest ih =>
    obtain ⟨header, value⟩ := cell
    simp only [Row.resolveCells]
    cases value.formula? with
    | none => simp only [ih same]
    | some formula =>
      simp only [same.result? formula]
      cases Row.result? other formula with
      | none => simp only [ih same]
      | some result => simp only [ih (same.put header result)]

theorem resolve (same : SameEntries one other) (row : Row) :
    Row.resolve one row = Row.resolve other row :=
  Labelled.eq_of_entries_eq ((same.startContext row).resolveCells row.entries)

end SameEntries

/-- Nothing that reads the contexts tells them apart: no look-up, no expression and no row. -/
structure Indistinguishable (one other : Context) : Prop where
  get? : ∀ name, one.get? name = other.get? name
  contains : ∀ name, one.contains name = other.contains name
  cell? : ∀ address, one.cell? address = other.cell? address
  rangeValue : ∀ range, one.rangeValue range = other.rangeValue range
  evaluate : ∀ expr : Expr, expr.evaluate one = expr.evaluate other
  resolve : ∀ row, Row.resolve one row = Row.resolve other row

theorem SameEntries.indistinguishable {one other : Context} (same : SameEntries one other) :
    Indistinguishable one other where
  get? := same.get?
  contains := fun name => congrArg Option.isSome (same.get? name)
  cell? := fun address => same address.key
  rangeValue := same.rangeValue
  evaluate := same.evaluate
  resolve := same.resolve

theorem get?_smallest {context : Context} {name key : String} (absent : context.find? name = none)
    (least : (key ∈ context.names ∧ Text.sameIgnoringCase key name) ∧
      ∀ rival ∈ context.names, Text.sameIgnoringCase rival name → key ≤ rival) :
    context.get? name = context.find? key := by
  rw [get?, absent, alias?_eq_some_iff.mpr least]
  rfl

/-- Two runs of writes that leave the same last value under each key leave contexts that nothing
tells apart, in whatever order their entries are listed. Of the keys that differ from a name in
letter case only, the smallest gives its value. -/
theorem indistinguishable_of_run {start otherStart one other : Context}
    {writes otherWrites : List Write}
    (same : ∀ key, (lastValueAt? key writes).or (start.find? key) =
      (lastValueAt? key otherWrites).or (otherStart.find? key))
    (order : one.entries.Perm (start.run writes).entries)
    (otherOrder : other.entries.Perm (otherStart.run otherWrites).entries) :
    Indistinguishable one other ∧
    ∀ name key, one.find? name = none → key ∈ one.names → Text.sameIgnoringCase key name →
      (∀ rival ∈ one.names, Text.sameIgnoringCase rival name → key ≤ rival) →
        one.get? name = one.find? key := by
  have entries : SameEntries one other := by
    intro key
    rw [Labelled.find?_perm order, Labelled.find?_perm otherOrder, find?_run, find?_run, same key]
  exact ⟨entries.indistinguishable,
    fun _ _ absent listed matching least => get?_smallest absent ⟨⟨listed, matching⟩, least⟩⟩

/-- Three names that differ in letter case, written in two orders and listed in two, with a value
that is written over. -/
theorem indistinguishable_of_run_prices :
    let writes : List Write :=
      [.all [("pRICE", .number 3), ("Price", .number 2)], .cell "b2" (.number 7),
        .named "PRICE" (.number 1)]
    let otherWrites : List Write :=
      [.named "PRICE" (.number 5), .cell "$B$2" (.number 7), .named "Price" (.number 2),
        .all [("PRICE", .number 1), ("pRICE", .number 3)]]
    let one : Context := run .empty writes
    let other : Context := run .empty otherWrites
    let turned : Context := ⟨other.entries.reverse,
      ((List.reverse_perm other.entries).map Prod.fst).nodup_iff.mpr other.distinct⟩
    one.get? "price" = some (.number 1) ∧ turned.get? "price" = some (.number 1) := by
  intro writes otherWrites one other turned
  have corner : ∀ rowFixed columnFixed,
      (⟨1, 1, rowFixed, columnFixed, by decide, by decide⟩ : Address).key = "B2" := by
    decide +kernel
  have small : Address.parse "b2" = .ok ⟨1, 1, false, false, by decide, by decide⟩ := rfl
  have marked : Address.parse "$B$2" = .ok ⟨1, 1, true, true, by decide, by decide⟩ := rfl
  have same : ∀ key, (lastValueAt? key writes).or (Labelled.empty.find? key) =
      (lastValueAt? key otherWrites).or (Labelled.empty.find? key) := by
    intro key
    simp only [writes, otherWrites, lastValueAt?_cons, Write.valueAt?, small, marked, corner]
    by_cases shout : "PRICE" = key
    · subst shout
      rfl
    by_cases cell : "B2" = key
    · subst cell
      rfl
    by_cases name : "Price" = key
    · subst name
      rfl
    · simp [cell, name, shout, List.lookup_cons, beq_false_of_ne (Ne.symm shout),
        beq_false_of_ne (Ne.symm name)]
  have order : turned.entries.Perm other.entries := List.reverse_perm other.entries
  obtain ⟨alike, smallest⟩ :=
    indistinguishable_of_run same (List.Perm.refl one.entries) order
  have names : one.names = ["pRICE", "Price", "B2", "PRICE"] := by decide +kernel
  have absent : one.find? "price" = none := by
    apply Labelled.lookup_absent
    rw [← Labelled.names, names]
    decide
  have held : one.find? "PRICE" = some (.number 1) := by
    rw [find?_run]
    simp only [writes, lastValueAt?_cons, Write.valueAt?, small, corner]
    rfl
  have least : one.get? "price" = some (.number 1) := by
    have first : ∀ rival ∈ one.names, Text.sameIgnoringCase rival "price" → "PRICE" ≤ rival := by
      rw [names]
      decide
    rw [smallest "price" "PRICE" absent (by simp [names]) (by decide) first, held]
  exact ⟨least, (alike.get? "price").symm.trans least⟩

end Context

end PhraseSheet
