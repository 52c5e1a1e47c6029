import Mathlib.Data.List.Basic
import PhraseSheet.Proofs.RoundTrip
import PhraseSheet.Proofs.WorkingContext

/-! Runs of writes to a context. What stands under a key behind a run is the last value that was
written there. Cells share the context with names, and as keys tell cells apart, each keeps the last
value that was written to it under any spelling. -/

namespace PhraseSheet

/-- A write to a context: a value under a name, a value of the cell that a text names, or named
values one after the other. -/
inductive Write where
  | named (name : String) (value : Value)
  | cell (text : String) (value : Value)
  | all (entries : List (String × Value))

namespace Write

/-- The context behind the write. A text that is no cell is rejected and changes nothing. -/
def apply (write : Write) (context : Context) : Context :=
  match write with
  | .named name value => context.put name value
  | .cell text value =>
    match context.putCell text value with
    | .ok written => written
    | .error _ => context
  | .all entries => context.putAll entries

/-- The value that the write leaves under the key, if it writes there. -/
def valueAt? (key : String) : Write → Option Value
  | .named name value => if name = key then some value else none
  | .cell text value =>
    match Address.parse text with
    | .ok address => if address.key = key then some value else none
    | .error _ => none
  | .all entries => entries.reverse.lookup key

/-- The value that the write gives to the cell in the row and column, whatever the spelling of the
cell. -/
def valueOf? (row column : Nat) : Write → Option Value
  | .cell text value =>
    match Address.parse text with
    | .ok address => if address.row = row ∧ address.column = column then some value else none
    | .error _ => none
  | .named _ _ => none
  | .all _ => none

def names : Write → List String
  | .named name _ => [name]
  | .cell _ _ => []
  | .all entries => entries.map Prod.fst

end Write

/-- The value that the last write under the key leaves there. -/
def lastValueAt? (key : String) (writes : List Write) : Option Value :=
  (writes.filterMap (·.valueAt? key)).getLast?

/-- The value that the last write to the cell gives to it. -/
def lastValueOf? (row column : Nat) (writes : List Write) : Option Value :=
  (writes.filterMap (·.valueOf? row column)).getLast?

theorem lastValueAt?_cons (key : String) (write : Write) (writes : List Write) :
    lastValueAt? key (write :: writes) = (lastValueAt? key writes).or (write.valueAt? key) := by
  rw [lastValueAt?, lastValueAt?, List.filterMap_cons]
  cases write.valueAt? key with
  | none => simp
  | some value =>
    rw [List.getLast?_cons]
    cases (writes.filterMap (·.valueAt? key)).getLast? <;> rfl

theorem Context.putCell_eq (context : Context) (text : String) (value : Value) :
    context.putCell text value =
      (Address.parse text).map fun address => context.put address.key value := by
  rw [putCell]
  cases Address.parse text <;> rfl

namespace Write

/-- Behind a write stands under a key what it leaves there, or what stood there before. -/
theorem find?_apply (write : Write) (context : Context) (key : String) :
    (write.apply context).find? key = (write.valueAt? key).or (context.find? key) := by
  cases write with
  | named name value =>
    rw [apply, valueAt?, Labelled.find?_put]
    split <;> rfl
  | cell text value =>
    rw [apply, valueAt?, Context.putCell_eq]
    cases Address.parse text with
    | error failure => rfl
    | ok address =>
      simp only [Except.map, Labelled.find?_put]
      split <;> rfl
  | all entries => exact context.find?_putAll entries key

/-- Under the key of a cell a write leaves what it gives to the cell, unless it has the key for a
name. -/
theorem valueAt?_key {write : Write} (apart : ∀ name ∈ write.names, ¬Address.IsKey name)
    (address : Address) :
    write.valueAt? address.key = write.valueOf? address.row address.column := by
  cases write with
  | named name value =>
    rw [valueAt?, valueOf?, if_neg]
    intro same
    exact apart name List.mem_cons_self ⟨address, same.symm⟩
  | cell text value =>
    rw [valueAt?, valueOf?]
    cases Address.parse text with
    | error failure => rfl
    | ok named => simp only [Address.key_eq_iff]
  | all entries =>
    rw [valueAt?, valueOf?]
    apply Labelled.lookup_absent
    rw [List.map_reverse, List.mem_reverse]
    intro member
    exact apart _ member ⟨address, rfl⟩

theorem apply_rejected {text : String} (rejected : ∀ address, Address.parse text ≠ .ok address)
    (value : Value) (context : Context) : (cell text value).apply context = context := by
  rw [apply, Context.putCell_eq]
  cases read : Address.parse text with
  | error failure => rfl
  | ok address => exact absurd read (rejected address)

end Write

namespace Context

def run (context : Context) (writes : List Write) : Context :=
  writes.foldl (fun written write => write.apply written) context

theorem run_append (context : Context) (writes others : List Write) :
    context.run (writes ++ others) = (context.run writes).run others :=
  List.foldl_append

/-- Behind a run stands under a key what the last write left there, or what stood there before. -/
theorem find?_run (context : Context) (writes : List Write) (key : String) :
    (context.run writes).find? key = (lastValueAt? key writes).or (context.find? key) := by
  induction writes generalizing context with
  | nil => rfl
  | cons write rest ih =>
    have first : context.run (write :: rest) = (write.apply context).run rest := rfl
    rw [first, ih, write.find?_apply, lastValueAt?_cons, Option.or_assoc]

/-- A context keeps for each cell the last value that was written to it, as long as no name is the
key of a cell. Cells in different rows or columns have different keys, and a write that is rejected
leaves no trace. -/
theorem cell?_run (context : Context) (writes : List Write)
    (apart : ∀ write ∈ writes, ∀ name ∈ write.names, ¬Address.IsKey name) :
    (∀ address : Address, (context.run writes).cell? address =
      (lastValueOf? address.row address.column writes).or (context.cell? address)) ∧
    (∀ one other : Address,
      one.key = other.key ↔ one.row = other.row ∧ one.column = other.column) ∧
    ∀ before text value after, (∀ address, Address.parse text ≠ .ok address) →
      context.run (before ++ .cell text value :: after) = context.run (before ++ after) := by
  refine ⟨?_, fun _ _ => Address.key_eq_iff, ?_⟩
  · intro address
    have last : lastValueAt? address.key writes =
        lastValueOf? address.row address.column writes := by
      have each : ∀ write ∈ writes,
          write.valueAt? address.key = write.valueOf? address.row address.column :=
        fun write member => write.valueAt?_key (apart write member) address
      rw [lastValueAt?, lastValueOf?, List.filterMap_congr each]
    rw [cell?, find?_run, last]
    rfl
  · intro before text value after rejected
    have step : ∀ written : Context, written.run (.cell text value :: after) =
        ((Write.cell text value).apply written).run after := fun _ => rfl
    rw [run_append, run_append, step, Write.apply_rejected rejected]

/-- A cell under three spellings, between texts that are no cells and a name in small letters. -/
theorem cell?_run_spellings :
    let start : Context := .ofList [("C3", .number 9)]
    let writes : List Write := [.cell "b2" (.number 1), .named "a1" (.number 2),
      .cell " $B$002 " (.number 3), .cell "2B" (.number 4), .all [("b2", .number 5)]]
    let corner : Address := ⟨1, 1, false, true, by decide, by decide⟩
    let other : Address := ⟨2, 2, true, false, by decide, by decide⟩
    (start.run writes).cell? corner = some (.number 3) ∧
      (start.run writes).cell? other = some (.number 9) := by
  intro start writes corner other
  have small : ¬Address.IsKey "a1" ∧ ¬Address.IsKey "b2" := by
    constructor <;>
    · intro isKey
      exact absurd (Address.key_eq_of_isKey isKey rfl) (by decide +kernel)
  have apart : ∀ write ∈ writes, ∀ name ∈ write.names, ¬Address.IsKey name := by
    simp [writes, Write.names, small]
  obtain ⟨kept, _, _⟩ := cell?_run start writes apart
  have key : other.key = "C3" := by decide +kernel
  have held : start.cell? other = some (.number 9) := by
    rw [cell?, key]
    rfl
  have unwritten : lastValueOf? other.row other.column writes = none := rfl
  exact ⟨(kept corner).trans rfl, by rw [kept other, unwritten, held]; rfl⟩

end Context

end PhraseSheet
