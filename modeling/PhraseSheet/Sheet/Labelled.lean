namespace PhraseSheet

/-- Writes the value under the name: in its place if the name is present, at the end if not. -/
def putEntry {α : Type u} (name : String) (value : α) : List (String × α) → List (String × α)
  | [] => [(name, value)]
  | (other, kept) :: rest =>
    if other = name then (other, value) :: rest else (other, kept) :: putEntry name value rest

theorem names_putEntry {α : Type u} (name : String) (value : α) (entries : List (String × α)) :
    (putEntry name value entries).map Prod.fst =
      if name ∈ entries.map Prod.fst then entries.map Prod.fst
      else entries.map Prod.fst ++ [name] := by
  induction entries with
  | nil => simp [putEntry]
  | cons entry rest ih =>
    obtain ⟨other, kept⟩ := entry
    by_cases same : other = name
    · subst same; simp [putEntry]
    · by_cases present : name ∈ rest.map Prod.fst
      · simp only [putEntry, same, if_false, List.map_cons, ih, if_pos present,
          List.mem_cons_of_mem _ present, if_true]
      · have absent : name ∉ other :: rest.map Prod.fst := by
          simp only [List.mem_cons, not_or]
          exact ⟨Ne.symm same, present⟩
        simp only [putEntry, same, if_false, List.map_cons, ih, if_neg present, if_neg absent,
          List.cons_append]

/-- A list of named values in which no name comes twice. -/
structure Labelled (α : Type u) where
  entries : List (String × α)
  distinct : (entries.map Prod.fst).Nodup

namespace Labelled

variable {α : Type u}

def empty : Labelled α := ⟨[], List.nodup_nil⟩

def names (table : Labelled α) : List String := table.entries.map Prod.fst

def size (table : Labelled α) : Nat := table.entries.length

def isEmpty (table : Labelled α) : Bool := table.entries.isEmpty

/-- Writes the value under the name; a name that is present keeps its place. -/
def put (table : Labelled α) (name : String) (value : α) : Labelled α where
  entries := putEntry name value table.entries
  distinct := by
    rw [names_putEntry]
    split
    · exact table.distinct
    · rename_i absent
      refine List.nodup_append.2 ⟨table.distinct, by simp, ?_⟩
      intro one present other single same
      simp only [List.mem_singleton] at single
      subst single; subst same
      exact absent present

/-- The value under exactly this name. -/
def find? (table : Labelled α) (name : String) : Option α := table.entries.lookup name

theorem mem_of_find? {table : Labelled α} {name : String} {value : α}
    (found : table.find? name = some value) : (name, value) ∈ table.entries := by
  obtain ⟨before, after, split, _⟩ := List.lookup_eq_some_iff.mp found
  simp [split]

def putAll (table : Labelled α) (entries : List (String × α)) : Labelled α :=
  entries.foldl (fun grown (name, value) => grown.put name value) table

/-- The table of the entries; of several with one name the first gives the place and the last the
value. -/
def ofList (entries : List (String × α)) : Labelled α := empty.putAll entries

/-- The same names with changed values. -/
def mapValues {β : Type v} (change : String → α → β) (table : Labelled α) : Labelled β where
  entries := table.entries.map fun (name, value) => (name, change name value)
  distinct := by
    have same : (table.entries.map fun (name, value) => (name, change name value)).map Prod.fst =
        table.entries.map Prod.fst := by simp [Function.comp_def]
    rw [same]
    exact table.distinct

/-- The entries in the order of their names. -/
def sorted (table : Labelled α) : List (String × α) :=
  table.entries.mergeSort fun (one, _) (other, _) => decide (one ≤ other)

end Labelled

end PhraseSheet
