import Mathlib.Data.List.Forall2
import Mathlib.Data.String.Basic
import PhraseSheet.Command.Reply

/-! The order of columns. Rows that are read from a document have their columns in the order of their
names, not in the one in which they are written, and their formulas are resolved in that order. -/

namespace PhraseSheet

namespace Json

def Ascending {α : Type u} (members : List (String × α)) : Prop :=
  members.Pairwise fun one other => one.1 < other.1

theorem insertMember_perm {name : String} {value : Json} {members : List (String × Json)}
    (absent : name ∉ members.map Prod.fst) :
    (insertMember name value members).Perm ((name, value) :: members) := by
  induction members with
  | nil => exact .refl _
  | cons member rest ih =>
    obtain ⟨other, kept⟩ := member
    rw [List.map_cons, List.mem_cons, not_or] at absent
    rw [insertMember]
    split
    · exact .refl _
    · rw [if_neg absent.1]
      exact ((ih absent.2).cons _).trans (.swap _ _ _)

theorem Ascending.insertMember {name : String} {value : Json} {members : List (String × Json)}
    (ascending : Ascending members) (absent : name ∉ members.map Prod.fst) :
    Ascending (insertMember name value members) := by
  induction members with
  | nil => exact List.pairwise_singleton _ _
  | cons member rest ih =>
    obtain ⟨other, kept⟩ := member
    rw [List.map_cons, List.mem_cons, not_or] at absent
    obtain ⟨least, others⟩ := List.pairwise_cons.mp ascending
    rw [Json.insertMember]
    split
    · rename_i smaller
      refine List.pairwise_cons.mpr ⟨?_, ascending⟩
      intro later among
      rcases List.mem_cons.mp among with rfl | among
      · exact smaller
      · exact lt_trans smaller (least later among)
    · rename_i greater
      rw [if_neg absent.1]
      refine List.pairwise_cons.mpr ⟨?_, ih others absent.2⟩
      intro later among
      rcases List.mem_cons.mp ((insertMember_perm absent.2).mem_iff.mp among) with rfl | among
      · exact lt_of_le_of_ne (not_lt.mp greater) (Ne.symm absent.1)
      · exact least later among

private theorem foldl_insertMember {members sorted : List (String × Json)}
    (ascending : Ascending sorted) (distinct : ((sorted ++ members).map Prod.fst).Nodup) :
    Ascending (members.foldl (fun sorted (name, value) => insertMember name value sorted) sorted) ∧
      (members.foldl (fun sorted (name, value) => insertMember name value sorted) sorted).Perm
        (sorted ++ members) := by
  induction members generalizing sorted with
  | nil => exact ⟨ascending, by simp⟩
  | cons member rest ih =>
    obtain ⟨name, value⟩ := member
    have moved : (sorted ++ (name, value) :: rest).Perm ((name, value) :: sorted ++ rest) :=
      List.perm_middle
    have absent : name ∉ sorted.map Prod.fst := by
      have front := (moved.map Prod.fst).nodup_iff.mp distinct
      simp only [List.cons_append, List.map_cons, List.map_append, List.nodup_cons,
        List.mem_append, not_or] at front
      exact front.1.1
    have inserted : (insertMember name value sorted ++ rest).Perm
        (sorted ++ (name, value) :: rest) :=
      ((insertMember_perm absent).append_right rest).trans moved.symm
    obtain ⟨ascends, same⟩ := ih (ascending.insertMember absent)
      ((inserted.map Prod.fst).nodup_iff.mpr distinct)
    exact ⟨ascends, same.trans inserted⟩

/-- Members of distinct names are sorted by name, and none is lost. -/
theorem sortMembers_spec {members : List (String × Json)}
    (distinct : (members.map Prod.fst).Nodup) :
    Ascending (sortMembers members) ∧ (sortMembers members).Perm members :=
  foldl_insertMember List.Pairwise.nil distinct

theorem Ascending.nodup {α : Type u} {members : List (String × α)}
    (ascending : Ascending members) : (members.map Prod.fst).Nodup :=
  List.pairwise_map.mpr (ascending.imp ne_of_lt)

theorem Ascending.eq_of_perm {α : Type u} {one other : List (String × α)} (first : Ascending one)
    (second : Ascending other) (same : one.Perm other) : one = other :=
  same.eq_of_pairwise (fun _ _ _ _ before behind => absurd before (lt_asymm behind)) first second

theorem names_sortedMembers (members : List (String × Json)) :
    (sortedMembers members).map Prod.fst = members.map Prod.fst := by
  induction members with
  | nil => rfl
  | cons member rest ih => simp [sortedMembers, ih]

theorem sortedItems_records (records : List (List (String × Json))) :
    sortedItems (records.map .record) =
      (records.map fun members => sortMembers (sortedMembers members)).map .record := by
  induction records with
  | nil => rfl
  | cons members rest ih => simp [sortedItems, sorted, ih]

end Json

namespace Labelled

variable {α : Type u}

private theorem putEntry_of_absent {name : String} {value : α} {entries : List (String × α)}
    (absent : name ∉ entries.map Prod.fst) :
    putEntry name value entries = entries ++ [(name, value)] := by
  induction entries with
  | nil => rfl
  | cons entry rest ih =>
    rw [List.map_cons, List.mem_cons, not_or] at absent
    rw [putEntry, if_neg (Ne.symm absent.1), ih absent.2, List.cons_append]

private theorem entries_putAll (table : Labelled α) {entries : List (String × α)}
    (distinct : ((table.entries ++ entries).map Prod.fst).Nodup) :
    (table.putAll entries).entries = table.entries ++ entries := by
  induction entries generalizing table with
  | nil => simp [putAll]
  | cons entry rest ih =>
    obtain ⟨name, value⟩ := entry
    have absent : name ∉ table.entries.map Prod.fst := by
      have front := (List.perm_middle.map Prod.fst).nodup_iff.mp distinct
      simp only [List.map_cons, List.map_append, List.nodup_cons, List.mem_append, not_or] at front
      exact front.1.1
    have grown : (table.put name value).entries = table.entries ++ [(name, value)] :=
      putEntry_of_absent absent
    have others := ih (table.put name value) (by simpa [grown] using distinct)
    rw [grown, List.append_assoc, List.singleton_append] at others
    exact others

theorem entries_ofList {entries : List (String × α)} (distinct : (entries.map Prod.fst).Nodup) :
    (ofList entries).entries = entries :=
  entries_putAll empty distinct

end Labelled

namespace Row

/-- The cells that a record's members write. -/
def cells (members : List (String × Json)) : List (String × Value) :=
  members.map fun (header, value) => (header, Value.ofMember value.sorted)

theorem cells_eq (members : List (String × Json)) : cells members =
    (Json.sortedMembers members).map fun (header, value) => (header, Value.ofMember value) := by
  induction members with
  | nil => rfl
  | cons member rest ih => simpa [cells, Json.sortedMembers] using ih

theorem names_cells (members : List (String × Json)) :
    (cells members).map Prod.fst = members.map Prod.fst := by
  simp [cells, Function.comp_def]

/-- The row whose columns stand as the members of the record are written. -/
def asWritten (members : List (String × Json)) : Row := Labelled.ofList (cells members)

/-- The row whose columns stand in the order of their names. -/
def byName (members : List (String × Json)) : Row :=
  ofMembers (Json.sortMembers (Json.sortedMembers members))

theorem names_resolve (extra : Context) (row : Row) : (resolve extra row).names = row.names :=
  names_resolveCells _ _

theorem names_asWritten {members : List (String × Json)}
    (distinct : (members.map Prod.fst).Nodup) :
    (asWritten members).names = members.map Prod.fst := by
  rw [asWritten, Labelled.names, Labelled.entries_ofList (names_cells members ▸ distinct),
    names_cells]

theorem byName_spec {members : List (String × Json)} (distinct : (members.map Prod.fst).Nodup) :
    Json.Ascending (byName members).entries ∧ (byName members).entries.Perm (cells members) := by
  rw [← Json.names_sortedMembers] at distinct
  obtain ⟨ascending, same⟩ := Json.sortMembers_spec distinct
  have names : ((Json.sortMembers (Json.sortedMembers members)).map
      fun (header, value) => (header, Value.ofMember value)).map Prod.fst =
        (Json.sortMembers (Json.sortedMembers members)).map Prod.fst := by
    simp [Function.comp_def]
  rw [byName, ofMembers, Labelled.entries_ofList (names ▸ ascending.nodup), cells_eq]
  exact ⟨List.pairwise_map.mpr ascending, same.map _⟩

theorem byName_of_ascending {members : List (String × Json)} (ascending : Json.Ascending members) :
    byName members = asWritten members := by
  have inside : Json.Ascending (Json.sortedMembers members) := by
    rw [Json.Ascending, ← List.pairwise_map, Json.names_sortedMembers]
    exact List.pairwise_map.mpr ascending
  obtain ⟨sorted, same⟩ := Json.sortMembers_spec inside.nodup
  rw [byName, sorted.eq_of_perm inside same, asWritten, cells_eq]
  rfl

/-- A row is resolved as it is written just if its names ascend. -/
theorem resolve_asWritten_iff (extra : Context) {members : List (String × Json)}
    (distinct : (members.map Prod.fst).Nodup) :
    resolve extra (byName members) = resolve extra (asWritten members) ↔
      Json.Ascending members := by
  constructor
  · intro same
    have names : (byName members).names = members.map Prod.fst := by
      rw [← names_resolve extra, same, names_resolve, names_asWritten distinct]
    have sorted := List.pairwise_map.mpr (byName_spec distinct).1
    exact List.pairwise_map.mp (names ▸ sorted)
  · intro ascending
    rw [byName_of_ascending ascending]

private theorem ofItems_records (place : Nat) (records : List (List (String × Json))) :
    ofItems place (records.map .record) = .ok (records.map ofMembers) := by
  induction records generalizing place with
  | nil => rfl
  | cons members rest ih => simp [ofItems, ih]

theorem readAll_records {text : String} {records : List (List (String × Json))}
    (read : Json.readWritten? text = some (.list (records.map .record))) :
    readAll text = .ok (records.map byName) := by
  have sorted : Json.read? text = some (.list
      ((records.map fun members => Json.sortMembers (Json.sortedMembers members)).map .record)) := by
    rw [Json.read?, read, Option.map_some, Json.sorted, Json.sortedItems_records]
  rw [readAll, sorted]
  refine (ofItems_records 0 _).trans ?_
  rw [List.map_map]
  rfl

end Row

/-- Rows are answered with their columns in the order of their names, and resolved in that order. That
is as they are written just if the names ascend in every record. -/
theorem Reply.ofCommand_rows {text : String} {input? output? : Option String} {assignments : List String}
    {records : List (List (String × Json))} {extra : Context}
    (read : Json.readWritten? text = some (.list (records.map .record)))
    (distinct : ∀ members ∈ records, (members.map Prod.fst).Nodup)
    (assigned : Context.ofAssignments assignments = .ok extra) :
    ∃ rows : List Row,
      List.Forall₂ (fun row members => Json.Ascending row.entries ∧
        row.entries.Perm (Row.cells members)) rows records ∧
      ofCommand (some text) (.rows input? output? assignments) =
        ofRows output? (Row.resolveAll extra rows) ∧
      (Row.resolveAll extra rows = Row.resolveAll extra (records.map Row.asWritten) ↔
        ∀ members ∈ records, Json.Ascending members) := by
  refine ⟨records.map Row.byName, ?_, ?_, ?_⟩
  · rw [List.forall₂_map_left_iff, List.forall₂_same]
    exact fun members among => Row.byName_spec (distinct members among)
  · simp only [ofCommand, Row.readAll_records read, assigned, proceed]
  · simp only [Row.resolveAll, List.map_map, List.map_inj_left, Function.comp_def]
    exact forall₂_congr fun members among => Row.resolve_asWritten_iff extra (distinct members among)

def Json.isPairOf (one other : String × String) : Option Json → Bool
  | some (.list [.record [(first, .text firstText), (second, .text secondText)]]) =>
    (first, firstText) == one && (second, secondText) == other
  | _ => false

theorem Json.eq_of_isPairOf {one other : String × String} {document : Option Json}
    (found : Json.isPairOf one other document) :
    document = some (.list [.record [(one.1, .text one.2), (other.1, .text other.2)]]) := by
  unfold Json.isPairOf at found
  split at found
  · rw [Bool.and_eq_true, beq_iff_eq, beq_iff_eq] at found
    obtain ⟨rfl, rfl⟩ := found
    rfl
  · cases found

/-- A column that uses the one in front of it stays empty where its name comes first. -/
theorem Reply.ofCommand_rows_chained :
    let answer := ofCommand (some "[\x7b\"b\":\"=1\",\"a\":\"=b\"\x7d]") (.rows none none [])
    let written := [Row.asWritten [("b", .text "=1"), ("a", .text "=b")]]
    (∃ rows, answer = ofRows none (Row.resolveAll Labelled.empty rows) ∧
      Row.resolveAll Labelled.empty rows ≠ Row.resolveAll Labelled.empty written) ∧
      answer.output 0 ≠ (ofRows none (Row.resolveAll Labelled.empty written)).output 0 := by
  have isRead : Json.readWritten? "[\x7b\"b\":\"=1\",\"a\":\"=b\"\x7d]" =
      some (.list ([[("b", .text "=1"), ("a", .text "=b")]].map .record)) :=
    @Json.eq_of_isPairOf ("b", "=1") ("a", "=b") _ (by decide +kernel)
  intro answer written
  constructor
  · obtain ⟨rows, _, same, inOrder⟩ :=
      @ofCommand_rows _ none none [] _ Labelled.empty isRead (by decide) rfl
    refine ⟨rows, same, fun resolved => ?_⟩
    have ascending := inOrder.mp resolved _ List.mem_cons_self
    have first : "b" < "a" := List.rel_of_pairwise_cons ascending List.mem_cons_self
    exact absurd first (by decide +kernel)
  · decide +kernel

end PhraseSheet
