import PhraseSheet.Command.Assignment
import PhraseSheet.Proofs.AddressReading
import PhraseSheet.Proofs.CellStore
import PhraseSheet.Proofs.HeaderReading

namespace PhraseSheet

namespace SpellsName

theorem continuesName {name : List Char} (spells : SpellsName name) :
    ∀ c ∈ name, Token.continuesName c := by
  cases spells with
  | mk starts goesOn =>
    intro c member
    rcases List.mem_cons.mp member with rfl | later
    · exact Token.continuesName_of_startsName starts
    · exact goesOn c later

theorem trim_eq {name : List Char} (spells : SpellsName name) : Text.trim name = name :=
  Text.trim_of_visible fun c member =>
    Token.not_isBlank_of_continuesName (spells.continuesName c member)

/-- No plus sign stands in a name, so one that is read as a cell looks like a cell. -/
theorem looksLikeCell {name : String} {address : Address} (spells : SpellsName name.toList)
    (read : Address.parse name = .ok address) : Token.looksLikeCell name.toList := by
  obtain ⟨named, written, _, _⟩ := (Address.parse_iff_parts rfl rfl).mp read
  rw [spells.trim_eq] at named written
  obtain ⟨anyLetter, _, _⟩ := Address.columnOfLetters_eq_ok_iff.mp named
  obtain ⟨_, signed, digits, same, anyDigit, isDigit, _⟩ := Address.rowNumber?_eq_some_iff.mp written
  have noSign : '+' ∉ name.toList := fun member =>
    absurd (spells.continuesName '+' member) (by decide)
  cases signed with
  | true =>
    -- the sign stands behind the letters and the marks of the text
    refine absurd ?_ noSign
    rw [← Address.mark_splitFixed name.toList, List.mem_append]
    refine .inr (List.dropWhile_sublist Char.isAlpha |>.subset ?_)
    rw [← Address.mark_splitFixed (List.dropWhile _ _), same]
    simp [Address.plus]
  | false =>
    have noPlus : Address.plus false ++ digits = digits := rfl
    rw [noPlus] at same
    simp only [Token.looksLikeCell, same, Bool.and_eq_true, Bool.not_eq_true',
      List.isEmpty_eq_false_iff, List.all_eq_true]
    exact ⟨⟨anyLetter, anyDigit⟩, isDigit⟩

end SpellsName

/-- A text that assigns a value to a name as formulas write it. -/
structure Assignment where
  /-- What stands in front of the first equals sign. -/
  front : List Char
  behind : List Char
  noSign : '=' ∉ front
  spells : SpellsName (Text.trim front)
  noTruth : ∀ truth ∈ ["TRUE", "FALSE"],
    Text.sameIgnoringCase (String.ofList (Text.trim front)) truth = false

namespace Assignment

def text (assignment : Assignment) : String :=
  String.ofList (assignment.front ++ '=' :: assignment.behind)

def name (assignment : Assignment) : String := String.ofList (Text.trim assignment.front)

def value (assignment : Assignment) : Value :=
  .ofScalar (String.ofList (Text.trim assignment.behind))

/-- The names are the same text or the same cell. -/
def sameTarget (name other : String) : Bool :=
  name == other ||
    match Address.parse name, Address.parse other with
    | .ok cell, .ok otherCell => cell.row == otherCell.row && cell.column == otherCell.column
    | _, _ => false

/-- The value that the last assignment gives to what is named. -/
def lastValue? (asked : String) (assignments : List Assignment) : Option Value :=
  (assignments.filterMap fun one =>
    if sameTarget one.name asked then some one.value else none).getLast?

def key (assignment : Assignment) : String :=
  match Address.parse assignment.name with
  | .ok address => address.key
  | .error _ => assignment.name

theorem key_of_cell {assignment : Assignment} {address : Address}
    (cell : Address.parse assignment.name = .ok address) : assignment.key = address.key := by
  simp only [key, cell]

theorem key_of_name {assignment : Assignment} {failure : AddressError}
    (noCell : Address.parse assignment.name = .error failure) :
    assignment.key = assignment.name := by
  simp only [key, noCell]

/-- No name that is no cell is the key of one, so values are kept apart just if names and cells
are. -/
theorem key_eq_iff (one other : Assignment) :
    one.key = other.key ↔ sameTarget one.name other.name := by
  have apart : ∀ {name failure} (address : Address), Address.parse name = .error failure →
      address.key ≠ name := by
    rintro name failure address noCell rfl
    cases (Address.parse_key address).symm.trans noCell
  simp only [sameTarget, Bool.or_eq_true, beq_iff_eq]
  cases cell : Address.parse one.name with
  | ok address =>
    cases otherCell : Address.parse other.name with
    | ok otherAddress =>
      rw [key_of_cell cell, key_of_cell otherCell, Address.key_eq_iff, Bool.and_eq_true,
        beq_iff_eq, beq_iff_eq]
      constructor
      · exact .inr
      · rintro (same | alike)
        · rw [same, otherCell] at cell
          cases cell
          exact ⟨rfl, rfl⟩
        · exact alike
    | error failure =>
      rw [key_of_cell cell, key_of_name otherCell]
      constructor
      · exact fun same => absurd same (apart address otherCell)
      · rintro (same | ⟨⟨⟩⟩)
        rw [same, otherCell] at cell
        cases cell
  | error failure =>
    cases otherCell : Address.parse other.name with
    | ok otherAddress =>
      rw [key_of_name cell, key_of_cell otherCell]
      constructor
      · exact fun same => absurd same.symm (apart otherAddress cell)
      · rintro (same | ⟨⟨⟩⟩)
        rw [same, otherCell] at cell
        cases cell
    | error otherFailure =>
      rw [key_of_name cell, key_of_name otherCell]
      simp

theorem assign_text (assignment : Assignment) (context : Context) :
    context.assign assignment.text = .ok (context.put assignment.key assignment.value) := by
  have inFront : ∀ c ∈ assignment.front, (c != '=') = true := by
    intro c member
    rw [bne_iff_ne]
    rintro rfl
    exact assignment.noSign member
  have stops : ∀ c ∈ ('=' :: assignment.behind).head?, (c != '=') = false := by
    rintro c ⟨⟩
    rfl
  have some : Text.trim assignment.front ≠ [] := by
    intro nothing
    have spells := assignment.spells
    rw [nothing] at spells
    cases spells
  simp only [Context.assign, text, String.toList_ofList, dropWhile_run inFront stops,
    takeWhile_run inFront stops, List.isEmpty_iff, some, if_false]
  rw [Context.bind, key, ← name]
  cases Address.parse assignment.name <;> rfl

/-- Assignments write their values one after the other, each under its key. -/
theorem ofAssignments_texts (assignments : List Assignment) :
    Context.ofAssignments (assignments.map text) =
      .ok (Context.run .empty (assignments.map fun one => .named one.key one.value)) := by
  have run : ∀ context : Context, (assignments.map text).foldlM Context.assign context =
      .ok (context.run (assignments.map fun one => .named one.key one.value)) := by
    induction assignments with
    | nil => exact fun _ => rfl
    | cons first rest ih =>
      intro context
      rw [List.map_cons, List.foldlM_cons, assign_text]
      exact ih (context.put first.key first.value)
  exact run .empty

/-- Under the key of a name stands the last value that was assigned to it. -/
theorem find?_run_key (assignments : List Assignment) (asked : Assignment) :
    (Context.run .empty (assignments.map fun one => .named one.key one.value)).find? asked.key =
      lastValue? asked.name assignments := by
  rw [Context.find?_run, lastValueAt?, List.filterMap_map, lastValue?]
  have each : ∀ one ∈ assignments,
      (Write.valueAt? asked.key ∘ fun one : Assignment => .named one.key one.value) one =
        if sameTarget one.name asked.name then some one.value else none := by
    intro one _
    simp only [Function.comp, Write.valueAt?, key_eq_iff]
  rw [List.filterMap_congr each]
  exact Option.or_none

theorem exists_lastValue? {assignments : List Assignment} {asked : Assignment}
    (member : asked ∈ assignments) : ∃ value, lastValue? asked.name assignments = some value := by
  have same : sameTarget asked.name asked.name := (key_eq_iff asked asked).mp rfl
  apply Option.isSome_iff_exists.mp
  rw [lastValue?, List.getLast?_isSome]
  exact List.ne_nil_of_mem (List.mem_filterMap.mpr ⟨asked, member, if_pos same⟩)

/-- A formula that writes just the name of an assignment has the value under its key. -/
theorem hasValue_of_find? {assignment : Assignment} {seen : Context} {value : Value}
    (found : seen.find? assignment.key = some value) :
    HasValue seen ("=" ++ assignment.name) value := by
  have spells : SpellsName assignment.name.toList := by
    rw [name, String.toList_ofList]
    exact assignment.spells
  rcases Row.hasValue_name spells assignment.noTruth with
    ⟨cell, same, hasValue⟩ | ⟨noCell, hasValue⟩
  · have named : Address.parse assignment.name = .ok cell.address := by
      rw [← same]
      exact cell.named
    rw [key_of_cell named] at found
    rwa [Context.cell?, found] at hasValue
  · cases read : Address.parse assignment.name with
    | ok address =>
      exact absurd rfl (noCell ⟨assignment.name, address, spells.looksLikeCell read, read⟩)
    | error failure =>
      rw [key_of_name read] at found
      rwa [Expr.nameValue, Row.get?_of_find? found] at hasValue

/-- Texts that assign values to names can all be carried out, and then each of the names, written as
a formula, has the value that was last assigned to this name or to the cell that it is. -/
theorem hasValue_ofAssignments (assignments : List Assignment) :
    ∃ context, Context.ofAssignments (assignments.map text) = .ok context ∧
      ∀ asked ∈ assignments, ∃ value, lastValue? asked.name assignments = some value ∧
        HasValue context ("=" ++ asked.name) value := by
  refine ⟨_, ofAssignments_texts assignments, ?_⟩
  intro asked member
  obtain ⟨value, last⟩ := exists_lastValue? member
  exact ⟨value, last, hasValue_of_find? ((find?_run_key assignments asked).trans last)⟩

/-- Names that differ in the case of letters, and one cell under two spellings. -/
theorem hasValue_ofAssignments_spellings :
    ∃ context, Context.ofAssignments [" x = 3", "b2=TRUE", "$B$02 = x=y", "X=4"] = .ok context ∧
      HasValue context "=x" (.number 3) ∧ HasValue context "=b2" (.text "x=y") := by
  let small : Assignment :=
    { front := " x ".toList
      behind := " 3".toList
      noSign := by decide
      spells := Token.spellsName_of_ascii (c := 'x') (.inl (by decide)) (by decide)
      noTruth := by decide }
  let cell : Assignment :=
    { front := "b2".toList
      behind := "TRUE".toList
      noSign := by decide
      spells := Token.spellsName_of_ascii (c := 'b') (.inl (by decide)) (by decide)
      noTruth := by decide }
  let marked : Assignment :=
    { front := "$B$02 ".toList
      behind := " x=y".toList
      noSign := by decide
      spells := SpellsName.mk (c := '$') (by decide) (by decide)
      noTruth := by decide }
  let capital : Assignment :=
    { front := "X".toList
      behind := "4".toList
      noSign := by decide
      spells := Token.spellsName_of_ascii (c := 'X') (.inl (by decide)) (by decide)
      noTruth := by decide }
  obtain ⟨context, assigned, reads⟩ := hasValue_ofAssignments [small, cell, marked, capital]
  obtain ⟨value, last, hasValue⟩ := reads small (by simp)
  obtain ⟨cellValue, cellLast, cellHasValue⟩ := reads cell (by simp)
  have names : small.name = "x" ∧ cell.name = "b2" ∧ marked.name = "$B$02" ∧ capital.name = "X" :=
    ⟨rfl, rfl, rfl, rfl⟩
  have targets : sameTarget "x" "x" ∧ ¬sameTarget "b2" "x" ∧ ¬sameTarget "$B$02" "x" ∧
      ¬sameTarget "X" "x" := by
    decide +kernel
  have cellTargets : ¬sameTarget "x" "b2" ∧ sameTarget "b2" "b2" ∧ sameTarget "$B$02" "b2" ∧
      ¬sameTarget "X" "b2" := by
    decide +kernel
  have number : Value.ofScalar "3" = .number 3 := by
    have read : Decimal.ofText? "3" = some 3 := by decide +kernel
    simp only [Value.ofScalar, read]
  have text : Value.ofScalar "x=y" = .text "x=y" := by
    have unread : Decimal.ofText? "x=y" = none := by decide +kernel
    have noTruth : Text.sameIgnoringCase "x=y" "TRUE" = false ∧
        Text.sameIgnoringCase "x=y" "FALSE" = false := by decide
    simp [Value.ofScalar, unread, noTruth]
  have values : small.value = .number 3 ∧ marked.value = .text "x=y" := ⟨number, text⟩
  simp [lastValue?, names, targets, values] at last
  simp [lastValue?, names, cellTargets, values] at cellLast
  subst last cellLast
  exact ⟨context, assigned, hasValue, cellHasValue⟩

end Assignment

end PhraseSheet
