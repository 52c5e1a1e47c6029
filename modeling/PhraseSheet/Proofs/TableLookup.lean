import PhraseSheet.Proofs.Calls
import PhraseSheet.Proofs.ErrorOrigin

namespace PhraseSheet.Function

/-- The first cell of the row is the key. -/
def StartsWith (key : Value) (row : List Value) : Prop := ∃ cell ∈ row.head?, sameKey key cell

/-- What is seen of a row that is passed by. -/
def outline (row : List Value) : Nat × Option Value := (row.length, row.head?)

/-- The arguments ask for a column, counted from one, that the first row of the table has. At most one
argument stands behind the column, and none is an error. -/
structure Asks (key : Value) (rows : List (List Value)) (column : Value) (others : List Value)
    (place : Nat) : Prop where
  scalar : key.isArray = false
  sound : ∀ argument ∈ key :: column :: others, argument.isError = false
  few : others.length ≤ 1
  number : ∃ x, column.asNumber? = some x ∧ Decimal.truncated columnNumberLimit x = place
  positive : 1 ≤ place
  within : ∃ row ∈ rows.head?, place ≤ row.length

/-- The row starts with the key, and none in front of it does. -/
structure FirstMatch (key : Value) (rows before : List (List Value)) (row : List Value)
    (after : List (List Value)) : Prop where
  rows_eq : rows = before ++ row :: after
  starts : StartsWith key row
  first : ∀ earlier ∈ before, ¬ StartsWith key earlier

section

variable {key column : Value} {rows before : List (List Value)} {row : List Value}
  {after : List (List Value)} {others : List Value} {place : Nat}

theorem startsWith_iff : StartsWith key row ↔ (row.head?.any (sameKey key) = true) := by
  rw [Option.any_eq_true, StartsWith]
  rfl

theorem startsWith_congr {other : List Value} (same : outline other = outline row) :
    StartsWith key other ↔ StartsWith key row := by
  rw [StartsWith, StartsWith, (Prod.mk.inj same).2]

theorem firstMatch_iff_find? :
    (∃ before after, FirstMatch key rows before row after) ↔
      rows.find? (fun row => row.head?.any (sameKey key)) = some row := by
  rw [List.find?_eq_some_iff_append]
  constructor
  · rintro ⟨before, after, whole, starts, first⟩
    refine ⟨startsWith_iff.mp starts, before, after, whole, ?_⟩
    intro earlier member
    simpa [startsWith_iff] using first earlier member
  · rintro ⟨starts, before, after, whole, first⟩
    refine ⟨before, after, whole, startsWith_iff.mpr starts, ?_⟩
    intro earlier member
    simpa [startsWith_iff] using first earlier member

theorem exists_firstMatch (some : ∃ row ∈ rows, StartsWith key row) :
    ∃ before row after, FirstMatch key rows before row after := by
  obtain ⟨row, member, starts⟩ := some
  cases found : rows.find? fun row => row.head?.any (sameKey key) with
  | none => exact absurd (startsWith_iff.mp starts) (List.find?_eq_none.mp found row member)
  | some first =>
    obtain ⟨before, after, isFirst⟩ := firstMatch_iff_find?.mpr found
    exact ⟨before, first, after, isFirst⟩

/-- Other rows with the same outlines in front, and any rows behind, leave the match the first. -/
theorem FirstMatch.replace (found : FirstMatch key rows before row after)
    {otherBefore otherAfter : List (List Value)} {other : List Value}
    (sameBefore : otherBefore.map outline = before.map outline)
    (same : outline other = outline row) :
    FirstMatch key (otherBefore ++ other :: otherAfter) otherBefore other otherAfter where
  rows_eq := rfl
  starts := (startsWith_congr same).mpr found.starts
  first := by
    intro earlier member
    have listed : outline earlier ∈ before.map outline :=
      sameBefore ▸ List.mem_map_of_mem member
    obtain ⟨original, originalMember, sameOutline⟩ := List.mem_map.mp listed
    rw [← startsWith_congr sameOutline]
    exact found.first original originalMember

theorem Asks.error?_eq_none (asks : Asks key rows column others place) :
    (key :: .array rows :: column :: others).findSome? Value.error? = none := by
  rw [List.findSome?_eq_none_iff]
  intro argument member
  rw [Value.error?_eq_none_iff]
  rcases List.mem_cons.mp member with rfl | later
  · exact asks.sound argument List.mem_cons_self
  · rcases List.mem_cons.mp later with rfl | last
    · rfl
    · exact asks.sound argument (List.mem_cons_of_mem _ last)

theorem Asks.lookUpRow_eq (asks : Asks key rows column others place) :
    lookUpRow key rows place =
      (rows.find? fun row => row.head?.any (sameKey key)).elim (.error .notAvailable)
        fun row => row[place - 1]?.getD .empty := by
  obtain ⟨first, isFirst, within⟩ := asks.within
  have positive := asks.positive
  have width : rows.head?.elim 0 List.length = first.length := by
    rw [Option.mem_def.mp isFirst]
    rfl
  have index : ((place : Int) - 1).toNat = place - 1 := by omega
  rw [lookUpRow, width, if_neg (by omega), if_neg (by omega), if_neg (by omega), index]
  cases rows.find? fun row => row.head?.any (sameKey key) with
  | some row => rfl
  | none => rfl

theorem Asks.call_eq (asks : Asks key rows column others place) :
    call "VLOOKUP" (key :: .array rows :: column :: others) =
      .ok ((rows.find? fun row => row.head?.any (sameKey key)).elim (.error .notAvailable)
        fun row => row[place - 1]?.getD .empty) := by
  have listed : ⟨"VLOOKUP", 3, some 4, unfailing lookUp⟩ ∈ builtins := by simp [builtins]
  have accepted : accepts ⟨"VLOOKUP", 3, some 4, unfailing lookUp⟩
      (key :: Value.array rows :: column :: others).length := by
    have few := asks.few
    simp only [accepts_iff, List.length_cons]
    exact ⟨by omega, fun most limit => by cases limit; omega⟩
  have noTable : ∀ table, key ≠ .array table := by
    rintro table rfl
    cases asks.scalar
  obtain ⟨x, number, truncated⟩ := asks.number
  rw [← asks.lookUpRow_eq]
  refine (call_of_accepts listed accepted).trans (congrArg Except.ok ?_)
  unfold lookUp
  rw [asks.error?_eq_none]
  dsimp only
  split
  · rename_i table _ _ _ same
    exact absurd (List.cons.inj same).1 (noTable table)
  · rename_i same
    cases same
    rw [number]
    dsimp only
    rw [truncated]
  · rename_i none
    exact absurd rfl (none _ _ _ _)

/-- Of the table a call needs the row that matches first. -/
theorem Asks.call_of_firstMatch (asks : Asks key rows column others place)
    (found : FirstMatch key rows before row after) :
    call "VLOOKUP" (key :: .array rows :: column :: others) =
      .ok (row[place - 1]?.getD .empty) := by
  rw [asks.call_eq, firstMatch_iff_find?.mp ⟨before, after, found⟩, Option.elim_some]

theorem Asks.call_of_noMatch (asks : Asks key rows column others place)
    (none : ∀ row ∈ rows, ¬ StartsWith key row) :
    call "VLOOKUP" (key :: .array rows :: column :: others) = .ok (.error .notAvailable) := by
  have missed : (rows.find? fun row => row.head?.any (sameKey key)) = .none := by
    rw [List.find?_eq_none]
    exact fun row member => mt startsWith_iff.mpr (none row member)
  rw [asks.call_eq, missed, Option.elim_none]

/-- What is asked for is there in every table whose first row has the same outline. -/
theorem Asks.replace (asks : Asks key rows column others place) {otherRows : List (List Value)}
    (same : otherRows.head?.map outline = rows.head?.map outline) :
    Asks key otherRows column others place := by
  obtain ⟨first, isFirst, within⟩ := asks.within
  rw [Option.mem_def.mp isFirst] at same
  obtain ⟨other, isOther, sameOutline⟩ := Option.map_eq_some_iff.mp same
  have length : other.length = first.length := (Prod.mk.inj sameOutline).1
  exact { asks with within := ⟨other, isOther, length ▸ within⟩ }

/-- A look-up gives the cell that is asked for, in the first row that starts with the key, or nothing
if that row is too short; where no row starts with the key it gives an error. A further argument, the
rows behind, and all other cells of that row and of those in front, their first ones apart, may be
exchanged. -/
theorem call_lookUp_first (asks : Asks key rows column others place) :
    ((∃ row ∈ rows, StartsWith key row) →
      ∃ before row after, FirstMatch key rows before row after) ∧
    (∀ before row after, FirstMatch key rows before row after →
      call "VLOOKUP" (key :: .array rows :: column :: others) =
          .ok (row[place - 1]?.getD .empty) ∧
        ∀ otherBefore other otherAfter, otherBefore.map outline = before.map outline →
          outline other = outline row → other[place - 1]? = row[place - 1]? →
          call "VLOOKUP"
              (key :: .array (otherBefore ++ other :: otherAfter) :: column :: others) =
            call "VLOOKUP" (key :: .array rows :: column :: others)) ∧
    ((∀ row ∈ rows, ¬ StartsWith key row) →
      call "VLOOKUP" (key :: .array rows :: column :: others) = .ok (.error .notAvailable)) ∧
    (∀ further : List Value, further.length ≤ 1 → (∀ argument ∈ further, argument.isError = false) →
      call "VLOOKUP" (key :: .array rows :: column :: further) =
        call "VLOOKUP" (key :: .array rows :: column :: others)) := by
  refine ⟨exists_firstMatch, ?found, asks.call_of_noMatch, ?further⟩
  case found =>
    intro before row after found
    refine ⟨asks.call_of_firstMatch found, ?_⟩
    intro otherBefore other otherAfter sameBefore same sameCell
    have sameFirst : (otherBefore ++ other :: otherAfter).head?.map outline =
        rows.head?.map outline := by
      have heads := congrArg List.head? sameBefore
      rw [List.head?_map, List.head?_map] at heads
      rw [found.rows_eq, List.head?_append, List.head?_append, Option.map_or, Option.map_or, heads]
      simp [same]
    rw [(asks.replace sameFirst).call_of_firstMatch (found.replace sameBefore same),
      asks.call_of_firstMatch found, sameCell]
  case further =>
    intro further few sound
    have others : ∀ argument ∈ key :: column :: further, argument.isError = false := by
      simp only [List.forall_mem_cons]
      exact ⟨asks.sound key (by simp), asks.sound column (by simp), sound⟩
    have asksFurther : Asks key rows column further place := { asks with sound := others, few := few }
    rw [asksFurther.call_eq, asks.call_eq]

end

/-- A number is found under the text that spells it, with an empty row and an error in front of it. -/
theorem call_lookUp_first_spelled :
    let rows : List (List Value) :=
      [[.text "SP01", .error .divisionByZero], [], [.number 7, .text "seven"], [.number 7, .empty]]
    call "VLOOKUP" [.text " 7", .array rows, .text "2.9", .boolean true] = .ok (.text "seven") := by
  intro rows
  have asks : Asks (.text " 7") rows (.text "2.9") [.boolean true] 2 := by
    refine ⟨rfl, ?_, by decide, ⟨2.9, by decide +kernel, by decide +kernel⟩, by decide,
      ⟨_, rfl, by decide⟩⟩
    simp [Value.isError, Value.error?]
  have found : FirstMatch (.text " 7") rows [[.text "SP01", .error .divisionByZero], []]
      [.number 7, .text "seven"] [[.number 7, .empty]] := by
    refine ⟨rfl, ⟨.number 7, rfl, by decide +kernel⟩, ?_⟩
    simp only [List.forall_mem_cons, startsWith_iff]
    exact ⟨by decide +kernel, by decide +kernel, by simp⟩
  exact ((call_lookUp_first asks).2.1 _ _ _ found).1

end PhraseSheet.Function
