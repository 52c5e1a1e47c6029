import PhraseSheet.Proofs.GroupedAmounts

/-! The separators in amounts. An amount is read without its points or without its commas. Points
are left out only where each stands in front of three digits. Commas are left out wherever they
stand, so one that starts a fraction is lost. -/

namespace PhraseSheet.Amount

/-- The digits of an amount with their separators and the minus sign: the text without its ending,
currency signs and white space. -/
def written (text : List Char) : List Char :=
  ((withoutEnding? (Text.trim text)).getD (Text.trim text)).filter fun c =>
    !isCurrencySign c && !Text.isBlank c

/-- An ending or a currency sign marks dong. -/
def marksDong (text : List Char) : Bool :=
  (withoutEnding? (Text.trim text)).isSome ||
    ((withoutEnding? (Text.trim text)).getD (Text.trim text)).contains '₫'

def dropped (text : List Char) : Char :=
  if hasPointGroups (written text) && (marksDong text || 1 < (written text).count '.') then '.'
  else ','

/-- The digits that are read, with the other separator. -/
def kept (text : List Char) : List Char := (written text).filter (· != dropped text)

/-- The text writes the number: digits, perhaps with a point among or around them, and a minus sign
in front of numbers below zero. -/
inductive WritesNumber : List Char → Float → Prop
  | of (negative : Bool) (digits : ∀ c ∈ whole, c.isDigit) (shape : Token.Fraction fraction)
      (any : whole ++ fraction.tail ≠ []) :
      WritesNumber (minus negative ++ (whole ++ fraction)) (number negative whole fraction.tail)

/-- Three digits stand at the start of the text and none behind them: a separator follows or nothing
at all. -/
def StartsGroup (text : List Char) : Prop :=
  (text.takeWhile Char.isDigit).length = 3 ∧
    (text.dropWhile Char.isDigit).head?.all fun c => c == '.' || c == ','

/-- Wherever the separator stands it is in front of a group of three digits. -/
def SeparatesGroups (separator : Char) (text : List Char) : Prop :=
  ∀ after, separator :: after <:+ text → StartsGroup after

/-- If the text is an amount, no separator is left out but in front of a group of three digits. -/
def DropsOnlyGrouping (text : List Char) : Prop :=
  ∀ value, read? text = some value → SeparatesGroups (dropped text) (written text)

section

variable {c separator : Char} {run rest text : List Char}

theorem separatesGroups_cons : SeparatesGroups separator (c :: rest) ↔
    (c = separator → StartsGroup rest) ∧ SeparatesGroups separator rest := by
  constructor
  · intro separates
    refine ⟨?_, fun after suffix => separates after (suffix.trans (List.suffix_cons c rest))⟩
    rintro rfl
    exact separates rest (List.suffix_refl _)
  · rintro ⟨first, later⟩ after suffix
    rcases List.suffix_cons_iff.mp suffix with same | suffix
    · cases same
      exact first rfl
    · exact later after suffix

theorem separatesGroups_of_not_mem (absent : separator ∉ text) : SeparatesGroups separator text :=
  fun _ suffix => absurd (suffix.subset List.mem_cons_self) absent

theorem separatesGroups_append (absent : separator ∉ run)
    (separates : SeparatesGroups separator rest) : SeparatesGroups separator (run ++ rest) := by
  induction run with
  | nil => exact separates
  | cons c run ih =>
    rw [List.mem_cons, not_or] at absent
    exact separatesGroups_cons.mpr ⟨fun same => absurd same.symm absent.1, ih absent.2⟩

instance : DecidablePred StartsGroup := fun text =>
  inferInstanceAs (Decidable ((text.takeWhile Char.isDigit).length = 3 ∧
    (text.dropWhile Char.isDigit).head?.all fun c => c == '.' || c == ','))

instance decidableSeparatesGroups (separator : Char) :
    (text : List Char) → Decidable (SeparatesGroups separator text)
  | [] => isTrue (separatesGroups_of_not_mem List.not_mem_nil)
  | _ :: rest =>
    have := decidableSeparatesGroups separator rest
    decidable_of_iff _ separatesGroups_cons.symm

theorem separatesGroups_flatMap {others : List (List Char)} (listed : separator ∈ ['.', ','])
    (isDigit : ∀ group ∈ others, ∀ c ∈ group, c.isDigit)
    (length_eq : ∀ group ∈ others, group.length = 3) :
    SeparatesGroups separator (others.flatMap (separator :: ·)) := by
  have apart : separator.isDigit = false := by
    have each : ∀ sign ∈ ['.', ','], sign.isDigit = false := by decide
    exact each separator listed
  induction others with
  | nil => exact separatesGroups_of_not_mem List.not_mem_nil
  | cons group others ih =>
    obtain ⟨digits, digitsLater⟩ := List.forall_mem_cons.mp isDigit
    obtain ⟨three, threeLater⟩ := List.forall_mem_cons.mp length_eq
    have head : ∀ c ∈ (others.flatMap (separator :: ·)).head?, c = separator := by
      cases others with
      | nil => simp
      | cons next others => simp
    have group : StartsGroup (group ++ others.flatMap (separator :: ·)) := by
      have stops : ∀ c ∈ (others.flatMap (separator :: ·)).head?, c.isDigit = false :=
        fun c first => head c first ▸ apart
      rw [StartsGroup, takeWhile_run digits stops, dropWhile_run digits stops]
      refine ⟨three, ?_⟩
      cases first : (others.flatMap (separator :: ·)).head? with
      | none => rfl
      | some c => simpa [head c first] using listed
    have absent : separator ∉ _ := fun member => ne_of_isDigit apart (digits _ member) rfl
    rw [List.flatMap_cons, List.cons_append]
    exact separatesGroups_cons.mpr
      ⟨fun _ => group, separatesGroups_append absent (ih digitsLater threeLater)⟩

theorem Groups.separatesGroups (groups : Groups) (negative : Bool)
    (listed : separator ∈ ['.', ',']) :
    SeparatesGroups separator (minus negative ++ groups.written separator) := by
  have each : ∀ sign ∈ ['.', ','], sign.isDigit = false ∧ sign ≠ '-' := by decide
  obtain ⟨apart, unsigned⟩ := each separator listed
  refine separatesGroups_append (fun member => minus_apart unsigned _ member rfl) ?_
  exact separatesGroups_append
    (fun member => ne_of_isDigit apart (groups.isDigit_first _ member) rfl)
    (separatesGroups_flatMap listed groups.isDigit_others groups.length_eq)

theorem exists_flatMap_of_isPointGroups (grouped : isPointGroups text) :
    ∃ others : List (List Char), text = others.flatMap ('.' :: ·) ∧ others ≠ [] ∧
      ∀ group ∈ others, group.length = 3 ∧ ∀ c ∈ group, c.isDigit := by
  fun_induction isPointGroups text with
  | case1 x y z rest ih =>
    simp only [Bool.and_eq_true, Bool.or_eq_true, List.isEmpty_iff] at grouped
    obtain ⟨⟨⟨first, second⟩, third⟩, behind⟩ := grouped
    have group : [x, y, z].length = 3 ∧ ∀ c ∈ [x, y, z], c.isDigit := by
      simp [first, second, third]
    rcases behind with rfl | later
    · exact ⟨[[x, y, z]], rfl, by simp, by simpa using group⟩
    · obtain ⟨others, rfl, _, each⟩ := ih later
      exact ⟨[x, y, z] :: others, rfl, by simp, List.forall_mem_cons.mpr ⟨group, each⟩⟩
  | case2 => cases grouped

theorem exists_minus (text : List Char) : ∃ negative, text = minus negative ++ unsigned text := by
  unfold unsigned
  split
  · exact ⟨true, rfl⟩
  · exact ⟨false, rfl⟩

/-- The check for points between groups finds just these. -/
theorem hasPointGroups_iff : hasPointGroups text ↔ ∃ (groups : Groups) (negative : Bool),
    text = minus negative ++ groups.written '.' ∧ groups.others ≠ [] := by
  constructor
  · intro grouped
    unfold hasPointGroups at grouped
    simp only [Bool.and_eq_true, decide_eq_true_eq] at grouped
    obtain ⟨⟨some, few⟩, behind⟩ := grouped
    obtain ⟨negative, same⟩ := exists_minus text
    obtain ⟨others, rest, any, each⟩ := exists_flatMap_of_isPointGroups behind
    have parts := List.takeWhile_append_dropWhile (p := Char.isDigit) (l := unsigned text)
    rw [drop_takeWhile] at rest
    let groups : Groups :=
      { first := (unsigned text).takeWhile Char.isDigit
        others := others
        isDigit := List.forall_mem_cons.mpr
          ⟨List.all_eq_true.mp List.all_takeWhile, fun group member => (each group member).2⟩
        anyDigit := List.length_pos_iff.mp some
        first_le := few
        length_eq := fun group member => (each group member).1 }
    refine ⟨groups, negative, ?_, any⟩
    rw [Groups.written, ← rest, parts]
    exact same
  · rintro ⟨groups, negative, rfl, any⟩
    simpa [hasPointGroups_written] using any

theorem isPlain_iff : isPlain text ↔ ∃ value, WritesNumber text value := by
  constructor
  · intro plain
    obtain ⟨negative, same⟩ := exists_minus text
    have digits : ∀ c ∈ (unsigned text).takeWhile Char.isDigit, c.isDigit :=
      List.all_eq_true.mp List.all_takeWhile
    have parts := List.takeWhile_append_dropWhile (p := Char.isDigit) (l := unsigned text)
    rw [← parts] at same
    unfold isPlain at plain
    split at plain
    · rename_i none
      rw [none] at same
      have any : (unsigned text).takeWhile Char.isDigit ≠ [] := by simpa using plain
      rw [same]
      exact ⟨_, .of negative digits .none (by simpa using any)⟩
    · rename_i places pointed
      obtain ⟨behind, any⟩ := Bool.and_eq_true_iff.mp plain
      rw [pointed] at same
      rw [same]
      refine ⟨_, .of negative digits (.point (List.all_eq_true.mp behind)) ?_⟩
      intro none
      rw [List.tail_cons, List.append_eq_nil_iff] at none
      simp [none] at any
    · cases plain
  · rintro ⟨_, writes⟩
    cases writes with
    | of negative digits shape any => exact isPlain_fraction digits shape any

theorem WritesNumber.read? {value : Float} (writes : WritesNumber text value) :
    Decimal.read? text = some value := by
  cases writes with
  | of negative digits shape any => exact decimal_read?_fraction digits shape any

/-- The number of an amount is the one that the kept characters write. -/
theorem read?_eq_some_iff {value : Float} :
    read? text = some value ↔ WritesNumber (kept text) value := by
  have read : read? text = if isPlain (kept text) then Decimal.read? (kept text) else none := by
    have left : kept text = if hasPointGroups (written text) &&
        (marksDong text || 1 < (written text).count '.') then (written text).filter (· != '.')
        else (written text).filter (· != ',') := by
      unfold kept dropped
      split <;> rfl
    rw [left]
    rfl
  rw [read]
  constructor
  · intro found
    split at found
    · rename_i plain
      obtain ⟨other, writes⟩ := isPlain_iff.mp plain
      rw [writes.read?] at found
      cases found
      exact writes
    · cases found
  · intro writes
    rw [if_pos (isPlain_iff.mpr ⟨value, writes⟩), writes.read?]

/-- Points are left out of groups with points between them, if the amount is one of dong or there
are several points. -/
theorem dropped_eq_point_iff : dropped text = '.' ↔ ∃ (groups : Groups) (negative : Bool),
    written text = minus negative ++ groups.written '.' ∧ groups.others ≠ [] ∧
      (marksDong text ∨ 2 ≤ groups.others.length) := by
  have checks : dropped text = '.' ↔
      hasPointGroups (written text) ∧ (marksDong text ∨ 1 < (written text).count '.') := by
    unfold dropped
    split <;> simp_all
  rw [checks, hasPointGroups_iff]
  constructor
  · rintro ⟨⟨groups, negative, same, any⟩, thousands⟩
    rw [same, count_minus_written] at thousands
    exact ⟨groups, negative, same, any, thousands⟩
  · rintro ⟨groups, negative, same, any, thousands⟩
    rw [same, count_minus_written]
    exact ⟨⟨groups, negative, rfl, any⟩, thousands⟩

theorem dropped_cases (text : List Char) : dropped text = ',' ∨ dropped text = '.' := by
  unfold dropped
  split
  · exact .inr rfl
  · exact .inl rfl

end

/-- An amount has the number that is written without one of the separators. Points are left out only
from groups of three digits with points between them, where no commas are. Commas are left out
without such a check, so none is lost just if the text is no amount or they all separate groups. -/
theorem dropsOnlyGrouping_iff (text : List Char) :
    (∀ value, read? text = some value ↔ WritesNumber (kept text) value) ∧
      (dropped text = '.' ↔ ∃ (groups : Groups) (negative : Bool),
        written text = minus negative ++ groups.written '.' ∧ groups.others ≠ [] ∧
          (marksDong text ∨ 2 ≤ groups.others.length)) ∧
        (dropped text ≠ '.' → dropped text = ',') ∧
          (DropsOnlyGrouping text ↔ read? text = none ∨ SeparatesGroups ',' (written text)) := by
  have comma : dropped text ≠ '.' → dropped text = ',' := (dropped_cases text).resolve_right
  have points : dropped text = '.' →
      SeparatesGroups '.' (written text) ∧ SeparatesGroups ',' (written text) := by
    intro point
    obtain ⟨groups, negative, same, _⟩ := dropped_eq_point_iff.mp point
    rw [same]
    refine ⟨groups.separatesGroups negative (by decide), separatesGroups_of_not_mem ?_⟩
    rw [List.mem_append, not_or]
    refine ⟨fun member => minus_apart (by decide) _ member rfl, fun member => ?_⟩
    rcases Groups.mem_written member with digit | same
    · cases digit
    · cases same
  refine ⟨fun value => read?_eq_some_iff, dropped_eq_point_iff, comma, ?only, ?grouping⟩
  case only =>
    intro only
    cases found : read? text with
    | none => exact .inl rfl
    | some value =>
      by_cases point : dropped text = '.'
      · exact .inr (points point).2
      · rw [← comma point]
        exact .inr (only value found)
  case grouping =>
    rintro (none | separates) value found
    · rw [none] at found
      cases found
    · by_cases point : dropped text = '.'
      · rw [point]
        exact (points point).1
      · rwa [comma point]

/-- Commas that separate no groups are left out as those that do. -/
theorem not_dropsOnlyGrouping_commas :
    read? "1,2,3".toList = some 123 ∧ ¬ DropsOnlyGrouping "1,2,3".toList ∧
      read? "$1,250.00".toList = some 1250 ∧ DropsOnlyGrouping "$1,250.00".toList := by
  obtain ⟨read, _, _, only⟩ := dropsOnlyGrouping_iff "1,2,3".toList
  obtain ⟨readGrouped, _, _, onlyGrouped⟩ := dropsOnlyGrouping_iff "$1,250.00".toList
  have number : read? "1,2,3".toList = some 123 := by
    have left : kept "1,2,3".toList = "123".toList := by decide
    have value : Amount.number false "123".toList [] = 123 := by decide +kernel
    have writes := @WritesNumber.of "123".toList [] false (by decide) .none (by decide)
    rw [read, left, ← value]
    exact writes
  have numberGrouped : read? "$1,250.00".toList = some 1250 := by
    have left : kept "$1,250.00".toList = "1250.00".toList := by decide
    have value : Amount.number false "1250".toList "00".toList = 1250 := by decide +kernel
    have writes := @WritesNumber.of "1250".toList ".00".toList false (by decide)
      (.point (by decide)) (by decide)
    rw [readGrouped, left, ← value]
    exact writes
  refine ⟨number, fun drops => ?_, numberGrouped, onlyGrouped.mpr (.inr (by decide))⟩
  rcases only.mp drops with none | separates
  · rw [number] at none
    cases none
  · exact absurd separates (by decide)

end PhraseSheet.Amount
