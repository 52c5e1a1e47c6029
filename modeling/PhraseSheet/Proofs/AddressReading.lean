import PhraseSheet.Proofs.Counting
import PhraseSheet.Proofs.Renaming

namespace PhraseSheet.Address

def mark (fixed : Bool) : List Char := if fixed then ['$'] else []

def plus (signed : Bool) : List Char := if signed then ['+'] else []

/-- A cell as it may be written, without the white space around it: the letters of a column and the
digits of a row, each with its mark. The digits may have a plus sign in front. -/
structure Spelling where
  columnFixed : Bool
  letters : List Char
  rowFixed : Bool
  signed : Bool
  digits : List Char
  anyLetter : letters ≠ []
  isAlpha : ∀ c ∈ letters, c.isAlpha
  column_le : letterCount letters ≤ columnLimit
  anyDigit : digits ≠ []
  isDigit : ∀ c ∈ digits, c.isDigit
  row_pos : 0 < Decimal.digitsNumber digits
  row_le : Decimal.digitsNumber digits ≤ rowLimit

namespace Spelling

def chars (spelling : Spelling) : List Char :=
  mark spelling.columnFixed ++ (spelling.letters ++
    (mark spelling.rowFixed ++ (plus spelling.signed ++ spelling.digits)))

/-- The cell: columns and rows are written counted from one. -/
def address (spelling : Spelling) : Address where
  row := Decimal.digitsNumber spelling.digits - 1
  column := letterCount spelling.letters - 1
  rowFixed := spelling.rowFixed
  columnFixed := spelling.columnFixed
  row_lt := Nat.sub_one_lt_of_le spelling.row_pos spelling.row_le
  column_lt :=
    Nat.sub_one_lt_of_le (letterCount_pos spelling.anyLetter spelling.isAlpha) spelling.column_le

end Spelling

theorem splitFixed_mark (fixed : Bool) {rest : List Char} (unmarked : rest.head? ≠ some '$') :
    splitFixed (mark fixed ++ rest) = (fixed, rest) := by
  cases fixed with
  | true => rfl
  | false =>
    rcases Token.splitFixed_cases rest with ⟨same, _⟩ | ⟨others, rfl, _⟩
    · exact same
    · exact absurd rfl unmarked

theorem mark_splitFixed (text : List Char) :
    mark (splitFixed text).1 ++ (splitFixed text).2 = text := by
  rcases Token.splitFixed_cases text with ⟨same, _⟩ | ⟨others, rfl, same⟩ <;>
    · rw [same]
      rfl

theorem rowNumber?_plus (signed : Bool) {digits : List Char} (unsigned : digits.head? ≠ some '+') :
    rowNumber? (plus signed ++ digits) =
      (Decimal.number? digits).filter (· ≤ writtenRowLimit) := by
  cases signed with
  | true => rfl
  | false =>
    simp only [plus, Bool.false_eq_true, if_false, List.nil_append, rowNumber?]
    split
    · exact absurd rfl unsigned
    · rfl

/-- A row is written in digits, with or without a plus sign in front. -/
theorem rowNumber?_eq_some_iff {text : List Char} {number : Nat} :
    rowNumber? text = some number ↔ number ≤ writtenRowLimit ∧ ∃ signed digits,
      text = plus signed ++ digits ∧ digits ≠ [] ∧ (∀ c ∈ digits, c.isDigit) ∧
        Decimal.digitsNumber digits = number := by
  have unsigned : ∀ {digits : List Char}, (∀ c ∈ digits, c.isDigit) →
      digits.head? ≠ some '+' := by
    intro digits isDigit first
    exact absurd (isDigit '+' (List.mem_of_mem_head? first)) (by decide)
  constructor
  · intro read
    obtain ⟨signed, digits, same, number⟩ : ∃ signed digits, text = plus signed ++ digits ∧
        (Decimal.number? digits).filter (· ≤ writtenRowLimit) = some number := by
      unfold rowNumber? at read
      split at read
      · exact ⟨true, _, rfl, read⟩
      · exact ⟨false, text, rfl, read⟩
    obtain ⟨reads, within⟩ := Option.filter_eq_some_iff.mp number
    exact ⟨of_decide_eq_true within, signed, digits, same, Decimal.number?_eq_some_iff.mp reads⟩
  · rintro ⟨within, signed, digits, rfl, reads⟩
    rw [rowNumber?_plus signed (unsigned reads.2.1), Option.filter_eq_some_iff]
    exact ⟨Decimal.number?_eq_some_iff.mpr reads, decide_eq_true within⟩

/-- A text is a cell just if the letters behind its first mark give the column and what stands
behind them and the second mark gives the row. -/
theorem parse_iff_parts {text : String} {address : Address} {marked behind : Bool × List Char}
    (first : splitFixed (Text.trim text.toList) = marked)
    (second : splitFixed (marked.2.dropWhile Char.isAlpha) = behind) :
    parse text = .ok address ↔
      columnOfLetters (marked.2.takeWhile Char.isAlpha) =
          .ok ⟨address.column, address.column_lt⟩ ∧
        rowNumber? behind.2 = some (address.row + 1) ∧ marked.1 = address.columnFixed ∧
          behind.1 = address.rowFixed := by
  simp only [parse, bind, Except.bind, pure, Except.pure, throw, throwThe, MonadExceptOf.throw,
    first, second]
  constructor
  · intro read
    split at read
    · cases read
    split at read
    · cases read
    split at read
    · cases read
    rename_i column named
    split at read
    · cases read
    split at read
    · cases read
    · cases read
    rename_i row written
    split at read
    · cases read
      exact ⟨named, written, rfl, rfl⟩
    · cases read
  · rintro ⟨named, written, columnFixed, rowFixed⟩
    have anyLetter : marked.2.takeWhile Char.isAlpha ≠ [] := (columnOfLetters_eq_ok_iff.mp named).1
    have anyText : Text.trim text.toList ≠ [] := by
      intro nothing
      rw [nothing] at first
      subst first
      exact anyLetter rfl
    have anyDigit : behind.2 ≠ [] := by
      intro nothing
      rw [nothing] at written
      cases written
    simp only [List.isEmpty_iff, anyText, anyLetter, anyDigit, named, written, if_false]
    rw [dif_pos address.row_lt]
    cases address
    cases columnFixed
    cases rowFixed
    rfl

namespace Spelling

variable {text : String}

theorem head_signed (spelling : Spelling) :
    ∀ c ∈ (plus spelling.signed ++ spelling.digits).head?, c ≠ '$' ∧ c.isAlpha = false := by
  intro c first
  have listed : c = '+' ∨ c ∈ spelling.digits := by
    cases signed : spelling.signed with
    | true =>
      rw [signed] at first
      exact .inl (Option.some.inj first).symm
    | false =>
      rw [signed] at first
      exact .inr (List.mem_of_mem_head? first)
  rcases listed with rfl | member
  · decide
  · have digit := spelling.isDigit c member
    refine ⟨?_, ?_⟩
    · rintro rfl
      cases digit
    · cases letter : c.isAlpha with
      | false => rfl
      | true => exact absurd digit (by simp [not_isDigit_of_isAlpha letter])

theorem parts (spelling : Spelling) :
    let numbered := plus spelling.signed ++ spelling.digits
    let unmarked := spelling.letters ++ (mark spelling.rowFixed ++ numbered)
    splitFixed spelling.chars = (spelling.columnFixed, unmarked) ∧
      unmarked.takeWhile Char.isAlpha = spelling.letters ∧
      splitFixed (unmarked.dropWhile Char.isAlpha) = (spelling.rowFixed, numbered) := by
  intro numbered unmarked
  obtain ⟨letter, others, letters⟩ := List.exists_cons_of_ne_nil spelling.anyLetter
  have isAlpha : letter.isAlpha := spelling.isAlpha letter (by simp [letters])
  have signed := spelling.head_signed
  have noMark : unmarked.head? ≠ some '$' := by
    intro first
    simp only [unmarked, letters, List.cons_append, List.head?_cons, Option.some.injEq] at first
    subst first
    cases isAlpha
  -- the letters end where the mark, the sign or the digits begin
  have stops : ∀ c ∈ (mark spelling.rowFixed ++ numbered).head?, c.isAlpha = false := by
    intro c first
    cases fixed : spelling.rowFixed with
    | true =>
      rw [fixed] at first
      cases first
      rfl
    | false =>
      rw [fixed] at first
      exact (signed c first).2
  refine ⟨splitFixed_mark spelling.columnFixed noMark, takeWhile_run spelling.isAlpha stops, ?_⟩
  rw [dropWhile_run spelling.isAlpha stops]
  exact splitFixed_mark spelling.rowFixed fun first => (signed '$' first).1 rfl

/-- A cell is read as it is spelled. -/
theorem parse (spelling : Spelling) (spelled : Text.trim text.toList = spelling.chars) :
    Address.parse text = .ok spelling.address := by
  obtain ⟨first, letters, second⟩ := spelling.parts
  rw [← spelled] at first
  refine (parse_iff_parts first second).mpr ⟨?_, ?_, rfl, rfl⟩
  · rw [letters, columnOfLetters_eq_ok_iff]
    have positive := letterCount_pos spelling.anyLetter spelling.isAlpha
    exact ⟨spelling.anyLetter, spelling.isAlpha, (Nat.sub_add_cancel positive).symm⟩
  · have positive := spelling.row_pos
    have within := spelling.row_le
    have row : spelling.address.row + 1 = Decimal.digitsNumber spelling.digits :=
      Nat.sub_add_cancel positive
    rw [row, rowNumber?_eq_some_iff]
    exact ⟨Nat.le_trans within (by decide), spelling.signed, spelling.digits, rfl,
      spelling.anyDigit, spelling.isDigit, rfl⟩

/-- Without a sign, a cell as it is spelled is one of formulas too. -/
theorem looksLikeCell_chars (spelling : Spelling) (unsigned : spelling.signed = false) :
    Token.looksLikeCell spelling.chars := by
  have parts := spelling.parts
  rw [unsigned] at parts
  obtain ⟨first, letters, second⟩ := parts
  simp only [Token.looksLikeCell, first, letters, second, Bool.and_eq_true, Bool.not_eq_true',
    List.isEmpty_eq_false_iff, List.all_eq_true]
  exact ⟨⟨spelling.anyLetter, spelling.anyDigit⟩, spelling.isDigit⟩

/-- Whatever is read as a cell is spelled as one. -/
theorem exists_of_parse {address : Address} (read : Address.parse text = .ok address) :
    ∃ spelling : Spelling, Text.trim text.toList = spelling.chars ∧ spelling.address = address := by
  obtain ⟨named, written, columnFixed, rowFixed⟩ := (parse_iff_parts rfl rfl).mp read
  obtain ⟨anyLetter, isAlpha, column⟩ := columnOfLetters_eq_ok_iff.mp named
  obtain ⟨_, signed, digits, same, anyDigit, isDigit, row⟩ := rowNumber?_eq_some_iff.mp written
  have column_lt := address.column_lt
  have row_lt := address.row_lt
  let spelling : Spelling :=
    { columnFixed := address.columnFixed
      letters := (splitFixed (Text.trim text.toList)).2.takeWhile Char.isAlpha
      rowFixed := address.rowFixed
      signed := signed
      digits := digits
      anyLetter := anyLetter
      isAlpha := isAlpha
      column_le := by simp only at column; omega
      anyDigit := anyDigit
      isDigit := isDigit
      row_pos := by omega
      row_le := by omega }
  refine ⟨spelling, ?_, ?_⟩
  · simp only [spelling, chars]
    rw [← same, ← rowFixed, mark_splitFixed, List.takeWhile_append_dropWhile, ← columnFixed,
      mark_splitFixed]
  · cases address
    simp only [Spelling.address, spelling, row, column]
    rfl

theorem signed_iff (spelling : Spelling) : '+' ∈ spelling.chars ↔ spelling.signed := by
  have marks : ∀ fixed, '+' ∉ mark fixed := by decide
  have letters : '+' ∉ spelling.letters := fun member => nomatch spelling.isAlpha '+' member
  have digits : '+' ∉ spelling.digits := fun member => nomatch spelling.isDigit '+' member
  simp only [chars, List.mem_append, marks, letters, digits, false_or, or_false]
  cases spelling.signed <;> decide

end Spelling

/-- A text is read as a cell just if it spells one between white space. A1 notation has no sign, so
texts that spell a cell with a sign are read beyond it, and no others. -/
theorem parse_iff_spelled (text : String) :
    (∀ address, parse text = .ok address ↔ ∃ spelling : Spelling,
      Text.trim text.toList = spelling.chars ∧ spelling.address = address) ∧
    ((∀ address, parse text = .ok address ↔ ∃ spelling : Spelling, spelling.signed = false ∧
        Text.trim text.toList = spelling.chars ∧ spelling.address = address) ↔
      ∀ spelling : Spelling, Text.trim text.toList = spelling.chars → spelling.signed = false) := by
  have spelled : ∀ address, parse text = .ok address ↔ ∃ spelling : Spelling,
      Text.trim text.toList = spelling.chars ∧ spelling.address = address := by
    intro address
    constructor
    · exact Spelling.exists_of_parse
    · rintro ⟨spelling, same, rfl⟩
      exact spelling.parse same
  refine ⟨spelled, ?_, ?_⟩
  · intro unsigned spelling same
    obtain ⟨other, noSign, otherSame, _⟩ := (unsigned spelling.address).mp (spelling.parse same)
    have alike := spelling.signed_iff
    rw [← same, otherSame, other.signed_iff, noSign] at alike
    simpa using alike
  · intro unsigned address
    rw [spelled]
    constructor
    · rintro ⟨spelling, same, named⟩
      exact ⟨spelling, unsigned spelling same, same, named⟩
    · rintro ⟨spelling, _, same, named⟩
      exact ⟨spelling, same, named⟩

theorem parse_signed :
    let corner : Address := ⟨0, 0, false, false, by decide, by decide⟩
    parse "A+1" = .ok corner ∧
      ¬ ∀ address, parse "A+1" = .ok address ↔ ∃ spelling : Spelling, spelling.signed = false ∧
        Text.trim "A+1".toList = spelling.chars ∧ spelling.address = address := by
  intro corner
  let spelling : Spelling :=
    { columnFixed := false
      letters := ['A']
      rowFixed := false
      signed := true
      digits := ['1']
      anyLetter := by decide
      isAlpha := by decide
      column_le := by decide
      anyDigit := by decide
      isDigit := by decide
      row_pos := by decide
      row_le := by decide }
  have spelled : Text.trim "A+1".toList = spelling.chars := by decide
  obtain ⟨reads, unsigned⟩ := parse_iff_spelled "A+1"
  refine ⟨(reads corner).mpr ⟨spelling, spelled, rfl⟩, ?_⟩
  intro unsignedOnly
  exact absurd (unsigned.mp unsignedOnly spelling spelled) (by decide)

end PhraseSheet.Address
