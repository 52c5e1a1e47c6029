import PhraseSheet.Proofs.AddressReading
import PhraseSheet.Sheet.Range

namespace PhraseSheet

namespace Text

theorem trim_of_visible {text : List Char} (visible : ∀ c ∈ text, isBlank c = false) :
    trim text = text := by
  have front : trimStart text = text := by
    cases text with
    | nil => rfl
    | cons c rest =>
      exact List.dropWhile_cons_of_neg (by simp [visible c List.mem_cons_self])
  rw [trim, front, (endsVisibly_of_all visible).trimEnd_eq]

end Text

namespace Address

namespace Spelling

theorem isAlphanum_or_sign (spelling : Spelling) :
    ∀ c ∈ spelling.chars, c.isAlphanum ∨ c = '$' ∨ c = '+' := by
  have marks : ∀ fixed, ∀ c ∈ mark fixed, c = '$' := by decide
  have signs : ∀ signed, ∀ c ∈ plus signed, c = '+' := by decide
  intro c member
  simp only [chars, List.mem_append] at member
  rcases member with inMark | inLetters | inMark | inSign | inDigits
  · exact .inr (.inl (marks _ c inMark))
  · exact .inl (Bool.or_eq_true_iff.mpr (.inl (spelling.isAlpha c inLetters)))
  · exact .inr (.inl (marks _ c inMark))
  · exact .inr (.inr (signs _ c inSign))
  · exact .inl (Bool.or_eq_true_iff.mpr (.inr (spelling.isDigit c inDigits)))

theorem not_isBlank (spelling : Spelling) : ∀ c ∈ spelling.chars, Text.isBlank c = false := by
  intro c member
  rcases spelling.isAlphanum_or_sign c member with alphanumeric | rfl | rfl
  · exact not_isBlank_of_isAlphanum alphanumeric
  · decide
  · decide

theorem ne_colon (spelling : Spelling) : ∀ c ∈ spelling.chars, (c != ':') = true := by
  intro c member
  rw [bne_iff_ne]
  rintro rfl
  exact absurd (spelling.isAlphanum_or_sign ':' member) (by decide)

/-- The written form: capitals, and a row without a sign and without zeros in front. -/
def canonical (spelling : Spelling) : List Char :=
  mark spelling.columnFixed ++ (spelling.letters.map Char.toUpper ++
    (mark spelling.rowFixed ++ spelling.digits.dropWhile (· == '0')))

end Spelling

def spelling (address : Address) : Spelling where
  columnFixed := address.columnFixed
  letters := columnLetters address.column
  rowFixed := address.rowFixed
  signed := false
  digits := Decimal.natDigits (address.row + 1)
  anyLetter := by
    rw [columnLetters, countLetters]
    simp
  isAlpha := isAlpha_countLetters (address.column + 1)
  column_le := by
    rw [columnLetters, letterCount_countLetters]
    exact address.column_lt
  anyDigit := Nat.toDigits_ne_nil
  isDigit := natDigits_isDigit (address.row + 1)
  row_pos := by
    rw [Decimal.digitsNumber_natDigits]
    exact Nat.succ_pos address.row
  row_le := by
    rw [Decimal.digitsNumber_natDigits]
    exact address.row_lt

theorem toList_text (address : Address) : address.text.toList = address.spelling.chars := by
  have marked : ∀ fixed, (if fixed then "$" else "").toList = mark fixed := by decide
  have digits : (Nat.repr (address.row + 1)).toList = Decimal.natDigits (address.row + 1) := by
    simp [Nat.repr, Decimal.natDigits]
  simp only [text, String.toList_append, String.toList_ofList, marked, digits, Spelling.chars,
    spelling, plus, Bool.false_eq_true, if_false, List.nil_append, List.append_assoc]

theorem address_spelling (address : Address) : address.spelling.address = address := by
  cases address
  simp only [Spelling.address, spelling, columnLetters, letterCount_countLetters,
    Decimal.digitsNumber_natDigits, Nat.add_sub_cancel]

theorem trim_text (address : Address) : Text.trim address.text.toList = address.spelling.chars := by
  rw [toList_text, Text.trim_of_visible address.spelling.not_isBlank]

/-- A cell is read as it is written. -/
theorem parse_text (address : Address) : parse address.text = .ok address := by
  rw [address.spelling.parse address.trim_text, address_spelling]

/-- However a cell is spelled, it is written in the written form of the spelling. -/
theorem Spelling.toList_text_address (spelling : Spelling) :
    spelling.address.text.toList = spelling.canonical := by
  have letters := letterCount_pos spelling.anyLetter spelling.isAlpha
  have row := spelling.row_pos
  rw [toList_text]
  simp only [chars, canonical, Address.spelling, address, columnLetters, plus, Bool.false_eq_true,
    if_false, List.nil_append, Nat.sub_add_cancel letters, Nat.sub_add_cancel row,
    countLetters_letterCount spelling.isAlpha, Decimal.natDigits_digitsNumber spelling.isDigit row]

theorem parse_key (address : Address) : parse address.key = .ok address.unfixed := by
  have same : address.key = address.unfixed.text := by simp [key, keyOf, text, unfixed]
  rw [same, parse_text]

/-- Cells have the same key just if they are the same but for their marks. -/
theorem key_eq_iff {one other : Address} :
    one.key = other.key ↔ one.row = other.row ∧ one.column = other.column := by
  constructor
  · intro same
    have read := parse_key one
    rw [same, parse_key] at read
    have alike : one.unfixed = other.unfixed := (Except.ok.inj read).symm
    obtain ⟨row, column, _⟩ := Address.mk.inj alike
    exact ⟨row, column⟩
  · rintro ⟨row, column⟩
    rw [key, key, row, column]

def IsKey (name : String) : Prop := ∃ address : Address, address.key = name

theorem key_eq_of_isKey {name : String} {address : Address} (isKey : IsKey name)
    (read : parse name = .ok address) : address.key = name := by
  obtain ⟨cell, rfl⟩ := isKey
  rw [parse_key] at read
  cases read
  rfl

end Address

namespace Range

theorem spanning_corners (one other : Address) :
    spanning (spanning one other).first (spanning one other).last = spanning one other := by
  simp only [spanning, Range.mk.injEq, Address.mk.injEq, and_true]
  omega

/-- A range is read as it is written. -/
theorem parse_text_spanning (one other : Address) :
    parse (spanning one other).text = .ok (spanning one other) := by
  have corners := spanning_corners one other
  generalize spanning one other = range at corners
  have reads : ∀ address : Address,
      Address.parse (String.ofList address.spelling.chars) = .ok address := by
    intro address
    rw [← address.toList_text, String.ofList_toList, address.parse_text]
  rw [text]
  split
  · rename_i alone
    have noColon : range.first.spelling.chars.dropWhile (· != ':') = [] :=
      List.dropWhile_eq_nil_iff.mpr range.first.spelling.ne_colon
    rw [← alone] at corners
    simp only [parse, range.first.trim_text, noColon, reads]
    exact congrArg Except.ok corners
  · have written : (range.first.text ++ ":" ++ range.last.text).toList =
        range.first.spelling.chars ++ ':' :: range.last.spelling.chars := by
      simp [Address.toList_text]
    have visible : ∀ c ∈ range.first.spelling.chars ++ ':' :: range.last.spelling.chars,
        Text.isBlank c = false := by
      rw [List.forall_mem_append, List.forall_mem_cons]
      exact ⟨range.first.spelling.not_isBlank, by decide, range.last.spelling.not_isBlank⟩
    have stops : ∀ c ∈ (':' :: range.last.spelling.chars).head?, (c != ':') = false := by simp
    simp only [parse, written, Text.trim_of_visible visible,
      takeWhile_run range.first.spelling.ne_colon stops,
      dropWhile_run range.first.spelling.ne_colon stops, reads]
    exact congrArg Except.ok corners

end Range

/-- Cells and ranges are read as they are written, and a cell that is read from a text is written in
the text's written form. -/
theorem Address.text_roundTrip :
    (∀ address : Address, parse address.text = .ok address) ∧
    (∀ (text : String) (address : Address), parse text = .ok address →
      address.row < rowLimit ∧ address.column < columnLimit ∧
      parse address.text = .ok address ∧ ∃ spelling : Spelling,
        Text.trim text.toList = spelling.chars ∧ address.text.toList = spelling.canonical) ∧
    ∀ one other : Address,
      Range.parse (Range.spanning one other).text = .ok (Range.spanning one other) := by
  refine ⟨parse_text, ?_, Range.parse_text_spanning⟩
  intro text address read
  obtain ⟨spelling, spelled, rfl⟩ := Spelling.exists_of_parse read
  exact ⟨spelling.address.row_lt, spelling.address.column_lt, parse_text _, spelling, spelled,
    spelling.toList_text_address⟩

/-- The cell B7 with both marks, in a small letter and with zeros, between blanks. -/
theorem Address.text_roundTrip_padded :
    let cell : Address := ⟨6, 1, true, true, by decide, by decide⟩
    parse " $b$007 " = .ok cell ∧ cell.row < rowLimit ∧ cell.column < columnLimit ∧
      parse cell.text = .ok cell ∧ ∃ spelling : Spelling,
        Text.trim " $b$007 ".toList = spelling.chars ∧ cell.text.toList = spelling.canonical :=
  ⟨rfl, text_roundTrip.2.1 " $b$007 " ⟨6, 1, true, true, by decide, by decide⟩ rfl⟩

end PhraseSheet
