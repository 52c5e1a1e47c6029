import PhraseSheet.Proofs.Lexemes

namespace PhraseSheet

/-- The text of a cell in A1 notation. -/
structure Reference where
  text : String
  address : Address
  isCell : Token.looksLikeCell text.toList
  named : Address.parse text = .ok address

instance : Inhabited Reference where
  default := ⟨"A1", ⟨0, 0, false, false, by decide, by decide⟩, by decide, rfl⟩

namespace Token

theorem splitFixed_cases (text : List Char) :
    (Address.splitFixed text = (false, text) ∧ text.head? ≠ some '$') ∨
      ∃ rest, text = '$' :: rest ∧ Address.splitFixed text = (true, rest) := by
  unfold Address.splitFixed
  split
  · exact .inr ⟨_, rfl, rfl⟩
  · rename_i other
    refine .inl ⟨rfl, ?_⟩
    intro first
    obtain ⟨rest, rfl⟩ := List.head?_eq_some_iff.mp first
    exact other rest rfl

/-- The parts of a cell in A1 notation. -/
theorem exists_of_looksLikeCell {content : List Char} (isCell : looksLikeCell content) :
    ∃ mark ∈ [[], ['$']], ∃ letters, ∃ otherMark ∈ [[], ['$']], ∃ digits,
      content = mark ++ (letters ++ (otherMark ++ digits)) ∧ letters ≠ [] ∧ digits ≠ [] ∧
      (∀ c ∈ letters, c.isAlpha) ∧ ∀ c ∈ digits, c.isDigit := by
  have marked : ∀ text, ∃ mark ∈ [[], ['$']], text = mark ++ (Address.splitFixed text).2 := by
    intro text
    rcases splitFixed_cases text with ⟨plain, _⟩ | ⟨rest, rfl, fixed⟩
    · exact ⟨[], by simp, by rw [plain]; rfl⟩
    · exact ⟨['$'], by simp, by rw [fixed]; rfl⟩
  simp only [looksLikeCell, Bool.and_eq_true, Bool.not_eq_true', List.isEmpty_eq_false_iff,
    List.all_eq_true] at isCell
  obtain ⟨⟨anyLetter, anyDigit⟩, digits⟩ := isCell
  obtain ⟨mark, listed, same⟩ := marked content
  obtain ⟨otherMark, otherListed, otherSame⟩ :=
    marked ((Address.splitFixed content).2.dropWhile Char.isAlpha)
  refine ⟨mark, listed, _, otherMark, otherListed, _, ?_, anyLetter, anyDigit, ?_, digits⟩
  · rw [← otherSame, List.takeWhile_append_dropWhile]
    exact same
  · exact List.all_eq_true.mp List.all_takeWhile

theorem name_of_looksLikeCell {content : List Char} (isCell : looksLikeCell content) :
    ∃ c more, content = c :: more ∧ startsName c ∧ (∀ d ∈ more, continuesName d) ∧
      ∃ d ∈ content, d.isDigit := by
  obtain ⟨mark, listed, letters, otherMark, otherListed, digits, rfl, anyLetter, anyDigit, letter,
    digit⟩ := exists_of_looksLikeCell isCell
  have marks : ∀ mark ∈ [[], ['$']], ∀ c ∈ mark, continuesName c := by decide
  have inside : ∀ c ∈ mark ++ (letters ++ (otherMark ++ digits)), continuesName c := by
    intro c member
    simp only [List.mem_append] at member
    rcases member with inMark | inLetters | inMark | inDigits
    · exact marks mark listed c inMark
    · exact continuesName_of_isAlphanum (Bool.or_eq_true_iff.mpr (.inl (letter c inLetters)))
    · exact marks otherMark otherListed c inMark
    · exact continuesName_of_isAlphanum (Bool.or_eq_true_iff.mpr (.inr (digit c inDigits)))
  obtain ⟨first, others, starts⟩ := List.exists_cons_of_ne_nil anyLetter
  obtain ⟨last, _, ends⟩ := List.exists_cons_of_ne_nil anyDigit
  have firstStarts : startsName first := by
    simp [startsName, isAlphabetic_of_isAlpha (letter first (by simp [starts]))]
  have digitInside : ∃ d ∈ mark ++ (letters ++ (otherMark ++ digits)), d.isDigit :=
    ⟨last, by simp [ends], digit last (by simp [ends])⟩
  simp only [List.mem_cons, List.not_mem_nil, or_false] at listed
  rcases listed with rfl | rfl
  · rw [starts] at inside digitInside ⊢
    exact ⟨first, _, rfl, firstStarts, fun d member => inside d (List.mem_cons_of_mem _ member),
      digitInside⟩
  · exact ⟨'$', _, rfl, by decide, fun d member => inside d (List.mem_cons_of_mem _ member),
      digitInside⟩

theorem not_sameIgnoringCase {content : List Char} (digit : ∃ d ∈ content, d.isDigit) :
    ∀ truth ∈ ["TRUE", "FALSE"], Text.sameIgnoringCase (String.ofList content) truth = false := by
  obtain ⟨d, member, isDigit⟩ := digit
  intro truth listed
  rw [Text.sameIgnoringCase, beq_eq_false_iff_ne]
  intro same
  have lowered : d.toLower ∈ truth.toList.map Char.toLower := by
    rw [← same, String.toList_ofList]
    exact List.mem_map_of_mem member
  have unchanged : d.toLower = d := by
    exact of_ascii (P := fun c => c.isDigit → c.toLower = c) (by decide)
      (toNat_lt_of_isDigit isDigit) isDigit
  have letters : ∀ truth ∈ ["TRUE", "FALSE"], ∀ c ∈ truth.toList.map Char.toLower,
      c.isDigit = false := by
    decide
  rw [unchanged] at lowered
  simp [letters truth listed d lowered] at isDigit

end Token

/-- Where no parenthesis follows, the text of a cell is that cell. -/
theorem Reference.nameOf_text (reference : Reference) {after : List Char}
    (paren : Token.beforeParen after = false) :
    Token.nameOf reference.text.toList after = .cell reference.address := by
  obtain ⟨_, _, _, _, _, digit⟩ := Token.name_of_looksLikeCell reference.isCell
  have noTruth := Token.not_sameIgnoringCase digit
  rw [String.ofList_toList] at noTruth
  unfold Token.beforeParen at paren
  simp [Token.nameOf, paren, noTruth, reference.isCell, reference.named]

/-- A cell is written by its text wherever no name goes on and no parenthesis follows. -/
theorem Reference.written (reference : Reference) {after : List Char} (apart : Token.Apart after)
    (paren : Token.beforeParen after = false) :
    Token.Written reference.text.toList (.cell reference.address) after := by
  obtain ⟨c, more, same, starts, goesOn, _⟩ := Token.name_of_looksLikeCell reference.isCell
  have cell := reference.nameOf_text paren
  rw [same] at cell ⊢
  exact .name starts goesOn apart cell

namespace Lexeme

/-- The token is a name that is not that of a function, or a cell. -/
def isName (lexeme : Lexeme) : Bool :=
  match lexeme.token with
  | .identifier _ => !lexeme.called
  | .cell _ => true
  | _ => false

/-- The lexeme with the cell in place of a name that has one. -/
def renamed (cell? : String → Option Reference) (lexeme : Lexeme) : Lexeme :=
  match if lexeme.isName then cell? (String.ofList lexeme.chars) else none with
  | some reference =>
    { lexeme with chars := reference.text.toList, token := .cell reference.address }
  | none => lexeme

theorem renamed_cases (cell? : String → Option Reference) (lexeme : Lexeme) :
    lexeme.renamed cell? = lexeme ∨
      lexeme.isName ∧ ∃ reference : Reference, lexeme.renamed cell? =
        { lexeme with chars := reference.text.toList, token := .cell reference.address } := by
  unfold renamed
  split
  · rename_i reference found
    split at found
    · rename_i isName
      exact .inr ⟨isName, reference, rfl⟩
    · cases found
  · exact .inl rfl

theorem gap_renamed (cell? : String → Option Reference) (lexeme : Lexeme) :
    (lexeme.renamed cell?).gap = lexeme.gap := by
  rcases renamed_cases cell? lexeme with same | ⟨_, _, changed⟩
  · rw [same]
  · rw [changed]

theorem nameOf_beforeParen {content after : List Char} (paren : Token.beforeParen after = true) :
    Token.nameOf content after = .identifier (String.ofList content) := by
  unfold Token.beforeParen at paren
  simp [Token.nameOf, paren]

theorem spelled_of_isName {lexeme : Lexeme} {after : List Char} (isName : lexeme.isName)
    (written : Token.Written lexeme.chars lexeme.token after)
    (called : lexeme.called = Token.beforeParen after) :
    (∃ c more, lexeme.chars = c :: more ∧ Token.startsName c) ∧ Token.Apart after ∧
      Token.beforeParen after = false := by
  obtain ⟨gap, chars, token, called⟩ := lexeme
  subst called
  cases written with
  | name starts goesOn stops reads =>
    refine ⟨⟨_, _, rfl, starts⟩, stops, ?_⟩
    cases paren : Token.beforeParen after with
    | false => rfl
    | true =>
      have same : token = .identifier _ := reads.symm.trans (nameOf_beforeParen paren)
      rw [same, paren] at isName
      cases isName
  | sign sign =>
    have noAtom := Token.isAtom_of_sign sign
    unfold Lexeme.isName at isName
    split at isName <;> simp_all [Token.isAtom]
  | _ => cases isName

theorem beforeParen_gap {gap : List Char} (blank : ∀ c ∈ gap, Text.isBlank c) {c : Char}
    (visible : Text.isBlank c = false) (rest : List Char) :
    Token.beforeParen (gap ++ c :: rest) = (c == '(') := by
  have starts : Text.trimStart (gap ++ c :: rest) = c :: rest :=
    dropWhile_run blank (by simpa using visible)
  rw [Token.beforeParen, starts]
  rfl

theorem beforeParen_blank {text : List Char} (blank : ∀ c ∈ text, Text.isBlank c) :
    Token.beforeParen text = false := by
  rw [Token.beforeParen, Text.trimStart, List.dropWhile_eq_nil_iff.mpr blank]
  rfl

theorem alike_textOf {gap chars others : List Char} (blank : ∀ c ∈ gap, Text.isBlank c)
    (visible : ∃ c rest, chars = c :: rest ∧ Text.isBlank c = false)
    (heads : chars = others ∨ (∃ c ∈ chars.head?, Token.startsName c) ∧
      ∃ c ∈ others.head?, Token.startsName c) (more moreOthers : List Char) :
    Token.Alike (gap ++ (chars ++ more)) (gap ++ (others ++ moreOthers)) ∧
      Token.beforeParen (gap ++ (chars ++ more)) =
        Token.beforeParen (gap ++ (others ++ moreOthers)) := by
  obtain ⟨c, rest, rfl, visible⟩ := visible
  rcases heads with rfl | ⟨⟨_, ⟨⟩, starts⟩, d, first, otherStarts⟩
  · constructor
    · cases gap with
      | nil => exact .inl rfl
      | cons _ _ => exact .inl rfl
    · rw [List.cons_append, List.cons_append, beforeParen_gap blank visible,
        beforeParen_gap blank visible]
  · obtain ⟨otherRest, rfl⟩ := List.head?_eq_some_iff.mp first
    have otherVisible := Token.not_isBlank_of_startsName otherStarts
    have noParen : ∀ e, Token.startsName e → (e == '(') = false := by
      intro e starts
      rw [beq_eq_false_iff_ne]
      rintro ⟨⟩
      exact absurd starts (by decide)
    constructor
    · cases gap with
      | nil => exact .inr (.inr ⟨⟨c, rfl, starts⟩, d, rfl, otherStarts⟩)
      | cons _ _ => exact .inl rfl
    · rw [List.cons_append, List.cons_append, beforeParen_gap blank visible,
        beforeParen_gap blank otherVisible, noParen c starts, noParen d otherStarts]

/-- Replacing names by cells leaves every lexeme written in front of what follows it. -/
theorem Joined.renamed (cell? : String → Option Reference) {trail others : List Char}
    (blank : ∀ c ∈ trail, Text.isBlank c) (otherBlank : ∀ c ∈ others, Text.isBlank c)
    {lexemes : List Lexeme} (joined : Joined trail lexemes) :
    Joined others (lexemes.map (Lexeme.renamed cell?)) ∧
      Token.Alike (textOf lexemes ++ trail) (textOf (lexemes.map (Lexeme.renamed cell?)) ++ others) ∧
      Token.beforeParen (textOf lexemes ++ trail) =
        Token.beforeParen (textOf (lexemes.map (Lexeme.renamed cell?)) ++ others) := by
  induction joined with
  | nil =>
    have starts : ∀ c ∈ trail.head?, Text.isBlank c := fun c first =>
      blank c (List.mem_of_mem_head? first)
    have otherStarts : ∀ c ∈ others.head?, Text.isBlank c := fun c first =>
      otherBlank c (List.mem_of_mem_head? first)
    refine ⟨.nil, .inr (.inl ⟨starts, otherStarts⟩), ?_⟩
    exact (beforeParen_blank blank).trans (beforeParen_blank otherBlank).symm
  | @cons lexemes lexeme gapBlank written called joined ih =>
    obtain ⟨ih, alike, paren⟩ := ih
    rw [List.map_cons, textOf_cons, textOf_cons, List.append_assoc, List.append_assoc,
      List.append_assoc, List.append_assoc]
    rcases renamed_cases cell? lexeme with same | ⟨isName, reference, changed⟩
    · rw [same]
      refine ⟨.cons gapBlank (written.alike alike paren) (called.trans paren) ih, ?_⟩
      exact alike_textOf gapBlank written.visible (.inl rfl) _ _
    · obtain ⟨⟨c, more, spelled, starts⟩, apart, noParen⟩ := spelled_of_isName isName written called
      obtain ⟨d, others, cell, otherStarts, _⟩ := Token.name_of_looksLikeCell reference.isCell
      rw [changed]
      refine ⟨.cons gapBlank ?_ (called.trans paren) ih, ?_⟩
      · refine reference.written (alike.apart (fun _ _ => trivial) apart fun _ _ => trivial).1 ?_
        rw [← paren, noParen]
      · refine alike_textOf gapBlank written.visible (.inr ⟨⟨c, ?_, starts⟩, d, ?_, otherStarts⟩) _ _
        · rw [spelled]
          rfl
        · rw [cell]
          rfl

end Lexeme

end PhraseSheet
