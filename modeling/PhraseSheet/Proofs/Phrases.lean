import PhraseSheet.Proofs.Spelling
import PhraseSheet.Request.Basic

namespace PhraseSheet

open Grammar

private theorem of_mem_takeWhile (inside : Char → Bool) (text : List Char) :
    ∀ c ∈ text.takeWhile inside, inside c :=
  List.all_eq_true.mp List.all_takeWhile

/-- A cell at the start of a text is a word: its letters and its digits. -/
theorem Word.isWord_of_cellLength {text : List Char} {length : Nat}
    (cell : Word.cellLength? text = some length) :
    ∃ front rest, text = front ++ rest ∧ front.length = length ∧ IsWord front := by
  have letters := of_mem_takeWhile Char.isAlpha text
  have digits := of_mem_takeWhile Char.isDigit (text.dropWhile Char.isAlpha)
  unfold Word.cellLength? at cell
  dsimp only at cell
  split at cell
  · cases cell
  · rename_i present
    rw [Bool.or_eq_true, not_or, List.isEmpty_iff] at present
    cases cell
    refine ⟨text.takeWhile Char.isAlpha ++ (text.dropWhile Char.isAlpha).takeWhile Char.isDigit,
      (text.dropWhile Char.isAlpha).dropWhile Char.isDigit, ?_, List.length_append, ?_⟩
    · rw [List.append_assoc, List.takeWhile_append_dropWhile, List.takeWhile_append_dropWhile]
    · obtain ⟨c, more, starts⟩ := List.exists_cons_of_ne_nil present.1
      rw [starts] at letters ⊢
      refine .mk (letters c List.mem_cons_self) ?_
      intro d member
      rcases List.mem_append.mp member with letter | digit
      · exact Bool.or_eq_true_iff.mpr (.inl (letters d (List.mem_cons_of_mem _ letter)))
      · exact Bool.or_eq_true_iff.mpr (.inr (digits d digit))

/-- Two words with a colon between them. -/
def IsWordRange (text : List Char) : Prop :=
  ∃ one other, text = one ++ ':' :: other ∧ IsWord one ∧ IsWord other

theorem IsWordRange.spells {text : List Char} (range : IsWordRange text) :
    Spells .range 0 text := by
  obtain ⟨one, other, rfl, isWord, otherIsWord⟩ := range
  exact isWord.spells.span otherIsWord.spells

/-- A word that is a range as a whole is two words with a colon between them. -/
theorem Word.isWordRange_of_rangeLength {word : List Char}
    (range : Word.rangeLength? word = some word.length) : IsWordRange word := by
  unfold Word.rangeLength? at range
  cases one : Word.cellLength? word with
  | none => simp [one] at range
  | some size =>
    obtain ⟨front, rest, rfl, rfl, isWord⟩ := Word.isWord_of_cellLength one
    simp only [one, Option.bind_eq_bind, Option.bind_some, List.drop_left] at range
    split at range
    · rename_i behind
      cases other : Word.cellLength? behind with
      | none => simp [other] at range
      | some otherSize =>
        obtain ⟨back, nothing, rfl, rfl, otherIsWord⟩ := Word.isWord_of_cellLength other
        simp only [other, Option.bind_some, Option.pure_def, Option.some.injEq, List.length_append,
          List.length_cons] at range
        have empty : nothing = [] := List.eq_nil_of_length_eq_zero (by omega)
        subst empty
        exact ⟨front, back, by rw [List.append_nil], isWord, otherIsWord⟩
    · cases range

theorem isAlpha_toUpper {c : Char} (letter : c.isAlpha) : c.toUpper.isAlpha := by
  have each : ∀ code < 128, (Char.ofNat code).isAlpha → (Char.ofNat code).toUpper.isAlpha := by
    decide
  exact of_ascii (P := fun c => c.isAlpha → c.toUpper.isAlpha) each (toNat_lt_of_isAlpha letter)
    letter

theorem isAlphanum_toUpper {c : Char} (alphanumeric : c.isAlphanum) : c.toUpper.isAlphanum := by
  have each : ∀ code < 128, (Char.ofNat code).isAlphanum →
      (Char.ofNat code).toUpper.isAlphanum := by
    decide
  exact of_ascii (P := fun c => c.isAlphanum → c.toUpper.isAlphanum) each
    (toNat_lt_of_isAlphanum alphanumeric) alphanumeric

theorem IsWord.upper {word : List Char} (isWord : IsWord word) : IsWord (word.map Char.toUpper) := by
  cases isWord with
  | mk letter goesOn =>
    refine .mk (isAlpha_toUpper letter) ?_
    intro d member
    obtain ⟨c, original, rfl⟩ := List.mem_map.mp member
    exact isAlphanum_toUpper (goesOn c original)

theorem Piece.isWord_of_corners {word : List Char} {first last : String}
    (corners : Piece.corners? word = some (first, last)) :
    IsWord first.toList ∧ IsWord last.toList := by
  unfold Piece.corners? at corners
  split at corners
  · rename_i range
    obtain ⟨one, other, rfl, isWord, otherIsWord⟩ := Word.isWordRange_of_rangeLength range
    have inside : ∀ c ∈ one.map Char.toUpper, (c != ':') = true := by
      intro c member
      rw [bne_iff_ne]
      rintro rfl
      exact absurd (isWord.upper.isAlphanum ':' member) (by decide)
    have colon : ∀ c ∈ (':' :: other.map Char.toUpper).head?, (c != ':') = false := by
      rintro c ⟨⟩
      rfl
    have upper : (one ++ ':' :: other).map Char.toUpper =
        one.map Char.toUpper ++ ':' :: other.map Char.toUpper := by
      simp
    simp only [upper, takeWhile_run inside colon, dropWhile_run inside colon, Option.some.injEq,
      Prod.mk.injEq] at corners
    obtain ⟨rfl, rfl⟩ := corners
    rw [String.toList_ofList, String.toList_ofList]
    exact ⟨isWord.upper, otherIsWord.upper⟩
  · cases corners

theorem Meaning.ofPhrase?_ne_range {phrase first last : String} :
    Meaning.ofPhrase? phrase ≠ some (.range first last) := by
  unfold Meaning.ofPhrase?
  cases Field.ofPhrase? phrase <;> cases Operation.ofPhrase? phrase <;>
    cases Comparison.ofPhrase? phrase <;> simp

private theorem otherwise {α β : Type} {found? : Option α} {meaning : α → β} {other result : β}
    (never : ∀ found, meaning found ≠ result) (same : (found?.map meaning).getD other = result) :
    other = result := by
  cases found? with
  | none => exact same
  | some found => exact absurd same (never found)

/-- A word is a range only if it means nothing else. -/
theorem Piece.corners_of_meaningOf {word : List Char} {folded first last : String}
    (meaning : Piece.meaningOf word folded = .range first last) :
    Piece.corners? word = some (first, last) := by
  simp only [Piece.meaningOf, Option.getD_or] at meaning
  have noNumber := otherwise (by simp) meaning
  have noOperation := otherwise (by simp) noNumber
  have noField := otherwise (by simp) noOperation
  have noComparison := otherwise (by simp) noField
  have noConnective := otherwise (by simp) noComparison
  cases corners : Piece.corners? word with
  | none =>
    rw [corners] at noConnective
    dsimp only [Option.map_none, Option.getD_none] at noConnective
    split at noConnective <;> cases noConnective
  | some pair =>
    rw [corners] at noConnective
    cases noConnective
    rfl

/-- Joining makes no ranges. -/
theorem Piece.mem_of_mem_join {pieces : List Piece} {piece : Piece} {first last : String}
    (member : piece ∈ Piece.join pieces) (range : piece.meaning = .range first last) :
    piece ∈ pieces := by
  have joined : ∀ one rest, Piece.joined? one rest = some piece → False := by
    intro one rest found
    unfold Piece.joined? at found
    dsimp only at found
    obtain ⟨meaning, spelled, rfl⟩ := Option.map_eq_some_iff.mp found
    exact Meaning.ofPhrase?_ne_range (spelled.trans (congrArg some range))
  fun_induction Piece.join pieces with
  | case1 one two three rest whole found ih =>
    rcases List.mem_cons.mp member with rfl | later
    · exact (joined _ _ found).elim
    · simp [ih later]
  | case2 one two three rest whole found none ih =>
    rcases List.mem_cons.mp member with rfl | later
    · exact (joined _ _ found).elim
    · exact List.mem_cons_of_mem _ (List.mem_cons_of_mem _ (ih later))
  | case3 one two three rest none noPair ih =>
    rcases List.mem_cons.mp member with rfl | later
    · exact List.mem_cons_self
    · exact List.mem_cons_of_mem _ (ih later)
  | case4 one two whole found =>
    rw [List.mem_singleton.mp member] at joined
    exact (joined _ _ found).elim
  | case5 one two none => exact member
  | case6 one => exact member
  | case7 => exact member

theorem Piece.mem_of_mem_place {start : Nat} {pieces : List Piece} {phrase : Phrase}
    (member : phrase ∈ Piece.place start pieces) :
    ∃ piece ∈ pieces, piece.meaning = phrase.meaning := by
  induction pieces generalizing start with
  | nil => cases member
  | cons piece rest ih =>
    rcases List.mem_cons.mp member with rfl | later
    · exact ⟨piece, List.mem_cons_self, rfl⟩
    · obtain ⟨other, present, same⟩ := ih later
      exact ⟨other, List.mem_cons_of_mem _ present, same⟩

theorem Request.isWordRange_of_mem_ranges {text range : String}
    (member : range ∈ (Request.ofText text).ranges) : IsWordRange range.toList := by
  obtain ⟨phrase, present, named⟩ := List.mem_filterMap.mp member
  unfold Phrase.range? at named
  split at named
  · rename_i first last meaning
    cases named
    obtain ⟨piece, joined, same⟩ := Piece.mem_of_mem_place present
    have single := Piece.mem_of_mem_join joined (same.trans meaning)
    obtain ⟨word, _, rfl⟩ := List.mem_map.mp single
    have corners := Piece.corners_of_meaningOf (same.trans meaning)
    obtain ⟨isWord, otherIsWord⟩ := Piece.isWord_of_corners corners
    refine ⟨first.toList, last.toList, ?_, isWord, otherIsWord⟩
    simp
  · cases named

end PhraseSheet
