import Mathlib.Data.List.Chain
import PhraseSheet.Proofs.FoldedCharacters
import PhraseSheet.Row.Column

namespace PhraseSheet.Text

/-- Characters that are not white space, at least one. -/
structure IsVisible (word : List Char) : Prop where
  any : word ≠ []
  visible : ∀ c ∈ word, isBlank c = false

section

variable {c : Char} {word text : List Char} {parts : List (List Char)}

theorem words_append_blank (blank : isBlank c) (front rest : List Char) :
    words (front ++ c :: rest) = words front ++ words rest := by
  have behind : ∀ word, wordsFrom word (front ++ c :: rest) =
      wordsFrom word front ++ words rest := by
    induction front with
    | nil =>
      intro word
      cases word <;> simp [wordsFrom, blank, words]
    | cons d front ih =>
      intro word
      rw [List.cons_append, wordsFrom, wordsFrom, ih, ih]
      split
      · split <;> rfl
      · rfl
  exact behind []

theorem IsVisible.words (isVisible : IsVisible word) : words word = [word] := by
  have run : ∀ text before : List Char, (∀ c ∈ text, isBlank c = false) →
      wordsFrom before text = wordsFrom (text.reverse ++ before) [] := by
    intro text
    induction text with
    | nil => simp
    | cons c rest ih =>
      intro before visible
      obtain ⟨first, later⟩ := List.forall_mem_cons.mp visible
      have next : wordsFrom before (c :: rest) = wordsFrom (c :: before) rest := by
        simp [wordsFrom, first]
      rw [next, ih _ later, List.reverse_cons, List.append_assoc, List.singleton_append]
  rw [Text.words, run word [] isVisible.visible]
  simp [wordsFrom, isVisible.any]

private theorem of_mem_wordsFrom {before : List Char} (visible : ∀ c ∈ before, isBlank c = false)
    (member : word ∈ wordsFrom before text) :
    IsVisible word ∧ ∀ c ∈ word, c ∈ before ∨ c ∈ text := by
  have begun : ∀ {before text : List Char}, (∀ c ∈ before, isBlank c = false) → ¬ before.isEmpty →
      IsVisible before.reverse ∧ ∀ c ∈ before.reverse, c ∈ before ∨ c ∈ text := by
    intro before text visible some
    refine ⟨⟨by simpa using some, by simpa using visible⟩, fun c inWord => .inl ?_⟩
    exact List.mem_reverse.mp inWord
  fun_induction wordsFrom before text with
  | case1 => cases member
  | case2 before some =>
    rw [List.mem_singleton.mp member]
    exact begun visible some
  | case3 before c rest blank none ih =>
    obtain ⟨isVisible, inText⟩ := ih (by simp) member
    exact ⟨isVisible, fun d inWord =>
      .inr (List.mem_cons_of_mem _ ((inText d inWord).resolve_left (by simp)))⟩
  | case4 before c rest blank some ih =>
    rcases List.mem_cons.mp member with rfl | later
    · exact begun visible some
    · obtain ⟨isVisible, inText⟩ := ih (by simp) later
      exact ⟨isVisible, fun d inWord =>
        .inr (List.mem_cons_of_mem _ ((inText d inWord).resolve_left (by simp)))⟩
  | case5 before c rest visibleChar ih =>
    obtain ⟨isVisible, inText⟩ := ih
      (List.forall_mem_cons.mpr ⟨Bool.eq_false_iff.mpr visibleChar, visible⟩) member
    refine ⟨isVisible, fun d inWord => ?_⟩
    simpa [or_assoc, or_left_comm] using inText d inWord

/-- What a text is cut into are words, and their characters are those of the text. -/
theorem of_mem_words (member : word ∈ words text) : IsVisible word ∧ ∀ c ∈ word, c ∈ text := by
  obtain ⟨isVisible, inText⟩ := of_mem_wordsFrom (List.forall_mem_nil _) member
  exact ⟨isVisible, fun c inWord => (inText c inWord).resolve_left (by simp)⟩

/-- Words with a space between neighbours are cut into these words. -/
theorem words_intercalate (each : ∀ word ∈ parts, IsVisible word) :
    words ([' '].intercalate parts) = parts := by
  induction parts with
  | nil => rfl
  | cons word rest ih =>
    obtain ⟨first, later⟩ := List.forall_mem_cons.mp each
    cases rest with
    | nil => simpa using first.words
    | cons other rest =>
      rw [List.intercalate_cons_cons, List.append_assoc, List.singleton_append,
        words_append_blank (by decide), first.words, ih later, List.singleton_append]

theorem collapse_collapse (text : List Char) : collapse (collapse text) = collapse text := by
  rw [collapse, collapse, words_intercalate fun word member => (of_mem_words member).1]

/-- White space stands only between words, as one space. -/
structure SingleSpaced (text : List Char) : Prop where
  start : ∀ c ∈ text.head?, isBlank c = false
  stop : ∀ c ∈ text.getLast?, isBlank c = false
  space : ∀ c ∈ text, isBlank c → c = ' '
  apart : text.IsChain fun c d => ¬ (isBlank c ∧ isBlank d)

theorem IsVisible.singleSpaced (isVisible : IsVisible word) : SingleSpaced word where
  start c first := isVisible.visible c (List.mem_of_mem_head? first)
  stop c last := isVisible.visible c (List.mem_of_mem_getLast? last)
  space c member blank := by
    rw [isVisible.visible c member] at blank
    cases blank
  apart := by
    refine List.Pairwise.isChain (List.pairwise_of_forall_mem_list fun c inWord d _ both => ?_)
    rw [isVisible.visible c inWord] at both
    cases both.1

theorem SingleSpaced.join (spaced : SingleSpaced text) (isVisible : IsVisible word)
    (any : text ≠ []) : SingleSpaced (word ++ ' ' :: text) := by
  have alone := isVisible.singleSpaced
  refine ⟨?start, ?stop, ?space, ?apart⟩
  case start =>
    obtain ⟨c, rest, rfl⟩ := List.exists_cons_of_ne_nil isVisible.any
    exact alone.start
  case stop =>
    have last : (word ++ ' ' :: text).getLast? = text.getLast? := by
      rw [List.getLast?_append_cons, List.getLast?_cons_of_ne_nil any]
    rw [last]
    exact spaced.stop
  case space =>
    intro d member blank
    rcases List.mem_append.mp member with inWord | behind
    · exact alone.space d inWord blank
    · rcases List.mem_cons.mp behind with rfl | inText
      · rfl
      · exact spaced.space d inText blank
  case apart =>
    refine List.isChain_append.mpr ⟨alone.apart, ?_, ?_⟩
    · refine List.isChain_cons.mpr ⟨fun c first both => ?_, spaced.apart⟩
      rw [spaced.start c first] at both
      cases both.2
    · intro c last d _ both
      rw [alone.stop c last] at both
      cases both.1

theorem singleSpaced_intercalate (each : ∀ word ∈ parts, IsVisible word) :
    SingleSpaced ([' '].intercalate parts) := by
  induction parts with
  | nil => exact ⟨by simp, by simp, by simp, .nil⟩
  | cons word rest ih =>
    obtain ⟨first, later⟩ := List.forall_mem_cons.mp each
    cases rest with
    | nil => simpa using first.singleSpaced
    | cons other rest =>
      have any : [' '].intercalate (other :: rest) ≠ [] := by
        have second := (later other List.mem_cons_self).any
        cases rest <;> simp [List.intercalate_cons_cons, second]
      rw [List.intercalate_cons_cons, List.append_assoc, List.singleton_append]
      exact (ih later).join first any

theorem mem_intercalate (member : c ∈ [' '].intercalate parts) :
    c = ' ' ∨ ∃ word ∈ parts, c ∈ word := by
  induction parts with
  | nil => cases member
  | cons word rest ih =>
    cases rest with
    | nil => exact .inr ⟨word, List.mem_cons_self, by simpa using member⟩
    | cons other rest =>
      rw [List.intercalate_cons_cons, List.append_assoc, List.mem_append, List.mem_append,
        List.mem_singleton] at member
      rcases member with inWord | space | behind
      · exact .inr ⟨word, List.mem_cons_self, inWord⟩
      · exact .inl space
      · rcases ih behind with space | ⟨part, listed, inPart⟩
        · exact .inl space
        · exact .inr ⟨part, List.mem_cons_of_mem _ listed, inPart⟩

theorem mem_collapse (member : c ∈ collapse text) : c = ' ' ∨ c ∈ text := by
  rcases mem_intercalate member with space | ⟨word, listed, inWord⟩
  · exact .inl space
  · exact .inr ((of_mem_words listed).2 c inWord)

end

theorem isFolded_foldChars (text : List Char) : ∀ c ∈ foldChars text, IsFolded c := by
  intro c member
  simp only [foldChars, List.mem_flatMap, List.mem_map, List.mem_filter] at member
  obtain ⟨_, ⟨d, ⟨decomposed, unmarked⟩, rfl⟩, lowered⟩ := member
  obtain ⟨e, _, part⟩ := List.mem_flatMap.mp (mem_decompose.mp decomposed)
  exact isFolded_lowerChar (decomposeChar_part part) (by simpa using unmarked) c lowered

theorem foldChars_of_isFolded {text : List Char} (folded : ∀ c ∈ text, IsFolded c) :
    foldChars text = text := by
  have decomposed : decompose text = text := decompose_of_simple fun c member =>
    ⟨(folded c member).decompose, combiningClass_eq_zero (folded c member).unmarked⟩
  have unmarked : (text.filter fun c => !isDiacritic c) = text :=
    List.filter_eq_self.mpr fun c member => by simp [(folded c member).unmarked]
  have plain : text.map plainLetter = text := by
    rw [List.map_congr_left fun c member => (folded c member).plain, List.map_id']
  have lower : text.flatMap lowerChar = text := by
    rw [List.flatMap_congr fun c member => (folded c member).lower, List.flatMap_singleton']
  rw [foldChars, decomposed, unmarked, plain, lower]

theorem fold_fold (text : String) : fold (fold text) = fold text := by
  have space : IsFolded ' ' := isFolded_of_ascii (by decide) (by decide)
  have folded : ∀ c ∈ collapse (foldChars text.toList), IsFolded c := by
    intro c member
    rcases mem_collapse member with rfl | inText
    · exact space
    · exact isFolded_foldChars text.toList c inText
  rw [fold, fold, String.toList_ofList, foldChars_of_isFolded folded, collapse_collapse]

/-- Folding is stable: it leaves folded texts as they are, has nothing but single spaces between the
words and is the same for texts with one decomposition. A header and its folded form have one key
and stand for one field. -/
theorem fold_stable (text : String) :
    fold (fold text) = fold text ∧ SingleSpaced (fold text).toList ∧
      (∀ other : String, decompose other.toList = decompose text.toList → fold other = fold text) ∧
      foldedKey (fold text) = foldedKey text ∧
        Field.ofHeader? (fold text) = Field.ofHeader? text := by
  have key : foldedKey (fold text) = foldedKey text := by
    rw [foldedKey, foldedKey, fold_fold]
  refine ⟨fold_fold text, ?spaced, ?alike, key, ?field⟩
  case spaced =>
    rw [fold, String.toList_ofList]
    exact singleSpaced_intercalate fun word member => (of_mem_words member).1
  case alike =>
    intro other same
    rw [fold, fold, foldChars, foldChars, same]
  case field => rw [Field.ofHeader?, Field.ofHeader?, key]

/-- A header with accents of its own characters, and with accents put on letters. -/
theorem fold_stable_accents :
    decompose "Gia\u0301  Vo\u0302\u0301n".toList = decompose "Giá  Vốn".toList ∧
      fold "Gia\u0301  Vo\u0302\u0301n" = fold "Giá  Vốn" ∧ fold "Giá  Vốn" = "gia von" := by
  have same : decompose "Gia\u0301  Vo\u0302\u0301n".toList = decompose "Giá  Vốn".toList := by
    decide +kernel
  obtain ⟨_, _, alike, _⟩ := fold_stable "Giá  Vốn"
  exact ⟨same, alike _ same, by decide +kernel⟩

end PhraseSheet.Text
