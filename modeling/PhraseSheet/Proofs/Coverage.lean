import Mathlib.Data.List.Forall2
import Mathlib.Data.List.Pairwise
import PhraseSheet.Proofs.WordPattern
import PhraseSheet.Request.Basic

/-! Phrases cover the text of a request: they stand in it side by side, only white space lies between
them, and each is a word or the longest group of words that spells a phrase of the vocabulary. -/

namespace PhraseSheet

namespace Word

/-- The text that words take up, with the white space in front of each. -/
def layout (words : List Word) : List Char := words.flatMap fun word => word.gap ++ word.chars

/-- The text from the first character of the first word to the last one of the last word. -/
def span : List Word → List Char
  | [] => []
  | first :: rest => first.chars ++ layout rest

/-- The folded words with single spaces between them, as the vocabulary keeps phrases. -/
def key (words : List Word) : String :=
  " ".intercalate (words.map fun word => Text.fold (String.ofList word.chars))

/-- Words lose no character but the white space behind the last one. -/
theorem exists_trail (text : List Char) :
    ∃ trail, Text.IsBlank trail ∧ text = layout (split text) ++ trail := by
  fun_induction split text with
  | case1 text blank => exact ⟨text, List.dropWhile_eq_nil_iff.mp blank, rfl⟩
  | case2 text c rest found more ih =>
    obtain ⟨trail, blank, same⟩ := ih
    refine ⟨trail, blank, ?_⟩
    calc text = text.takeWhile Text.isBlank ++ c :: (rest.take more ++ rest.drop more) := by
          rw [List.take_append_drop, ← found, List.takeWhile_append_dropWhile]
      _ = text.takeWhile Text.isBlank ++
            c :: (rest.take more ++ (layout (split (rest.drop more)) ++ trail)) := by rw [← same]
      _ = _ := by simp [layout]

/-- White space stands in front of each word, and each word has a character. -/
theorem of_mem_split {text : List Char} {word : Word} (member : word ∈ split text) :
    Text.IsBlank word.gap ∧ word.chars ≠ [] := by
  fun_induction split text with
  | case1 => cases member
  | case2 text c rest found more ih =>
    rcases List.mem_cons.mp member with rfl | later
    · exact ⟨List.all_eq_true.mp List.all_takeWhile, List.cons_ne_nil _ _⟩
    · exact ih later

/-- What neighbouring words mean: a word by itself has its own meaning, and two or three words have
that of the phrase of the vocabulary that they spell. -/
inductive Mean : List Word → Meaning → Prop
  | alone (word : Word) :
      Mean [word] (Piece.meaningOf word.chars (Text.fold (String.ofList word.chars)))
  | joined {words : List Word} {meaning : Meaning} (size : words.length = 2 ∨ words.length = 3)
      (known : Meaning.ofPhrase? (key words) = some meaning) : Mean words meaning

theorem Mean.ne_nil {words : List Word} {meaning : Meaning} (mean : Mean words meaning) :
    words ≠ [] := by
  rintro rfl
  cases mean with
  | joined size => simp at size

/-- No more words, up to three, spell a phrase together than those that are joined. -/
def Longest (groups : List (List Word)) : Prop :=
  ∀ before group after, groups = before ++ group :: after →
    ∀ size, group.length < size → size ≤ 3 → size ≤ (group ++ after.flatten).length →
      Meaning.ofPhrase? (key ((group ++ after.flatten).take size)) = none

theorem Longest.nil : Longest [] := by
  intro before group after same
  simp at same

theorem Longest.cons {group : List Word} {groups : List (List Word)}
    (head : ∀ size, group.length < size → size ≤ 3 → size ≤ (group ++ groups.flatten).length →
      Meaning.ofPhrase? (key ((group ++ groups.flatten).take size)) = none)
    (rest : Longest groups) : Longest (group :: groups) := by
  intro before other after same
  cases before with
  | nil =>
    cases same
    exact head
  | cons first before => exact rest before other after (List.cons.inj same).2

end Word

namespace Piece

/-- The piece is what the words are joined to. -/
structure JoinsWords (piece : Piece) (words : List Word) : Prop where
  layout : piece.gap ++ piece.chars = Word.layout words
  chars : piece.chars = Word.span words
  folded : piece.folded = Word.key words
  meaning : Word.Mean words piece.meaning

theorem JoinsWords.single (word : Word) : (ofWord word).JoinsWords [word] where
  layout := by simp [ofWord, Word.layout]
  chars := by simp [ofWord, Word.span, Word.layout]
  folded := by simp [ofWord, Word.key]
  meaning := .alone word

theorem joined?_ofWord (first : Word) (rest : List Word) :
    joined? (ofWord first) (rest.map ofWord) =
      (Meaning.ofPhrase? (Word.key (first :: rest))).map fun meaning =>
        ⟨first.gap, Word.span (first :: rest), Word.key (first :: rest), meaning⟩ := by
  have folded : ((ofWord first :: rest.map ofWord).map Piece.folded) =
      (first :: rest).map fun word => Text.fold (String.ofList word.chars) := by
    simp [ofWord, Function.comp_def]
  have text : textOf (ofWord first :: rest.map ofWord) = Word.span (first :: rest) := by
    simp [textOf, Word.span, Word.layout, ofWord, List.flatMap_map]
  simp only [joined?, folded, text]
  rfl

theorem JoinsWords.several {piece : Piece} (first : Word) (rest : List Word)
    (size : rest.length = 1 ∨ rest.length = 2)
    (found : joined? (ofWord first) (rest.map ofWord) = some piece) :
    piece.JoinsWords (first :: rest) := by
  rw [joined?_ofWord] at found
  obtain ⟨meaning, known, rfl⟩ := Option.map_eq_some_iff.mp found
  refine ⟨?_, rfl, rfl, .joined (by simpa using size) known⟩
  simp [Word.layout, Word.span]

theorem ofPhrase?_of_joined? (first : Word) (rest : List Word)
    (absent : joined? (ofWord first) (rest.map ofWord) = none) :
    Meaning.ofPhrase? (Word.key (first :: rest)) = none := by
  rw [joined?_ofWord] at absent
  exact Option.map_eq_none_iff.mp absent

/-- Joining takes neighbouring words together, as many of them as spell a phrase. -/
theorem exists_groups : (words : List Word) → ∃ groups : List (List Word),
    groups.flatten = words ∧ List.Forall₂ JoinsWords (join (words.map ofWord)) groups ∧
      Word.Longest groups
  | [] => ⟨[], rfl, .nil, Word.Longest.nil⟩
  | [one] => by
    refine ⟨[[one]], rfl, .cons (.single one) .nil, Word.Longest.nil.cons ?_⟩
    intro size more _ fits
    simp at more fits
    omega
  | [one, two] => by
    cases pair : joined? (ofWord one) [ofWord two] with
    | some piece =>
      refine ⟨[[one, two]], rfl, ?_, Word.Longest.nil.cons ?_⟩
      · simpa [join, pair] using JoinsWords.several one [two] (.inl rfl) pair
      · intro size more _ fits
        simp at more fits
        omega
    | none =>
      refine ⟨[[one], [two]], rfl, ?_, (Word.Longest.nil.cons ?_).cons ?_⟩
      · simpa [join, pair] using ⟨JoinsWords.single one, JoinsWords.single two⟩
      · intro size more _ fits
        simp at more fits
        omega
      · intro size more _ fits
        obtain rfl : size = 2 := by simp at more fits; omega
        exact ofPhrase?_of_joined? one [two] pair
  | one :: two :: three :: rest => by
    cases triple : joined? (ofWord one) [ofWord two, ofWord three] with
    | some piece =>
      obtain ⟨groups, same, joins, longest⟩ := exists_groups rest
      refine ⟨[one, two, three] :: groups, by simp [same], ?_, longest.cons ?_⟩
      · have first := JoinsWords.several one [two, three] (.inr rfl) triple
        simpa [join, triple] using ⟨first, joins⟩
      · intro size more few
        simp at more
        omega
    | none =>
      have apart := ofPhrase?_of_joined? one [two, three] triple
      cases pair : joined? (ofWord one) [ofWord two] with
      | some piece =>
        obtain ⟨groups, same, joins, longest⟩ := exists_groups (three :: rest)
        refine ⟨[one, two] :: groups, by simp [same], ?_, longest.cons ?_⟩
        · have first := JoinsWords.several one [two] (.inl rfl) pair
          simpa [join, triple, pair] using ⟨first, joins⟩
        · intro size more few _
          obtain rfl : size = 3 := by simp at more; omega
          simpa [same] using apart
      | none =>
        obtain ⟨groups, same, joins, longest⟩ := exists_groups (two :: three :: rest)
        refine ⟨[one] :: groups, by simp [same], ?_, longest.cons ?_⟩
        · simpa [join, triple, pair] using ⟨JoinsWords.single one, joins⟩
        · intro size more few _
          have sizes : size = 2 ∨ size = 3 := by simp at more; omega
          rcases sizes with rfl | rfl
          · simpa [same] using ofPhrase?_of_joined? one [two] pair
          · simpa [same] using apart

end Piece

def Text.byteSize (text : List Char) : Nat := (String.ofList text).utf8ByteSize

@[simp] theorem Text.byteSize_append (text other : List Char) :
    byteSize (text ++ other) = byteSize text + byteSize other := by
  simp [byteSize]

@[simp] theorem Text.byteSize_cons (c : Char) (text : List Char) :
    byteSize (c :: text) = c.utf8Size + byteSize text := by
  simp [byteSize]

namespace Phrase

/-- The phrases stand in the text one behind the other, the text starting at the given place, with
white space in front of each and behind the last one. -/
inductive LaidOut : Nat → List Phrase → List Char → Prop
  | trail {start : Nat} {blanks : List Char} (blank : Text.IsBlank blanks) :
      LaidOut start [] blanks
  | phrase {start : Nat} {phrase : Phrase} {others : List Phrase} {gap rest : List Char}
      (blank : Text.IsBlank gap) (position : phrase.position = start + Text.byteSize gap)
      (filled : phrase.text.toList ≠ []) (later : LaidOut phrase.stop others rest) :
      LaidOut start (phrase :: others) (gap ++ (phrase.text.toList ++ rest))

variable {start : Nat} {phrases : List Phrase} {text : List Char}

theorem stop_eq (phrase : Phrase) :
    phrase.stop = phrase.position + Text.byteSize phrase.text.toList := by
  simp [stop, length, Text.byteSize]

theorem LaidOut.stands (laid : LaidOut start phrases text) {phrase : Phrase}
    (member : phrase ∈ phrases) : ∃ before after,
      text = before ++ (phrase.text.toList ++ after) ∧
        phrase.position = start + Text.byteSize before ∧ phrase.text.toList ≠ [] := by
  induction laid with
  | trail => cases member
  | @phrase start first others gap rest blank position filled later ih =>
    rcases List.mem_cons.mp member with rfl | among
    · exact ⟨gap, rest, rfl, position, filled⟩
    · obtain ⟨before, after, same, place, filled⟩ := ih among
      refine ⟨gap ++ (first.text.toList ++ before), after, by simp [same], ?_, filled⟩
      rw [place, stop_eq, position]
      simp only [Text.byteSize_append]
      omega

theorem LaidOut.pairwise (laid : LaidOut start phrases text) :
    phrases.Pairwise fun one other => one.stop ≤ other.position := by
  induction laid with
  | trail => exact .nil
  | phrase _ _ _ later ih =>
    refine .cons ?_ ih
    intro other among
    obtain ⟨_, _, _, place, _⟩ := later.stands among
    omega

private theorem append_eq_append_cons {front back before after : List Char} {c : Char}
    (same : front ++ back = before ++ c :: after) :
    (∃ inside, front = before ++ c :: inside) ∨
      ∃ more, before = front ++ more ∧ back = more ++ c :: after := by
  rcases List.append_eq_append_iff.mp same with ⟨more, first, second⟩ | ⟨inside, first, second⟩
  · exact .inr ⟨more, first, second⟩
  · cases inside with
    | nil => exact .inr ⟨[], by simpa using first.symm, second.symm⟩
    | cons d inside =>
      obtain ⟨rfl, _⟩ := List.cons.inj second
      exact .inl ⟨inside, first⟩

/-- What takes up bytes stands in one phrase at most. -/
theorem LaidOut.unique (laid : LaidOut start phrases text) {place size : Nat} (positive : 0 < size)
    {one other : Fin phrases.length}
    (first : (phrases.get one).position ≤ place ∧ place + size ≤ (phrases.get one).stop)
    (second : (phrases.get other).position ≤ place ∧ place + size ≤ (phrases.get other).stop) :
    one = other := by
  have apart := List.pairwise_iff_get.mp laid.pairwise
  rcases Nat.lt_trichotomy one other with before | same | behind
  · have := apart one other before
    omega
  · exact Fin.ext same
  · have := apart other one behind
    omega

/-- Each character that is not white space stands inside a phrase. -/
theorem LaidOut.covers (laid : LaidOut start phrases text) {before after : List Char} {c : Char}
    (split : text = before ++ c :: after) (solid : Text.isBlank c = false) :
    ∃ phrase ∈ phrases, phrase.position ≤ start + Text.byteSize before ∧
      start + Text.byteSize before + c.utf8Size ≤ phrase.stop := by
  induction laid generalizing before with
  | trail blank =>
    have other := blank c (by simp [split])
    simp [solid] at other
  | @phrase start first others gap rest blank position filled later ih =>
    rcases append_eq_append_cons split with ⟨inside, same⟩ | ⟨inner, rfl, same⟩
    · have other := blank c (by simp [same])
      simp [solid] at other
    rcases append_eq_append_cons same with ⟨inside, held⟩ | ⟨beyond, rfl, behind⟩
    · refine ⟨first, List.mem_cons_self, ?_⟩
      rw [stop_eq, position, held]
      simp only [Text.byteSize_append, Text.byteSize_cons]
      omega
    · obtain ⟨phrase, among, starts, stops⟩ := ih behind
      refine ⟨phrase, List.mem_cons_of_mem _ among, ?_⟩
      rw [stop_eq first, position] at starts stops
      simp only [Text.byteSize_append]
      omega

end Phrase

namespace Piece

theorem laidOut_place {trail : List Char} (blank : Text.IsBlank trail) {pieces : List Piece}
    (stands : ∀ piece ∈ pieces, Text.IsBlank piece.gap ∧ piece.chars ≠ []) (start : Nat) :
    Phrase.LaidOut start (place start pieces)
      ((pieces.flatMap fun piece => piece.gap ++ piece.chars) ++ trail) := by
  induction pieces generalizing start with
  | nil => exact .trail blank
  | cons piece rest ih =>
    obtain ⟨⟨gap, filled⟩, others⟩ := List.forall_mem_cons.mp stands
    let phrase : Phrase := ⟨piece.meaning, String.ofList piece.chars, piece.folded,
      start + Text.byteSize piece.gap⟩
    have chars : phrase.text.toList = piece.chars := String.toList_ofList
    have laid : Phrase.LaidOut start (phrase :: place phrase.stop rest) _ :=
      .phrase gap rfl (chars ▸ filled) (ih others phrase.stop)
    simp only [List.flatMap_cons, List.append_assoc, chars] at laid ⊢
    exact laid

theorem JoinsWords.stands {piece : Piece} {words : List Word} (joins : piece.JoinsWords words)
    (solid : ∀ word ∈ words, Text.IsBlank word.gap ∧ word.chars ≠ []) :
    Text.IsBlank piece.gap ∧ piece.chars ≠ [] := by
  cases words with
  | nil => exact absurd rfl joins.meaning.ne_nil
  | cons first rest =>
    have same : piece.gap = first.gap := by
      have layout := joins.layout
      rw [joins.chars] at layout
      refine List.append_cancel_right (layout.trans (?_ : _ = _ ++ Word.span (first :: rest)))
      simp [Word.layout, Word.span]
    rw [same, joins.chars]
    obtain ⟨blank, filled⟩ := solid first List.mem_cons_self
    exact ⟨blank, by simp [Word.span, filled]⟩

theorem layout_of_joins {pieces : List Piece} {groups : List (List Word)}
    (joins : List.Forall₂ JoinsWords pieces groups) :
    (pieces.flatMap fun piece => piece.gap ++ piece.chars) = Word.layout groups.flatten := by
  induction joins with
  | nil => rfl
  | cons first _ ih =>
    rw [List.flatMap_cons, List.flatten_cons, Word.layout, List.flatMap_append, ih, first.layout]
    rfl

theorem stands_of_joins {pieces : List Piece} {groups : List (List Word)}
    (joins : List.Forall₂ JoinsWords pieces groups)
    (solid : ∀ word ∈ groups.flatten, Text.IsBlank word.gap ∧ word.chars ≠ []) :
    ∀ piece ∈ pieces, Text.IsBlank piece.gap ∧ piece.chars ≠ [] := by
  induction joins with
  | nil => exact List.forall_mem_nil _
  | cons first _ ih =>
    rw [List.flatten_cons, List.forall_mem_append] at solid
    exact List.forall_mem_cons.mpr ⟨first.stands solid.1, ih solid.2⟩

end Piece

namespace Phrase

/-- The phrase is what the words are joined to. -/
structure JoinsWords (phrase : Phrase) (words : List Word) : Prop where
  text : phrase.text = String.ofList (Word.span words)
  folded : phrase.folded = Word.key words
  meaning : Word.Mean words phrase.meaning

theorem joinsWords_place {pieces : List Piece} {groups : List (List Word)}
    (joins : List.Forall₂ Piece.JoinsWords pieces groups) (start : Nat) :
    List.Forall₂ JoinsWords (Piece.place start pieces) groups := by
  induction joins generalizing start with
  | nil => exact .nil
  | cons first _ ih =>
    exact .cons ⟨congrArg String.ofList first.chars, first.folded, first.meaning⟩ (ih _)

end Phrase

/-- What the phrases of a text keep of it. -/
structure Request.Covers (phrases : List Phrase) (text : String) : Prop where
  /-- A phrase is the piece of the text between its two places. -/
  stands : ∀ phrase ∈ phrases, 0 < phrase.length ∧ ∃ before after,
    text = before ++ phrase.text ++ after ∧ before.utf8ByteSize = phrase.position
  /-- Phrases stand one behind the other. -/
  apart : phrases.Pairwise fun one other =>
    one.position < other.position ∧ one.stop ≤ other.position
  /-- Only white space stands between phrases, and no character stands in two of them. -/
  once : ∀ before after c, text = before ++ String.singleton c ++ after → Text.isBlank c = false →
    ∃! index : Fin phrases.length, (phrases.get index).position ≤ before.utf8ByteSize ∧
      before.utf8ByteSize + c.utf8Size ≤ (phrases.get index).stop
  /-- The words are what the pattern of words matches. A phrase stands for one of them, or for two or
  three that spell a phrase of the vocabulary where no more of them do. -/
  groups : ∃ groups : List (List Word),
    groups.flatten = Word.pattern.matchesBehind [] text.toList ∧
      List.Forall₂ Phrase.JoinsWords phrases groups ∧ Word.Longest groups

theorem Request.laidOut (text : String) :
    Phrase.LaidOut 0 (ofText text).phrases text.toList := by
  obtain ⟨groups, same, joins, _⟩ := Piece.exists_groups (Word.split text.toList)
  obtain ⟨trail, blank, layout⟩ := Word.exists_trail text.toList
  have solid : ∀ word ∈ groups.flatten, Text.IsBlank word.gap ∧ word.chars ≠ [] := by
    rw [same]
    exact fun word member => Word.of_mem_split member
  have laid := Piece.laidOut_place blank (Piece.stands_of_joins joins solid) 0
  rw [Piece.layout_of_joins joins, same, ← layout] at laid
  exact laid

theorem Request.ofText_covers (text : String) : Covers (ofText text).phrases text := by
  have laid := laidOut text
  have bounds : ∀ phrase ∈ (ofText text).phrases, 0 < phrase.length ∧ ∃ before after,
      text = before ++ phrase.text ++ after ∧ before.utf8ByteSize = phrase.position := by
    intro phrase member
    obtain ⟨before, after, same, position, filled⟩ := laid.stands member
    constructor
    · obtain ⟨c, rest, starts⟩ := List.exists_cons_of_ne_nil filled
      have size := Phrase.stop_eq phrase
      have positive := c.utf8Size_pos
      rw [starts, Text.byteSize_cons, Phrase.stop] at size
      omega
    · refine ⟨String.ofList before, String.ofList after, ?_, by simpa [Text.byteSize] using position.symm⟩
      apply String.toList_inj.mp
      simp [same]
  refine ⟨bounds, ?_, ?_, ?_⟩
  · refine laid.pairwise.imp_of_mem ?_
    intro one other first _ apart
    have positive := (bounds one first).1
    have stop : one.stop = one.position + one.length := rfl
    omega
  · intro before after c same solid
    have letters : text.toList = before.toList ++ c :: after.toList := by simp [same]
    obtain ⟨phrase, member, held⟩ := laid.covers letters solid
    obtain ⟨index, rfl⟩ := List.mem_iff_get.mp member
    simp only [Text.byteSize, String.ofList_toList, Nat.zero_add] at held
    exact ⟨index, held, fun other holds => laid.unique c.utf8Size_pos holds held⟩
  · obtain ⟨groups, same, joins, longest⟩ := Piece.exists_groups (Word.split text.toList)
    exact ⟨groups, same.trans (Word.split_eq_matchesBehind _), Phrase.joinsWords_place joins 0,
      longest⟩

end PhraseSheet
