import Mathlib.Data.List.TakeWhile
import PhraseSheet.Intent.Detection
import PhraseSheet.Proofs.Characters

namespace PhraseSheet

namespace Text

/-- Every character of the text is white space. -/
def IsBlank (text : List Char) : Prop := ∀ c ∈ text, isBlank c

theorem isBlank_of_trim {text : List Char} (nothing : trim text = []) : IsBlank text := by
  have none : ∀ c ∈ trimStart text, isBlank c := by
    rw [trim, trimEnd, List.reverse_eq_nil_iff, List.dropWhile_eq_nil_iff] at nothing
    simpa using nothing
  have front : ∀ c ∈ text.takeWhile isBlank, isBlank c := List.all_eq_true.mp List.all_takeWhile
  intro c member
  rw [← @List.takeWhile_append_dropWhile _ isBlank text] at member
  rcases List.mem_append.mp member with before | after
  · exact front c before
  · exact none c after

theorem isBlank_decomposeChar {c : Char} (blank : isBlank c) : IsBlank (decomposeChar c) :=
  of_isBlank (P := fun c => ∀ d ∈ decomposeChar c, isBlank d) (by decide +kernel) blank

theorem isBlank_lowerChar {c : Char} (blank : isBlank c) :
    IsBlank (lowerChar (plainLetter c)) :=
  of_isBlank (P := fun c => ∀ d ∈ lowerChar (plainLetter c), isBlank d) (by decide +kernel) blank

theorem mem_place {c d : Char} {before : List Char} : d ∈ place c before ↔ d = c ∨ d ∈ before := by
  induction before with
  | nil => simp [place]
  | cons e before ih =>
    rw [place]
    split
    · rw [List.mem_cons, ih, List.mem_cons]
      exact or_left_comm
    · simp

theorem mem_decompose {c : Char} {text : List Char} :
    c ∈ decompose text ↔ c ∈ text.flatMap decomposeChar := by
  have placed : ∀ parts done : List Char,
      c ∈ parts.foldl (fun done next => place next done) done ↔ c ∈ done ∨ c ∈ parts := by
    intro parts
    induction parts with
    | nil => simp
    | cons part rest ih =>
      intro done
      rw [List.foldl_cons, ih, mem_place, List.mem_cons]
      constructor
      · rintro ((same | old) | later)
        · exact .inr (.inl same)
        · exact .inl old
        · exact .inr (.inr later)
      · rintro (old | same | later)
        · exact .inl (.inr old)
        · exact .inl (.inl same)
        · exact .inr later
  rw [decompose, List.mem_reverse, placed]
  simp

theorem IsBlank.foldChars {text : List Char} (blank : IsBlank text) : IsBlank (foldChars text) := by
  intro c member
  simp only [Text.foldChars, List.mem_flatMap, List.mem_map, List.mem_filter] at member
  obtain ⟨_, ⟨d, ⟨decomposed, _⟩, rfl⟩, lowered⟩ := member
  obtain ⟨e, original, part⟩ := List.mem_flatMap.mp (mem_decompose.mp decomposed)
  exact isBlank_lowerChar (isBlank_decomposeChar (blank e original) d part) c lowered

theorem IsBlank.collapse {text : List Char} (blank : IsBlank text) : collapse text = [] := by
  have none : words text = [] := by
    rw [words]
    induction text with
    | nil => rfl
    | cons c rest ih =>
      rw [wordsFrom, if_pos (blank c List.mem_cons_self)]
      exact ih fun d member => blank d (List.mem_cons_of_mem _ member)
  rw [Text.collapse, none, List.intercalate_nil]

theorem fold_eq_empty {text : String} (blank : IsBlank text.toList) : fold text = "" := by
  rw [fold, blank.foldChars.collapse]

end Text

namespace Cue

/-- The phrase starts with a character that is not white space. -/
def isVisible (phrase : String) : Bool := phrase.toList.head?.any fun c => !Text.isBlank c

/-- All phrases of the cue start visibly. -/
def needsText : Cue → Bool
  | .anyOf phrases => phrases.all isVisible
  | .together left right => left.all isVisible && right.all isVisible
  | .either left right => needsText left && needsText right
  | .range | .percentage | .comparisonSign => true

section

variable {text : List Char} (blank : Text.IsBlank text)
include blank

theorem behind_eq_nil {phrase : String} (visible : isVisible phrase) (before : Option Char) :
    behind phrase.toList before text = [] := by
  induction text generalizing before with
  | nil => rfl
  | cons c rest ih =>
    have later := ih fun d member => blank d (List.mem_cons_of_mem _ member)
    have apart : phrase.toList.isPrefixOf? (c :: rest) = none := by
      unfold isVisible at visible
      cases letters : phrase.toList with
      | nil => simp [letters] at visible
      | cons first more =>
        have differs : (first == c) = false := by
          rw [beq_eq_false_iff_ne]
          rintro rfl
          simp [letters, blank first List.mem_cons_self] at visible
        have next : (first :: more).isPrefixOf? (c :: rest) =
            if first == c then more.isPrefixOf? rest else none := rfl
        simp [next, differs]
    rw [behind, apart]
    exact later _

theorem inOrder_eq_false {first : List String} (visible : first.all isVisible)
    (second : List String) : inOrder first second text = false := by
  rw [inOrder, List.any_eq_false]
  intro phrase member
  rw [behind_eq_nil blank (List.all_eq_true.mp visible phrase member)]
  simp

theorem hasRange_eq_false (before : Option Char) : hasRange before text = false := by
  induction text generalizing before with
  | nil => rfl
  | cons c rest ih =>
    have notLetter : c.isAlpha = false :=
      of_isBlank (P := fun c => c.isAlpha = false) (by decide) (blank c List.mem_cons_self)
    have none : Word.rangeLength? (c :: rest) = none := by
      simp [Word.rangeLength?, Word.cellLength?, notLetter]
    rw [hasRange, none, ih fun d member => blank d (List.mem_cons_of_mem _ member)]
    rfl

theorem hasPercentage_eq_false : hasPercentage text = false := by
  induction text with
  | nil => rfl
  | cons c rest ih =>
    have notDigit := Token.not_isDigit_of_isBlank (blank c List.mem_cons_self)
    rw [hasPercentage, notDigit, ih fun d member => blank d (List.mem_cons_of_mem _ member)]
    rfl

theorem appearsIn_eq_false {cue : Cue} (needs : cue.needsText) : cue.appearsIn text = false := by
  induction cue with
  | anyOf phrases =>
    have empty : behindAny phrases none text = [] := by
      rw [behindAny, List.flatMap_eq_nil_iff]
      exact fun phrase member => behind_eq_nil blank (List.all_eq_true.mp needs phrase member) _
    simp [appearsIn, empty]
  | together left right =>
    obtain ⟨leftVisible, rightVisible⟩ := Bool.and_eq_true_iff.mp needs
    rw [appearsIn, inOrder_eq_false blank leftVisible, inOrder_eq_false blank rightVisible]
    rfl
  | range => exact hasRange_eq_false blank none
  | percentage => exact hasPercentage_eq_false blank
  | comparisonSign =>
    rw [appearsIn, List.any_eq_false]
    intro c member
    have plain := of_isBlank (P := fun c => ¬(c == '<' || c == '>' || c == '=')) (by decide)
      (blank c member)
    exact plain
  | either left right leftNever rightNever =>
    obtain ⟨leftNeeds, rightNeeds⟩ := Bool.and_eq_true_iff.mp needs
    rw [appearsIn, leftNever leftNeeds, rightNever rightNeeds]
    rfl

end

end Cue

theorem Word.split_eq_nil {text : List Char} (blank : Text.IsBlank text) : split text = [] := by
  have none : text.dropWhile Text.isBlank = [] := List.dropWhile_eq_nil_iff.mpr blank
  rw [split]
  split
  · rfl
  · rename_i found
    rw [none] at found
    cases found

theorem Request.ofText_blank {text : String} (blank : Text.IsBlank text.toList) :
    Request.ofText text = ⟨text, "", []⟩ := by
  rw [ofText, Text.fold_eq_empty blank, Word.split_eq_nil blank]
  rfl

theorem Pattern.score?_blank {pattern : Pattern} (listed : pattern ∈ catalog) {text : String}
    (blank : Text.IsBlank text.toList) : pattern.score? (Request.ofText text) = none := by
  have needs : ∀ pattern ∈ catalog, ∀ cue ∈ pattern.cues, cue.needsText := by decide +kernel
  have none : pattern.cueCount (Request.ofText text) = 0 := by
    rw [cueCount, List.countP_eq_zero]
    intro cue member
    have visible := needs pattern listed cue member
    have noText : Text.IsBlank "".toList := by simp [Text.IsBlank]
    rw [Request.ofText_blank blank, Cue.appearsIn_eq_false blank visible,
      Cue.appearsIn_eq_false noText visible]
    decide
  rw [score?, none]
  rfl

end PhraseSheet
