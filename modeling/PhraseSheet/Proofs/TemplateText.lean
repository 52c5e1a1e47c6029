import Mathlib.Data.List.Chain
import Mathlib.Data.List.TakeWhile
import PhraseSheet.Proofs.Characters
import PhraseSheet.Template.Basic

/-! Templates and their texts. A text is read as the one well-formed template that it is the written
form of. It is refused where, from the left, the first slot is opened that has no end or no name. -/

namespace PhraseSheet.Template

/-- No slot is opened in the text. -/
def Clear (text : List Char) : Prop := ¬ ['$', '\x7b'] <:+: text

/-- What a slot may be named. -/
def IsSlotName (name : List Char) : Prop := name ≠ [] ∧ ∀ c ∈ name, c.isAlphanum ∨ c = '_'

/-- Literals have a character and open no slot, slots have names, and no literal stands beside
another. What a slot is filled with is told by its name. -/
structure WellFormed (segments : List Segment) : Prop where
  literal : ∀ content, .literal content ∈ segments → content ≠ "" ∧ Clear content.toList
  slot : ∀ name, .slot name ∈ segments → IsSlotName name.toList
  apart : segments.IsChain fun one other => one.slot?.isSome ∨ other.slot?.isSome

/-- Read from the left, behind slots with names and ends, a slot is opened in the text that has no
end or no name. -/
inductive Fails (whole : String) : List Char → TemplateError → Prop
  | unterminated {front rest : List Char} (clear : Clear front) (endless : '\x7d' ∉ rest) :
      Fails whole (front ++ '$' :: '\x7b' :: rest) (.unterminated whole)
  | badName {front name rest : List Char} (clear : Clear front) (closed : '\x7d' ∉ name)
      (nameless : ¬ IsSlotName name) :
      Fails whole (front ++ '$' :: '\x7b' :: (name ++ '\x7d' :: rest))
        (.badName whole (String.ofList name))
  | later {front name rest : List Char} {cause : TemplateError} (clear : Clear front)
      (named : IsSlotName name) (fails : Fails whole rest cause) :
      Fails whole (front ++ '$' :: '\x7b' :: (name ++ '\x7d' :: rest)) cause

def charsOf (segments : List Segment) : List Char :=
  segments.flatMap fun segment => segment.text.toList

section

variable {c : Char} {front text rest name literal : List Char} {segments : List Segment}
  {whole : String}

theorem Clear.of_cons (clear : Clear (c :: text)) : Clear text := fun opened =>
  clear (opened.trans (List.suffix_cons c text).isInfix)

theorem Clear.head (clear : Clear ('$' :: text)) : text.head? ≠ some '\x7b' := by
  intro starts
  obtain ⟨rest, rfl⟩ := List.head?_eq_some_iff.mp starts
  exact clear (List.prefix_append ['$', '\x7b'] rest).isInfix

theorem Clear.cons (clear : Clear text) (apart : c = '$' → text.head? ≠ some '\x7b') :
    Clear (c :: text) := by
  intro opened
  rcases List.infix_cons_iff.mp opened with starts | later
  · obtain ⟨rest, same⟩ := starts
    cases same
    exact apart rfl rfl
  · exact clear later

/-- A text opens no slot, or one behind characters that open none. -/
theorem opening_cases (text : List Char) :
    Clear text ∨ ∃ front rest, Clear front ∧ text = front ++ '$' :: '\x7b' :: rest := by
  induction text with
  | nil => exact .inl (by simp [Clear])
  | cons c text ih =>
    by_cases opens : c = '$' ∧ text.head? = some '\x7b'
    · obtain ⟨rfl, starts⟩ := opens
      obtain ⟨rest, rfl⟩ := List.head?_eq_some_iff.mp starts
      exact .inr ⟨[], rest, by simp [Clear], rfl⟩
    · rcases ih with clear | ⟨front, rest, clear, rfl⟩
      · exact .inl (clear.cons fun same starts => opens ⟨same, starts⟩)
      · refine .inr ⟨c :: front, rest, clear.cons fun same starts => opens ⟨same, ?_⟩, rfl⟩
        simp [starts]

/-- Characters that open no slot belong to the literal. -/
theorem segmentsFrom_front (clear : Clear front) (apart : rest.head? ≠ some '\x7b') :
    segmentsFrom whole literal (front ++ rest) = segmentsFrom whole (literal ++ front) rest := by
  induction front generalizing literal with
  | nil => simp
  | cons c front ih =>
    rw [List.cons_append, segmentsFrom, ih clear.of_cons, List.append_assoc, List.singleton_append]
    rintro others rfl same
    cases front with
    | nil => exact apart (by rw [← List.nil_append rest, same]; rfl)
    | cons d front =>
      cases same
      exact clear.head rfl

theorem segmentsFrom_clear (clear : Clear text) :
    segmentsFrom whole [] text = .ok (withLiteral text []) := by
  have all : segmentsFrom whole [] (text ++ []) = segmentsFrom whole ([] ++ text) [] :=
    segmentsFrom_front clear (by simp)
  rw [List.append_nil, List.nil_append] at all
  rw [all, segmentsFrom]

theorem isName_iff : isName name ↔ IsSlotName name := by
  simp [isName, IsSlotName]

theorem IsSlotName.closed (named : IsSlotName name) : '\x7d' ∉ name := by
  intro member
  rcases named.2 _ member with alphanumeric | same
  · cases alphanumeric
  · cases same

theorem segmentsFrom_endless (endless : '\x7d' ∉ rest) :
    segmentsFrom whole literal ('$' :: '\x7b' :: rest) = .error (.unterminated whole) := by
  have none : rest.dropWhile (· != '\x7d') = [] :=
    List.dropWhile_eq_nil_iff.mpr fun c member => bne_iff_ne.mpr fun same => endless (same ▸ member)
  rw [segmentsFrom]
  split
  · rfl
  · rename_i found
    rw [none] at found
    cases found

theorem segmentsFrom_closed (closed : '\x7d' ∉ name) :
    segmentsFrom whole literal ('$' :: '\x7b' :: (name ++ '\x7d' :: rest)) =
      if isName name then
        (segmentsFrom whole [] rest).map fun others =>
          withLiteral literal (.slot (String.ofList name) :: others)
      else .error (.badName whole (String.ofList name)) := by
  have inside : ∀ c ∈ name, c != '\x7d' := fun c member =>
    bne_iff_ne.mpr fun same => closed (same ▸ member)
  have stops : ∀ c ∈ ('\x7d' :: rest).head?, (c != '\x7d') = false := by
    rintro c ⟨⟩
    rfl
  rw [segmentsFrom]
  rw [takeWhile_run inside stops]
  split
  · rename_i found
    rw [dropWhile_run inside stops] at found
    cases found
  · rename_i after found
    rw [dropWhile_run inside stops] at found
    cases found
    cases isName name <;> rfl

theorem WellFormed.of_cons {segment : Segment} (wellFormed : WellFormed (segment :: segments)) :
    WellFormed segments where
  literal content member := wellFormed.literal content (List.mem_cons_of_mem _ member)
  slot name member := wellFormed.slot name (List.mem_cons_of_mem _ member)
  apart := wellFormed.apart.tail

theorem WellFormed.slot_cons (wellFormed : WellFormed segments) (named : IsSlotName name) :
    WellFormed (.slot (String.ofList name) :: segments) where
  literal content member := wellFormed.literal content (by simpa using member)
  slot other member := by
    rcases List.mem_cons.mp member with same | later
    · cases same
      rwa [String.toList_ofList]
    · exact wellFormed.slot other later
  apart := List.isChain_cons.mpr ⟨fun _ _ => .inl rfl, wellFormed.apart⟩

theorem WellFormed.withLiteral (wellFormed : WellFormed segments) (clear : Clear text)
    (apart : ∀ segment ∈ segments.head?, segment.slot?.isSome) :
    WellFormed (withLiteral text segments) := by
  unfold Template.withLiteral
  split
  · exact wellFormed
  · rename_i any
    refine ⟨fun content member => ?_, fun name member => ?_, ?_⟩
    · rcases List.mem_cons.mp member with same | later
      · cases same
        rw [String.toList_ofList]
        exact ⟨by simpa using any, clear⟩
      · exact wellFormed.literal content later
    · exact wellFormed.slot name (by simpa using member)
    · exact List.isChain_cons.mpr ⟨fun other first => .inr (apart other first), wellFormed.apart⟩

theorem charsOf_withLiteral : charsOf (withLiteral text segments) = text ++ charsOf segments := by
  unfold withLiteral
  split
  · rename_i none
    rw [List.isEmpty_iff.mp none, List.nil_append]
  · simp [charsOf, Segment.text]

theorem charsOf_slot_cons : charsOf (.slot (String.ofList name) :: segments) =
    '$' :: '\x7b' :: (name ++ '\x7d' :: charsOf segments) := by
  simp [charsOf, Segment.text, Segment.marker]

theorem head?_charsOf (slotFirst : ∀ segment ∈ segments.head?, segment.slot?.isSome) :
    (charsOf segments).head? ≠ some '\x7b' := by
  cases segments with
  | nil => simp [charsOf]
  | cons segment rest =>
    cases segment with
    | literal content => cases slotFirst _ rfl
    | slot name => simp [charsOf, Segment.text, Segment.marker]

theorem segmentsFrom_charsOf (wellFormed : WellFormed segments)
    (apart : literal = [] ∨ ∀ segment ∈ segments.head?, segment.slot?.isSome) :
    segmentsFrom whole literal (charsOf segments) = .ok (withLiteral literal segments) := by
  induction segments generalizing literal with
  | nil => simp [charsOf, segmentsFrom]
  | cons segment rest ih =>
    have later := wellFormed.of_cons
    cases segment with
    | literal content =>
      obtain rfl : literal = [] := apart.resolve_right (by simp [Segment.slot?])
      obtain ⟨any, clear⟩ := wellFormed.literal content List.mem_cons_self
      have next : ∀ other ∈ rest.head?, other.slot?.isSome := by
        intro other first
        simpa [Segment.slot?] using (List.isChain_cons.mp wellFormed.apart).1 other first
      have front : charsOf (.literal content :: rest) = content.toList ++ charsOf rest := by
        simp [charsOf, Segment.text]
      rw [front, segmentsFrom_front clear (head?_charsOf next), List.nil_append,
        ih later (.inr next)]
      simp [Template.withLiteral, any]
    | slot name =>
      have named := wellFormed.slot name List.mem_cons_self
      rw [← @String.ofList_toList name, charsOf_slot_cons, segmentsFrom_closed named.closed,
        if_pos (isName_iff.mpr named), ih later (.inl rfl)]
      rfl

/-- A slot with a name and an end is read behind what stands in front of it. -/
theorem segmentsFrom_named (clear : Clear front) (named : IsSlotName name) :
    segmentsFrom whole [] (front ++ '$' :: '\x7b' :: (name ++ '\x7d' :: rest)) =
      (segmentsFrom whole [] rest).map fun others =>
        withLiteral front (.slot (String.ofList name) :: others) := by
  rw [segmentsFrom_front clear (by simp), segmentsFrom_closed named.closed,
    if_pos (isName_iff.mpr named), List.nil_append]

/-- Every text is the written form of the segments that are read from it, or fails. -/
theorem segmentsFrom_cases (whole : String) (text : List Char) :
    (∃ segments, WellFormed segments ∧ charsOf segments = text ∧
      segmentsFrom whole [] text = .ok segments) ∨ ∃ cause, Fails whole text cause := by
  induction size : text.length using Nat.strong_induction_on generalizing text with
  | _ bound ih
  rcases opening_cases text with clear | ⟨front, rest, clear, rfl⟩
  · have nothing : WellFormed [] := ⟨by simp, by simp, .nil⟩
    refine .inl ⟨withLiteral text [], nothing.withLiteral clear (by simp), ?_,
      segmentsFrom_clear clear⟩
    rw [charsOf_withLiteral, charsOf, List.flatMap_nil, List.append_nil]
  · by_cases closes : '\x7d' ∈ rest
    · obtain ⟨name, after, rfl, closed⟩ := List.eq_append_cons_of_mem closes
      by_cases named : IsSlotName name
      · have shorter : after.length < bound := by
          simp only [← size, List.length_append, List.length_cons]
          omega
        rcases ih _ shorter after rfl with ⟨segments, wellFormed, written, read⟩ | ⟨cause, fails⟩
        · refine .inl ⟨withLiteral front (.slot (String.ofList name) :: segments),
            (wellFormed.slot_cons named).withLiteral clear ?_, ?_, ?_⟩
          · rintro segment ⟨⟩
            rfl
          · rw [charsOf_withLiteral, charsOf_slot_cons, written]
          · rw [segmentsFrom_named clear named, read]
            rfl
        · exact .inr ⟨cause, .later clear named fails⟩
      · exact .inr ⟨_, .badName clear closed named⟩
    · exact .inr ⟨_, .unterminated clear closes⟩

theorem segmentsFrom_of_fails {cause : TemplateError} (fails : Fails whole text cause) :
    segmentsFrom whole [] text = .error cause := by
  induction fails with
  | unterminated clear endless =>
    rw [segmentsFrom_front clear (by simp), segmentsFrom_endless endless]
  | badName clear closed nameless =>
    rw [segmentsFrom_front clear (by simp), segmentsFrom_closed closed,
      if_neg (mt isName_iff.mp nameless)]
  | later clear named _ ih =>
    rw [segmentsFrom_named clear named, ih]
    rfl

end

theorem toList_text (template : Template) : template.text.toList = charsOf template.segments := by
  rw [text, String.toList_join, List.flatMap_map, charsOf]

/-- A text is read as a template just if the template is well formed and the text is its written
form. Any other text is refused for the first slot that has no end or no name. -/
theorem parse_iff_written (text : String) :
    (∀ template, parse text = .ok template ↔
      WellFormed template.segments ∧ template.text = text) ∧
    ∀ cause, parse text = .error cause ↔ Fails text text.toList cause := by
  have read : parse text = (segmentsFrom text [] text.toList).map Template.mk := rfl
  constructor
  · intro template
    constructor
    · intro parsed
      rcases segmentsFrom_cases text text.toList with
        ⟨segments, wellFormed, written, found⟩ | ⟨_, fails⟩
      · rw [read, found] at parsed
        cases parsed
        exact ⟨wellFormed, String.toList_inj.mp ((toList_text _).trans written)⟩
      · rw [read, segmentsFrom_of_fails fails] at parsed
        cases parsed
    · rintro ⟨wellFormed, rfl⟩
      rw [read, toList_text, segmentsFrom_charsOf wellFormed (.inl rfl)]
      rfl
  · intro cause
    constructor
    · intro refused
      rcases segmentsFrom_cases text text.toList with ⟨_, _, _, found⟩ | ⟨other, fails⟩
      · rw [read, found] at refused
        cases refused
      · rw [read, segmentsFrom_of_fails fails] at refused
        cases refused
        exact fails
    · intro fails
      rw [read, segmentsFrom_of_fails fails]
      rfl

end PhraseSheet.Template
