import PhraseSheet.Proofs.AddressReading
import PhraseSheet.Proofs.Bodies
import PhraseSheet.Proofs.Drafting
import PhraseSheet.Proofs.Substitution

/-! What drafts say of their formulas. Drafts for intents are marked valid as their formulas show.
With cells in place of names the mark stays what it was, so it is right as far as the texts that are
put in are inert. -/

namespace PhraseSheet

open Fault

namespace Address

theorem Spelling.mem_chars {spelling : Spelling} {c : Char} (member : c ∈ spelling.chars) :
    c = '$' ∨ c = '+' ∨ c.isAlphanum := by
  have marks : ∀ fixed, ∀ c ∈ mark fixed, c = '$' := by decide
  have signs : ∀ signed, ∀ c ∈ plus signed, c = '+' := by decide
  simp only [Spelling.chars, List.mem_append] at member
  rcases member with inMark | letter | inMark | inSign | digit
  · exact .inl (marks _ c inMark)
  · exact .inr (.inr (by simp [Char.isAlphanum, spelling.isAlpha c letter]))
  · exact .inl (marks _ c inMark)
  · exact .inr (.inl (signs _ c inSign))
  · exact .inr (.inr (by simp [Char.isAlphanum, spelling.isDigit c digit]))

theorem Spelling.exists_last (spelling : Spelling) :
    ∃ front d, spelling.chars = front ++ [d] ∧ d.isDigit := by
  refine ⟨mark spelling.columnFixed ++ (spelling.letters ++ (mark spelling.rowFixed ++
    (plus spelling.signed ++ spelling.digits.dropLast))), spelling.digits.getLast spelling.anyDigit,
    ?_, spelling.isDigit _ (List.getLast_mem spelling.anyDigit)⟩
  simp [Spelling.chars, List.dropLast_concat_getLast]

section

variable {text : String} {address : Address} (read : parse text = .ok address)

include read

/-- A text that is read as a cell holds white space, marks, a sign, letters and digits. -/
theorem mem_of_parse {c : Char} (member : c ∈ text.toList) :
    Text.isBlank c ∨ c = '$' ∨ c = '+' ∨ c.isAlphanum := by
  obtain ⟨spelling, trimmed, _⟩ := Spelling.exists_of_parse read
  obtain ⟨trail, _, whole, blank⟩ := Expr.exists_trim text.toList
  have leadBlank : ∀ c ∈ text.toList.takeWhile Text.isBlank, Text.isBlank c :=
    List.all_eq_true.mp List.all_takeWhile
  rw [whole, trimmed] at member
  simp only [List.mem_append] at member
  rcases member with lead | inside | behind
  · exact .inl (leadBlank c lead)
  · exact .inr (Spelling.mem_chars inside)
  · exact .inl (blank c behind)

theorem lastVisible?_of_parse : ∃ d, lastVisible? text.toList = some d ∧ d.isDigit := by
  obtain ⟨spelling, trimmed, _⟩ := Spelling.exists_of_parse read
  obtain ⟨trail, _, whole, blank⟩ := Expr.exists_trim text.toList
  obtain ⟨front, d, ends, digit⟩ := spelling.exists_last
  have visible : Text.isBlank d = false := not_isBlank_of_isDigit digit
  refine ⟨d, ?_, digit⟩
  rw [whole, trimmed, ends, ← List.append_assoc, lastVisible?_append_blank blank, ← List.append_assoc]
  exact lastVisible?_of_getLast? List.getLast?_concat visible

theorem inert_of_parse (name : List Char) : FormulaPart.Inert name text.toList := by
  have apart : ∀ c ∈ ['"', '(', ')', '/', '*', '\x7b'],
      Text.isBlank c = false ∧ c ≠ '$' ∧ c ≠ '+' ∧ c.isAlphanum = false := by
    decide
  have absent : ∀ c ∈ ['"', '(', ')', '/', '*', '\x7b'], c ∉ text.toList := by
    intro c listed member
    obtain ⟨visible, noMark, noPlus, noWord⟩ := apart c listed
    simpa [visible, noMark, noPlus, noWord] using mem_of_parse read member
  have noDigit : ∀ c ∈ signs, c.isDigit = false := by decide
  obtain ⟨d, last, digit⟩ := lastVisible?_of_parse read
  refine FormulaPart.inert_of_absent absent (fun dollar => ?_) ⟨d, last, fun sign => ?_⟩
  · have same := lastVisible?_of_getLast? dollar (by decide)
    rw [last] at same
    cases same
    cases digit
  · simp [noDigit d sign] at digit

end

end Address

namespace Draft

/-- What a draft says of its formula is so: if it is marked valid the formula is sound, and it reads
what the formula mentions. -/
structure Vouched (draft : Draft) : Prop where
  sound : draft.isValid → Sound draft.formula.toList
  reads : draft.reads = FormulaPart.mentioned draft.formula

theorem isValid_ofFormula_iff (formula description : String) (warnings : List String) :
    (ofFormula formula description warnings).isValid ↔ Sound formula.toList :=
  sound_iff formula

theorem vouched_ofFormula (formula description : String) (warnings : List String) :
    (ofFormula formula description warnings).Vouched where
  sound := (isValid_ofFormula_iff formula description warnings).mp
  reads := rfl

theorem cut_empty : FormulaPart.cut "".toList = [] := FormulaPart.cut.eq_1

theorem vouched_refused (description warning : String) : (refused description warning).Vouched where
  sound valid := nomatch valid
  reads := by
    change [] = ((FormulaPart.cut "".toList).filterMap FormulaPart.name?).eraseDups
    rw [cut_empty]
    rfl

theorem ofIntent_cases (knowledge : Knowledge) (intent : Intent) :
    (∃ formula description warnings,
      ofIntent knowledge intent = ofFormula formula description warnings) ∨
    ∃ description warning, ofIntent knowledge intent = refused description warning := by
  unfold ofIntent
  split
  · exact .inr ⟨_, _, rfl⟩
  · split
    · exact .inl ⟨_, _, _, rfl⟩
    · exact .inr ⟨_, _, rfl⟩
  · split
    · exact .inl ⟨_, _, _, rfl⟩
    · exact .inr ⟨_, _, rfl⟩

theorem vouched_ofIntent (knowledge : Knowledge) (intent : Intent) :
    (ofIntent knowledge intent).Vouched := by
  rcases ofIntent_cases knowledge intent with ⟨formula, description, warnings, same⟩ |
    ⟨description, warning, same⟩
  · rw [same]
    exact vouched_ofFormula formula description warnings
  · rw [same]
    exact vouched_refused description warning

theorem exists_intent (formula : String) :
    ∃ intent, ∀ knowledge, ofIntent knowledge intent = ofFormula formula "" [] :=
  ⟨{ goal := .custom, confidence := 1, fields := [], operations := [], numbers := [], ranges := [],
     comparisons := [], text := "", formula? := some formula, description := "" }, fun _ => rfl⟩

section

variable (cell? : String → Option String) {draft : Draft}

theorem reads_withCells (vouched : draft.Vouched) :
    (draft.withCells cell?).reads = FormulaPart.mentioned (draft.withCells cell?).formula := by
  unfold withCells
  split
  · exact vouched.reads
  · rfl

theorem isValid_withCells (draft : Draft) : (draft.withCells cell?).isValid = draft.isValid := by
  unfold withCells
  split <;> rfl

theorem formula_withCells (draft : Draft) :
    (draft.withCells cell?).formula = FormulaPart.rename cell? draft.formula := by
  unfold withCells
  split
  · rename_i empty
    rw [String.isEmpty_iff.mp empty, FormulaPart.rename, cut_empty]
    rfl
  · rfl

theorem vouched_withCells (vouched : draft.Vouched)
    (inert : ∀ name ∈ draft.reads, ∀ image, cell? name = some image →
      FormulaPart.Inert name.toList image.toList) : (draft.withCells cell?).Vouched where
  sound := by
    rw [isValid_withCells, formula_withCells]
    intro valid
    rw [vouched.reads] at inert
    exact FormulaPart.sound_rename inert (vouched.sound valid)
  reads := reads_withCells cell? vouched

end

theorem isValid_ofIntent_iff (knowledge : Knowledge) (intent : Intent) :
    (ofIntent knowledge intent).isValid ↔ Sound (ofIntent knowledge intent).formula.toList := by
  rcases ofIntent_cases knowledge intent with ⟨formula, description, warnings, same⟩ |
    ⟨description, warning, same⟩
  · rw [same]
    exact isValid_ofFormula_iff formula description warnings
  · rw [same]
    exact ⟨fun valid => (nomatch valid), fun sound => (nomatch sound.starts)⟩

/-- A draft for an intent is marked valid and reads as its formula shows. With texts in place of names
the reads are those of the new formula, and the mark is right just if the new formula is sound or the
old one was not. That is so if what is put in place of the names that are read is inert, as the texts
of cells are, and it is so for all intents just if everything that is put in place of names is
inert. -/
theorem vouched_drafts (knowledge : Knowledge) (intent : Intent) (cell? : String → Option String) :
    let draft := ofIntent knowledge intent
    let renamed := draft.withCells cell?
    draft.Vouched ∧ renamed.reads = FormulaPart.mentioned renamed.formula ∧
    (renamed.Vouched ↔ (Sound draft.formula.toList → Sound renamed.formula.toList)) ∧
    ((∀ name ∈ draft.reads, ∀ image, cell? name = some image →
      FormulaPart.Inert name.toList image.toList ∨ ∃ address, Address.parse image = .ok address) →
        renamed.Vouched) ∧
    ((∀ knowledge intent, ((ofIntent knowledge intent).withCells cell?).Vouched) ↔
      ∀ name image, FormulaPart.Readable name → cell? (String.ofList name) = some image →
        FormulaPart.Inert name image.toList) := by
  have reads : ∀ knowledge intent, ((ofIntent knowledge intent).withCells cell?).reads =
      FormulaPart.mentioned ((ofIntent knowledge intent).withCells cell?).formula :=
    fun knowledge intent => reads_withCells cell? (vouched_ofIntent knowledge intent)
  have marked : ∀ knowledge intent, ((ofIntent knowledge intent).withCells cell?).isValid ↔
      Sound (ofIntent knowledge intent).formula.toList := by
    intro knowledge intent
    rw [isValid_withCells, isValid_ofIntent_iff]
  refine ⟨vouched_ofIntent knowledge intent, reads knowledge intent, ⟨?_, ?_⟩, ?_, ?_⟩
  · intro vouched sound
    exact vouched.sound ((marked knowledge intent).mpr sound)
  · intro kept
    exact ⟨fun valid => kept ((marked knowledge intent).mp valid), reads knowledge intent⟩
  · intro images
    refine vouched_withCells cell? (vouched_ofIntent knowledge intent) ?_
    intro name listed image found
    rcases images name listed image found with inert | ⟨address, read⟩
    · exact inert
    · exact Address.inert_of_parse read name.toList
  · rw [← FormulaPart.keeps_sound_iff]
    constructor
    · intro vouched formula sound
      obtain ⟨intent, same⟩ := exists_intent formula
      have kept := (vouched {} intent).sound
      rw [isValid_withCells, formula_withCells, same {}] at kept
      exact kept ((isValid_ofFormula_iff formula "" []).mpr sound)
    · intro keeps knowledge intent
      refine ⟨fun valid => ?_, reads knowledge intent⟩
      rw [formula_withCells]
      exact keeps _ ((marked knowledge intent).mp valid)

/-- A text with an open parenthesis leaves a draft that is marked valid, and a cell between white
space does no harm. -/
theorem vouched_drafts_single :
    let single (image : String) : String → Option String := fun name =>
      if name = "a" then some image else none
    (¬ ∀ knowledge intent, ((ofIntent knowledge intent).withCells (single "(B2")).Vouched) ∧
    ∀ knowledge intent, ((ofIntent knowledge intent).withCells (single " $B$2 ")).Vouched := by
  intro single
  obtain ⟨sample, _⟩ := exists_intent "=a"
  constructor
  · intro vouched
    have inert_iff := (vouched_drafts {} sample (single "(B2")).2.2.2.2
    have readable : FormulaPart.Readable ['a'] := ⟨⟨'a', [], rfl, by decide, by decide⟩, by decide⟩
    have inert := inert_iff.mp vouched ['a'] "(B2" readable rfl
    have unclosed := (isBalanced_iff false 0 _).mpr inert.closes
    exact absurd unclosed (by decide)
  · intro knowledge intent
    refine (vouched_drafts knowledge intent (single " $B$2 ")).2.2.2.1 fun name _ image found => .inr ?_
    obtain ⟨_, same⟩ := Option.ite_none_right_eq_some.mp found
    let corner : Address := ⟨1, 1, true, true, by decide, by decide⟩
    have read : Address.parse " $B$2 " = .ok corner := by rfl
    exact ⟨corner, Option.some.inj same ▸ read⟩

end Draft

end PhraseSheet
