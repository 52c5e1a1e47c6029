import Mathlib
import PhraseSheet.Proofs.Dependence
import PhraseSheet.Proofs.HeaderReading

/-! Letter case in look-ups. Texts that are compared are in lower case first; a look-up passes over
the case of the ASCII letters only, and so misses a key that differs in the case of another one. -/

namespace PhraseSheet

namespace Text

abbrev SameOrLetters (c d : Char) : Prop := c = d ∨ c.isAlpha ∧ d.isAlpha

/-- Whether the texts differ in ASCII letters only. -/
def DifferInAscii (one other : String) : Prop :=
  List.Forall₂ SameOrLetters one.toList other.toList

instance (one other : String) : Decidable (DifferInAscii one other) :=
  inferInstanceAs (Decidable (List.Forall₂ _ _ _))

/-- The same character up to the case of the ASCII letters. -/
abbrev Alike (c d : Char) : Prop := c.toLower = d.toLower

variable {c d : Char} {one other before otherBefore : List Char}

theorem Alike.sameOrLetters (alike : Alike c d) : SameOrLetters c d := by
  have letters : c.isAlpha = d.isAlpha := by
    rw [← Char.isAlpha_toLower_eq_isAlpha, alike, Char.isAlpha_toLower_eq_isAlpha]
  by_cases letter : c.isAlpha
  · exact .inr ⟨letter, letters.symm.trans letter⟩
  · have unchanged : ∀ e : Char, ¬ e.isAlpha → e.toLower = e := by
      intro e noLetter
      exact Char.toLower_eq_of_not_isUpper fun upper => noLetter (by simp [Char.isAlpha, upper])
    refine .inl ?_
    rwa [Alike, unchanged c letter, unchanged d (letters ▸ letter)] at alike

theorem lowerChar_of_isAlpha (letter : c.isAlpha) : lowerChar c = [c.toLower] :=
  of_ascii (P := fun c => c.isAlpha → lowerChar c = [c.toLower]) (by decide +kernel)
    (toNat_lt_of_isAlpha letter) letter

theorem cased_of_isAlpha (letter : c.isAlpha) : cased.covers c.toNat :=
  of_ascii (P := fun c => c.isAlpha → cased.covers c.toNat) (by decide +kernel)
    (toNat_lt_of_isAlpha letter) letter

theorem not_caseIgnorable_of_isAlpha (letter : c.isAlpha) :
    caseIgnorable.covers c.toNat = false :=
  of_ascii (P := fun c => c.isAlpha → caseIgnorable.covers c.toNat = false) (by decide +kernel)
    (toNat_lt_of_isAlpha letter) letter

theorem lowerAfter_of_isAlpha (letter : c.isAlpha) (before rest : List Char) :
    lowerAfter before (c :: rest) = c.toLower :: lowerAfter (c :: before) rest := by
  have noSigma : (c == 'Σ') = false := by
    rw [beq_eq_false_iff_ne]
    rintro rfl
    cases letter
  rw [lowerAfter, noSigma, lowerChar_of_isAlpha letter]
  rfl

theorem meetsCased_cons (c : Char) (rest : List Char) :
    meetsCased (c :: rest) =
      if caseIgnorable.covers c.toNat then meetsCased rest else cased.covers c.toNat := by
  cases ignored : caseIgnorable.covers c.toNat <;> simp [meetsCased, ignored]

theorem meetsCased_congr (alike : List.Forall₂ Alike one other) :
    meetsCased one = meetsCased other := by
  induction alike with
  | nil => rfl
  | @cons c d rest otherRest same _ ih =>
    rcases same.sameOrLetters with rfl | ⟨letter, otherLetter⟩
    · rw [meetsCased_cons, meetsCased_cons, ih]
    · simp [meetsCased_cons, not_caseIgnorable_of_isAlpha, cased_of_isAlpha, letter, otherLetter]

/-- Texts that differ in the case of ASCII letters only are the same in lower case. -/
theorem lowerAfter_congr (alike : List.Forall₂ Alike one other)
    (alikeBefore : List.Forall₂ Alike before otherBefore) :
    lowerAfter before one = lowerAfter otherBefore other := by
  induction alike generalizing before otherBefore with
  | nil => rfl
  | @cons c d rest otherRest same alikeRest ih =>
    have tail := ih (.cons same alikeBefore)
    rcases same.sameOrLetters with rfl | ⟨letter, otherLetter⟩
    · rw [lowerAfter, lowerAfter, tail, meetsCased_congr alikeBefore, meetsCased_congr alikeRest]
    · rw [lowerAfter_of_isAlpha letter, lowerAfter_of_isAlpha otherLetter, tail, same]

/-- Texts that are the same in lower case differ in ASCII letters by the case of these only. -/
theorem alike_of_lowerAfter (letters : List.Forall₂ SameOrLetters one other)
    (same : lowerAfter before one = lowerAfter otherBefore other) :
    List.Forall₂ Alike one other := by
  induction letters generalizing before otherBefore with
  | nil => exact .nil
  | @cons c d rest otherRest pair _ ih =>
    rcases pair with rfl | ⟨letter, otherLetter⟩
    · -- what one character becomes is of one length, whatever stands around it
      rw [lowerAfter, lowerAfter] at same
      exact .cons rfl (ih (List.append_inj same (by split <;> rfl)).2)
    · rw [lowerAfter_of_isAlpha letter, lowerAfter_of_isAlpha otherLetter, List.cons.injEq] at same
      exact .cons same.1 (ih same.2)

theorem sameIgnoringCase_iff_forall₂ {one other : String} :
    sameIgnoringCase one other ↔ List.Forall₂ Alike one.toList other.toList := by
  rw [sameIgnoringCase, beq_iff_eq, ← List.forall₂_eq_eq_eq, List.forall₂_map_left_iff,
    List.forall₂_map_right_iff]

/-- Up to the case of the ASCII letters the same are the texts that differ in ASCII letters only and
are the same in lower case. -/
theorem sameIgnoringCase_iff_lowered {one other : String} :
    sameIgnoringCase one other ↔ lowered one = lowered other ∧ DifferInAscii one other := by
  rw [sameIgnoringCase_iff_forall₂, lowered, lowered, String.ofList_inj, lower, lower]
  constructor
  · intro alike
    exact ⟨lowerAfter_congr alike .nil, alike.imp fun _ _ same => same.sameOrLetters⟩
  · rintro ⟨same, letters⟩
    exact alike_of_lowerAfter letters same

end Text

namespace Context

theorem exists_foldl_smaller (names : List String) (least : String) :
    ∃ found, names.foldl smaller (some least) = some found := by
  induction names generalizing least with
  | nil => exact ⟨least, rfl⟩
  | cons name rest ih => exact ih _

theorem exists_alias {context : Context} {key name : String} (listed : key ∈ context.names)
    (same : Text.sameIgnoringCase key name) : ∃ least, context.alias? name = some least := by
  have member : key ∈ context.names.filter (Text.sameIgnoringCase · name) :=
    List.mem_filter.mpr ⟨listed, same⟩
  unfold alias?
  cases matching : context.names.filter (Text.sameIgnoringCase · name) with
  | nil =>
    rw [matching] at member
    cases member
  | cons first rest => exact exists_foldl_smaller rest first

/-- A look-up finds a value just if a key is the name up to the case of the ASCII letters. -/
theorem contains_iff {context : Context} {name : String} :
    context.contains name ↔ ∃ key ∈ context.names, Text.sameIgnoringCase key name := by
  have itself : Text.sameIgnoringCase name name := by simp [Text.sameIgnoringCase]
  unfold contains get?
  cases found : context.find? name with
  | some value =>
    exact ⟨fun _ => ⟨name, Labelled.mem_names_iff.mpr ⟨value, found⟩, itself⟩, fun _ => rfl⟩
  | none =>
    constructor
    · intro given
      cases least : context.alias? name with
      | none => simp [least] at given
      | some key => exact ⟨key, (alias?_eq_some_iff.mp least).1⟩
    · rintro ⟨key, listed, same⟩
      obtain ⟨least, matching⟩ := exists_alias listed same
      obtain ⟨value, stored⟩ := Labelled.mem_names_iff.mp (alias?_eq_some_iff.mp matching).1.1
      simp [matching, stored]

/-- Of the keys that are the name in lower case, a look-up finds those that differ from it in ASCII
letters only. A formula of a name for which it finds none is the error for unknown names. -/
theorem contains_iff_lowered (context : Context) (name : String) :
    (context.contains name ↔
      ∃ key ∈ context.names, Text.lowered key = Text.lowered name ∧ Text.DifferInAscii key name) ∧
    (SpellsName name.toList →
      (∀ truth ∈ ["TRUE", "FALSE"], Text.sameIgnoringCase name truth = false) →
      (∀ cell : Reference, cell.text ≠ name) →
        HasValue context ("=" ++ name) ((context.get? name).getD (.error .unknownName))) := by
  constructor
  · simp only [contains_iff, Text.sameIgnoringCase_iff_lowered]
  · intro spells noTruth noCell
    rcases Row.hasValue_name spells noTruth with ⟨cell, same, _⟩ | ⟨_, hasValue⟩
    · exact absurd same (noCell cell)
    · exact hasValue

/-- A header that starts with a letter outside the ASCII alphabet, looked up in lower case, and one
whose case differs in an ASCII letter. -/
theorem contains_iff_lowered_prices :
    let context : Context := ⟨[("Đơn", .number 5), ("Giá", .number 2)], by decide⟩
    Text.lowered "Đơn" = Text.lowered "đơn" ∧ context.contains "đơn" = false ∧
      HasValue context "=đơn" (.error .unknownName) ∧
      context.contains "GIá" ∧ HasValue context "=GIá" (.number 2) := by
  intro context
  have noCell : ∀ name, Token.looksLikeCell name.toList = false →
      ∀ cell : Reference, cell.text ≠ name := by
    rintro _ isNone cell rfl
    rw [cell.isCell] at isNone
    cases isNone
  obtain ⟨missed, unknown⟩ := contains_iff_lowered context "đơn"
  obtain ⟨met, known⟩ := contains_iff_lowered context "GIá"
  refine ⟨by decide +kernel, ?_, ?_, ?_, ?_⟩
  · rw [Bool.eq_false_iff, Ne, missed]
    decide +kernel
  · exact unknown (.mk (by decide +kernel) (by decide +kernel)) (by decide) (noCell _ (by decide))
  · exact met.mpr ⟨"Giá", by decide, by decide +kernel, by decide⟩
  · exact known (.mk (by decide +kernel) (by decide +kernel)) (by decide) (noCell _ (by decide))

end Context

end PhraseSheet
