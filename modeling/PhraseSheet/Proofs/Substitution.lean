import PhraseSheet.Proofs.Faults
import PhraseSheet.Proofs.Parts

/-! Texts put in place of names. A sound formula stays sound if each text is closed in itself and
hides nothing of what stands around it, and for no other texts. -/

namespace PhraseSheet.FormulaPart

open Fault

/-- The text is a name that a formula can read. -/
structure Readable (name : List Char) : Prop where
  spelled : ∃ c more, name = c :: more ∧ startsName c ∧ ∀ d ∈ more, continuesName d
  noTruth : readsValue name []

/-- A part ends outside quotes unless the text ends with it, and no name starts behind a dollar
sign. -/
structure CutOff (chars after : List Char) : Prop where
  quotes : Even (chars.count '"') ∨ after = []
  apart : chars.getLast? = some '$' → ∀ d ∈ after.head?, startsName d = false

section

variable {c : Char} {name chars after rest : List Char}

theorem continuesName_of_startsName (starts : startsName c) : continuesName c := by
  have goesOn := Token.continuesName_of_startsName starts
  rw [continuesName_or_point, Bool.or_eq_true, beq_iff_eq] at goesOn
  rcases goesOn with goesOn | rfl
  · exact goesOn
  · exact absurd starts (by decide)

theorem Readable.continues (readable : Readable name) : ∀ d ∈ name, continuesName d := by
  obtain ⟨c, more, rfl, starts, inside⟩ := readable.spelled
  exact List.forall_mem_cons.mpr ⟨continuesName_of_startsName starts, inside⟩

theorem not_mem_of_stop {inside : Char → Bool} (all : ∀ d ∈ name, inside d)
    (stop : inside c = false) : c ∉ name := by
  intro member
  simp [all c member] at stop

theorem readsValue_nil (reads : readsValue name after) : readsValue name [] := by
  simp only [readsValue, Bool.and_eq_true] at reads ⊢
  exact ⟨⟨rfl, reads.1.2⟩, reads.2⟩

theorem cutOff_of_plain (noQuote : '"' ∉ chars) (noDollar : '$' ∉ chars) (after : List Char) :
    CutOff chars after where
  quotes := .inl (by simp [List.count_eq_zero.mpr noQuote])
  apart last := absurd (List.mem_of_getLast? last) noDollar

theorem cutOff_run (first : c ≠ '"' ∧ c ≠ '$') {inside : Char → Bool}
    (stops : inside '"' = false ∧ inside '$' = false) (rest after : List Char) :
    CutOff (c :: rest.take (rest.takeWhile inside).length) after := by
  have all : ∀ d ∈ rest.takeWhile inside, inside d := List.all_eq_true.mp List.all_takeWhile
  rw [take_takeWhile]
  apply cutOff_of_plain
  · simp [Ne.symm first.1, not_mem_of_stop all stops.1]
  · simp [Ne.symm first.2, not_mem_of_stop all stops.2]

/-- A text in quotes ends with its closing quote or with the whole text. -/
theorem quotedLength_cases (rest : List Char) :
    (∃ inner, rest.take (quotedLength rest) = inner ++ ['"'] ∧ Even (inner.count '"')) ∨
      rest.drop (quotedLength rest) = [] := by
  induction rest using quotedLength.induct with
  | case1 => exact .inr rfl
  | case2 rest ih =>
    rcases ih with ⟨inner, taken, even⟩ | ended
    · refine .inl ⟨'"' :: '"' :: inner, ?_, ?_⟩
      · simp [quotedLength, taken]
      · simpa [Nat.even_add_one] using even
    · exact .inr (by simpa [quotedLength] using ended)
  | case3 rest single =>
    rw [quotedLength.eq_3 rest single]
    exact .inl ⟨[], rfl, by simp⟩
  | case4 c rest _ other ih =>
    have noQuote : c ≠ '"' := fun same => other same
    rw [quotedLength_cons noQuote]
    rcases ih with ⟨inner, taken, even⟩ | ended
    · exact .inl ⟨c :: inner, by simp [taken], by simpa [noQuote] using even⟩
    · exact .inr (by simpa using ended)

theorem mem_take_errorLength {d : Char} (member : d ∈ rest.take (errorLength rest)) :
    inError d ∨ isErrorMark d := by
  have all : ∀ e ∈ rest.takeWhile inError, inError e := List.all_eq_true.mp List.all_takeWhile
  have taken : rest.take (rest.takeWhile inError).length = rest.takeWhile inError :=
    take_takeWhile inError rest
  have length : errorLength rest = (rest.takeWhile inError).length +
      markLength (rest.drop (rest.takeWhile inError).length) := by
    have split := @List.takeWhile_append_dropWhile _ inError rest
    have stops : ∀ e ∈ (rest.dropWhile inError).head?, inError e = false := by
      intro e first
      have fails := List.head?_dropWhile_not inError rest
      rwa [first] at fails
    rw [drop_takeWhile, ← errorLength_append all stops, split]
  rw [length, List.take_add, taken] at member
  rcases List.mem_append.mp member with inside | behind
  · exact .inl (all d inside)
  · refine .inr ?_
    unfold markLength at behind
    cases marked : rest.drop (rest.takeWhile inError).length with
    | nil => simp [marked] at behind
    | cons e others =>
      cases mark : isErrorMark e with
      | false => simp [marked, mark] at behind
      | true =>
        have same : d = e := by simpa [marked, mark] using behind
        rw [same, mark]

theorem cutOff (c : Char) (rest : List Char) :
    CutOff (c :: rest.take (lengthAfter c rest)) (rest.drop (lengthAfter c rest)) := by
  unfold lengthAfter
  split
  · rename_i quote
    rw [beq_iff_eq.mp quote]
    rcases quotedLength_cases rest with ⟨inner, taken, even⟩ | ended
    · rw [taken]
      refine ⟨.inl (by simpa [Nat.even_add_one] using even), ?_⟩
      intro last
      rw [← List.cons_append, List.getLast?_concat] at last
      cases last
    · rw [ended]
      exact ⟨.inr rfl, fun _ d first => nomatch first⟩
  split
  · rename_i hash
    rw [beq_iff_eq.mp hash]
    have inside : ∀ d ∈ rest.take (errorLength rest), inError d || isErrorMark d := by
      intro d member
      exact Bool.or_eq_true_iff.mpr (mem_take_errorLength member)
    apply cutOff_of_plain
    · simp [not_mem_of_stop (c := '"') inside (by decide)]
    · simp [not_mem_of_stop (c := '$') inside (by decide)]
  split
  · rename_i number
    refine cutOff_run ?_ (by decide) rest _
    constructor <;> rintro rfl <;> exact absurd number (by decide)
  split
  · rename_i starts
    rw [take_takeWhile, drop_takeWhile]
    have all : ∀ d ∈ c :: rest.takeWhile continuesName, continuesName d :=
      List.forall_mem_cons.mpr
        ⟨continuesName_of_startsName starts, List.all_eq_true.mp List.all_takeWhile⟩
    refine ⟨.inl ?_, ?_⟩
    · simp [List.count_eq_zero.mpr (not_mem_of_stop (c := '"') all (by decide))]
    · intro _ d first
      have stops := List.head?_dropWhile_not continuesName rest
      rw [first] at stops
      cases starts : startsName d with
      | false => rfl
      | true => simp [continuesName_of_startsName starts] at stops
  · rename_i noQuote _ _ noName
    apply cutOff_of_plain
    · simpa using fun same : '"' = c => noQuote (by simp [← same])
    · simpa using fun same : '$' = c => noName (by rw [← same]; decide)

end

/-- The second text is the first one with texts in place of some of its names. -/
inductive Swapped (image? : String → Option String) : List Char → List Char → Prop where
  | nil : Swapped image? [] []
  | kept {chars after others} (any : chars ≠ []) (cutOff : CutOff chars after)
      (rest : Swapped image? after others) : Swapped image? (chars ++ after) (chars ++ others)
  | put {name after image others} (readable : Readable name) (cutOff : CutOff name after)
      (found : image? (String.ofList name) = some image) (rest : Swapped image? after others) :
      Swapped image? (name ++ after) (image.toList ++ others)

section

variable (image? : String → Option String)

theorem swapped_cut (text : List Char) :
    Swapped image? text ((cut text).flatMap fun part => (part.replaced image?).toList) := by
  induction text using cut.induct with
  | case1 =>
    rw [cut]
    exact .nil
  | case2 c rest size after ih =>
    let chars := c :: rest.take size
    have cutOff : CutOff chars after := cutOff c rest
    have whole : c :: rest = chars ++ after := by simp [chars, after]
    have any : chars ≠ [] := List.cons_ne_nil _ _
    rw [cut, List.flatMap_cons, whole]
    change Swapped image? (chars ++ after)
      ((replaced image? ⟨chars, startsName c && readsValue chars after⟩).toList ++ _)
    cases isName : startsName c && readsValue chars after with
    | false => simpa [replaced, name?] using Swapped.kept any cutOff ih
    | true =>
      cases found : image? (String.ofList chars) with
      | none => simpa [replaced, name?, found] using Swapped.kept any cutOff ih
      | some image =>
        obtain ⟨starts, reads⟩ := Bool.and_eq_true_iff.mp isName
        have inside : ∀ d ∈ rest.take size, continuesName d := by
          simp only [size, lengthAfter_name starts, take_takeWhile]
          exact List.all_eq_true.mp List.all_takeWhile
        have readable : Readable chars := ⟨⟨c, _, rfl, starts, inside⟩, readsValue_nil reads⟩
        simpa [replaced, name?, found] using Swapped.put readable cutOff found ih

end

/-- The text may stand wherever the name is read. Its quotes and parentheses close each other, it
doubles no operator with what stands in front of it, opens no slot with what stands behind it, and
does not end in an operator. -/
structure Inert (name text : List Char) : Prop where
  quotes : Even (text.count '"')
  closes : Closes 0 (unquoted false text)
  noSlashes : Lacks '/' '/' text
  noStars : Lacks '*' '*' text
  noSlot : Lacks '$' '\x7b' text
  starts : ∀ c, text.head? = some c → c ≠ '/' ∧ c ≠ '*'
  dollar : text.getLast? = some '$' → name.getLast? = some '$'
  ends : ∃ c, lastVisible? text = some c ∧ c ∉ signs

section

variable {name text chars after others : List Char}

theorem Inert.getLast?_ne (inert : Inert name text) : ∀ c ∈ signs, text.getLast? ≠ some c := by
  intro c sign last
  have visible : ∀ c ∈ signs, Text.isBlank c = false := by decide
  obtain ⟨d, found, noSign⟩ := inert.ends
  rw [lastVisible?_of_getLast? last (visible c sign)] at found
  exact noSign (Option.some.inj found ▸ sign)

theorem Inert.ne_nil (inert : Inert name text) : text ≠ [] := by
  rintro rfl
  obtain ⟨c, found, _⟩ := inert.ends
  cases found

/-- A text without quotes, parentheses, braces, slashes and stars is inert if it ends well. -/
theorem inert_of_absent (absent : ∀ c ∈ ['"', '(', ')', '/', '*', '\x7b'], c ∉ text)
    (dollar : text.getLast? = some '$' → name.getLast? = some '$')
    (ends : ∃ c, lastVisible? text = some c ∧ c ∉ signs) : Inert name text where
  quotes := by simp [List.count_eq_zero.mpr (absent '"' (by decide))]
  closes := by
    apply closes_of_plain
    intro c member
    refine ⟨?_, ?_, ?_⟩ <;> rintro rfl <;> exact absurd member (absent _ (by decide))
  noSlashes := lacks_of_not_mem (absent '/' (by decide))
  noStars := lacks_of_not_mem (absent '*' (by decide))
  noSlot := lacks_of_not_mem (absent '\x7b' (by decide))
  starts := by
    intro c first
    have member := List.mem_of_mem_head? first
    constructor <;> rintro rfl <;> exact absurd member (absent _ (by decide))
  dollar := dollar
  ends := ends

theorem Readable.head (readable : Readable name) : ∃ c, name.head? = some c ∧ startsName c := by
  obtain ⟨c, more, rfl, starts, _⟩ := readable.spelled
  exact ⟨c, rfl, starts⟩

theorem Readable.ne_nil (readable : Readable name) : name ≠ [] := by
  rintro rfl
  obtain ⟨c, first, _⟩ := readable.head
  cases first

theorem Readable.plain (readable : Readable name) : ∀ c ∈ name, c ≠ '"' ∧ c ≠ '(' ∧ c ≠ ')' := by
  intro c member
  have inside := readable.continues c member
  refine ⟨?_, ?_, ?_⟩ <;> rintro rfl <;> exact absurd inside (by decide)

theorem Readable.lastVisible? (readable : Readable name) : ∃ c, lastVisible? name = some c := by
  obtain ⟨c, more, rfl, starts, _⟩ := readable.spelled
  have visible : Text.isBlank c = false := Token.not_isBlank_of_startsName starts
  have any : (c :: more).filter (fun d => !Text.isBlank d) ≠ [] := by simp [visible]
  exact ⟨_, List.getLast?_eq_some_getLast any⟩

end

section

variable {image? : String → Option String} {text others : List Char}
variable (inert : ∀ name image, Readable name → image? (String.ofList name) = some image →
  Inert name image.toList)

theorem Swapped.of_nil (swapped : Swapped image? [] others) : others = [] := by
  generalize start : ([] : List Char) = text at swapped
  cases swapped with
  | nil => rfl
  | kept any _ _ => exact absurd (List.append_eq_nil_iff.mp start.symm).1 any
  | put readable _ _ _ => exact absurd (List.append_eq_nil_iff.mp start.symm).1 readable.ne_nil

include inert in
/-- Texts in which names are replaced start alike, or with a name and what is put in its place. -/
theorem Swapped.head_cases (swapped : Swapped image? text others) : others.head? = text.head? ∨
    ∃ name image, Readable name ∧ image? (String.ofList name) = some image ∧
      text.head? = name.head? ∧ others.head? = image.toList.head? := by
  cases swapped with
  | nil => exact .inl rfl
  | kept any _ _ =>
    exact .inl (by rw [List.head?_append_of_ne_nil _ any, List.head?_append_of_ne_nil _ any])
  | @put name _ image _ readable _ found _ =>
    exact .inr ⟨name, image, readable, found, List.head?_append_of_ne_nil _ readable.ne_nil,
      List.head?_append_of_ne_nil _ (inert name image readable found).ne_nil⟩

include inert in
theorem Swapped.isBalanced (swapped : Swapped image? text others) (depth : Nat) :
    isBalanced false depth text = isBalanced false depth others := by
  induction swapped generalizing depth with
  | nil => rfl
  | kept any cutOff rest ih =>
    rcases cutOff.quotes with even | ended
    · refine isBalanced_congr (fun depth => ?_) depth
      simpa [endsQuoted, even] using ih depth
    · subst ended
      rw [rest.of_nil]
  | put readable cutOff found rest ih =>
    have inert := inert _ _ readable found
    have closed := isBalanced_closed ((isBalanced_iff false 0 _).mpr inert.closes) depth
    simp only [Nat.zero_add, endsQuoted, inert.quotes, if_true] at closed
    rw [isBalanced_append readable.plain, closed, ih]

include inert in
/-- Two characters do not meet where a text ends and names behind it are replaced. -/
theorem Swapped.apart {chars after : List Char} {first second : Char}
    (swapped : Swapped image? after others) (cutOff : CutOff chars after)
    (images : ∀ name image, Readable name → image? (String.ofList name) = some image →
      image.toList.head? = some second → first = '$')
    (apart : ¬ (chars.getLast? = some first ∧ after.head? = some second)) :
    ¬ (chars.getLast? = some first ∧ others.head? = some second) := by
  rintro ⟨last, head⟩
  rcases swapped.head_cases inert with same | ⟨name, image, readable, found, start, otherStart⟩
  · exact apart ⟨last, same ▸ head⟩
  · have dollar := images name image readable found (otherStart ▸ head)
    obtain ⟨c, nameHead, starts⟩ := readable.head
    have noName := cutOff.apart (dollar ▸ last) c (start.trans nameHead)
    simp [starts] at noName

include inert in
/-- Replacing names makes no neighbours that the text or what is put in has not. -/
theorem Swapped.lacks {first second : Char} (swapped : Swapped image? text others)
    (images : ∀ name image, Readable name → image? (String.ofList name) = some image →
      Lacks first second image.toList ∧
        (image.toList.getLast? = some first → name.getLast? = some first) ∧
        (image.toList.head? = some second → first = '$'))
    (lacks : Lacks first second text) : Lacks first second others := by
  have heads : ∀ name image, Readable name → image? (String.ofList name) = some image →
      image.toList.head? = some second → first = '$' :=
    fun name image readable found => (images name image readable found).2.2
  induction swapped with
  | nil => exact lacks
  | kept any cutOff rest ih =>
    obtain ⟨own, behind, apart⟩ := lacks_append.mp lacks
    exact lacks_append.mpr ⟨own, ih behind, rest.apart inert cutOff heads apart⟩
  | put readable cutOff found rest ih =>
    obtain ⟨_, behind, apart⟩ := lacks_append.mp lacks
    obtain ⟨own, last, _⟩ := images _ _ readable found
    refine lacks_append.mpr ⟨own, ih behind, ?_⟩
    rintro ⟨imageLast, head⟩
    exact rest.apart inert cutOff heads apart ⟨last imageLast, head⟩

include inert in
/-- Texts in which names are replaced end alike, or what is put in ends the second one. -/
theorem Swapped.lastVisible?_cases (swapped : Swapped image? text others) :
    lastVisible? others = lastVisible? text ∨
      (∃ c, lastVisible? text = some c) ∧ ∃ c, lastVisible? others = some c ∧ c ∉ signs := by
  induction swapped with
  | nil => exact .inl rfl
  | kept any cutOff rest ih =>
    rw [lastVisible?_append, lastVisible?_append]
    rcases ih with same | ⟨⟨c, last⟩, d, otherLast, noSign⟩
    · exact .inl (by rw [same])
    · exact .inr ⟨⟨c, by simp [last]⟩, d, by simp [otherLast], noSign⟩
  | @put name after image others readable cutOff found rest ih =>
    rw [lastVisible?_append, lastVisible?_append]
    rcases ih with same | ⟨⟨c, last⟩, d, otherLast, noSign⟩
    · rw [same]
      cases lastVisible? after with
      | some c => exact .inl rfl
      | none =>
        obtain ⟨c, last, noSign⟩ := (inert _ _ readable found).ends
        exact .inr ⟨by simpa using readable.lastVisible?, c, by simp [last], noSign⟩
    · exact .inr ⟨⟨c, by simp [last]⟩, d, by simp [otherLast], noSign⟩

include inert in
/-- A sound text stays sound if what is put in is inert. -/
theorem Swapped.sound (swapped : Swapped image? text others) (sound : Sound text) :
    Sound others where
  starts := by
    rcases swapped.head_cases inert with same | ⟨name, image, readable, _, start, _⟩
    · exact same.trans sound.starts
    · obtain ⟨c, first, starts⟩ := readable.head
      have same : c = '=' := Option.some.inj ((first.symm.trans start.symm).trans sound.starts)
      exact absurd starts (by rw [same]; decide)
  closes := by
    rw [← isBalanced_iff, ← swapped.isBalanced inert, isBalanced_iff]
    exact sound.closes
  noSlashes := by
    refine swapped.lacks inert (fun name image readable found => ?_) sound.noSlashes
    have inert := inert name image readable found
    exact ⟨inert.noSlashes, fun last => absurd last (inert.getLast?_ne '/' (by decide)),
      fun head => absurd rfl (inert.starts '/' head).1⟩
  noStars := by
    refine swapped.lacks inert (fun name image readable found => ?_) sound.noStars
    have inert := inert name image readable found
    exact ⟨inert.noStars, fun last => absurd last (inert.getLast?_ne '*' (by decide)),
      fun head => absurd rfl (inert.starts '*' head).2⟩
  noSlot := by
    refine swapped.lacks inert (fun name image readable found => ?_) sound.noSlot
    have inert := inert name image readable found
    exact ⟨inert.noSlot, inert.dollar, fun _ => rfl⟩
  ends := by
    rcases swapped.lastVisible?_cases inert with same | ⟨_, c, last, noSign⟩
    · rw [same]
      exact sound.ends
    · rw [last]
      rintro _ ⟨⟩
      exact noSign

end

theorem rename_congr {image? other? : String → Option String} {formula : String}
    (same : ∀ name ∈ mentioned formula, image? name = other? name) :
    rename image? formula = rename other? formula := by
  unfold rename
  congr 1
  apply List.map_congr_left
  intro part member
  unfold replaced
  cases named : part.name? with
  | none => rfl
  | some name =>
    have listed : name ∈ mentioned formula :=
      List.mem_eraseDups.mpr (List.mem_filterMap.mpr ⟨part, member, named⟩)
    simp [same name listed]

/-- A sound formula stays sound if what is put in place of the names that it mentions is inert. -/
theorem sound_rename {image? : String → Option String} {formula : String}
    (inert : ∀ name ∈ mentioned formula, ∀ image, image? name = some image →
      Inert name.toList image.toList)
    (sound : Sound formula.toList) : Sound (rename image? formula).toList := by
  let own? : String → Option String := fun name =>
    if name ∈ mentioned formula then image? name else none
  have images : ∀ name image, Readable name → own? (String.ofList name) = some image →
      Inert name image.toList := by
    intro name image _ found
    obtain ⟨listed, found⟩ := Option.ite_none_right_eq_some.mp found
    simpa using inert (String.ofList name) listed image found
  have same : ∀ name ∈ mentioned formula, image? name = own? name := fun name listed =>
    (if_pos listed).symm
  rw [rename_congr same, toList_rename]
  exact (swapped_cut own? formula.toList).sound images sound

/-- Signs between which a name is read. -/
structure Frame (front back : List Char) : Prop where
  frontPlain : ∀ c ∈ front, isPlain c
  backPlain : ∀ c ∈ back, isPlain c
  stops : back.head?.any continuesName = false
  uncalled : (Text.trimStart back).head? ≠ some '('

instance (front back : List Char) : Decidable (Frame front back) :=
  decidable_of_iff ((∀ c ∈ front, isPlain c) ∧ (∀ c ∈ back, isPlain c) ∧
      back.head?.any continuesName = false ∧ (Text.trimStart back).head? ≠ some '(')
    ⟨fun ⟨front, back, stops, uncalled⟩ => ⟨front, back, stops, uncalled⟩,
      fun ⟨front, back, stops, uncalled⟩ => ⟨front, back, stops, uncalled⟩⟩

section

variable {image? : String → Option String} {name text front back : List Char} {image : String}

theorem Frame.toList_rename (frame : Frame front back) (readable : Readable name)
    (found : image? (String.ofList name) = some image) :
    (rename image? (String.ofList (front ++ (name ++ back)))).toList =
      front ++ (image.toList ++ back) := by
  obtain ⟨c, more, rfl, starts, inside⟩ := readable.spelled
  have reads : readsValue (c :: more) back := by
    have noTruth := readable.noTruth
    simp only [readsValue, Bool.and_eq_true] at noTruth ⊢
    exact ⟨⟨bne_iff_ne.mpr frame.uncalled, noTruth.1.2⟩, noTruth.2⟩
  obtain ⟨frontParts, frontCuts, frontSilent⟩ := cutsInto_plains frame.frontPlain (c :: more ++ back)
  have stops : ∀ d ∈ back.head?, continuesName d = false := by
    intro d first
    have stops := frame.stops
    rwa [Option.mem_def.mp first] at stops
  have nameCuts : CutsInto (c :: more) back _ := cutsInto_name starts inside stops
  obtain ⟨backParts, backCuts, backSilent⟩ := cutsInto_plains frame.backPlain []
  have same : cut back = backParts := by simpa [cut] using backCuts.cut
  have put : replaced image? ⟨c :: more, readsValue (c :: more) back⟩ = image := by
    rw [replaced, name?, if_pos reads, Option.bind_some, found]
    rfl
  rw [FormulaPart.toList_rename, String.toList_ofList, frontCuts.cut, nameCuts.cut, same,
    List.flatMap_append, frontSilent.toList_replaced, frontCuts.whole, List.flatMap_append,
    backSilent.toList_replaced, backCuts.whole, List.flatMap_singleton, put]

theorem Frame.sound (frame : Frame front back) (readable : Readable name) (inert : Inert name text)
    (sound : Sound (front ++ (name ++ back))) : Sound (front ++ (text ++ back)) := by
  let image? : String → Option String := fun other =>
    if other = String.ofList name then some (String.ofList text) else none
  have found : image? (String.ofList name) = some (String.ofList text) := if_pos rfl
  have images : ∀ other ∈ mentioned (String.ofList (front ++ (name ++ back))), ∀ image,
      image? other = some image → Inert other.toList image.toList := by
    intro other _ image otherFound
    obtain ⟨rfl, same⟩ := Option.ite_none_right_eq_some.mp otherFound
    rw [← Option.some.inj same, String.toList_ofList, String.toList_ofList]
    exact inert
  have renamed := sound_rename images (by rwa [String.toList_ofList])
  rwa [frame.toList_rename readable found, String.toList_ofList] at renamed

/-- A name may stand for a name, unless a dollar sign at its end is new. -/
theorem Readable.inert {other : List Char} (readable : Readable other)
    (dollar : other.getLast? = some '$' → name.getLast? = some '$') : Inert name other := by
  have stops : ∀ c ∈ ['"', '(', ')', '/', '*', '\x7b'], continuesName c = false := by decide
  have noSign : ∀ c ∈ signs, continuesName c = false := by decide
  obtain ⟨c, last⟩ := readable.lastVisible?
  refine inert_of_absent (fun d listed => not_mem_of_stop readable.continues (stops d listed)) dollar
    ⟨c, last, fun sign => ?_⟩
  have inside := readable.continues c (mem_of_lastVisible? last)
  simp [noSign c sign] at inside

/-- What keeps every formula sound is tried between signs, which stand soundly around a name of the
same kind. -/
theorem Frame.sound_of_keeps (frame : Frame front back)
    (keeps : ∀ formula, Sound formula.toList → Sound (rename image? formula).toList)
    (readable : Readable name) (found : image? (String.ofList name) = some image)
    {own : List Char} (ownReadable : Readable own)
    (dollar : name.getLast? = some '$' → own.getLast? = some '$')
    (sound : Sound (front ++ (own ++ back))) : Sound (front ++ (image.toList ++ back)) := by
  have named := frame.sound ownReadable (readable.inert dollar) sound
  have kept := keeps (String.ofList (front ++ (name ++ back))) (by rwa [String.toList_ofList])
  rwa [frame.toList_rename readable found] at kept

/-- What keeps every formula sound in place of a name is inert. The name is tried alone, in
parentheses, behind a slash and a star and in front of a brace. -/
theorem inert_of_keeps
    (keeps : ∀ formula, Sound formula.toList → Sound (rename image? formula).toList)
    (readable : Readable name) (found : image? (String.ofList name) = some image) :
    Inert name image.toList := by
  have tried : ∀ {front back own : List Char}, Frame front back → Readable own →
      (name.getLast? = some '$' → own.getLast? = some '$') → Sound (front ++ (own ++ back)) →
      Sound (front ++ (image.toList ++ back)) :=
    fun frame => frame.sound_of_keeps keeps readable found
  have marked : Readable ['a', '$'] := ⟨⟨'a', ['$'], rfl, by decide, by decide⟩, by decide⟩
  have unmarked : Readable ['a'] := ⟨⟨'a', [], rfl, by decide, by decide⟩, by decide⟩
  have alone : Sound (['='] ++ (image.toList ++ [])) :=
    tried (by decide) marked (fun _ => rfl) (by decide)
  have grouped : Sound (['=', '('] ++ (image.toList ++ [')'])) :=
    tried (by decide) marked (fun _ => rfl) (by decide)
  have divided : Sound (['=', '/'] ++ (image.toList ++ [])) :=
    tried (by decide) marked (fun _ => rfl) (by decide)
  have multiplied : Sound (['=', '*'] ++ (image.toList ++ [])) :=
    tried (by decide) marked (fun _ => rfl) (by decide)
  have braced : name.getLast? ≠ some '$' → Sound (['='] ++ (image.toList ++ ['\x7b'])) :=
    fun plain => tried (by decide) unmarked (fun dollar => absurd dollar plain) (by decide)
  rw [List.append_nil] at alone divided multiplied
  have closes : isBalanced false 0 image.toList :=
    (isBalanced_iff false 0 ('=' :: image.toList)).mpr alone.closes
  exact
    { quotes := by
        by_contra odd
        have balanced : isBalanced false 1 (image.toList ++ [')']) :=
          (isBalanced_iff false 0 ('=' :: '(' :: (image.toList ++ [')']))).mpr grouped.closes
        have quoted := isBalanced_closed closes 1 [')']
        rw [endsQuoted, if_neg odd] at quoted
        exact absurd (quoted.symm.trans balanced) (by decide)
      closes := (isBalanced_iff false 0 image.toList).mp closes
      noSlashes := (lacks_cons.mp alone.noSlashes).1
      noStars := (lacks_cons.mp alone.noStars).1
      noSlot := (lacks_cons.mp alone.noSlot).1
      starts := by
        rintro c first
        constructor
        · rintro rfl
          exact (lacks_cons.mp (lacks_cons.mp divided.noSlashes).1).2 ⟨rfl, first⟩
        · rintro rfl
          exact (lacks_cons.mp (lacks_cons.mp multiplied.noStars).1).2 ⟨rfl, first⟩
      dollar := by
        intro last
        by_contra plain
        have behind := (lacks_append.mp (braced plain).noSlot).2.1
        exact (lacks_append.mp behind).2.2 ⟨last, rfl⟩
      ends := by
        have whole := divided.ends
        rw [lastVisible?_append] at whole
        cases last : lastVisible? image.toList with
        | none => exact absurd (whole '/' (by rw [last]; decide)) (by decide)
        | some c => exact ⟨c, rfl, whole c (by rw [last]; rfl)⟩ }

/-- Replacing names keeps all sound formulas sound just if everything that is put in is inert. -/
theorem keeps_sound_iff (image? : String → Option String) :
    (∀ formula, Sound formula.toList → Sound (rename image? formula).toList) ↔
      ∀ name image, Readable name → image? (String.ofList name) = some image →
        Inert name image.toList := by
  constructor
  · intro keeps name image readable found
    exact inert_of_keeps keeps readable found
  · intro inert formula sound
    rw [toList_rename]
    exact (swapped_cut image? formula.toList).sound inert sound

end

end PhraseSheet.FormulaPart
