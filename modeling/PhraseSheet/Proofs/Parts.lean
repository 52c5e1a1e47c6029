import Mathlib.Data.List.Basic
import PhraseSheet.Formula.Names
import PhraseSheet.Proofs.Renaming

namespace PhraseSheet.FormulaPart

/-- The text is cut where it ends, into parts that together are the text. -/
structure CutsInto (text after : List Char) (parts : List FormulaPart) : Prop where
  cut : cut (text ++ after) = parts ++ cut after
  whole : parts.flatMap chars = text
  proper : ∀ part ∈ parts, part.chars ≠ []

/-- None of the parts is a name. -/
def Silent (parts : List FormulaPart) : Prop := ∀ part ∈ parts, part.isName = false

section

variable {text others after : List Char} {parts more : List FormulaPart} {c : Char}

theorem CutsInto.nil : CutsInto [] after [] := ⟨rfl, rfl, by simp⟩

theorem CutsInto.append (cuts : CutsInto text (others ++ after) parts)
    (otherCuts : CutsInto others after more) : CutsInto (text ++ others) after (parts ++ more) where
  cut := by rw [List.append_assoc, cuts.cut, otherCuts.cut, List.append_assoc]
  whole := by rw [List.flatMap_append, cuts.whole, otherCuts.whole]
  proper := by
    intro part member
    rcases List.mem_append.mp member with first | second
    · exact cuts.proper part first
    · exact otherCuts.proper part second

theorem silent_append : Silent (parts ++ more) ↔ Silent parts ∧ Silent more :=
  List.forall_mem_append

theorem silent_singleton (text : List Char) : Silent [⟨text, false⟩] := by
  simp [Silent]

theorem toList_rename (image? : String → Option String) (formula : String) :
    (rename image? formula).toList =
      (cut formula.toList).flatMap fun part => (part.replaced image?).toList := by
  rw [rename, String.toList_join, List.flatMap_map]

theorem Silent.toList_replaced (silent : Silent parts) (image? : String → Option String) :
    (parts.flatMap fun part => (part.replaced image?).toList) = parts.flatMap chars := by
  apply List.flatMap_congr
  intro part member
  simp [replaced, name?, silent part member]

theorem cutsInto_of_lengthAfter (length : lengthAfter c (text ++ after) = text.length) :
    CutsInto (c :: text) after [⟨c :: text, startsName c && readsValue (c :: text) after⟩] where
  cut := by
    rw [List.cons_append, FormulaPart.cut.eq_2, length]
    simp
  whole := by simp
  proper := by simp

/-- The character is a part by itself and no name. -/
def isPlain (c : Char) : Bool :=
  c != '"' && c != '#' && !c.isDigit && c != '.' && !startsName c

theorem cutsInto_plain (plain : isPlain c) (after : List Char) :
    CutsInto [c] after [⟨[c], false⟩] := by
  simp only [isPlain, Bool.and_eq_true, bne_iff_ne, Bool.not_eq_true'] at plain
  obtain ⟨⟨⟨⟨noQuote, noHash⟩, noDigit⟩, noPoint⟩, noName⟩ := plain
  have cuts := @cutsInto_of_lengthAfter [] after c
    (by simp [lengthAfter, noQuote, noHash, noDigit, noPoint, noName])
  rwa [noName, Bool.false_and] at cuts

theorem isPlain_of_isBlank (blank : Text.isBlank c) : isPlain c :=
  of_isBlank (P := fun c => isPlain c) (by decide +kernel) blank

theorem isPlain_of_sign {token : Token} (sign : Token.sign? c = some token) : isPlain c :=
  Token.of_sign (P := fun c => isPlain c) (by decide) sign

theorem cutsInto_plains {text : List Char} (plain : ∀ c ∈ text, isPlain c) (after : List Char) :
    ∃ parts, CutsInto text after parts ∧ Silent parts := by
  induction text with
  | nil => exact ⟨[], .nil, by simp [Silent]⟩
  | cons c text ih =>
    obtain ⟨parts, cuts, silent⟩ := ih fun d member => plain d (List.mem_cons_of_mem _ member)
    have first := cutsInto_plain (plain c List.mem_cons_self) (text ++ after)
    exact ⟨_, first.append cuts, silent_append.mpr ⟨silent_singleton [c], silent⟩⟩

theorem quotedLength_cons (other : c ≠ '"') (rest : List Char) :
    quotedLength (c :: rest) = quotedLength rest + 1 := by
  rw [quotedLength.eq_4 _ _ (by rintro _ rfl; exact absurd rfl other) other]

theorem quotedLength_close {rest : List Char} (stops : ∀ c ∈ rest.head?, c ≠ '"') :
    quotedLength ('"' :: rest) = 1 :=
  quotedLength.eq_3 rest (by rintro _ rfl; exact stops '"' rfl rfl)

theorem quotedLength_doubled (content : List Char) {after : List Char}
    (stops : ∀ c ∈ after.head?, c ≠ '"') :
    quotedLength (Token.doubled content ++ '"' :: after) = (Token.doubled content ++ ['"']).length := by
  induction content with
  | nil => exact quotedLength_close stops
  | cons c content ih =>
    by_cases quote : c = '"'
    · subst quote
      have same : Token.doubled ('"' :: content) = '"' :: '"' :: Token.doubled content := by
        simp [Token.doubled]
      rw [same, List.cons_append, List.cons_append, quotedLength, ih]
      simp
    · have same : Token.doubled (c :: content) = c :: Token.doubled content := by
        simp [Token.doubled, quote]
      rw [same, List.cons_append, quotedLength_cons quote, ih]
      simp

theorem cutsInto_text (content : List Char) {after : List Char}
    (stops : ∀ c ∈ after.head?, c ≠ '"') :
    CutsInto ('"' :: (Token.doubled content ++ ['"'])) after
      [⟨'"' :: (Token.doubled content ++ ['"']), false⟩] := by
  apply cutsInto_of_lengthAfter
  rw [List.append_assoc]
  exact quotedLength_doubled content stops

/-- The characters that a number may go on with. -/
def inNumber (c : Char) : Bool := Text.isAlphanumeric c || c == '.'

theorem inNumber_of_isDigit (digit : c.isDigit) : inNumber c := by
  simp [inNumber, isAlphanumeric_of_isAlphanum, Char.isAlphanum, digit]

theorem continuesName_of_inNumber (inside : inNumber c) : Token.continuesName c := by
  simp only [inNumber, Token.continuesName, Bool.or_eq_true] at inside ⊢
  rcases inside with alphanumeric | point
  · exact .inl (.inl (.inl alphanumeric))
  · exact .inr point

theorem cutsInto_number (starts : c.isDigit || c == '.') (inside : ∀ d ∈ text, inNumber d)
    (stops : ∀ d ∈ after.head?, inNumber d = false) :
    CutsInto (c :: text) after [⟨c :: text, false⟩] := by
  have noName : startsName c = false := by
    rcases Bool.or_eq_true_iff.mp starts with digit | point
    · exact Token.not_startsName_of_isDigit digit
    · rw [beq_iff_eq.mp point]
      decide
  have noQuote : c ≠ '"' := by
    rintro rfl
    exact absurd starts (by decide)
  have noHash : c ≠ '#' := by
    rintro rfl
    exact absurd starts (by decide)
  have length : lengthAfter c (text ++ after) = text.length := by
    simp only [lengthAfter, beq_eq_false_iff_ne.mpr noQuote, beq_eq_false_iff_ne.mpr noHash, starts]
    exact congrArg List.length (takeWhile_run inside stops)
  have cuts := cutsInto_of_lengthAfter length
  rwa [noName, Bool.false_and] at cuts

theorem not_inNumber_of_apart (apart : Token.Apart after) : ∀ d ∈ after.head?, inNumber d = false := by
  intro d first
  cases inside : inNumber d with
  | false => rfl
  | true =>
    have goesOn := continuesName_of_inNumber inside
    simp [apart d first] at goesOn

theorem exponent_cases {number : List Char} (shape : Token.NumberText number) :
    (∀ d ∈ number, inNumber d) ∨
      ∃ front sign digits, number = front ++ sign :: digits ∧ front ≠ [] ∧ digits ≠ [] ∧
        sign ∈ ['+', '-'] ∧ (∀ d ∈ front, inNumber d) ∧ ∀ d ∈ digits, d.isDigit := by
  cases shape with
  | @of whole places power digits fraction exponent =>
    have inWhole : ∀ d ∈ whole ++ places, inNumber d := by
      intro d member
      rcases List.mem_append.mp member with first | second
      · exact inNumber_of_isDigit (digits d first)
      · cases fraction with
        | none => cases second
        | point places =>
          rcases List.mem_cons.mp second with rfl | later
          · decide
          · exact inNumber_of_isDigit (places d later)
    cases exponent with
    | none =>
      rw [List.append_nil]
      exact .inl inWhole
    | @power mark sign run isMark listed numeric any =>
      have inMark : inNumber mark := by
        rcases isMark with rfl | rfl <;> decide
      have inFront : ∀ d ∈ whole ++ places ++ [mark], inNumber d := by
        intro d member
        rcases List.mem_append.mp member with first | second
        · exact inWhole d first
        · rw [List.mem_singleton.mp second]
          exact inMark
      simp only [List.mem_cons, List.not_mem_nil, or_false] at listed
      rcases listed with rfl | rfl | rfl
      · refine .inl ?_
        intro d member
        have split : whole ++ (places ++ mark :: ([] ++ run)) = whole ++ places ++ [mark] ++ run := by
          simp
        rw [split] at member
        rcases List.mem_append.mp member with first | second
        · exact inFront d first
        · exact inNumber_of_isDigit (numeric d second)
      · exact .inr ⟨whole ++ places ++ [mark], '+', run, by simp, by simp, any, by simp, inFront,
          numeric⟩
      · exact .inr ⟨whole ++ places ++ [mark], '-', run, by simp, by simp, any, by simp, inFront,
          numeric⟩

theorem cutsInto_numberText (shape : Token.NumberText (c :: text))
    (starts : c.isDigit || c == '.' && text.head?.any Char.isDigit) (apart : Token.Apart after) :
    ∃ parts, CutsInto (c :: text) after parts ∧ Silent parts := by
  have first : (c.isDigit || c == '.') = true := by
    rcases Bool.or_eq_true_iff.mp starts with digit | point
    · simp [digit]
    · simp [(Bool.and_eq_true_iff.mp point).1]
  have stops := not_inNumber_of_apart apart
  rcases exponent_cases shape with inside | ⟨front, sign, digits, same, any, anyDigit, listed, inside,
    numeric⟩
  · refine ⟨_, cutsInto_number first ?_ stops, silent_singleton _⟩
    exact fun d member => inside d (List.mem_cons_of_mem _ member)
  · obtain ⟨d, others, rfl⟩ := List.exists_cons_of_ne_nil any
    obtain ⟨e, more, rfl⟩ := List.exists_cons_of_ne_nil anyDigit
    rw [List.cons_append] at same
    obtain ⟨rfl, rfl⟩ := List.cons.inj same
    have signs : ∀ sign ∈ ['+', '-'], isPlain sign ∧ inNumber sign = false := by decide
    obtain ⟨plain, apartSign⟩ := signs sign listed
    have front := @cutsInto_number others (sign :: e :: more ++ after) c first
      (fun d member => inside d (List.mem_cons_of_mem _ member)) (by simpa using apartSign)
    have middle := cutsInto_plain plain (e :: more ++ after)
    have digit := numeric e List.mem_cons_self
    have last := @cutsInto_number more after e (by simp [digit])
      (fun d member => inNumber_of_isDigit (numeric d (List.mem_cons_of_mem _ member))) stops
    refine ⟨_, front.append (middle.append last), ?_⟩
    rw [silent_append, silent_append]
    exact ⟨silent_singleton _, silent_singleton _, silent_singleton _⟩

/-- The marks at the end of errors. -/
def isErrorMark (c : Char) : Bool := c == '!' || c == '?'

theorem upperChar_of_isErrorChar (inside : Token.isErrorChar c) :
    Text.upperChar c = [c.toUpper] ∧ isErrorMark c.toUpper = isErrorMark c := by
  have each : ∀ code < 128,
      Text.upperChar (Char.ofNat code) = [(Char.ofNat code).toUpper] ∧
        isErrorMark (Char.ofNat code).toUpper = isErrorMark (Char.ofNat code) := by
    decide +kernel
  have low : c.toNat < 128 := by
    simp only [Token.isErrorChar, Bool.or_eq_true, beq_iff_eq] at inside
    rcases inside with ((alphanumeric | rfl) | rfl) | rfl
    · exact toNat_lt_of_isAlphanum alphanumeric
    · decide
    · decide
    · decide
  exact of_ascii (P := fun c => Text.upperChar c = [c.toUpper] ∧
    isErrorMark c.toUpper = isErrorMark c) each low

/-- What is read as an error is the text of that error, in any letter case. -/
theorem text_of_ofText? {cause : CellError} (inside : ∀ d ∈ text, Token.isErrorChar d)
    (reads : CellError.ofText? (String.ofList ('#' :: text)) = some cause) :
    cause.text.toList = ('#' :: text).map Char.toUpper := by
  have found := List.find?_some reads
  have upper : Text.upper text = text.map Char.toUpper := by
    rw [Text.upper, List.map_eq_flatMap, List.flatMap_def, List.flatMap_def,
      List.map_congr_left fun d member => (upperChar_of_isErrorChar (inside d member)).1]
  rw [beq_iff_eq.mp found, Text.uppered, String.toList_ofList, String.toList_ofList, List.map_cons,
    ← upper]
  rfl

theorem not_isErrorMark_dropLast {cause : CellError} (inside : ∀ d ∈ text, Token.isErrorChar d)
    (reads : CellError.ofText? (String.ofList ('#' :: text)) = some cause) :
    text ≠ [] ∧ ∀ d ∈ text.dropLast, isErrorMark d = false := by
  have shapes : ∀ cause ∈ CellError.all, cause.text.toList.tail ≠ [] ∧
      ∀ d ∈ cause.text.toList.tail.dropLast, isErrorMark d = false := by
    decide
  have shape := shapes cause cause.mem_all
  rw [text_of_ofText? inside reads, List.map_cons, List.tail_cons] at shape
  refine ⟨fun empty => shape.1 (by rw [empty]; rfl), ?_⟩
  intro d member
  have upper : d.toUpper ∈ (text.map Char.toUpper).dropLast := by
    rw [← List.map_dropLast]
    exact List.mem_map_of_mem member
  rw [← (upperChar_of_isErrorChar (inside d ((List.dropLast_subset text) member))).2]
  exact shape.2 _ upper

/-- The characters that an error may go on with where names are looked for. -/
def inError (c : Char) : Bool := Text.isAlphanumeric c || c == '/'

theorem inError_of_isErrorChar (inside : Token.isErrorChar c) (noMark : isErrorMark c = false) :
    inError c := by
  simp only [Token.isErrorChar, isErrorMark, inError, Bool.or_eq_true, beq_iff_eq,
    Bool.or_eq_false_iff, beq_eq_false_iff_ne] at inside noMark ⊢
  rcases inside with ((alphanumeric | mark) | slash) | mark
  · exact .inl (isAlphanumeric_of_isAlphanum alphanumeric)
  · exact absurd mark noMark.1
  · exact .inr slash
  · exact absurd mark noMark.2

/-- The length of the mark at the start of the text. -/
def markLength (text : List Char) : Nat := if text.head?.any isErrorMark then 1 else 0

theorem errorLength_append {core rest : List Char} (inside : ∀ d ∈ core, inError d)
    (stops : ∀ d ∈ rest.head?, inError d = false) :
    errorLength (core ++ rest) = core.length + markLength rest := by
  have taken : (core ++ rest).takeWhile (fun c => Text.isAlphanumeric c || c == '/') = core :=
    takeWhile_run inside stops
  unfold errorLength
  dsimp only
  rw [taken, List.drop_left]
  split
  · rfl
  · rfl
  · rename_i noMark noOther
    cases rest with
    | nil => rfl
    | cons d rest =>
      have notMark : isErrorMark d = false := by
        rw [isErrorMark, Bool.or_eq_false_iff, beq_eq_false_iff_ne, beq_eq_false_iff_ne]
        exact ⟨fun same => noMark rest (by rw [same]), fun same => noOther rest (by rw [same])⟩
      simp [markLength, notMark]

theorem cutsInto_error {cause : CellError} (inside : ∀ d ∈ text, Token.isErrorChar d)
    (stops : ∀ d ∈ after.head?, Token.isErrorChar d = false)
    (reads : CellError.ofText? (String.ofList ('#' :: text)) = some cause)
    (apart : Token.Apart after) :
    CutsInto ('#' :: text) after [⟨'#' :: text, false⟩] := by
  apply cutsInto_of_lengthAfter
  change errorLength (text ++ after) = text.length
  obtain ⟨any, noMark⟩ := not_isErrorMark_dropLast inside reads
  have inCore : ∀ d ∈ text.dropLast, inError d := fun d member =>
    inError_of_isErrorChar (inside d ((List.dropLast_subset text) member)) (noMark d member)
  cases marked : isErrorMark (text.getLast any) with
  | true =>
    have marks : text.getLast any = '!' ∨ text.getLast any = '?' := by
      simpa [isErrorMark] using marked
    have split : text ++ after = text.dropLast ++ text.getLast any :: after := by
      rw [← List.singleton_append, ← List.append_assoc, List.dropLast_concat_getLast]
    rw [split, errorLength_append inCore]
    · have length := Nat.sub_add_cancel (List.length_pos_iff.mpr any)
      simpa [markLength, marked] using length
    · rintro d ⟨⟩
      rcases marks with same | same <;> rw [same] <;> decide
  | false =>
    have inText : ∀ d ∈ text, inError d := by
      intro d member
      rw [← List.dropLast_concat_getLast any] at member
      rcases List.mem_append.mp member with first | last
      · exact inCore d first
      · rw [List.mem_singleton.mp last]
        exact inError_of_isErrorChar (inside _ (List.getLast_mem any)) marked
    have noError : ∀ d ∈ after.head?, inError d = false ∧ isErrorMark d = false := by
      intro d first
      have noName := apart d first
      have noChar := stops d first
      simp only [Token.continuesName, Bool.or_eq_false_iff] at noName
      simp only [Token.isErrorChar, Bool.or_eq_false_iff] at noChar
      simp [inError, isErrorMark, noName, noChar]
    have noMark : markLength after = 0 := by
      cases after with
      | nil => rfl
      | cons d after => simp [markLength, (noError d rfl).2]
    rw [errorLength_append inText fun d first => (noError d first).1, noMark, Nat.add_zero]

theorem continuesName_or_point (c : Char) :
    Token.continuesName c = (continuesName c || c == '.') :=
  rfl

theorem not_continuesName_of_apart (apart : Token.Apart after) :
    ∀ d ∈ after.head?, continuesName d = false := by
  intro d first
  have stops := apart d first
  rw [continuesName_or_point, Bool.or_eq_false_iff] at stops
  exact stops.1

theorem lengthAfter_name (starts : startsName c) (rest : List Char) :
    lengthAfter c rest = (rest.takeWhile continuesName).length := by
  have others : c ≠ '"' ∧ c ≠ '#' ∧ c ≠ '.' := by
    refine ⟨?_, ?_, ?_⟩ <;> rintro rfl <;> exact absurd starts (by decide)
  have noDigit : c.isDigit = false := by
    cases digit : c.isDigit with
    | false => rfl
    | true =>
      have noName : startsName c = false := Token.not_startsName_of_isDigit digit
      simp [noName] at starts
  simp [lengthAfter, others, noDigit, starts]

theorem cutsInto_name (starts : startsName c) (inside : ∀ d ∈ text, continuesName d)
    (stops : ∀ d ∈ after.head?, continuesName d = false) :
    CutsInto (c :: text) after [⟨c :: text, readsValue (c :: text) after⟩] := by
  have length : lengthAfter c (text ++ after) = text.length := by
    rw [lengthAfter_name starts, takeWhile_run inside stops]
  have cuts := cutsInto_of_lengthAfter length
  rwa [starts, Bool.true_and] at cuts

/-- The names among the parts have no points in them. -/
def Pointless (parts : List FormulaPart) : Prop :=
  ∀ part ∈ parts, part.isName → '.' ∉ part.chars

theorem not_point_of_continuesName (inside : ∀ d ∈ text, continuesName d) : '.' ∉ text := by
  intro member
  exact absurd (inside '.' member) (by decide)

theorem pointless_singleton (part : FormulaPart) (noPoint : part.isName → '.' ∉ part.chars) :
    Pointless [part] := by
  simpa [Pointless] using noPoint

theorem Pointless.append (pointless : Pointless parts) (others : Pointless more) :
    Pointless (parts ++ more) := by
  intro part member
  rcases List.mem_append.mp member with first | second
  · exact pointless part first
  · exact others part second

/-- A run at the start of what goes on with a name ends there, or with the name. -/
theorem exists_run {inside : Char → Bool} (within : ∀ d, inside d → Token.continuesName d)
    (apart : Token.Apart after) (text : List Char) :
    ∃ run others, text = run ++ others ∧ (∀ d ∈ run, inside d) ∧
      ∀ d ∈ (others ++ after).head?, inside d = false := by
  obtain ⟨run, others, same, inRun, stops, _⟩ := Token.exists_run inside text
  refine ⟨run, others, same, inRun, ?_⟩
  cases others with
  | cons d others => exact stops
  | nil =>
    intro d first
    cases goesOn : inside d with
    | false => rfl
    | true =>
      have noName := apart d first
      simp [within d goesOn] at noName

theorem isPlain_of_continuesName (goesOn : Token.continuesName c) (noNumber : ¬(c.isDigit || c == '.'))
    (noName : ¬startsName c) : isPlain c := by
  have others : c ≠ '"' ∧ c ≠ '#' := by
    refine ⟨?_, ?_⟩ <;> rintro rfl <;> exact absurd goesOn (by decide)
  simp only [Bool.or_eq_true, not_or, Bool.not_eq_true, beq_iff_eq] at noNumber
  simp [isPlain, others, noNumber, noName]

/-- What goes on with a name is cut where it ends, whatever points are in it. -/
theorem cutsInto_run (text : List Char) (inside : ∀ d ∈ text, Token.continuesName d)
    (apart : Token.Apart after) : ∃ parts, CutsInto text after parts ∧ Pointless parts := by
  -- The first part is a run of one kind, and what it leaves is shorter.
  induction length : text.length using Nat.strongRecOn generalizing text with
  | ind size ih =>
    subst length
    have onward : ∀ (c : Char) (run others : List Char) (part : FormulaPart),
        text = c :: (run ++ others) → CutsInto (c :: run) (others ++ after) [part] →
        (part.isName → '.' ∉ part.chars) → ∃ parts, CutsInto text after parts ∧ Pointless parts := by
      rintro c run others part rfl first noPoint
      have shorter : others.length < (c :: (run ++ others)).length := by
        simp only [List.length_cons, List.length_append]
        omega
      obtain ⟨parts, cuts, pointless⟩ := ih _ shorter others
        (fun d member => inside d (List.mem_cons_of_mem _ (List.mem_append_right _ member))) rfl
      exact ⟨_, first.append cuts, (pointless_singleton part noPoint).append pointless⟩
    cases text with
    | nil => exact ⟨[], .nil, by simp [Pointless]⟩
    | cons c rest =>
      by_cases number : c.isDigit || c == '.'
      · obtain ⟨run, others, same, inRun, stops⟩ :=
          exists_run (fun d => continuesName_of_inNumber) apart rest
        exact onward c run others _ (by rw [same]) (cutsInto_number number inRun stops) (by simp)
      by_cases name : startsName c
      · have within : ∀ d, continuesName d → Token.continuesName d := by
          intro d goesOn
          rw [continuesName_or_point, goesOn, Bool.true_or]
        obtain ⟨run, others, same, inRun, stops⟩ := exists_run within apart rest
        refine onward c run others _ (by rw [same]) (cutsInto_name name inRun stops) ?_
        intro _ member
        rcases List.mem_cons.mp member with rfl | later
        · exact absurd number (by decide)
        · exact not_point_of_continuesName inRun later
      · have plain := isPlain_of_continuesName (inside c List.mem_cons_self) number name
        exact onward c [] rest _ rfl (cutsInto_plain plain _) (by simp)

end

end PhraseSheet.FormulaPart
