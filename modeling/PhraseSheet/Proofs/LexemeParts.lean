import PhraseSheet.Proofs.Parts

/-! The parts into which a lexeme is cut where names are looked for. They are one name for a name and
no name for all else, unless a point stands where names are looked for without points. -/

namespace PhraseSheet

namespace FormulaPart

/-- A function has a point in its name, but the parts around its points are no names: a truth value
in front of the first one, and the rest of the name, if any, in front of the parenthesis. -/
def hidesPoints (name : List Char) : Bool :=
  let first := String.ofList (name.takeWhile (· != '.'))
  let rest := (name.dropWhile (· != '.')).dropWhile inNumber
  (Text.sameIgnoringCase first "TRUE" || Text.sameIgnoringCase first "FALSE") && !rest.contains '.'

section

variable {after : List Char} {c : Char}

theorem readsValue_point (name rest : List Char) : readsValue name ('.' :: rest) =
    !(Text.sameIgnoringCase (String.ofList name) "TRUE" ||
      Text.sameIgnoringCase (String.ofList name) "FALSE") := by
  have visible : ((Text.trimStart ('.' :: rest)).head? != some '(') = true := rfl
  simp [readsValue, visible]

theorem readsValue_called {name : List Char} (paren : Token.beforeParen after = true) :
    readsValue name after = false := by
  have same : ((Text.trimStart after).head? != some '(') = false := congrArg not paren
  simp [readsValue, same]

theorem readsValue_free {name : List Char} (paren : Token.beforeParen after = false) :
    readsValue name after = !(Text.sameIgnoringCase (String.ofList name) "TRUE" ||
      Text.sameIgnoringCase (String.ofList name) "FALSE") := by
  have same : ((Text.trimStart after).head? != some '(') = true := congrArg not paren
  simp [readsValue, same]

theorem exists_point {text : List Char} (point : '.' ∈ text) :
    ∃ front rest, text = front ++ '.' :: rest ∧ '.' ∉ front ∧
      text.takeWhile (· != '.') = front ∧ text.dropWhile (· != '.') = '.' :: rest := by
  obtain ⟨front, rest, rfl, noPoint⟩ := List.eq_append_cons_of_mem point
  have inside : ∀ d ∈ front, (d != '.') = true := by
    intro d member
    rw [bne_iff_ne]
    rintro rfl
    exact noPoint member
  have stops : ∀ d ∈ ('.' :: rest).head?, (d != '.') = false := by
    rintro _ ⟨⟩
    rfl
  exact ⟨front, rest, rfl, noPoint, takeWhile_run inside stops, dropWhile_run inside stops⟩

theorem continuesName_of_not_point {text : List Char}
    (inside : ∀ d ∈ text, Token.continuesName d) (noPoint : '.' ∉ text) :
    ∀ d ∈ text, continuesName d := by
  intro d member
  have goesOn := inside d member
  rw [continuesName_or_point, Bool.or_eq_true, beq_iff_eq] at goesOn
  rcases goesOn with goesOn | rfl
  · exact goesOn
  · exact absurd member noPoint

theorem not_truth_of_mark {text : List Char} (mark : c = '_' ∨ c = '$') :
    (Text.sameIgnoringCase (String.ofList (c :: text)) "TRUE" ||
      Text.sameIgnoringCase (String.ofList (c :: text)) "FALSE") = false := by
  rcases mark with rfl | rfl <;> simp [Text.sameIgnoringCase]

/-- Where a name in front of a parenthesis goes on with a mark, its rest is a name just if there is
another point. -/
theorem cutsInto_tail {tail : List Char} (inside : ∀ d ∈ tail, Token.continuesName d)
    (starts : ∀ d ∈ tail.head?, inNumber d = false) (apart : Token.Apart after)
    (paren : Token.beforeParen after = true) :
    ∃ parts, CutsInto tail after parts ∧ (Silent parts ↔ '.' ∉ tail) := by
  cases tail with
  | nil => exact ⟨[], .nil, by simp [Silent]⟩
  | cons c rest =>
    have mark : c = '_' ∨ c = '$' := by
      have goesOn := inside c List.mem_cons_self
      have noNumber := starts c rfl
      simp only [Token.continuesName, inNumber, Bool.or_eq_true, beq_iff_eq, Bool.or_eq_false_iff,
        beq_eq_false_iff_ne] at goesOn noNumber
      rcases goesOn with ((alphanumeric | line) | dollar) | point
      · simp [noNumber.1] at alphanumeric
      · exact .inl line
      · exact .inr dollar
      · exact absurd point noNumber.2
    have name : startsName c := by rcases mark with rfl | rfl <;> decide
    have inRest : ∀ d ∈ rest, Token.continuesName d := fun d member =>
      inside d (List.mem_cons_of_mem _ member)
    by_cases point : '.' ∈ rest
    · obtain ⟨front, others, rfl, noPoint, _, _⟩ := exists_point point
      have inFront : ∀ d ∈ front, continuesName d := continuesName_of_not_point
        (fun d member => inRest d (List.mem_append_left _ member)) noPoint
      have first := @cutsInto_name front ('.' :: others ++ after) c name inFront (by
        rintro _ ⟨⟩
        decide)
      rw [List.cons_append, readsValue_point, not_truth_of_mark mark] at first
      obtain ⟨parts, cuts, _⟩ := cutsInto_run ('.' :: others)
        (fun d member => inRest d (List.mem_append_right _ member)) apart
      refine ⟨_, first.append cuts, ?_⟩
      simp [Silent]
    · have cuts := cutsInto_name name (continuesName_of_not_point inRest point)
        (not_continuesName_of_apart apart)
      rw [readsValue_called paren] at cuts
      refine ⟨_, cuts, ?_⟩
      have noPoint : '.' ≠ c := by
        rcases mark with rfl | rfl <;> decide
      simp [Silent, point, noPoint]

/-- The parts of a function's name with a point in it are no names just if it hides its points. -/
theorem cutsInto_called {more : List Char} (starts : startsName c)
    (inside : ∀ d ∈ more, Token.continuesName d) (apart : Token.Apart after)
    (paren : Token.beforeParen after = true) (point : '.' ∈ c :: more) :
    ∃ parts, CutsInto (c :: more) after parts ∧ (Silent parts ↔ hidesPoints (c :: more)) := by
  obtain ⟨front, rest, same, noPoint, taken, dropped⟩ := exists_point point
  cases front with
  | nil =>
    have isPoint := (List.cons.inj same).1
    rw [isPoint] at starts
    exact absurd starts (by decide)
  | cons d front =>
    rw [List.cons_append] at same
    obtain ⟨rfl, rfl⟩ := List.cons.inj same
    have inFront : ∀ d ∈ front, continuesName d := continuesName_of_not_point
      (fun d member => inside d (List.mem_append_left _ member))
      (fun member => noPoint (List.mem_cons_of_mem _ member))
    have inRest : ∀ d ∈ rest, Token.continuesName d := fun d member =>
      inside d (List.mem_append_right _ (List.mem_cons_of_mem _ member))
    have first := @cutsInto_name front ('.' :: rest ++ after) c starts inFront (by
      rintro _ ⟨⟩
      decide)
    obtain ⟨run, tail, rfl, inRun, stops⟩ := exists_run (fun d => continuesName_of_inNumber) apart rest
    have second := @cutsInto_number run (tail ++ after) '.' (by decide) inRun stops
    have tailStarts : ∀ d ∈ tail.head?, inNumber d = false := by
      cases tail with
      | nil => simp
      | cons d tail => exact stops
    obtain ⟨parts, third, silent⟩ := cutsInto_tail
      (fun d member => inRest d (List.mem_append_right _ member)) tailStarts apart paren
    have inPoint : ∀ d ∈ '.' :: run, inNumber d := by
      intro d member
      rcases List.mem_cons.mp member with rfl | later
      · decide
      · exact inRun d later
    have left : ('.' :: run ++ tail).dropWhile inNumber = tail := dropWhile_run inPoint tailStarts
    rw [List.cons_append, readsValue_point] at first
    refine ⟨_, first.append (second.append third), ?_⟩
    unfold hidesPoints
    rw [taken, dropped, ← List.cons_append, left, Bool.and_eq_true, Bool.not_eq_true',
      List.contains_eq_mem, decide_eq_false_iff_not, ← silent, silent_append, silent_append]
    have second : Silent [⟨'.' :: run, false⟩] := silent_singleton _
    have first : ∀ truth : Bool, Silent [⟨c :: front, !truth⟩] ↔ truth = true := by
      simp [Silent]
    rw [first, and_iff_right second]

end

end FormulaPart

namespace Lexeme

open FormulaPart

/-- Where names are looked for, the lexeme is taken for what it is: it is no name with a point in it,
or that of a function which hides its points. -/
def isTakenWhole (lexeme : Lexeme) : Bool :=
  match lexeme.token with
  | .identifier _ => !lexeme.chars.contains '.' || lexeme.called && hidesPoints lexeme.chars
  | _ => true

theorem nameOf_point {content : List Char} (point : '.' ∈ content) (after : List Char) :
    Token.nameOf content after = .identifier (String.ofList content) := by
  have noTruth : ∀ truth ∈ ["TRUE", "FALSE"],
      Text.sameIgnoringCase (String.ofList content) truth = false := by
    intro truth listed
    rw [Text.sameIgnoringCase, beq_eq_false_iff_ne]
    intro same
    have lowered : '.' ∈ truth.toList.map Char.toLower := by
      rw [← same, String.toList_ofList]
      exact List.mem_map_of_mem point
    have pointless : ∀ truth ∈ ["TRUE", "FALSE"], '.' ∉ truth.toList.map Char.toLower := by decide
    exact pointless truth listed lowered
  have noCell : Token.looksLikeCell content = false := by
    cases isCell : Token.looksLikeCell content with
    | false => rfl
    | true =>
      obtain ⟨mark, listed, letters, otherMark, otherListed, digits, rfl, _, _, letter, digit⟩ :=
        Token.exists_of_looksLikeCell isCell
      have marks : ∀ mark ∈ [[], ['$']], '.' ∉ mark := by decide
      simp only [List.mem_append] at point
      rcases point with inMark | inLetters | inMark | inDigits
      · exact absurd inMark (marks mark listed)
      · exact absurd (letter '.' inLetters) (by decide)
      · exact absurd inMark (marks otherMark otherListed)
      · exact absurd (digit '.' inDigits) (by decide)
  simp [Token.nameOf, noTruth, noCell]

/-- A lexeme that is spelled like a name is one just if its characters are looked at as one. -/
theorem isName_eq_readsValue {lexeme : Lexeme} {after : List Char}
    (reads : Token.nameOf lexeme.chars after = lexeme.token)
    (called : lexeme.called = Token.beforeParen after) :
    lexeme.isName = readsValue lexeme.chars after := by
  unfold isName
  rw [← reads, called]
  cases paren : Token.beforeParen after with
  | true =>
    rw [nameOf_beforeParen paren, readsValue_called paren]
    rfl
  | false =>
    have free : ((Text.trimStart after).head? == some '(') = false := paren
    rw [readsValue_free paren]
    unfold Token.nameOf
    dsimp only
    rw [free]
    cases yes : Text.sameIgnoringCase (String.ofList lexeme.chars) "TRUE" with
    | true => rfl
    | false =>
      cases no : Text.sameIgnoringCase (String.ofList lexeme.chars) "FALSE" with
      | true => rfl
      | false =>
        cases isCell : Token.looksLikeCell lexeme.chars with
        | false => rfl
        | true =>
          cases Address.parse (String.ofList lexeme.chars) with
          | ok address => rfl
          | error failure => rfl

/-- The parts are those of the lexeme, one name for a name and none for what is no name, just if it
is taken whole. -/
structure Parts (lexeme : Lexeme) (parts : List FormulaPart) : Prop where
  name : lexeme.isTakenWhole → lexeme.isName → parts = [⟨lexeme.chars, true⟩]
  silent : lexeme.isTakenWhole → lexeme.isName = false → Silent parts
  pointed : lexeme.isTakenWhole = false → lexeme.isName → Pointless parts ∧ '.' ∈ lexeme.chars
  heard : lexeme.isTakenWhole = false → lexeme.isName = false → ¬Silent parts

theorem Parts.of_silent {lexeme : Lexeme} {parts : List FormulaPart} (silent : Silent parts)
    (noName : lexeme.isName = false) (whole : lexeme.isTakenWhole = true) : Parts lexeme parts where
  name _ isName := by simp [noName] at isName
  silent _ _ := silent
  pointed notWhole := by simp [whole] at notWhole
  heard notWhole := by simp [whole] at notWhole

theorem plain_of_sign {lexeme : Lexeme} (sign : lexeme.token.isAtom = false) :
    lexeme.isName = false ∧ lexeme.isTakenWhole = true := by
  obtain ⟨gap, chars, token, called⟩ := lexeme
  cases token <;> first | exact ⟨rfl, rfl⟩ | cases sign

theorem exists_parts_name {lexeme : Lexeme} {after : List Char} {c : Char} {more : List Char}
    (spelled : lexeme.chars = c :: more) (starts : Token.startsName c)
    (goesOn : ∀ d ∈ more, Token.continuesName d) (apart : Token.Apart after)
    (reads : Token.nameOf lexeme.chars after = lexeme.token)
    (called : lexeme.called = Token.beforeParen after) :
    ∃ parts, CutsInto lexeme.chars after parts ∧ Parts lexeme parts := by
  have looked := isName_eq_readsValue reads called
  by_cases point : '.' ∈ lexeme.chars
  · rw [nameOf_point point] at reads
    have whole : lexeme.isTakenWhole = (lexeme.called && hidesPoints lexeme.chars) := by
      unfold isTakenWhole
      rw [← reads]
      simp [point]
    cases paren : Token.beforeParen after with
    | true =>
      rw [readsValue_called paren] at looked
      rw [called, paren, Bool.true_and] at whole
      rw [spelled] at point whole ⊢
      obtain ⟨parts, cuts, silent⟩ := cutsInto_called starts goesOn apart paren point
      rw [← whole] at silent
      refine ⟨parts, cuts, ?_⟩
      constructor
      · simp [looked]
      · exact fun taken _ => silent.mpr taken
      · simp [looked]
      · intro notWhole _ claimed
        simp [silent.mp claimed] at notWhole
    | false =>
      have isWritten : ∀ d ∈ lexeme.chars, Token.continuesName d := by
        rw [spelled]
        exact List.forall_mem_cons.mpr ⟨Token.continuesName_of_startsName starts, goesOn⟩
      rw [called, paren, Bool.false_and] at whole
      have named : lexeme.isName = true := by
        unfold isName
        rw [← reads, called, paren]
        rfl
      obtain ⟨parts, cuts, pointless⟩ := cutsInto_run lexeme.chars isWritten apart
      refine ⟨parts, cuts, ?_⟩
      constructor
      · simp [whole]
      · simp [whole]
      · exact fun _ _ => ⟨pointless, point⟩
      · simp [named]
  · have whole : lexeme.isTakenWhole = true := by
      unfold isTakenWhole
      split
      · simp [point]
      · rfl
    have cuts := @cutsInto_name more after c starts
      (continuesName_of_not_point goesOn fun member => point (by simp [spelled, member]))
      (not_continuesName_of_apart apart)
    rw [← spelled, ← looked] at cuts
    refine ⟨_, cuts, ?_⟩
    constructor
    · intro _ named
      rw [named]
    · intro _ notNamed
      rw [notNamed]
      exact silent_singleton _
    · simp [whole]
    · simp [whole]

/-- Where names are looked for, a lexeme is cut where it ends. -/
theorem exists_parts {lexeme : Lexeme} {after : List Char}
    (written : Token.Written lexeme.chars lexeme.token after)
    (called : lexeme.called = Token.beforeParen after) :
    ∃ parts, CutsInto lexeme.chars after parts ∧ Parts lexeme parts := by
  obtain ⟨gap, chars, token, isCalled⟩ := lexeme
  dsimp only at written called
  have ofPlain : (∀ c ∈ chars, isPlain c) → token.isAtom = false →
      ∃ parts, CutsInto chars after parts ∧ Parts ⟨gap, chars, token, isCalled⟩ parts := by
    intro plain sign
    obtain ⟨parts, cuts, silent⟩ := cutsInto_plains plain after
    obtain ⟨noName, whole⟩ := @plain_of_sign ⟨gap, chars, token, isCalled⟩ sign
    exact ⟨parts, cuts, .of_silent silent noName whole⟩
  cases written with
  | name starts goesOn stops reads => exact exists_parts_name rfl starts goesOn stops reads called
  | sign sign =>
    refine ofPlain ?_ (Token.isAtom_of_sign sign)
    rintro _ (_ | ⟨_, ⟨⟩⟩)
    exact isPlain_of_sign sign
  | less stops => exact ofPlain (by decide) rfl
  | greater stops => exact ofPlain (by decide) rfl
  | pair op wide =>
    refine ofPlain ?_ rfl
    simp only [List.mem_cons, List.not_mem_nil, or_false] at wide
    rcases wide with rfl | rfl | rfl <;> decide
  | text content stops =>
    exact ⟨_, cutsInto_text content stops, .of_silent (silent_singleton _) rfl rfl⟩
  | number shape starts reads stops =>
    obtain ⟨parts, cuts, silent⟩ := cutsInto_numberText shape starts stops
    exact ⟨parts, cuts, .of_silent silent rfl rfl⟩
  | error run stops reads apart =>
    exact ⟨_, cutsInto_error run stops reads apart, .of_silent (silent_singleton _) rfl rfl⟩

end Lexeme

end PhraseSheet
