import PhraseSheet.Proofs.Faults
import PhraseSheet.Proofs.Neighbours
import PhraseSheet.Proofs.Rewriting

namespace PhraseSheet

open Fault

namespace Token

theorem NumberText.last {number : List Char} (shape : NumberText number) :
    ∀ c ∈ number.getLast?, Token.continuesName c := by
  intro c last
  rcases FormulaPart.exponent_cases shape with inside | ⟨front, sign, digits, rfl, _, any, _, _,
    numeric⟩
  · exact FormulaPart.continuesName_of_inNumber (inside c (List.mem_of_mem_getLast? last))
  · have ends : c ∈ digits.getLast? := by
      rw [List.getLast?_append, List.getLast?_cons, List.getLast?_eq_some_getLast any] at last
      rw [List.getLast?_eq_some_getLast any]
      exact last
    exact FormulaPart.continuesName_of_inNumber
      (FormulaPart.inNumber_of_isDigit (numeric c (List.mem_of_mem_getLast? ends)))

theorem continuesName_of_name {c : Char} {more : List Char} (starts : startsName c)
    (goesOn : ∀ d ∈ more, continuesName d) : ∀ d ∈ c :: more, continuesName d :=
  List.forall_mem_cons.mpr ⟨continuesName_of_startsName starts, goesOn⟩

theorem isBalanced_doubled (content rest : List Char) (depth : Nat) :
    Fault.isBalanced true depth (doubled content ++ rest) = Fault.isBalanced true depth rest := by
  induction content with
  | nil => rfl
  | cons c content ih =>
    rw [doubled, List.flatMap_cons, List.append_assoc]
    by_cases quote : c = '"'
    · subst quote
      exact ih
    · rw [if_neg (by simpa using quote), List.singleton_append, Fault.isBalanced.eq_3 _ _ _ _ quote]
      exact ih

variable {chars after : List Char} {token : Token}

/-- A token leaves as many parentheses open in the text as among the tokens. -/
theorem Written.isBalanced (written : Written chars token after) {rest : List Char}
    {tokens : List Token}
    (later : ∀ depth, Fault.isBalanced false depth rest = Token.isBalanced depth tokens)
    (depth : Nat) :
    Fault.isBalanced false depth (chars ++ rest) = Token.isBalanced depth (token :: tokens) := by
  have plain : ∀ {chars : List Char}, (∀ c ∈ chars, c ≠ '"' ∧ c ≠ '(' ∧ c ≠ ')') →
      token.isUncounted →
      Fault.isBalanced false depth (chars ++ rest) = Token.isBalanced depth (token :: tokens) := by
    intro chars none uncounted
    rw [isBalanced_append none, later, isBalanced_uncounted uncounted]
  have inName : ∀ c, continuesName c → c ≠ '"' ∧ c ≠ '(' ∧ c ≠ ')' := by
    intro c inside
    refine ⟨?_, ?_, ?_⟩ <;> rintro rfl <;> exact absurd inside (by decide)
  cases written with
  | sign sign =>
    unfold sign? at sign
    split at sign <;> cases sign <;> simp [Fault.isBalanced, Token.isBalanced, later]
  | less => exact plain (by decide) rfl
  | greater => exact plain (by decide) rfl
  | pair op => exact plain (by cases op <;> decide) rfl
  | text content =>
    have closed : Fault.isBalanced false depth ('"' :: (doubled content ++ ['"']) ++ rest) =
        Fault.isBalanced true depth (doubled content ++ '"' :: rest) := by
      simp [Fault.isBalanced]
    rw [closed, isBalanced_doubled, isBalanced_uncounted rfl]
    exact later depth
  | number shape =>
    refine plain (fun c member => ?_) rfl
    rcases shape.continuesName c member with inside | sign
    · exact inName c inside
    · have signs : ∀ c ∈ ['+', '-'], c ≠ '"' ∧ c ≠ '(' ∧ c ≠ ')' := by decide
      exact signs c sign
  | error run =>
    refine plain (List.forall_mem_cons.mpr ⟨by decide, fun c member => ?_⟩) rfl
    have inside := run c member
    refine ⟨?_, ?_, ?_⟩ <;> rintro rfl <;> exact absurd inside (by decide)
  | name starts goesOn stops reads =>
    rw [← reads] at plain ⊢
    exact plain (fun c member => inName c (continuesName_of_name starts goesOn c member))
      (isUncounted_of_isAtom (isAtom_nameOf _ _))

/-- An operator is doubled inside the text that the token is. -/
def holdsDoubled : Token → Bool
  | .text content => hasDoubled content.toList
  | _ => false

theorem holdsDoubled_nameOf (content after : List Char) :
    (nameOf content after).holdsDoubled = false := by
  unfold nameOf
  dsimp only
  repeat' split
  all_goals rfl

theorem head?_doubled (content : List Char) : (doubled content).head? = content.head? := by
  cases content with
  | nil => rfl
  | cons c content =>
    rw [doubled, List.flatMap_cons]
    split <;> rfl

theorem lacks_doubled {c : Char} (noQuote : c ≠ '"') (content : List Char) :
    Lacks c c (doubled content) ↔ Lacks c c content := by
  induction content with
  | nil => rfl
  | cons d content ih =>
    rw [lacks_cons, ← ih, ← head?_doubled content, doubled, List.flatMap_cons]
    by_cases quote : d = '"'
    · subst quote
      simp [lacks_cons, Ne.symm noQuote, doubled]
    · rw [if_neg (by simpa using quote), List.singleton_append, lacks_cons]
      rfl

theorem hasDoubled_quoted (content : List Char) :
    hasDoubled ('"' :: (doubled content ++ ['"'])) = hasDoubled content := by
  rw [Bool.eq_iff_iff, ← not_iff_not, Bool.not_eq_true, Bool.not_eq_true, hasDoubled_eq_false_iff,
    hasDoubled_eq_false_iff]
  simp [lacks_cons, lacks_append, lacks_doubled, lacks_of_not_mem]

theorem hasDoubled_plain (plain : ∀ c ∈ chars, continuesName c ∨ c ∈ ['+', '-']) :
    hasDoubled chars = false := by
  have absent : ∀ c ∈ doubleable, c ∉ chars := by
    intro c listed member
    have others : ∀ c ∈ doubleable, ¬ (continuesName c ∨ c ∈ ['+', '-']) := by decide
    exact others c listed (plain c member)
  rw [hasDoubled_eq_false_iff]
  exact ⟨lacks_of_not_mem (absent '/' (by decide)), lacks_of_not_mem (absent '*' (by decide))⟩

theorem hasDoubled_error {cause : CellError} {more : List Char}
    (run : ∀ c ∈ more, isErrorChar c)
    (reads : CellError.ofText? (String.ofList ('#' :: more)) = some cause) :
    hasDoubled ('#' :: more) = false := by
  have texts : ∀ cause ∈ CellError.all, hasDoubled cause.text.toList = false := by decide
  have single := texts cause cause.mem_all
  rw [FormulaPart.text_of_ofText? run reads, hasDoubled_eq_false_iff] at single
  rw [hasDoubled_eq_false_iff]
  exact ⟨fun doubled => single.1 (doubled.map Char.toUpper),
    fun doubled => single.2 (doubled.map Char.toUpper)⟩

theorem Written.hasDoubled (written : Written chars token after) :
    Fault.hasDoubled chars = token.holdsDoubled := by
  cases written with
  | sign sign =>
    unfold sign? at sign
    split at sign <;> cases sign <;> rfl
  | less => rfl
  | greater => rfl
  | pair op => cases op <;> rfl
  | text content =>
    rw [hasDoubled_quoted, holdsDoubled, String.toList_ofList]
  | number shape => exact hasDoubled_plain shape.continuesName
  | error run stops reads => exact hasDoubled_error run reads
  | name starts goesOn stops reads =>
    rw [← reads, holdsDoubled_nameOf]
    exact hasDoubled_plain fun c member => .inl (continuesName_of_name starts goesOn c member)

theorem Written.awaits (written : Written chars token after) {c : Char}
    (last : chars.getLast? = some c) (sign : c ∈ Fault.signs) : token.awaits := by
  have noName : ¬ continuesName c := by
    have others : ∀ c ∈ Fault.signs, ¬ continuesName c := by decide
    exact others c sign
  cases written with
  | sign read =>
    cases last
    unfold sign? at read
    split at read <;> cases read <;> first | rfl | exact absurd sign (by decide)
  | less => rfl
  | greater => rfl
  | pair => rfl
  | text content =>
    rw [← List.cons_append, List.getLast?_concat] at last
    cases last
    exact absurd sign (by decide)
  | number shape => exact absurd (shape.last c last) noName
  | @error more cause _ run stops reads =>
    have ends : (cause.text.toList).getLast? = some c.toUpper := by
      rw [FormulaPart.text_of_ofText? run reads, List.getLast?_map, last]
      rfl
    have texts : ∀ cause ∈ CellError.all, ∀ c ∈ Fault.signs,
        (cause.text.toList).getLast? ≠ some c.toUpper := by
      decide
    exact absurd ends (texts cause cause.mem_all c sign)
  | name starts goesOn =>
    exact absurd (continuesName_of_name starts goesOn c (List.mem_of_getLast? last)) noName

end Token

namespace Lexeme

variable {trail : List Char} {lexemes : List Lexeme}

theorem ne_of_isBlank {c d : Char} (blank : Text.isBlank c) (visible : Text.isBlank d = false) :
    c ≠ d := by
  rintro rfl
  simp [visible] at blank

theorem hasDoubled_gap {gap : List Char} (blank : ∀ c ∈ gap, Text.isBlank c) (text : List Char) :
    hasDoubled (gap ++ text) = hasDoubled text :=
  hasDoubled_append (fun c member => ⟨ne_of_isBlank (blank c member) (by decide),
    ne_of_isBlank (blank c member) (by decide)⟩) text

theorem isBalanced_gap {gap : List Char} (blank : ∀ c ∈ gap, Text.isBlank c) (depth : Nat)
    (text : List Char) :
    Fault.isBalanced false depth (gap ++ text) = Fault.isBalanced false depth text :=
  isBalanced_append (fun c member => ⟨ne_of_isBlank (blank c member) (by decide),
    ne_of_isBlank (blank c member) (by decide), ne_of_isBlank (blank c member) (by decide)⟩) text

/-- In the text of joined lexemes, as many parentheses are open as among their tokens. -/
theorem Joined.isBalanced (joined : Joined trail lexemes) (blank : ∀ c ∈ trail, Text.isBlank c)
    (depth : Nat) : Fault.isBalanced false depth (textOf lexemes ++ trail) =
      Token.isBalanced depth (lexemes.map token) := by
  induction joined generalizing depth with
  | nil =>
    have nothing := isBalanced_gap blank depth []
    rw [List.append_nil] at nothing
    exact nothing
  | cons gapBlank written _ _ ih =>
    rw [textOf_cons, List.append_assoc, isBalanced_gap gapBlank, List.append_assoc,
      written.isBalanced ih]
    rfl

/-- In the text of an expression, operators are doubled only inside of texts. -/
theorem Joined.hasDoubled (joined : Joined trail lexemes) (blank : ∀ c ∈ trail, Text.isBlank c)
    (apart : (lexemes.map token).IsChain fun one other => one.awaits → other.leads)
    (ends : ∀ last ∈ (lexemes.map token).getLast?, last.awaits = false) :
    Fault.hasDoubled (textOf lexemes ++ trail) = (lexemes.map token).any Token.holdsDoubled := by
  induction joined with
  | nil =>
    have nothing := hasDoubled_gap blank []
    rw [List.append_nil] at nothing
    exact nothing
  | @cons rest lexeme gapBlank written called joined ih =>
    rw [List.map_cons] at apart ends
    obtain ⟨next, later⟩ := List.isChain_cons.mp apart
    have behind : Fault.hasDoubled (textOf rest ++ trail) =
        (rest.map token).any Token.holdsDoubled := by
      refine ih later fun last found => ends last ?_
      rw [List.getLast?_cons, found]
      rfl
    -- an operator at the end awaits an operand, which starts with none
    have neighbours : ∀ c ∈ doubleable,
        ¬ (lexeme.chars.getLast? = some c ∧ (textOf rest ++ trail).head? = some c) := by
      rintro c listed ⟨last, first⟩
      have sign : c ∈ Fault.signs ∧ c ∈ Token.joints := by
        have each : ∀ c ∈ doubleable, c ∈ Fault.signs ∧ c ∈ Token.joints := by decide
        exact each c listed
      have awaits := written.awaits last sign.1
      cases following : (rest.map token).head? with
      | none =>
        have alone : rest.map token = [] := List.head?_eq_none_iff.mp following
        rw [alone] at ends
        simp [ends lexeme.token rfl] at awaits
      | some token =>
        exact joined.head_of_leads ⟨token, following, next token following awaits⟩ trail c first
          sign.2
    rw [textOf_cons, List.append_assoc, hasDoubled_gap gapBlank, List.append_assoc, List.map_cons,
      List.any_cons, ← behind, ← written.hasDoubled, Bool.eq_iff_iff, ← not_iff_not,
      Bool.not_eq_true, Bool.not_eq_true, hasDoubled_append_eq_false_iff, Bool.or_eq_false_iff]
    exact ⟨fun single => ⟨single.1, single.2.1⟩, fun single => ⟨single.1, single.2, neighbours⟩⟩

/-- A text that ends with one of the signs that no formula ends with is that of tokens whose last one
awaits an operand. -/
theorem Joined.awaits (joined : Joined trail lexemes) {c : Char}
    (last : (textOf lexemes).getLast? = some c) (sign : c ∈ Fault.signs) :
    ∃ last ∈ (lexemes.map token).getLast?, last.awaits := by
  induction joined with
  | nil => cases last
  | @cons rest lexeme gapBlank written called joined ih =>
    obtain ⟨d, more, spelled, _⟩ := written.visible
    rw [textOf_cons, List.getLast?_append, List.getLast?_append] at last
    cases behind : (textOf rest).getLast? with
    | some e =>
      rw [behind] at last
      cases last
      obtain ⟨final, found, awaits⟩ := ih behind
      refine ⟨final, ?_, awaits⟩
      rw [List.map_cons, List.getLast?_cons, found]
      rfl
    | none =>
      rw [behind, spelled, List.getLast?_cons, Option.none_or, Option.some_or] at last
      have alone : rest = [] := by
        by_contra any
        exact (joined.endsVisibly any).2 (List.getLast?_eq_none_iff.mp behind)
      rw [alone]
      refine ⟨lexeme.token, rfl, written.awaits ?_ sign⟩
      rw [spelled, List.getLast?_cons]
      exact last

/-- The last character of a formula that is not white space is that of its lexemes. -/
theorem Layout.lastVisible?_eq {formula : String} {front : List Char}
    (layout : Layout formula lexemes front trail) :
    lastVisible? formula.toList = (textOf lexemes).getLast? := by
  rw [layout.whole, ← List.append_assoc, lastVisible?_append_blank layout.blank]
  cases last : (textOf lexemes).getLast? with
  | none => exact absurd (List.getLast?_eq_none_iff.mp last) layout.any
  | some c =>
    refine lastVisible?_of_getLast? ?_ (layout.endsVisibly c last)
    rw [List.getLast?_append, last]
    rfl

end Lexeme

namespace Expr

/-- An equals sign at the start of a formula is all that stands in front of its body. -/
theorem Fronts.eq_of_starts {front body : List Char} (fronts : Fronts front body)
    (starts : (front ++ body).head? = some '=') : front = ['='] := by
  have visible : ∀ {gap : List Char} {rest}, (∀ c ∈ gap, Text.isBlank c) →
      (gap ++ rest).head? = some '=' → gap = [] := by
    intro gap rest blank starts
    cases gap with
    | nil => rfl
    | cons c gap =>
      cases starts
      exact absurd (blank '=' List.mem_cons_self) (by decide)
  cases fronts with
  | bare blank visibly =>
    rw [visible blank starts, List.nil_append] at starts
    exact absurd rfl (visibly '=' starts).2
  | marked blank =>
    rw [List.append_assoc] at starts
    rw [visible blank starts]
    rfl

end Expr

namespace Fault

open Lexeme

/-- In a formula that starts with an equals sign and is read, no fault is found, unless an operator is
doubled inside a text. -/
theorem find_of_parse {formula : String} {tree : Expr} (starts : formula.toList.head? = some '=')
    (accepted : Expr.parse formula = .ok tree) :
    find formula = if (Token.scan (Expr.formulaBody formula)).any Token.holdsDoubled then
      [.doubledOperator] else [] := by
  obtain ⟨front, trail, layout⟩ := exists_layout accepted
  have formed := Grammar.formed_of_parse accepted
  rw [← map_token_split] at formed ⊢
  generalize split (Expr.formulaBody formula) = lexemes at *
  have whole : formula.toList = ['='] ++ (textOf lexemes ++ trail) := by
    have wholeFront := layout.whole
    rw [wholeFront] at starts
    rwa [layout.fronts.eq_of_starts starts] at wholeFront
  have balanced : isBalanced false 0 formula.toList := by
    have closed := formed.closed 0 []
    rw [List.append_nil] at closed
    rw [whole, isBalanced_append (by decide), layout.joined.isBalanced layout.blank, closed]
    rfl
  have doubled : hasDoubled formula.toList = (lexemes.map token).any Token.holdsDoubled := by
    rw [whole, hasDoubled_append (by decide)]
    exact layout.joined.hasDoubled layout.blank formed.apart formed.free
  have trailing : (Text.trimEnd formula.toList).getLast?.any isOperator = false := by
    rw [getLast?_trimEnd, layout.lastVisible?_eq]
    cases last : (textOf lexemes).getLast? with
    | none => rfl
    | some c =>
      rw [Option.any_some, Bool.eq_false_iff]
      intro isOperator
      obtain ⟨final, isFinal, awaits⟩ := layout.joined.awaits last (isOperator_iff.mp isOperator)
      simp [formed.free final isFinal] at awaits
  simp [find, starts, balanced, doubled, trailing]

/-- Text in quotes is taken for an operator, though its parentheses are not counted. -/
theorem find_of_parse_quoted : find "=IF(a>1,\"(\",\")\")" = [] ∧
    (Expr.parse "=\"a//b\"").toOption.isSome ∧ find "=\"a//b\"" = [.doubledOperator] := by
  have accepts : ∀ formula ∈ ["=IF(a>1,\"(\",\")\")", "=\"a//b\""],
      (Expr.parse formula).toOption.isSome := by
    decide +kernel
  have single : (Token.scan (Expr.formulaBody "=IF(a>1,\"(\",\")\")")).any Token.holdsDoubled =
      false := by
    decide +kernel
  have doubled : (Token.scan (Expr.formulaBody "=\"a//b\"")).any Token.holdsDoubled := by
    decide +kernel
  obtain ⟨_, accepted⟩ := exists_of_isSome (accepts "=IF(a>1,\"(\",\")\")" (by simp))
  obtain ⟨_, otherAccepted⟩ := exists_of_isSome (accepts "=\"a//b\"" (by simp))
  refine ⟨?_, accepts _ (by simp), ?_⟩
  · rw [find_of_parse rfl accepted, single]
    rfl
  · rw [find_of_parse rfl otherAccepted, doubled]
    rfl

end Fault

end PhraseSheet
