import PhraseSheet.Proofs.Acceptance

/-! Texts that spell expressions: composed from words, numbers and signs in such a way that they are
cut into tokens part by part. -/

namespace PhraseSheet

open Grammar

/-- The signs that are put behind words and numbers. -/
def stopSigns : List Char := ['+', '-', '*', '/', ',', ':', ')', '=', '<', '>']

/-- Nothing that stands there goes on with what is in front of it, or makes a function of it. -/
def Stopped (rest : List Char) : Prop := ∀ c ∈ rest.head?, c ∈ stopSigns

theorem stopped_nil : Stopped [] := by
  simp [Stopped]

theorem stopped_cons {c : Char} (stop : c ∈ stopSigns) (rest : List Char) : Stopped (c :: rest) := by
  intro d first
  cases first
  exact stop

theorem Stopped.all {rest : List Char} (stopped : Stopped rest) {P : Char → Prop}
    (each : ∀ c ∈ stopSigns, P c) : ∀ c ∈ rest.head?, P c :=
  fun c first => each c (stopped c first)

theorem Stopped.apart {rest : List Char} (stopped : Stopped rest) : Token.Apart rest :=
  stopped.all (by decide)

/-- The text does not end with white space. -/
def EndsVisibly (text : List Char) : Prop := ∀ c ∈ text.getLast?, Text.isBlank c = false

theorem endsVisibly_singleton {c : Char} (visible : Text.isBlank c = false) : EndsVisibly [c] := by
  intro d last
  cases last
  exact visible

theorem EndsVisibly.append {text others : List Char} (ends : EndsVisibly text)
    (otherEnds : EndsVisibly others) : EndsVisibly (text ++ others) := by
  intro c last
  rw [List.getLast?_append] at last
  rcases Option.or_eq_some_iff.mp last with found | ⟨_, found⟩
  · exact otherEnds c found
  · exact ends c found

theorem EndsVisibly.behind {text : List Char} (ends : EndsVisibly text) (any : text ≠ [])
    (before : List Char) : EndsVisibly (before ++ text) := by
  intro c last
  rw [List.getLast?_append, List.getLast?_eq_some_getLast any, Option.some_or] at last
  exact ends c (by rw [List.getLast?_eq_some_getLast any]; exact last)

theorem EndsVisibly.cons {c : Char} {text : List Char} (visible : Text.isBlank c = false)
    (ends : EndsVisibly text) : EndsVisibly (c :: text) :=
  (endsVisibly_singleton visible).append ends

theorem endsVisibly_of_all {text : List Char} (visible : ∀ c ∈ text, Text.isBlank c = false) :
    EndsVisibly text :=
  fun c last => visible c (List.mem_of_mem_getLast? last)

theorem endsVisibly_concat {c : Char} (visible : Text.isBlank c = false) (text : List Char) :
    EndsVisibly (text ++ [c]) :=
  (endsVisibly_singleton visible).behind (by simp) text

theorem EndsVisibly.trimEnd_eq {text : List Char} (ends : EndsVisibly text) :
    Text.trimEnd text = text := by
  unfold Text.trimEnd
  cases reversed : text.reverse with
  | nil => simpa using reversed.symm
  | cons c before =>
    have last : text.getLast? = some c := by rw [List.getLast?_eq_head?_reverse, reversed]; rfl
    rw [List.dropWhile_cons_of_neg (by simp [ends c last]), ← reversed, List.reverse_reverse]

theorem formulaBody_of_endsVisibly {body : List Char} (ends : EndsVisibly body) :
    Expr.formulaBody (String.ofList ('=' :: body)) = body := by
  have start : Text.trimStart ('=' :: body) = '=' :: body := rfl
  have trimmed : Text.trim ('=' :: body) = '=' :: body := by
    rw [Text.trim, start, (ends.cons (by decide)).trimEnd_eq]
  rw [Expr.formulaBody, String.toList_ofList, trimmed]
  rfl

/-- The text ends visibly and, wherever it is stopped, it is cut into such tokens. -/
structure Cuts (text : List Char) (tokens : List Token) : Prop where
  scan : ∀ rest, Stopped rest → Token.scan (text ++ rest) = tokens ++ Token.scan rest
  ends : EndsVisibly text

namespace Cuts

variable {text others : List Char} {tokens more : List Token} {c : Char} {token : Token}

theorem behind (sign : Token.sign? c = some token) (cuts : Cuts text tokens) :
    Cuts (c :: text) (token :: tokens) where
  scan rest stopped := by
    rw [List.cons_append, Token.scan_sign sign, cuts.scan rest stopped]
    rfl
  ends := cuts.ends.cons (Token.not_isBlank_of_sign sign)

theorem join (cuts : Cuts text tokens) (sign : Token.sign? c = some token) (stop : c ∈ stopSigns)
    (othersCut : Cuts others more) : Cuts (text ++ c :: others) (tokens ++ token :: more) where
  scan rest stopped := by
    rw [List.append_assoc, List.cons_append, cuts.scan _ (stopped_cons stop _),
      Token.scan_sign sign, othersCut.scan rest stopped, List.append_assoc, List.cons_append]
  ends := cuts.ends.append (othersCut.ends.cons (Token.not_isBlank_of_sign sign))

theorem nil : Cuts [] [] where
  scan _ _ := rfl
  ends := endsVisibly_of_all (by simp)

theorem close (cuts : Cuts text tokens) : Cuts (text ++ [')']) (tokens ++ [.rightParen]) :=
  cuts.join rfl (by decide) nil

theorem compare (cuts : Cuts text tokens) (op : Comparison) (othersCut : Cuts (c :: others) more)
    (apart : c ≠ '=' ∧ c ≠ '>') :
    Cuts (text ++ (op.symbol.toList ++ c :: others)) (tokens ++ .comparison op :: more) where
  scan rest stopped := by
    have stop : Stopped (op.symbol.toList ++ ((c :: others) ++ rest)) := by
      cases op <;> exact stopped_cons (by decide) _
    have apartRest : ∀ d ∈ ((c :: others) ++ rest).head?, d ≠ '=' ∧ d ≠ '>' := by
      rintro d ⟨⟩
      exact apart
    rw [List.append_assoc, List.append_assoc, cuts.scan _ stop,
      Token.scan_comparison op apartRest, othersCut.scan rest stopped, List.append_assoc,
      List.cons_append]
  ends := by
    refine cuts.ends.append (EndsVisibly.append ?_ othersCut.ends)
    cases op <;> exact endsVisibly_of_all (by decide)

end Cuts

/-- A text that is spelled like a name. -/
inductive SpellsName : List Char → Prop where
  | mk (starts : Token.startsName c) (goesOn : ∀ d ∈ more, Token.continuesName d) :
      SpellsName (c :: more)

theorem SpellsName.scan {name rest : List Char} (spells : SpellsName name)
    (apart : Token.Apart rest) :
    Token.scan (name ++ rest) = Token.nameOf name rest :: Token.scan rest := by
  cases spells with
  | mk starts goesOn => exact Token.scan_name starts goesOn apart

theorem SpellsName.endsVisibly {name : List Char} (spells : SpellsName name) :
    EndsVisibly name := by
  cases spells with
  | mk starts goesOn =>
    have behind := endsVisibly_of_all fun d member =>
      Token.not_isBlank_of_continuesName (goesOn d member)
    exact behind.cons (Token.not_isBlank_of_startsName starts)

/-- A letter with letters and digits behind it. -/
inductive IsWord : List Char → Prop where
  | mk (letter : c.isAlpha) (goesOn : ∀ d ∈ more, d.isAlphanum) : IsWord (c :: more)

theorem isWord_iff {text : List Char} :
    IsWord text ↔ text.head?.any Char.isAlpha = true ∧ text.tail.all Char.isAlphanum = true := by
  constructor
  · rintro ⟨letter, goesOn⟩
    exact ⟨letter, List.all_eq_true.mpr goesOn⟩
  · rintro ⟨letter, goesOn⟩
    cases text with
    | nil => cases letter
    | cons c more => exact .mk letter (List.all_eq_true.mp goesOn)

instance : DecidablePred IsWord := fun _ => decidable_of_iff _ isWord_iff.symm

theorem IsWord.spellsName {word : List Char} (isWord : IsWord word) : SpellsName word := by
  cases isWord with
  | mk letter goesOn =>
    refine .mk ?_ ?_
    · simp [Token.startsName, isAlphabetic_of_isAlpha letter]
    · intro d member
      simp [Token.continuesName, isAlphanumeric_of_isAlphanum (goesOn d member)]

theorem IsWord.scan {word rest : List Char} (isWord : IsWord word) (apart : Token.Apart rest) :
    Token.scan (word ++ rest) = Token.nameOf word rest :: Token.scan rest :=
  isWord.spellsName.scan apart

theorem IsWord.isAlphanum {word : List Char} (isWord : IsWord word) :
    ∀ c ∈ word, c.isAlphanum := by
  cases isWord with
  | mk letter goesOn =>
    intro c member
    rcases List.mem_cons.mp member with rfl | later
    · exact Bool.or_eq_true_iff.mpr (.inl letter)
    · exact goesOn c later

theorem IsWord.endsVisibly {word : List Char} (isWord : IsWord word) : EndsVisibly word :=
  isWord.spellsName.endsVisibly

theorem Token.DecimalText.isDigit_or_point {number : List Char}
    (decimal : Token.DecimalText number) : ∀ c ∈ number, c.isDigit ∨ c = '.' := by
  intro c member
  cases decimal with
  | whole digits any => exact .inl (digits c member)
  | pointed digits any places =>
    rcases List.mem_append.mp member with whole | behind
    · exact .inl (digits c whole)
    · rcases List.mem_cons.mp behind with rfl | place
      · exact .inr rfl
      · exact .inl (places c place)

theorem Token.DecimalText.endsVisibly {number : List Char} (decimal : Token.DecimalText number) :
    EndsVisibly number := by
  apply endsVisibly_of_all
  intro c member
  rcases decimal.isDigit_or_point c member with digit | rfl
  · exact not_isBlank_of_isDigit digit
  · decide

/-- What a name becomes where no parenthesis follows. -/
theorem nameOf_stopped {rest : List Char} (stopped : Stopped rest) (content : List Char) :
    Token.nameOf content rest = Token.nameOf content [] := by
  have noParenthesis : ((Text.trimStart rest).head? == some '(') = false := by
    cases rest with
    | nil => rfl
    | cons c rest =>
      have visible : Text.isBlank c = false :=
        stopped.all (P := fun c => Text.isBlank c = false) (by decide) c rfl
      have other : c ≠ '(' := stopped.all (P := fun c => c ≠ '(') (by decide) c rfl
      simp [Text.trimStart, visible, other]
  unfold Token.nameOf
  simp only [noParenthesis]
  rfl

theorem derives_nameOf (content : List Char) :
    ∃ tree, Derives .primary [Token.nameOf content []] tree 0 := by
  unfold Token.nameOf
  dsimp only
  split
  · exact ⟨_, .name _⟩
  · split
    · exact ⟨_, .boolean true⟩
    · split
      · exact ⟨_, .boolean false⟩
      · split
        · split
          · exact ⟨_, .cell _⟩
          · exact ⟨_, .name _⟩
        · exact ⟨_, .name _⟩

/-- The text is cut into tokens that write an expression of the category with no more nesting than
the bound. -/
def Spells (category : Category) (bound : Nat) (text : List Char) : Prop :=
  ∃ tokens tree need, Cuts text tokens ∧ Derives category tokens tree need ∧ need ≤ bound

/-- The text is cut into tokens that write expressions with commas between them. -/
def SpellsList (bound : Nat) (text : List Char) : Prop :=
  ∃ tokens trees need, Cuts text tokens ∧ Lists tokens trees need ∧ need ≤ bound

section

variable {bound : Nat} {text others : List Char} {c : Char} {token : Token}

theorem IsWord.spells {word : List Char} (isWord : IsWord word) : Spells .primary bound word := by
  obtain ⟨tree, derived⟩ := derives_nameOf word
  refine ⟨_, tree, 0, ⟨?_, isWord.endsVisibly⟩, derived, Nat.zero_le _⟩
  intro rest stopped
  rw [isWord.scan stopped.apart, nameOf_stopped stopped]
  rfl

theorem spells_number {number : List Char} (decimal : Token.DecimalText number) :
    Spells .primary bound number := by
  obtain ⟨x, scan⟩ := Token.scan_number decimal
  refine ⟨[.number x], _, 0, ⟨?_, decimal.endsVisibly⟩, .number x, Nat.zero_le _⟩
  intro rest stopped
  exact scan rest stopped.apart

theorem spells_quoted (content : String) :
    Spells .primary bound (Value.quotedLiteral content).toList := by
  refine ⟨[.text content], _, 0, ⟨?_, ?_⟩, .text content, Nat.zero_le _⟩
  · intro rest stopped
    exact Token.scan_quotedLiteral content (stopped.all (by decide))
  · rw [Value.quotedLiteral, String.toList_ofList]
    exact endsVisibly_concat (by decide) _

theorem Spells.span (left : Spells .primary bound text) (right : Spells .primary bound others) :
    Spells .range bound (text ++ ':' :: others) := by
  obtain ⟨tokens, tree, need, cuts, derived, within⟩ := left
  obtain ⟨more, otherTree, otherNeed, othersCut, otherDerived, otherWithin⟩ := right
  exact ⟨_, _, _, cuts.join rfl (by decide) othersCut, derives_rangeOf derived otherDerived,
    Nat.max_le.mpr ⟨within, otherWithin⟩⟩

theorem Spells.range (primary : Spells .primary bound text) : Spells .range bound text := by
  obtain ⟨tokens, tree, need, cuts, derived, within⟩ := primary
  exact ⟨tokens, tree, need, cuts, .single derived, within⟩

theorem Spells.operand (range : Spells .range bound text) : Spells .operand (bound + 1) text := by
  obtain ⟨tokens, tree, need, cuts, derived, within⟩ := range
  refine ⟨tokens, tree, need + 1, cuts, ?_, Nat.succ_le_succ within⟩
  have derivation := Derives.percents 0 derived
  rwa [List.replicate_zero, List.append_nil] at derivation

theorem Spells.negated (operand : Spells .operand bound text) :
    Spells .operand (bound + 1) ('-' :: text) := by
  obtain ⟨tokens, tree, need, cuts, derived, within⟩ := operand
  exact ⟨_, _, _, cuts.behind rfl, .negated derived, Nat.succ_le_succ within⟩

theorem Spells.power (operand : Spells .operand bound text) : Spells .power bound text := by
  obtain ⟨tokens, tree, need, cuts, derived, within⟩ := operand
  exact ⟨tokens, tree, need, cuts, .base derived, within⟩

theorem Spells.chain (chain : Chain) (parts : Spells chain.parts bound text) :
    Spells (.chain chain) bound text := by
  obtain ⟨tokens, tree, need, cuts, derived, within⟩ := parts
  exact ⟨tokens, tree, need, cuts, .part derived, within⟩

theorem Spells.compared (operand : Spells .operand bound text) :
    Spells (Chain.comparisons).parts bound text :=
  .chain .joins (.chain .sums (.chain .products operand.power))

theorem Spells.whole (operand : Spells .operand bound text) : Spells .whole bound text :=
  .chain .comparisons operand.compared

theorem Spells.weaken {category : Category} {larger : Nat} (spells : Spells category bound text)
    (le : bound ≤ larger) : Spells category larger text := by
  obtain ⟨tokens, tree, need, cuts, derived, within⟩ := spells
  exact ⟨tokens, tree, need, cuts, derived, Nat.le_trans within le⟩

theorem Spells.join {chain : Chain} {op : Operator} (left : Spells (.chain chain) bound text)
    (sign : Token.sign? c = some token) (writes : Writes chain token op) (stop : c ∈ stopSigns)
    (right : Spells chain.parts bound others) : Spells (.chain chain) bound (text ++ c :: others) := by
  obtain ⟨tokens, tree, need, cuts, derived, within⟩ := left
  obtain ⟨more, otherTree, otherNeed, othersCut, otherDerived, otherWithin⟩ := right
  exact ⟨_, _, _, cuts.join sign stop othersCut, .chain derived writes otherDerived,
    Nat.max_le.mpr ⟨within, otherWithin⟩⟩

theorem Spells.compare (left : Spells .whole bound text) (op : Comparison)
    (right : Spells (Chain.comparisons).parts bound (c :: others)) (apart : c ≠ '=' ∧ c ≠ '>') :
    Spells .whole bound (text ++ (op.symbol.toList ++ c :: others)) := by
  obtain ⟨tokens, tree, need, cuts, derived, within⟩ := left
  obtain ⟨more, otherTree, otherNeed, othersCut, otherDerived, otherWithin⟩ := right
  exact ⟨_, _, _, cuts.compare op othersCut apart, .chain derived (.comparison op) otherDerived,
    Nat.max_le.mpr ⟨within, otherWithin⟩⟩

theorem Spells.factor (operand : Spells .operand bound text) :
    Spells (.chain .products) bound text :=
  .chain .products operand.power

theorem Spells.term (product : Spells (.chain .products) bound text) :
    Spells (.chain .sums) bound text :=
  .chain .sums product

theorem Spells.total (sum : Spells (.chain .sums) bound text) : Spells .whole bound text :=
  .chain .comparisons (.chain .joins sum)

theorem Spells.times (left : Spells (.chain .products) bound text)
    (right : Spells .operand bound others) :
    Spells (.chain .products) bound (text ++ '*' :: others) :=
  left.join rfl .multiply (by decide) right.power

theorem Spells.dividedBy (left : Spells (.chain .products) bound text)
    (right : Spells .operand bound others) :
    Spells (.chain .products) bound (text ++ '/' :: others) :=
  left.join rfl .divide (by decide) right.power

theorem Spells.minus (left : Spells (.chain .sums) bound text)
    (right : Spells (.chain .products) bound others) :
    Spells (.chain .sums) bound (text ++ '-' :: others) :=
  left.join rfl .subtract (by decide) right

theorem Spells.group (inner : Spells .whole bound text) :
    Spells .primary bound ('(' :: (text ++ [')'])) := by
  obtain ⟨tokens, tree, need, cuts, derived, within⟩ := inner
  exact ⟨_, _, _, cuts.close.behind rfl, .group derived, within⟩

theorem Spells.last (only : Spells .whole bound text) : SpellsList bound text := by
  obtain ⟨tokens, tree, need, cuts, derived, within⟩ := only
  exact ⟨tokens, [tree], need, cuts, .last derived, within⟩

theorem SpellsList.more (first : Spells .whole bound text) (list : SpellsList bound others) :
    SpellsList bound (text ++ ',' :: others) := by
  obtain ⟨tokens, tree, need, cuts, derived, within⟩ := first
  obtain ⟨more, trees, otherNeed, othersCut, listed, otherWithin⟩ := list
  exact ⟨_, _, _, cuts.join rfl (by decide) othersCut, .more derived listed,
    Nat.max_le.mpr ⟨within, otherWithin⟩⟩

theorem SpellsList.call {function : List Char} (isWord : IsWord function)
    (list : SpellsList bound text) :
    Spells .primary bound (function ++ '(' :: (text ++ [')'])) := by
  obtain ⟨tokens, trees, need, cuts, listed, within⟩ := list
  refine ⟨_, _, _, ⟨?_, ?_⟩, .call (String.ofList function) listed, within⟩
  · intro rest stopped
    have inner := cuts.close.scan rest stopped
    have parenthesis : Token.sign? '(' = some .leftParen := rfl
    have opens : ∀ rest, Token.nameOf function ('(' :: rest) = .identifier (String.ofList function) :=
      fun rest => rfl
    have apart : Token.Apart ('(' :: (text ++ [')'] ++ rest)) := by
      rintro c ⟨⟩
      decide
    rw [List.append_assoc, List.cons_append, isWord.scan apart, opens,
      Token.scan_sign parenthesis, inner]
    simp
  · exact isWord.endsVisibly.append (cuts.close.ends.cons (by decide))

/-- Behind an equals sign, tokens are read as the expression that they write. -/
theorem Cuts.parse {tokens : List Token} {tree : Expr} {need : Nat} (cuts : Cuts text tokens)
    (derived : Derives .whole tokens tree need) (within : need ≤ nestingLimit) :
    Expr.parse (String.ofList ('=' :: text)) = .ok tree := by
  have scanned := cuts.scan [] stopped_nil
  rw [List.append_nil, Token.scan_nil, List.append_nil] at scanned
  rw [parse_ok_iff_ofTokens, formulaBody_of_endsVisibly cuts.ends, scanned, ofTokens_eq_ok_iff]
  exact ⟨need, derived, within⟩

theorem Spells.parse (spells : Spells .whole bound text) (within : bound ≤ nestingLimit) :
    ∃ tree, Expr.parse (String.ofList ('=' :: text)) = .ok tree := by
  obtain ⟨tokens, tree, need, cuts, derived, small⟩ := spells
  exact ⟨tree, cuts.parse derived (Nat.le_trans small within)⟩

end

/-- A word, or digits with at most one point: a number without its sign. -/
def IsMagnitude (text : List Char) : Prop := IsWord text ∨ Token.DecimalText text

theorem IsMagnitude.spells {text : List Char} {bound : Nat} (magnitude : IsMagnitude text) :
    Spells .primary bound text := by
  rcases magnitude with isWord | decimal
  · exact isWord.spells
  · exact spells_number decimal

theorem natDigits_isDigit (n : Nat) : ∀ c ∈ Decimal.natDigits n, c.isDigit :=
  fun _ member => Nat.isDigit_of_mem_toDigits (by decide) (by decide) member

theorem zeros_isDigit (count : Nat) : ∀ c ∈ Decimal.zeros count, c.isDigit := by
  intro c member
  rw [(List.mem_replicate.mp member).2]
  decide

theorem place_decimal (number : Decimal.Digits) : Token.DecimalText (valueLayout.place number) := by
  have digits := natDigits_isDigit number.digits
  have any : Decimal.natDigits number.digits ≠ [] := Nat.toDigits_ne_nil
  have length : 0 < (Decimal.natDigits number.digits).length := List.length_pos_iff.mpr any
  unfold Decimal.Layout.place
  simp only [valueLayout, Bool.false_eq_true, if_false, List.append_nil]
  split
  · exact @Token.DecimalText.pointed ['0'] _ (by decide) (by decide)
      (List.forall_mem_append.mpr ⟨zeros_isDigit _, digits⟩)
  · rename_i positive
    split
    · exact .whole (List.forall_mem_append.mpr ⟨digits, zeros_isDigit _⟩) (by simp [any])
    · rw [List.append_assoc]
      refine .pointed ?_ ?_ ?_
      · exact fun c member => digits c (List.mem_of_mem_take member)
      · rw [← List.length_pos_iff, List.length_take]
        omega
      · exact fun c member => digits c (List.mem_of_mem_drop member)

private theorem signed_cases (x : Float) {body : List Char} (magnitude : IsMagnitude body) :
    ∃ other, IsMagnitude other ∧
      ((if Decimal.isNegative x then ['-'] else []) ++ body = other ∨
        (if Decimal.isNegative x then ['-'] else []) ++ body = '-' :: other) := by
  refine ⟨body, magnitude, ?_⟩
  split
  · exact .inr rfl
  · exact .inl rfl

/-- Every number is written as a magnitude, with a minus sign in front of it or without. -/
theorem write_cases (x : Float) :
    ∃ body, IsMagnitude body ∧
      (valueLayout.write x = body ∨ valueLayout.write x = '-' :: body) := by
  unfold Decimal.Layout.write
  dsimp only
  split
  · exact ⟨['N', 'a', 'N'], .inl (.mk (by decide) (by decide)), .inl rfl⟩
  · exact @signed_cases x ['i', 'n', 'f'] (.inl (.mk (by decide) (by decide)))
  · split
    · exact ⟨['0'], .inr (.whole (by decide) (by decide)), .inl rfl⟩
    · exact signed_cases x (.inr (place_decimal _))

def isMagnitudeChar (c : Char) : Bool := c.isAlphanum || c == '.'

theorem IsMagnitude.chars {text : List Char} (magnitude : IsMagnitude text) :
    ∀ c ∈ text, isMagnitudeChar c := by
  intro c member
  rcases magnitude with isWord | decimal
  · simp [isMagnitudeChar, isWord.isAlphanum c member]
  · rcases decimal.isDigit_or_point c member with digit | rfl
    · simp [isMagnitudeChar, Char.isAlphanum, digit]
    · rfl

theorem IsMagnitude.ne_nil {text : List Char} (magnitude : IsMagnitude text) : text ≠ [] := by
  rcases magnitude with isWord | decimal
  · cases isWord
    simp
  · obtain ⟨c, rest, rfl, _⟩ := decimal.head
    simp

/-- A word or a number, with a minus sign in front of it or without. -/
structure IsOperand (text : List Char) : Prop where
  spells : Spells .operand 2 text
  ne_nil : text ≠ []
  chars : ∀ c ∈ text, isMagnitudeChar c ∨ c = '-'
  last : ∀ c ∈ text.getLast?, isMagnitudeChar c

theorem IsMagnitude.isOperand {text : List Char} (magnitude : IsMagnitude text) :
    IsOperand text where
  spells :=
    have primary : Spells .primary 1 text := magnitude.spells
    primary.range.operand
  ne_nil := magnitude.ne_nil
  chars c member := .inl (magnitude.chars c member)
  last c last := magnitude.chars c (List.mem_of_mem_getLast? last)

theorem IsOperand.negated {text : List Char} (magnitude : IsMagnitude text) :
    IsOperand ('-' :: text) where
  spells :=
    have primary : Spells .primary 0 text := magnitude.spells
    primary.range.operand.negated
  ne_nil := List.cons_ne_nil _ _
  chars c member := by
    rcases List.mem_cons.mp member with rfl | inside
    · exact .inr rfl
    · exact .inl (magnitude.chars c inside)
  last c last := by
    rw [List.getLast?_cons_of_ne_nil magnitude.ne_nil] at last
    exact magnitude.chars c (List.mem_of_mem_getLast? last)

theorem IsWord.isOperand {word : List Char} (isWord : IsWord word) : IsOperand word :=
  IsMagnitude.isOperand (.inl isWord)

/-- Numbers of every kind are written as operands, also those that are not finite. -/
theorem numberText_isOperand (x : Float) : IsOperand (numberText x).toList := by
  obtain ⟨body, magnitude, written⟩ := write_cases x
  rw [numberText, Decimal.Layout.render, String.toList_ofList]
  rcases written with same | negative
  · rw [same]
    exact magnitude.isOperand
  · rw [negative]
    exact .negated magnitude

end PhraseSheet
