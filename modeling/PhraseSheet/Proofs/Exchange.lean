import PhraseSheet.Formula.Evaluate
import PhraseSheet.Proofs.Spelling

/-! Exchanging operands of a formula. An operand at the start of an expression, or of the first
argument of a call, may be exchanged for another of the same value, whatever stands behind it. -/

namespace PhraseSheet

open ExprReader Grammar

namespace Expr

variable (context : Context)

theorem evaluate_binary (op : Operator) (left right : Expr) :
    (Expr.binary op left right).evaluate context =
      op.apply (left.evaluate context) (right.evaluate context) := rfl

theorem evaluate_unary (sign : Sign) (operand : Expr) :
    (Expr.unary sign operand).evaluate context = sign.apply (operand.evaluate context) := rfl

def callValue (function : String) (values : List Value) : Value :=
  match Function.call function values with
  | .ok value => value
  | .error failure => .error failure.cellError

theorem evaluate_call (function : String) (trees : List Expr) :
    (Expr.call function trees).evaluate context =
      callValue function (evaluateAll context trees) := by
  with_unfolding_all rfl

theorem evaluateAll_cons (tree : Expr) (trees : List Expr) :
    evaluateAll context (tree :: trees) = tree.evaluate context :: evaluateAll context trees := rfl

end Expr

/-- The text is cut into tokens that write an expression of the category with no more nesting than
the bound, and the expression has the value. -/
def Denotes (context : Context) (category : Category) (bound : Nat) (text : List Char)
    (value : Value) : Prop :=
  ∃ tokens tree need, Cuts text tokens ∧ Derives category tokens tree need ∧ need ≤ bound ∧
    tree.evaluate context = value

namespace Denotes

variable {context : Context} {category : Category} {bound : Nat} {text others : List Char}
  {value other : Value}

theorem weaken {larger : Nat} (denotes : Denotes context category bound text value)
    (le : bound ≤ larger) : Denotes context category larger text value := by
  obtain ⟨tokens, tree, need, cuts, derived, within, same⟩ := denotes
  exact ⟨tokens, tree, need, cuts, derived, Nat.le_trans within le, same⟩

theorem operand (primary : Denotes context .primary bound text value) :
    Denotes context .operand (bound + 1) text value := by
  obtain ⟨tokens, tree, need, cuts, derived, within, same⟩ := primary
  refine ⟨tokens, tree, need + 1, cuts, ?_, Nat.succ_le_succ within, same⟩
  have derivation := Derives.percents 0 (.single derived)
  rwa [List.replicate_zero, List.append_nil] at derivation

theorem negated (operand : Denotes context .operand bound text value) :
    Denotes context .operand (bound + 1) ('-' :: text) (Sign.negate.apply value) := by
  obtain ⟨tokens, tree, need, cuts, derived, within, rfl⟩ := operand
  exact ⟨_, _, _, cuts.behind rfl, .negated derived, Nat.succ_le_succ within, rfl⟩

theorem chain (chain : Chain) (parts : Denotes context chain.parts bound text value) :
    Denotes context (.chain chain) bound text value := by
  obtain ⟨tokens, tree, need, cuts, derived, within, same⟩ := parts
  exact ⟨tokens, tree, need, cuts, .part derived, within, same⟩

theorem power (operand : Denotes context .operand bound text value) :
    Denotes context .power bound text value := by
  obtain ⟨tokens, tree, need, cuts, derived, within, same⟩ := operand
  exact ⟨tokens, tree, need, cuts, .base derived, within, same⟩

theorem product (operand : Denotes context .operand bound text value) :
    Denotes context (.chain .products) bound text value :=
  .chain .products operand.power

theorem sum (product : Denotes context (.chain .products) bound text value) :
    Denotes context (.chain .sums) bound text value :=
  .chain .sums product

theorem whole (sum : Denotes context (.chain .sums) bound text value) :
    Denotes context .whole bound text value :=
  .chain .comparisons (.chain .joins sum)

theorem join {chain : Chain} {c : Char} {token : Token} {op : Operator}
    (left : Denotes context (.chain chain) bound text value) (sign : Token.sign? c = some token)
    (writes : Writes chain token op) (stop : c ∈ stopSigns)
    (right : Denotes context chain.parts bound others other) :
    Denotes context (.chain chain) bound (text ++ c :: others) (op.apply value other) := by
  obtain ⟨tokens, tree, need, cuts, derived, within, rfl⟩ := left
  obtain ⟨more, otherTree, otherNeed, othersCut, otherDerived, otherWithin, rfl⟩ := right
  exact ⟨_, _, _, cuts.join sign stop othersCut, .chain derived writes otherDerived,
    Nat.max_le.mpr ⟨within, otherWithin⟩, rfl⟩

theorem times (left : Denotes context (.chain .products) bound text value)
    (right : Denotes context .operand bound others other) :
    Denotes context (.chain .products) bound (text ++ '*' :: others)
      (Operator.apply (.arithmetic .multiply) value other) :=
  left.join rfl .multiply (by decide) right.power

theorem dividedBy (left : Denotes context (.chain .products) bound text value)
    (right : Denotes context .operand bound others other) :
    Denotes context (.chain .products) bound (text ++ '/' :: others)
      (Operator.apply (.arithmetic .divide) value other) :=
  left.join rfl .divide (by decide) right.power

theorem minus (left : Denotes context (.chain .sums) bound text value)
    (right : Denotes context (.chain .products) bound others other) :
    Denotes context (.chain .sums) bound (text ++ '-' :: others)
      (Operator.apply (.arithmetic .subtract) value other) :=
  left.join rfl .subtract (by decide) right

theorem group (inner : Denotes context .whole bound text value) :
    Denotes context .primary bound ('(' :: (text ++ [')'])) value := by
  obtain ⟨tokens, tree, need, cuts, derived, within, same⟩ := inner
  exact ⟨_, _, _, cuts.close.behind rfl, .group derived, within, same⟩

theorem number {digits : List Char} {x : Float} (decimal : Token.DecimalText digits)
    (reads : Decimal.read? digits = some x) :
    Denotes context .primary bound digits (.number x) := by
  refine ⟨[.number x], _, 0, ⟨?_, decimal.endsVisibly⟩, .number x, Nat.zero_le _, rfl⟩
  have shape := decimal.numberText
  obtain ⟨c, more, rfl, digit⟩ := decimal.head
  exact fun rest stopped => Token.scan_numberText shape (by simp [digit]) reads stopped.apart

theorem quoted (content : String) :
    Denotes context .primary bound (Value.quotedLiteral content).toList (.text content) := by
  refine ⟨[.text content], _, 0, ⟨?_, ?_⟩, .text content, Nat.zero_le _, rfl⟩
  · intro rest stopped
    exact Token.scan_quotedLiteral content (stopped.all (by decide))
  · rw [Value.quotedLiteral, String.toList_ofList]
    exact endsVisibly_concat (by decide) _

end Denotes

theorem SpellsName.denotes {context : Context} {bound : Nat} {name : List Char} {token : Token}
    {tree : Expr} (spells : SpellsName name) (becomes : Token.nameOf name [] = token)
    (derived : Derives .primary [token] tree 0) :
    Denotes context .primary bound name (tree.evaluate context) := by
  refine ⟨[token], tree, 0, ⟨?_, spells.endsVisibly⟩, derived, Nat.zero_le _, rfl⟩
  intro rest stopped
  rw [spells.scan stopped.apart, nameOf_stopped stopped, becomes]
  rfl

theorem IsWord.denotes {context : Context} {bound : Nat} {word : List Char} {token : Token}
    {tree : Expr} (isWord : IsWord word) (becomes : Token.nameOf word [] = token)
    (derived : Derives .primary [token] tree 0) :
    Denotes context .primary bound word (tree.evaluate context) :=
  isWord.spellsName.denotes becomes derived

/-- The formula can be read, and its expression has the value. -/
def HasValue (context : Context) (formula : String) (value : Value) : Prop :=
  ∃ tree, Expr.parse formula = .ok tree ∧ tree.evaluate context = value

theorem hasValue_iff {context : Context} {body : List Char} (ends : EndsVisibly body)
    {value : Value} : HasValue context (String.ofList ('=' :: body)) value ↔
      ∃ tree, Finds (reader nestingLimit .whole (Token.scan body)) tree [] ∧
        tree.evaluate context = value := by
  simp only [HasValue, parse_ok_iff_ofTokens, formulaBody_of_endsVisibly ends, ofTokens_ok_iff]

theorem Denotes.hasValue_iff {context : Context} {bound : Nat} {text : List Char} {value : Value}
    (denotes : Denotes context .whole bound text value) (within : bound ≤ nestingLimit)
    {other : Value} : HasValue context (String.ofList ('=' :: text)) other ↔ value = other := by
  obtain ⟨tokens, tree, need, cuts, derived, small, rfl⟩ := denotes
  have scanned := cuts.scan [] stopped_nil
  rw [List.append_nil, Token.scan_nil, List.append_nil] at scanned
  have found := derived.found (Nat.le_trans small within) [] (by simp [Ends])
  rw [List.append_nil, ← scanned] at found
  rw [PhraseSheet.hasValue_iff cuts.ends]
  constructor
  · rintro ⟨whole, again, same⟩
    rwa [(found.unique again).1] at same
  · exact fun same => ⟨tree, found, same⟩

/-- Whatever the reader finds at the start of the one, it finds something of the same value at the
start of the other, and leaves the same. -/
def Exchanges (context : Context) (read : ExprReader) (one other : List Token) : Prop :=
  ∀ ⦃tree last⦄, Finds (read one) tree last →
    ∃ tree', Finds (read other) tree' last ∧ tree'.evaluate context = tree.evaluate context

section

variable {context : Context} {depth : Nat} {one other : List Token}

/-- Operators and operands go on with any expression in the same way. -/
theorem ExprReader.Extends.exchange {operator? : Token → Option Operator}
    {readOperand : ExprReader} {left left' whole : Expr} {tokens last : List Token}
    (chain : Extends operator? readOperand left tokens whole last)
    (same : left'.evaluate context = left.evaluate context) :
    ∃ whole', Extends operator? readOperand left' tokens whole' last ∧
      whole'.evaluate context = whole.evaluate context := by
  induction chain generalizing left' with
  | stop done => exact ⟨left', .stop done, same⟩
  | @step _ op _ right _ left _ _ sign operand rest ih =>
    have binary : (Expr.binary op left' right).evaluate context =
        (Expr.binary op left right).evaluate context := by
      rw [Expr.evaluate_binary, Expr.evaluate_binary, same]
    obtain ⟨whole', reached, value⟩ := ih binary
    exact ⟨whole', .step sign operand reached, value⟩

theorem Exchanges.chain (chain : Chain)
    (parts : Exchanges context (reader depth chain.parts) one other) :
    Exchanges context (reader depth (.chain chain)) one other := by
  intro tree last found
  rw [reader_chain, chain_finds_iff] at found
  obtain ⟨first, middle, start, rest⟩ := found
  obtain ⟨first', start', same⟩ := parts start
  obtain ⟨tree', rest', value⟩ := rest.exchange same
  refine ⟨tree', ?_, value⟩
  rw [reader_chain, chain_finds_iff]
  exact ⟨first', middle, start', rest'⟩

theorem Exchanges.power (operand : Exchanges context (reader depth .operand) one other) :
    Exchanges context (reader depth .power) one other := by
  intro tree last found
  cases depth with
  | zero => exact absurd found not_finds_error
  | succ depth =>
    rcases power_finds_iff.mp found with ⟨single, alone⟩ | ⟨base, middle, exponent, first, second, rfl⟩
    · obtain ⟨tree', single', value⟩ := operand single
      exact ⟨tree', power_finds_iff.mpr (.inl ⟨single', alone⟩), value⟩
    · obtain ⟨base', first', same⟩ := operand first
      refine ⟨_, power_finds_iff.mpr (.inr ⟨base', middle, exponent, first', second, rfl⟩), ?_⟩
      rw [Expr.evaluate_binary, Expr.evaluate_binary, same]

theorem Exchanges.whole (operand : Exchanges context (reader depth .operand) one other) :
    Exchanges context (reader depth .whole) one other :=
  .chain .comparisons <| .chain .joins <| .chain .sums <| .chain .products operand.power

theorem evaluate_underPercents (count : Nat) {left right : Expr}
    (same : left.evaluate context = right.evaluate context) :
    (underPercents count left).evaluate context = (underPercents count right).evaluate context := by
  induction count generalizing left right with
  | zero => exact same
  | succ count ih =>
    apply ih
    rw [Expr.evaluate_unary, Expr.evaluate_unary, same]

theorem Exchanges.operand (range : Exchanges context (reader depth .range) one other)
    (unsigned : ∀ token ∈ one.head?, token ≠ .minus ∧ token ≠ .plus) :
    Exchanges context (reader (depth + 1) .operand) one other := by
  intro tree last found
  cases operand_finds_iff.mp found with
  | negated inner => exact absurd rfl (unsigned _ rfl).1
  | signed inner => exact absurd rfl (unsigned _ rfl).2
  | percents count base alone =>
    obtain ⟨tree', base', same⟩ := range base
    exact ⟨_, operand_finds_iff.mpr (.percents count base' alone),
      evaluate_underPercents count same⟩

theorem Exchanges.separated {read : ExprReader} {trees : List Expr} {last : List Token}
    (first : Exchanges context read one other) (list : Separated read one trees last) :
    ∃ trees', Separated read other trees' last ∧
      Expr.evaluateAll context trees' = Expr.evaluateAll context trees := by
  cases list with
  | last only =>
    obtain ⟨tree', found, same⟩ := first only
    exact ⟨[tree'], .last found, by rw [Expr.evaluateAll_cons, Expr.evaluateAll_cons, same]⟩
  | more found others =>
    obtain ⟨tree', found', same⟩ := first found
    exact ⟨tree' :: _, .more found' others, by rw [Expr.evaluateAll_cons, Expr.evaluateAll_cons, same]⟩

/-- The tokens start with an argument of a call. -/
abbrev OpensArgument (tokens : List Token) : Prop := ∀ rest, tokens ≠ .rightParen :: rest

/-- With its first argument exchanged, a call stays a call of the same function. -/
theorem Exchanges.called (first : Exchanges context (reader depth .whole) one other)
    (opens : OpensArgument one) (otherOpens : OpensArgument other) (function : String) {tree : Expr}
    {last : List Token}
    (found : Finds (reader depth .primary (.identifier function :: .leftParen :: one)) tree last) :
    ∃ trees trees', tree = .call (Text.uppered function) trees ∧
      Finds (reader depth .primary (.identifier function :: .leftParen :: other))
        (.call (Text.uppered function) trees') last ∧
      Expr.evaluateAll context trees' = Expr.evaluateAll context trees := by
  cases reader_primary_finds_iff.mp found with
  | literal single => cases single
  | name named =>
    rcases nameOrCall_finds_iff.mp named with ⟨_, ⟨⟩, call⟩ | ⟨noCall, _⟩
    · rcases call_finds_iff.mp call with ⟨closed, _⟩ | ⟨_, trees, list, rfl⟩
      · exact absurd closed (opens _)
      · obtain ⟨trees', list', same⟩ := first.separated list
        have call' : Finds (ExprReader.call (reader depth .whole) (Text.uppered function) other)
            (.call (Text.uppered function) trees') last :=
          call_finds_iff.mpr (.inr ⟨otherOpens, trees', list', rfl⟩)
        exact ⟨trees, trees', rfl, reader_primary_finds_iff.mpr
          (.name (nameOrCall_finds_iff.mpr (.inl ⟨_, rfl, call'⟩))), same⟩
    · exact absurd rfl (noCall _)

/-- A call is no end of a range, whatever its arguments are. -/
theorem Exchanges.call (first : Exchanges context (reader depth .whole) one other)
    (opens : OpensArgument one) (otherOpens : OpensArgument other) (function : String) :
    Exchanges context (reader (depth + 1) .operand) (.identifier function :: .leftParen :: one)
      (.identifier function :: .leftParen :: other) := by
  refine Exchanges.operand ?_ (by rintro _ ⟨⟩; simp)
  intro tree last found
  rcases range_finds_iff.mp found with ⟨single, alone⟩ | ⟨left, middle, right, start, second, rfl⟩
  · obtain ⟨trees, trees', rfl, single', same⟩ := first.called opens otherOpens function single
    refine ⟨_, range_finds_iff.mpr (.inl ⟨single', alone⟩), ?_⟩
    rw [Expr.evaluate_call, Expr.evaluate_call, same]
  · obtain ⟨trees, trees', rfl, start', same⟩ := first.called opens otherOpens function start
    exact ⟨_, range_finds_iff.mpr (.inr ⟨_, middle, right, start', second, rfl⟩), rfl⟩

end

section

variable {context : Context} {bound depth : Nat} {one other : List Char} {value : Value} {c : Char}
  {token : Token}

/-- A sign at which an operand ends, as it stands in a text. -/
structure Parting (c : Char) (token : Token) : Prop where
  sign : Token.sign? c = some token
  stop : c ∈ stopSigns
  binds : Category.operand.rank < looseness token

/-- In front of a sign at which they end, operands of the same value are exchanged. -/
theorem Denotes.exchanges (parting : Parting c token)
    (denotes : Denotes context .operand bound one value)
    (otherDenotes : Denotes context .operand bound other value) (within : bound ≤ depth)
    (rest : List Char) :
    Exchanges context (reader depth .operand) (Token.scan (one ++ c :: rest))
      (Token.scan (other ++ c :: rest)) := by
  obtain ⟨tokens, tree, need, cuts, derived, small, same⟩ := denotes
  obtain ⟨more, otherTree, otherNeed, othersCut, otherDerived, otherSmall, otherSame⟩ := otherDenotes
  have ends : Ends .operand (token :: Token.scan rest) := ends_cons.mpr parting.binds
  have stopped : Stopped (c :: rest) := stopped_cons parting.stop rest
  intro whole last found
  rw [cuts.scan _ stopped, Token.scan_sign parting.sign] at found
  obtain ⟨rfl, rfl⟩ := (derived.found (Nat.le_trans small within) _ ends).unique found
  rw [othersCut.scan _ stopped, Token.scan_sign parting.sign]
  exact ⟨otherTree, otherDerived.found (Nat.le_trans otherSmall within) _ ends,
    otherSame.trans same.symm⟩

theorem Denotes.opensArgument (parting : Parting c token)
    (denotes : Denotes context .operand bound one value) (rest : List Char) :
    OpensArgument (Token.scan (one ++ c :: rest)) := by
  obtain ⟨tokens, tree, need, cuts, derived, _⟩ := denotes
  obtain ⟨first, others, rfl, opens⟩ := derived.head
  rw [cuts.scan _ (stopped_cons parting.stop rest)]
  rintro after same
  cases same
  exact opens (.inl rfl)

theorem scan_call {function : List Char} (isWord : IsWord function) (inside : List Char) :
    Token.scan (function ++ '(' :: inside) =
      .identifier (String.ofList function) :: .leftParen :: Token.scan inside := by
  have apart : Token.Apart ('(' :: inside) := by
    rintro c ⟨⟩
    decide
  have parenthesis : Token.sign? '(' = some .leftParen := rfl
  rw [isWord.scan apart, Token.scan_sign parenthesis]
  rfl

/-- The value of a formula is that of another if one text is exchanged for the other. -/
private theorem Exchanges.hasValue {text otherText : List Char}
    (exchange : Exchanges context (reader nestingLimit .whole) (Token.scan text)
      (Token.scan otherText)) (ends : EndsVisibly text) (otherEnds : EndsVisibly otherText)
    (has : HasValue context (String.ofList ('=' :: text)) value) :
    HasValue context (String.ofList ('=' :: otherText)) value := by
  obtain ⟨tree, found, same⟩ := (hasValue_iff ends).mp has
  obtain ⟨otherTree, otherFound, otherSame⟩ := exchange found
  exact (hasValue_iff otherEnds).mpr ⟨otherTree, otherFound, otherSame.trans same⟩

variable (parting : Parting c token) (denotes : Denotes context .operand bound one value)
  (otherDenotes : Denotes context .operand bound other value) {rest : List Char}
  (ends : EndsVisibly (c :: rest))

include parting denotes otherDenotes ends

/-- The operand at the start of a formula may be exchanged for one of the same value. -/
theorem hasValue_exchange_first (within : bound ≤ nestingLimit) {result : Value} :
    HasValue context (String.ofList ('=' :: (one ++ c :: rest))) result ↔
      HasValue context (String.ofList ('=' :: (other ++ c :: rest))) result := by
  have visible : ∀ operand, EndsVisibly (operand ++ c :: rest) :=
    ends.behind (List.cons_ne_nil c rest)
  constructor
  · exact (denotes.exchanges parting otherDenotes within rest).whole.hasValue (visible _) (visible _)
  · exact (otherDenotes.exchanges parting denotes within rest).whole.hasValue (visible _) (visible _)

/-- The operand at the start of the arguments of a function may be exchanged for one of the same
value. -/
theorem hasValue_exchange_argument {function : List Char} (isWord : IsWord function)
    (within : bound < nestingLimit) {result : Value} :
    HasValue context (String.ofList ('=' :: (function ++ '(' :: (one ++ c :: rest)))) result ↔
      HasValue context (String.ofList ('=' :: (function ++ '(' :: (other ++ c :: rest)))) result := by
  have visible : ∀ operand, EndsVisibly (function ++ '(' :: (operand ++ c :: rest)) := by
    intro operand
    exact ((ends.behind (List.cons_ne_nil c rest) operand).cons (by decide)).behind
      (List.cons_ne_nil _ _) function
  have inside : bound ≤ nestingLimit - 1 := Nat.le_sub_one_of_lt within
  have exchange : ∀ {left right : List Char}, Denotes context .operand bound left value →
      Denotes context .operand bound right value →
      Exchanges context (reader nestingLimit .whole)
        (Token.scan (function ++ '(' :: (left ++ c :: rest)))
        (Token.scan (function ++ '(' :: (right ++ c :: rest))) := by
    intro left right leftDenotes rightDenotes
    rw [scan_call isWord, scan_call isWord]
    have argument := (leftDenotes.exchanges parting rightDenotes inside rest).whole
    exact (argument.call (leftDenotes.opensArgument parting rest)
      (rightDenotes.opensArgument parting rest) _).whole
  constructor
  · exact (exchange denotes otherDenotes).hasValue (visible _) (visible _)
  · exact (exchange otherDenotes denotes).hasValue (visible _) (visible _)

end

end PhraseSheet
