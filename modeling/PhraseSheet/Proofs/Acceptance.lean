import PhraseSheet.Proofs.Readers
import PhraseSheet.Proofs.Scanning

/-! The reader of formulas accepts exactly the grammar, within the limit of nesting: whatever it
finds is derived by the tokens in front of what it leaves, and whatever the tokens derive it finds
if nothing behind them would go on with the expression. -/

namespace PhraseSheet.Grammar

open ExprReader

def Chain.operator? : Chain → Token → Option Operator
  | .comparisons => comparison?
  | .joins => join?
  | .sums => sum?
  | .products => product?

theorem writes_iff {chain : Chain} {token : Token} {op : Operator} :
    Writes chain token op ↔ chain.operator? token = some op := by
  constructor
  · intro sign
    cases sign <;> rfl
  · intro found
    cases chain <;> cases token <;>
      simp only [Chain.operator?, comparison?, join?, sum?, product?, reduceCtorEq,
        Option.some.injEq] at found <;>
      subst found <;> constructor

/-- The reader of a category where so many levels may still be opened. -/
def reader (depth : Nat) : Category → ExprReader
  | .primary => primary (expression (level depth).power)
  | .range => range (primary (expression (level depth).power))
  | .operand => (level depth).operand
  | .power => (level depth).power
  | .chain .products => chain product? (level depth).power
  | .chain .sums => chain sum? (chain product? (level depth).power)
  | .chain .joins => chain join? (chain sum? (chain product? (level depth).power))
  | .chain .comparisons => expression (level depth).power

theorem reader_chain (depth : Nat) (chain : Chain) :
    reader depth (.chain chain) = ExprReader.chain chain.operator? (reader depth chain.parts) := by
  cases chain <;> rfl

theorem level_operand_finds_iff {depth : Nat} {tokens last : List Token} {whole : Expr} :
    Finds ((level (depth + 1)).operand tokens) whole last ↔
      Operand (level depth).operand (expression (level depth).power) tokens whole last :=
  operand_finds_iff

theorem reader_primary_finds_iff {depth : Nat} {tokens last : List Token} {whole : Expr} :
    Finds (reader depth .primary tokens) whole last ↔
      Primary (reader depth .whole) tokens whole last :=
  primary_finds_iff

/-- Whatever the reader of the category finds, the tokens in front of what it leaves derive, with no
more nesting than allowed. -/
def Sound (depth : Nat) (category : Category) : Prop :=
  ∀ ⦃tokens tree last⦄, Finds (reader depth category tokens) tree last →
    ∃ used need, tokens = used ++ last ∧ Derives category used tree need ∧ need ≤ depth

private theorem extends_sound {depth : Nat} {chain : Chain} (parts : Sound depth chain.parts)
    {left whole : Expr} {tokens last : List Token}
    (found : Extends chain.operator? (reader depth chain.parts) left tokens whole last) :
    ∀ {before need}, Derives (.chain chain) before left need → need ≤ depth →
      ∃ used total, tokens = used ++ last ∧ Derives (.chain chain) (before ++ used) whole total ∧
        total ≤ depth := by
  induction found with
  | stop done =>
    intro before need derived bound
    exact ⟨[], need, rfl, by simpa using derived, bound⟩
  | @step token _ _ _ _ _ _ _ sign operand rest ih =>
    intro before need derived bound
    obtain ⟨part, partNeed, rfl, right, partBound⟩ := parts operand
    obtain ⟨used, total, rfl, derivation, totalBound⟩ :=
      ih (.chain derived (writes_iff.mpr sign) right) (Nat.max_le.mpr ⟨bound, partBound⟩)
    exact ⟨token :: (part ++ used), total, by simp, by simpa using derivation, totalBound⟩

private theorem sound_chain {depth : Nat} (chain : Chain) (parts : Sound depth chain.parts) :
    Sound depth (.chain chain) := by
  intro tokens tree last found
  rw [reader_chain, chain_finds_iff] at found
  obtain ⟨first, middle, start, rest⟩ := found
  obtain ⟨before, need, rfl, derived, bound⟩ := parts start
  obtain ⟨used, total, rfl, derivation, totalBound⟩ :=
    extends_sound parts rest (.part derived) bound
  exact ⟨before ++ used, total, by simp, derivation, totalBound⟩

private theorem sound_whole {depth : Nat} (power : Sound depth .power) : Sound depth .whole :=
  sound_chain .comparisons <| sound_chain .joins <| sound_chain .sums <|
    sound_chain .products power

private theorem separated_sound {depth : Nat} (whole : Sound depth .whole) {tokens last : List Token}
    {trees : List Expr} (found : Separated (reader depth .whole) tokens trees last) :
    ∃ used need, tokens = used ++ last ∧ Lists used trees need ∧ need ≤ depth := by
  induction found with
  | last only =>
    obtain ⟨used, need, rfl, derived, bound⟩ := whole only
    exact ⟨used, need, rfl, .last derived, bound⟩
  | more first others ih =>
    obtain ⟨before, need, rfl, derived, bound⟩ := whole first
    obtain ⟨after, otherNeed, rfl, list, otherBound⟩ := ih
    exact ⟨before ++ .comma :: after, max need otherNeed, by simp, .more derived list,
      Nat.max_le.mpr ⟨bound, otherBound⟩⟩

private theorem stacked_sound {depth : Nat} (whole : Sound depth .whole) {tokens last : List Token}
    {row : List Expr} {below : List (List Expr)}
    (found : Stacked (reader depth .whole) tokens row below last) :
    ∃ used need, tokens = used ++ .rightBrace :: last ∧ Stacks used (row :: below) need ∧
      need ≤ depth := by
  induction found with
  | last only =>
    obtain ⟨used, need, rfl, list, bound⟩ := separated_sound whole only
    exact ⟨used, need, rfl, .last list, bound⟩
  | above first others ih =>
    obtain ⟨before, need, rfl, list, bound⟩ := separated_sound whole first
    obtain ⟨after, otherNeed, rfl, stack, otherBound⟩ := ih
    exact ⟨before ++ .semicolon :: after, max need otherNeed, by simp, .more list stack,
      Nat.max_le.mpr ⟨bound, otherBound⟩⟩

private theorem sound_primary {depth : Nat} (whole : Sound depth .whole) :
    Sound depth .primary := by
  intro tokens tree last found
  cases reader_primary_finds_iff.mp found with
  | @literal token _ _ single =>
    cases token <;> simp only [literal?, reduceCtorEq, Option.some.injEq] at single <;> subst single
    · exact ⟨_, 0, rfl, .number _, Nat.zero_le _⟩
    · exact ⟨_, 0, rfl, .text _, Nat.zero_le _⟩
    · exact ⟨_, 0, rfl, .boolean _, Nat.zero_le _⟩
    · exact ⟨_, 0, rfl, .error _, Nat.zero_le _⟩
    · exact ⟨_, 0, rfl, .cell _, Nat.zero_le _⟩
  | group inside =>
    obtain ⟨used, need, rfl, derived, bound⟩ := whole inside
    exact ⟨.leftParen :: (used ++ [.rightParen]), need, by simp, .group derived, bound⟩
  | table found =>
    rcases table_finds_iff.mp found with ⟨rfl, rfl⟩ | ⟨_, row, below, stack, rfl⟩
    · exact ⟨_, 0, rfl, .emptyTable, Nat.zero_le _⟩
    · obtain ⟨used, need, rfl, derived, bound⟩ := stacked_sound whole stack
      exact ⟨.leftBrace :: (used ++ [.rightBrace]), need, by simp, .table derived, bound⟩
  | @name label _ _ _ found =>
    rcases nameOrCall_finds_iff.mp found with ⟨inside, rfl, called⟩ | ⟨_, rfl, rfl⟩
    · rcases call_finds_iff.mp called with ⟨rfl, rfl⟩ | ⟨_, trees, list, rfl⟩
      · exact ⟨_, 0, rfl, .emptyCall label, Nat.zero_le _⟩
      · obtain ⟨used, need, rfl, derived, bound⟩ := separated_sound whole list
        exact ⟨.identifier label :: .leftParen :: (used ++ [.rightParen]), need, by simp,
          .call label derived, bound⟩
    · exact ⟨_, 0, rfl, .name label, Nat.zero_le _⟩

private theorem rangeOf_apart {left right : Expr}
    (apart : ∀ one other, ¬ (left = .cell one ∧ right = .cell other)) :
    rangeOf left right = .span left right := by
  rw [rangeOf.eq_def]
  split
  · exact absurd ⟨rfl, rfl⟩ (apart _ _)
  · rfl

/-- A range has the two cells at its ends as corners, and any other ends as they are. -/
theorem derives_rangeOf {before after : List Token} {left right : Expr}
    {leftNeed rightNeed : Nat} (leftDerived : Derives .primary before left leftNeed)
    (rightDerived : Derives .primary after right rightNeed) :
    Derives .range (before ++ .colon :: after) (rangeOf left right) (max leftNeed rightNeed) := by
  by_cases cells : ∃ one other, left = .cell one ∧ right = .cell other
  · obtain ⟨one, other, rfl, rfl⟩ := cells
    exact .corners leftDerived rightDerived
  · simp only [not_exists] at cells
    rw [rangeOf_apart cells]
    exact .span leftDerived rightDerived cells

private theorem sound_range {depth : Nat} (primary : Sound depth .primary) :
    Sound depth .range := by
  intro tokens tree last found
  rcases range_finds_iff.mp found with ⟨single, _⟩ | ⟨left, middle, right, first, second, rfl⟩
  · obtain ⟨used, need, rfl, derived, bound⟩ := primary single
    exact ⟨used, need, rfl, .single derived, bound⟩
  · obtain ⟨before, leftNeed, rfl, leftDerived, leftBound⟩ := primary first
    obtain ⟨after, rightNeed, rfl, rightDerived, rightBound⟩ := primary second
    exact ⟨before ++ .colon :: after, max leftNeed rightNeed, by simp,
      derives_rangeOf leftDerived rightDerived, Nat.max_le.mpr ⟨leftBound, rightBound⟩⟩

private theorem sound_operand {depth : Nat} (operand : Sound depth .operand)
    (range : Sound depth .range) : Sound (depth + 1) .operand := by
  intro tokens tree last found
  cases operand_finds_iff.mp found with
  | negated inner =>
    obtain ⟨used, need, rfl, derived, bound⟩ := operand inner
    exact ⟨.minus :: used, need + 1, rfl, .negated derived, Nat.succ_le_succ bound⟩
  | signed inner =>
    obtain ⟨used, need, rfl, derived, bound⟩ := operand inner
    exact ⟨.plus :: used, need + 1, rfl, .signed derived, Nat.succ_le_succ bound⟩
  | percents count base other =>
    obtain ⟨used, need, rfl, derived, bound⟩ := range base
    exact ⟨used ++ List.replicate count .percent, need + 1, by simp, .percents count derived,
      Nat.succ_le_succ bound⟩

private theorem sound_power {depth : Nat} (operand : Sound (depth + 1) .operand)
    (inner : Sound depth .power) : Sound (depth + 1) .power := by
  intro tokens tree last found
  rcases power_finds_iff.mp found with ⟨single, _⟩ | ⟨base, middle, exponent, first, second, rfl⟩
  · obtain ⟨used, need, rfl, derived, bound⟩ := operand single
    exact ⟨used, need, rfl, .base derived, bound⟩
  · obtain ⟨before, baseNeed, rfl, baseDerived, baseBound⟩ := operand first
    obtain ⟨after, exponentNeed, rfl, derived, bound⟩ := inner second
    exact ⟨before ++ .caret :: after, max baseNeed (exponentNeed + 1), by simp,
      .power baseDerived derived, Nat.max_le.mpr ⟨baseBound, Nat.succ_le_succ bound⟩⟩

private theorem sound_level (depth : Nat) : Sound depth .operand ∧ Sound depth .power := by
  induction depth with
  | zero =>
    constructor <;> intro tokens tree last found <;> exact absurd found not_finds_error
  | succ depth ih =>
    obtain ⟨operand, power⟩ := ih
    have whole := sound_whole power
    have next := sound_operand operand (sound_range (sound_primary whole))
    exact ⟨next, sound_power next power⟩

/-- What the reader of whole expressions finds is derived by the tokens in front of the rest. -/
theorem derives_of_finds (depth : Nat) : Sound depth .whole := sound_whole (sound_level depth).2

/-- How loosely a token binds what stands in front of it; tokens that go on with no expression bind
most loosely. -/
def looseness : Token → Nat
  | .leftParen => 1
  | .colon => 2
  | .percent => 3
  | .caret => 4
  | .star | .slash => 5
  | .plus | .minus => 6
  | .ampersand => 7
  | .comparison _ => 8
  | _ => 9

/-- The looseness of the tokens that bind the parts of the category. -/
def Category.rank : Category → Nat
  | .primary => 1
  | .range => 2
  | .operand => 3
  | .power => 4
  | .chain .products => 5
  | .chain .sums => 6
  | .chain .joins => 7
  | .chain .comparisons => 8

/-- No token stands there that would go on with an expression of the category. -/
def Ends (category : Category) (rest : List Token) : Prop :=
  ∀ token ∈ rest.head?, category.rank < looseness token

theorem Chain.rank_parts (chain : Chain) : chain.parts.rank < (Category.chain chain).rank := by
  cases chain <;> decide

theorem looseness_of_writes {chain : Chain} {token : Token} {op : Operator}
    (sign : Writes chain token op) : looseness token = (Category.chain chain).rank := by
  cases sign <;> rfl

theorem Ends.mono {tighter looser : Category} {rest : List Token} (ends : Ends looser rest)
    (bound : tighter.rank ≤ looser.rank) : Ends tighter rest :=
  fun token present => Nat.lt_of_le_of_lt bound (ends token present)

theorem ends_cons {category : Category} {token : Token} {rest : List Token} :
    Ends category (token :: rest) ↔ category.rank < looseness token := by
  simp [Ends]

theorem Ends.ne_cons {category : Category} {token : Token} {rest : List Token}
    (ends : Ends category rest) (binds : looseness token ≤ category.rank) (others : List Token) :
    rest ≠ token :: others := by
  rintro rfl
  exact absurd (ends_cons.mp ends) (Nat.not_lt.mpr binds)

/-- Behind some of the tokens the reader of a chain has built the tree, and it goes on with the
rest. -/
def Reaches (depth : Nat) (chain : Chain) (tokens : List Token) (tree : Expr) (rest : List Token) :
    Prop :=
  ∃ first middle, Finds (reader depth chain.parts tokens) first middle ∧
    ∀ whole last, Extends chain.operator? (reader depth chain.parts) tree rest whole last →
      Extends chain.operator? (reader depth chain.parts) first middle whole last

section

variable {depth : Nat} {chain : Chain} {tokens rest : List Token} {tree : Expr}

private theorem Reaches.start (found : Finds (reader depth chain.parts tokens) tree rest) :
    Reaches depth chain tokens tree rest :=
  ⟨tree, rest, found, fun _ _ reached => reached⟩

private theorem Reaches.step {token : Token} {op : Operator} {left right : Expr}
    {middle : List Token} (before : Reaches depth chain tokens left (token :: middle))
    (sign : Writes chain token op) (found : Finds (reader depth chain.parts middle) right rest) :
    Reaches depth chain tokens (.binary op left right) rest := by
  obtain ⟨first, start, head, goesOn⟩ := before
  refine ⟨first, start, head, ?_⟩
  intro whole last more
  exact goesOn whole last (.step (writes_iff.mp sign) found more)

private theorem Reaches.finds (reached : Reaches depth chain tokens tree rest)
    (ends : Ends (.chain chain) rest) : Finds (reader depth (.chain chain) tokens) tree rest := by
  obtain ⟨first, start, head, goesOn⟩ := reached
  rw [reader_chain, chain_finds_iff]
  refine ⟨first, start, head, goesOn tree rest (.stop ?_)⟩
  intro token present
  cases found : chain.operator? token with
  | none => rfl
  | some op =>
    have binds := looseness_of_writes (writes_iff.mpr found)
    have beyond := ends token present
    omega

end

/-- A token with which a list of arguments or cells may not start. -/
def Closes (token : Token) : Prop := token = .rightParen ∨ token = .rightBrace

theorem Derives.head : Derives category tokens tree need →
    ∃ token rest, tokens = token :: rest ∧ ¬ Closes token
  | .part only | .base only | .single only => only.head
  | .chain left _ _ | .power left _ | .corners left _ | .span left _ _ => by
    obtain ⟨token, rest, rfl, opens⟩ := left.head
    exact ⟨token, _, rfl, opens⟩
  | .percents _ inner => by
    obtain ⟨token, rest, rfl, opens⟩ := inner.head
    exact ⟨token, _, rfl, opens⟩
  | .negated _ | .signed _ | .number _ | .text _ | .boolean _ | .error _ | .cell _ | .name _
  | .emptyCall _ | .call _ _ | .group _ | .emptyTable | .table _ => by
    exact ⟨_, _, rfl, by simp [Closes]⟩

theorem Lists.head (list : Lists tokens trees need) :
    ∃ token rest, tokens = token :: rest ∧ ¬ Closes token := by
  cases list with
  | last only => exact only.head
  | more first others =>
    obtain ⟨token, rest, rfl, opens⟩ := first.head
    exact ⟨token, _, rfl, opens⟩

theorem Stacks.head {rowTrees : List (List Expr)} (stack : Stacks tokens rowTrees need) :
    ∃ token rest, tokens = token :: rest ∧ ¬ Closes token := by
  cases stack with
  | last only => exact only.head
  | more first below =>
    obtain ⟨token, rest, rfl, opens⟩ := first.head
    exact ⟨token, _, rfl, opens⟩

private theorem head_ne {inside : List Token}
    (head : ∃ token rest, inside = token :: rest ∧ ¬ Closes token) {sign : Token}
    (closes : Closes sign) (last : List Token) : ∀ rest, inside ++ last ≠ sign :: rest := by
  obtain ⟨token, others, rfl, opens⟩ := head
  rintro rest same
  cases same
  exact opens closes

private theorem ends_percents {last : List Token} (count : Nat) (ends : Ends .range last) :
    Ends .range (List.replicate count .percent ++ last) := by
  cases count with
  | zero => exact ends
  | succ count => exact ends_cons.mpr (by decide)

private theorem ends_writes {chain : Chain} {token : Token} {op : Operator}
    (sign : Writes chain token op) (rest : List Token) : Ends chain.parts (token :: rest) := by
  rw [ends_cons, looseness_of_writes sign]
  exact chain.rank_parts

mutual

/-- What the tokens derive is found in front of tokens that would not go on with it. -/
theorem Derives.found {depth : Nat} :
    Derives category tokens tree need → need ≤ depth → ∀ last, Ends category last →
      Finds (reader depth category (tokens ++ last)) tree last
  | .part only, bound, last, ends => by
    have parts := only.found bound last (ends.mono (Nat.le_of_lt (Chain.rank_parts _)))
    exact (Reaches.start parts).finds ends
  | .chain left sign right, bound, last, ends => by
    have bounds := Nat.max_le.mp bound
    have second := right.found bounds.2 last (ends.mono (Nat.le_of_lt (Chain.rank_parts _)))
    rw [List.append_assoc, List.cons_append]
    exact ((left.reaches rfl bounds.1 _ (ends_writes sign _)).step sign second).finds ends
  | .base only, bound, last, ends => by
    have found := only.found bound last (ends.mono (by decide))
    cases depth with
    | zero => exact absurd found not_finds_error
    | succ depth => exact power_finds_iff.mpr (.inl ⟨found, ends.ne_cons (by decide)⟩)
  | .power base exponent, bound, last, ends => by
    have bounds := Nat.max_le.mp bound
    cases depth with
    | zero => exact absurd bounds.2 (Nat.not_succ_le_zero _)
    | succ depth =>
      have second := exponent.found (Nat.le_of_succ_le_succ bounds.2) last ends
      rw [List.append_assoc, List.cons_append]
      exact power_finds_iff.mpr (.inr
        ⟨_, _, _, base.found bounds.1 _ (ends_cons.mpr (by decide)), second, rfl⟩)
  | .negated inner, bound, last, ends => by
    cases depth with
    | zero => exact absurd bound (Nat.not_succ_le_zero _)
    | succ depth =>
      have found := inner.found (Nat.le_of_succ_le_succ bound) last ends
      exact level_operand_finds_iff.mpr (.negated found)
  | .signed inner, bound, last, ends => by
    cases depth with
    | zero => exact absurd bound (Nat.not_succ_le_zero _)
    | succ depth =>
      have found := inner.found (Nat.le_of_succ_le_succ bound) last ends
      exact level_operand_finds_iff.mpr (.signed found)
  | .percents count inner, bound, last, ends => by
    cases depth with
    | zero => exact absurd bound (Nat.not_succ_le_zero _)
    | succ depth =>
      have found := inner.found (Nat.le_of_succ_le_succ bound) _
        (ends_percents count (ends.mono (by decide)))
      rw [List.append_assoc]
      exact level_operand_finds_iff.mpr (.percents count found (ends.ne_cons (by decide)))
  | .single only, bound, last, ends => by
    have found := only.found bound last (ends.mono (by decide))
    exact range_finds_iff.mpr (.inl ⟨found, ends.ne_cons (by decide)⟩)
  | .corners left right, bound, last, ends => by
    have bounds := Nat.max_le.mp bound
    have second := right.found bounds.2 last (ends.mono (by decide))
    rw [List.append_assoc, List.cons_append]
    exact range_finds_iff.mpr (.inr
      ⟨_, _, _, left.found bounds.1 _ (ends_cons.mpr (by decide)), second, rfl⟩)
  | .span left right apart, bound, last, ends => by
    have bounds := Nat.max_le.mp bound
    have second := right.found bounds.2 last (ends.mono (by decide))
    rw [List.append_assoc, List.cons_append]
    exact range_finds_iff.mpr (.inr
      ⟨_, _, _, left.found bounds.1 _ (ends_cons.mpr (by decide)), second, rangeOf_apart apart⟩)
  | .number _, _, _, _ | .text _, _, _, _ | .boolean _, _, _, _ | .error _, _, _, _
  | .cell _, _, _, _ => reader_primary_finds_iff.mpr (.literal rfl)
  | .name _, _, _, ends =>
    reader_primary_finds_iff.mpr (.name
      (nameOrCall_finds_iff.mpr (.inr ⟨ends.ne_cons (by decide), rfl, rfl⟩)))
  | .emptyCall function, _, last, _ => by
    have called : Finds (call (reader depth .whole) (Text.uppered function) (.rightParen :: last))
        (.call (Text.uppered function) []) last :=
      call_finds_iff.mpr (.inl ⟨rfl, rfl⟩)
    exact reader_primary_finds_iff.mpr (.name (nameOrCall_finds_iff.mpr (.inl ⟨_, rfl, called⟩)))
  | .call function arguments, bound, last, ends => by
    rw [List.cons_append, List.cons_append, List.append_assoc, List.cons_append, List.nil_append]
    have list := arguments.found bound (.rightParen :: last) (ends_cons.mpr (by decide))
    have called : Finds (call (reader depth .whole) (Text.uppered function) _) _ last :=
      call_finds_iff.mpr (.inr ⟨head_ne arguments.head (.inl rfl) _, _, list, rfl⟩)
    exact reader_primary_finds_iff.mpr (.name (nameOrCall_finds_iff.mpr (.inl ⟨_, rfl, called⟩)))
  | .group inner, bound, last, _ => by
    rw [List.cons_append, List.append_assoc, List.cons_append, List.nil_append]
    exact reader_primary_finds_iff.mpr (.group (inner.found bound _ (ends_cons.mpr (by decide))))
  | .emptyTable, _, last, _ => by
    have closed : Finds (table (reader depth .whole) (.rightBrace :: last)) (.array []) last :=
      table_finds_iff.mpr (.inl ⟨rfl, rfl⟩)
    exact reader_primary_finds_iff.mpr (.table closed)
  | .table stack, bound, last, _ => by
    obtain ⟨row, below, rfl, found⟩ := stack.found bound last
    rw [List.cons_append, List.append_assoc, List.cons_append, List.nil_append]
    exact reader_primary_finds_iff.mpr (.table (table_finds_iff.mpr
      (.inr ⟨head_ne stack.head (.inr rfl) _, row, below, found, rfl⟩)))

theorem Derives.reaches {depth : Nat} {chain : Chain} :
    Derives category tokens tree need → category = .chain chain → need ≤ depth →
      ∀ last, Ends chain.parts last → Reaches depth chain (tokens ++ last) tree last
  | .part only, rfl, bound, last, ends => .start (only.found bound last ends)
  | .chain left sign right, rfl, bound, last, ends => by
    have bounds := Nat.max_le.mp bound
    have second := right.found bounds.2 last ends
    rw [List.append_assoc, List.cons_append]
    exact (left.reaches rfl bounds.1 _ (ends_writes sign _)).step sign second

theorem Lists.found {depth : Nat} :
    Lists tokens trees need → need ≤ depth → ∀ last, Ends .whole last →
      Separated (reader depth .whole) (tokens ++ last) trees last
  | .last only, bound, last, ends => .last (only.found bound last ends)
  | .more first others, bound, last, ends => by
    have bounds := Nat.max_le.mp bound
    rw [List.append_assoc, List.cons_append]
    exact .more (first.found bounds.1 _ (ends_cons.mpr (by decide)))
      (others.found bounds.2 last ends)

theorem Stacks.found {depth : Nat} {rowTrees : List (List Expr)} :
    Stacks tokens rowTrees need → need ≤ depth → ∀ last, ∃ row below, rowTrees = row :: below ∧
      Stacked (reader depth .whole) (tokens ++ .rightBrace :: last) row below last
  | .last only, bound, last =>
    ⟨_, [], rfl, .last (only.found bound _ (ends_cons.mpr (by decide)))⟩
  | .more first others, bound, last => by
    have bounds := Nat.max_le.mp bound
    obtain ⟨row, below, rfl, stack⟩ := others.found bounds.2 last
    rw [List.append_assoc, List.cons_append]
    exact ⟨_, _, rfl, .above (first.found bounds.1 _ (ends_cons.mpr (by decide))) stack⟩

end

theorem ofTokens_ok_iff {tokens : List Token} {tree : Expr} :
    Expr.ofTokens tokens = .ok tree ↔ Finds (reader nestingLimit .whole tokens) tree [] := by
  unfold Expr.ofTokens
  change (reader nestingLimit .whole tokens >>= _) = _ ↔ _
  cases read : reader nestingLimit .whole tokens with
  | error failure => simp [bind, Except.bind]
  | ok pair =>
    obtain ⟨whole, after⟩ := pair
    simp only [bind, Except.bind, finds_ok]
    split
    · rename_i done
      simp [done, pure, Except.pure]
    · rename_i next more
      simp [throw, throwThe, MonadExceptOf.throw]
      grind

/-- The tokens are read as an expression exactly if they derive it without nesting too deep. -/
theorem ofTokens_eq_ok_iff {tokens : List Token} {tree : Expr} :
    Expr.ofTokens tokens = .ok tree ↔
      ∃ need, Derives .whole tokens tree need ∧ need ≤ nestingLimit := by
  rw [ofTokens_ok_iff]
  constructor
  · intro found
    obtain ⟨used, need, split, derived, bound⟩ := derives_of_finds _ found
    rw [List.append_nil] at split
    exact ⟨need, split ▸ derived, bound⟩
  · rintro ⟨need, derived, bound⟩
    have found := derived.found bound [] (by simp [Ends])
    rwa [List.append_nil] at found

private theorem scan_blank {body : List Char} (blank : body.all Text.isBlank = true) :
    Token.scan body = [] := by
  apply Token.scan_nil_of_dropWhile
  induction body with
  | nil => rfl
  | cons c rest ih =>
    rw [List.all_cons, Bool.and_eq_true] at blank
    rw [List.dropWhile_cons, if_pos blank.1]
    exact ih blank.2

theorem parse_ok_iff_ofTokens {formula : String} {tree : Expr} :
    Expr.parse formula = .ok tree ↔
      Expr.ofTokens (Token.scan (Expr.formulaBody formula)) = .ok tree := by
  unfold Expr.parse
  dsimp only
  split
  · rename_i blank
    rw [ofTokens_eq_ok_iff, scan_blank blank]
    constructor
    · intro impossible
      cases impossible
    · rintro ⟨need, derived, _⟩
      obtain ⟨_, _, impossible, _⟩ := derived.head
      cases impossible
  · rfl

/-- A formula is read as an expression exactly if its tokens derive it without nesting too deep. -/
theorem parse_eq_ok_iff (formula : String) (tree : Expr) :
    Expr.parse formula = .ok tree ↔
      ∃ need, Derives .whole (Token.scan (Expr.formulaBody formula)) tree need ∧
        need ≤ nestingLimit := by
  rw [parse_ok_iff_ofTokens, ofTokens_eq_ok_iff]

end PhraseSheet.Grammar
