import PhraseSheet.Formula.Parser
import PhraseSheet.Proofs.Grammar

/-! What each reader of expressions finds, apart from the proofs that it leaves less than it was
given. One statement for each reader says exactly when it finds an expression and what is then
left. -/

namespace PhraseSheet.ExprReader

/-- The result is what was found, with so much left behind it. -/
def Finds {α : Type} {P : List Token → Prop}
    (result : Except ParseError (α × { left : List Token // P left })) (found : α)
    (left : List Token) : Prop :=
  ∃ after, result = .ok (found, after) ∧ after.val = left

section

variable {α β : Type} {P Q : List Token → Prop}

@[simp] theorem finds_ok {found whole : α} {after : { left : List Token // P left }}
    {left : List Token} :
    Finds (.ok (found, after)) whole left ↔ found = whole ∧ after.val = left := by
  constructor
  · rintro ⟨other, same, rest⟩
    cases same
    exact ⟨rfl, rest⟩
  · rintro ⟨rfl, rfl⟩
    exact ⟨after, rfl, rfl⟩

@[simp] theorem not_finds_error {failure : ParseError} {found : α} {left : List Token} :
    ¬ Finds (P := P) (.error failure) found left := by
  rintro ⟨after, impossible, _⟩
  cases impossible

/-- A reader finds no two things. -/
theorem Finds.unique {result : Except ParseError (α × { left : List Token // P left })}
    {one other : α} {left last : List Token} (found : Finds result one left)
    (again : Finds result other last) : other = one ∧ last = left := by
  obtain ⟨after, read, rfl⟩ := found
  rw [read, finds_ok] at again
  exact ⟨again.1.symm, again.2.symm⟩

theorem finds_bind {result : Except ParseError (α × { left : List Token // P left })}
    {next : α × { left : List Token // P left } →
      Except ParseError (β × { left : List Token // Q left })} {whole : β} {left : List Token} :
    Finds (result >>= next) whole left ↔
      ∃ found after, result = .ok (found, after) ∧ Finds (next (found, after)) whole left := by
  cases result with
  | error failure => simp [bind, Except.bind]
  | ok pair => simp [bind, Except.bind, Prod.ext_iff, and_assoc]

theorem finds_map {result : Except ParseError (α × { left : List Token // P left })}
    {change : α × { left : List Token // P left } → β × { left : List Token // Q left }}
    {whole : β} {left : List Token} :
    Finds (result.map change) whole left ↔
      ∃ found after, result = .ok (found, after) ∧ (change (found, after)).1 = whole ∧
        (change (found, after)).2.val = left := by
  cases result with
  | error failure => simp [Except.map]
  | ok pair =>
    obtain ⟨found, after⟩ := pair
    simp only [Except.map]
    constructor
    · intro reached
      exact ⟨found, after, rfl, finds_ok.mp reached⟩
    · rintro ⟨_, _, same, reached⟩
      cases same
      exact finds_ok.mpr reached

end

/-- From the expression on the left, the operators and operands at the start of the tokens build the
whole, with so much left behind it. -/
inductive Extends (operator? : Token → Option Operator) (readOperand : ExprReader) :
    Expr → List Token → Expr → List Token → Prop where
  | stop (done : ∀ token ∈ tokens.head?, operator? token = none) :
      Extends operator? readOperand whole tokens whole tokens
  | step (sign : operator? token = some op) (operand : Finds (readOperand tokens) right middle)
      (rest : Extends operator? readOperand (.binary op left right) middle whole last) :
      Extends operator? readOperand left (token :: tokens) whole last

/-- Behind an operator and its operand there is only one way to go on. -/
private theorem extends_step_iff {operator? : Token → Option Operator} {readOperand : ExprReader}
    {left right whole : Expr} {token : Token} {op : Operator} {tokens last : List Token}
    {after : Remainder tokens} (sign : operator? token = some op)
    (operand : readOperand tokens = .ok (right, after)) :
    Extends operator? readOperand left (token :: tokens) whole last ↔
      Extends operator? readOperand (.binary op left right) after.val whole last := by
  constructor
  · intro chain
    cases chain with
    | stop done => simp [sign] at done
    | step other found rest =>
      rw [operand, finds_ok] at found
      obtain ⟨rfl, rfl⟩ := found
      cases Option.some.inj (sign.symm.trans other)
      exact rest
  · exact .step sign ⟨after, operand, rfl⟩

theorem extend_finds_iff (operator? : Token → Option Operator) (readOperand : ExprReader)
    (left : Expr) (tokens : List Token) (whole : Expr) (last : List Token) :
    Finds (extend operator? readOperand left tokens) whole last ↔
      Extends operator? readOperand left tokens whole last := by
  fun_induction extend operator? readOperand left tokens with
  | case1 left =>
    rw [finds_ok]
    constructor
    · rintro ⟨rfl, rfl⟩
      exact .stop (by simp)
    · intro chain
      cases chain with
      | stop done => exact ⟨rfl, rfl⟩
  | case2 left token rest none =>
    rw [finds_ok]
    constructor
    · rintro ⟨rfl, rfl⟩
      exact .stop (by simpa using none)
    · intro chain
      cases chain with
      | stop done => exact ⟨rfl, rfl⟩
      | step sign operand rest => simp [none] at sign
  | case3 left token rest op sign failure failed =>
    refine ⟨fun found => absurd found not_finds_error, ?_⟩
    intro chain
    cases chain with
    | stop done => simp [sign] at done
    | step other operand rest => simp [failed] at operand
  | case4 left token rest op sign right after operand failure failed ih =>
    rw [extends_step_iff sign operand, ← ih, failed]
    exact ⟨fun found => absurd found not_finds_error, fun found => absurd found not_finds_error⟩
  | case5 left token rest op sign right after operand result left' more ih =>
    rw [extends_step_iff sign operand, ← ih, more, finds_ok, finds_ok]
    rfl

theorem chain_finds_iff {operator? : Token → Option Operator} {readOperand : ExprReader}
    {tokens : List Token} {whole : Expr} {last : List Token} :
    Finds (chain operator? readOperand tokens) whole last ↔
      ∃ first middle, Finds (readOperand tokens) first middle ∧
        Extends operator? readOperand first middle whole last := by
  simp only [chain, finds_bind, ← extend_finds_iff]
  constructor
  · rintro ⟨first, after, operand, found, rest, more, reached⟩
    obtain ⟨rfl, rfl⟩ := finds_ok.mp reached
    exact ⟨first, after.val, ⟨after, operand, rfl⟩, ⟨rest, more, rfl⟩⟩
  · rintro ⟨first, _, ⟨after, operand, rfl⟩, ⟨rest, more, rfl⟩⟩
    exact ⟨first, after, operand, whole, rest, more, finds_ok.mpr ⟨rfl, rfl⟩⟩

/-- What stands alone, or goes on behind a separator. `next` looks for the separator and leaves
everything as it is if there is none. -/
private theorem finds_optional {tokens : List Token} {separator : Token} {readSecond : ExprReader}
    {combine : Expr → Expr → Expr} {first : Except ParseError (Expr × Remainder tokens)}
    {next : Expr × Remainder tokens → Except ParseError (Expr × Remainder tokens)}
    (goesOn : ∀ left after middle, after.val = separator :: middle → ∀ whole last,
      Finds (next (left, after)) whole last ↔
        ∃ right, Finds (readSecond middle) right last ∧ combine left right = whole)
    (stays : ∀ left after, (∀ middle, after.val ≠ separator :: middle) →
      next (left, after) = .ok (left, after))
    {whole : Expr} {last : List Token} :
    Finds (first >>= next) whole last ↔
      (Finds first whole last ∧ ∀ rest, last ≠ separator :: rest) ∨
        ∃ left middle right, Finds first left (separator :: middle) ∧
          Finds (readSecond middle) right last ∧ combine left right = whole := by
  rw [finds_bind]
  constructor
  · rintro ⟨left, after, start, found⟩
    by_cases separated : ∃ middle, after.val = separator :: middle
    · obtain ⟨middle, starts⟩ := separated
      obtain ⟨right, second, same⟩ := (goesOn left after middle starts whole last).mp found
      exact .inr ⟨left, middle, right, ⟨after, start, starts⟩, second, same⟩
    · rw [not_exists] at separated
      rw [stays left after separated, finds_ok] at found
      obtain ⟨rfl, rfl⟩ := found
      exact .inl ⟨⟨after, start, rfl⟩, separated⟩
  · rintro (⟨⟨after, start, rfl⟩, other⟩ | ⟨left, middle, right, ⟨after, start, starts⟩, more⟩)
    · refine ⟨whole, after, start, ?_⟩
      rw [stays whole after other, finds_ok]
      exact ⟨rfl, rfl⟩
    · exact ⟨left, after, start, (goesOn left after middle starts whole last).mpr ⟨right, more⟩⟩

private theorem finds_within {tokens : List Token} (outer : Remainder tokens)
    {readInner : ExprReader} {combine : Expr → Expr} {whole : Expr} {last : List Token} :
    Finds (readInner outer.val >>= fun pair => pure (combine pair.1, outer.beyond pair.2)) whole
        last ↔
      ∃ found, Finds (readInner outer.val) found last ∧ combine found = whole := by
  rw [finds_bind]
  constructor
  · rintro ⟨found, after, read, reached⟩
    obtain ⟨same, rfl⟩ := finds_ok.mp reached
    exact ⟨found, ⟨after, read, rfl⟩, same⟩
  · rintro ⟨found, ⟨after, read, rfl⟩, same⟩
    exact ⟨found, after, read, finds_ok.mpr ⟨same, rfl⟩⟩

theorem power_finds_iff {readOperand readInner : ExprReader} {tokens : List Token} {whole : Expr}
    {last : List Token} :
    Finds (power readOperand readInner tokens) whole last ↔
      (Finds (readOperand tokens) whole last ∧ ∀ rest, last ≠ .caret :: rest) ∨
        ∃ base middle exponent, Finds (readOperand tokens) base (.caret :: middle) ∧
          Finds (readInner middle) exponent last ∧
          .binary (.arithmetic .power) base exponent = whole := by
  apply finds_optional
  · intro base after middle starts whole last
    dsimp only
    split
    · rename_i middle' starts'
      cases starts.symm.trans starts'
      exact finds_within (after.next starts)
    · rename_i other
      exact absurd starts (other middle)
  · intro base after other
    dsimp only
    split
    · rename_i middle starts
      exact absurd starts (other middle)
    · rfl

theorem range_finds_iff {readPrimary : ExprReader} {tokens : List Token} {whole : Expr}
    {last : List Token} :
    Finds (range readPrimary tokens) whole last ↔
      (Finds (readPrimary tokens) whole last ∧ ∀ rest, last ≠ .colon :: rest) ∨
        ∃ left middle right, Finds (readPrimary tokens) left (.colon :: middle) ∧
          Finds (readPrimary middle) right last ∧ rangeOf left right = whole := by
  apply finds_optional
  · intro left after middle starts whole last
    dsimp only
    split
    · rename_i middle' starts'
      cases starts.symm.trans starts'
      exact finds_within (after.next starts)
    · rename_i other
      exact absurd starts (other middle)
  · intro left after other
    dsimp only
    split
    · rename_i middle starts
      exact absurd starts (other middle)
    · rfl

theorem expect_rightParen_iff {tokens last : List Token} :
    (∃ after, expect .rightParen isRightParen tokens = .ok after ∧ after.val = last) ↔
      tokens = .rightParen :: last := by
  cases tokens with
  | nil => simp [expect]
  | cons token rest =>
    cases token <;> simp [expect, isRightParen, Remainder.tail]

/-- The tokens start with expressions that have commas between them, with so much left behind
them. -/
inductive Separated (readExpr : ExprReader) : List Token → List Expr → List Token → Prop where
  | last (only : Finds (readExpr tokens) tree last) : Separated readExpr tokens [tree] last
  | more (first : Finds (readExpr tokens) tree (.comma :: middle))
      (others : Separated readExpr middle trees last) :
      Separated readExpr tokens (tree :: trees) last

private theorem separated_iff {readExpr : ExprReader} {tokens last : List Token} {tree : Expr}
    {trees : List Expr} {after : Remainder tokens} (first : readExpr tokens = .ok (tree, after)) :
    Separated readExpr tokens trees last ↔
      (after.val = last ∧ [tree] = trees) ∨
        ∃ middle others, after.val = .comma :: middle ∧ Separated readExpr middle others last ∧
          tree :: others = trees := by
  constructor
  · intro list
    cases list with
    | last only =>
      obtain ⟨rfl, left⟩ := finds_ok.mp (first ▸ only)
      exact .inl ⟨left, rfl⟩
    | more found others =>
      obtain ⟨rfl, starts⟩ := finds_ok.mp (first ▸ found)
      exact .inr ⟨_, _, starts, others, rfl⟩
  · rintro (⟨left, rfl⟩ | ⟨middle, others, starts, list, rfl⟩)
    · exact .last ⟨after, first, left⟩
    · exact .more ⟨after, first, starts⟩ list

private theorem not_separated {readExpr : ExprReader} {tokens last : List Token}
    {trees : List Expr} {failure : ParseError} (failed : readExpr tokens = .error failure) :
    ¬ Separated readExpr tokens trees last := by
  intro list
  cases list <;> simp_all

theorem arguments_finds_iff (readExpr : ExprReader) (tokens : List Token) (trees : List Expr)
    (last : List Token) :
    Finds (arguments readExpr tokens) trees last ↔
      Separated readExpr tokens trees (.rightParen :: last) := by
  fun_induction arguments readExpr tokens generalizing trees with
  | case1 tokens failure failed =>
    exact ⟨fun found => absurd found not_finds_error, fun list => absurd list (not_separated failed)⟩
  | case2 tokens tree after first middle starts next failure failed ih =>
    have none : ∀ trees, ¬ Separated readExpr middle trees (.rightParen :: last) := by
      intro trees list
      exact absurd ((ih trees).mpr list) (by simp [failed])
    simp [separated_iff first, starts, none]
  | case3 tokens tree after first middle starts next others rest more ih =>
    have one : ∀ trees, Separated readExpr middle trees (.rightParen :: last) ↔
        others = trees ∧ rest.val = last := by
      intro trees
      refine (ih trees).symm.trans ?_
      rw [more, finds_ok]
    simp [separated_iff first, starts, one, Remainder.beyond]
    grind
  | case4 tokens tree after first failure failed other =>
    rw [separated_iff first]
    refine ⟨fun found => absurd found not_finds_error, ?_⟩
    rintro (⟨closed, _⟩ | ⟨middle, _, starts, _⟩)
    · obtain ⟨rest, expected, _⟩ := expect_rightParen_iff.mpr closed
      rw [failed] at expected
      cases expected
    · exact absurd starts (other middle)
  | case5 tokens tree after first rest expected other =>
    have closes : after.val = .rightParen :: rest.val :=
      expect_rightParen_iff.mp ⟨rest, expected, rfl⟩
    simp [separated_iff first, closes, Remainder.beyond, and_comm]

/-- The tokens hold a row of expressions, rows below it, and a closing brace, with so much left
behind it. -/
inductive Stacked (readExpr : ExprReader) :
    List Token → List Expr → List (List Expr) → List Token → Prop where
  | last (only : Separated readExpr tokens row (.rightBrace :: last)) :
      Stacked readExpr tokens row [] last
  | above (first : Separated readExpr tokens row (.semicolon :: middle))
      (others : Stacked readExpr middle next below last) :
      Stacked readExpr tokens row (next :: below) last

private theorem stacked_iff {readExpr : ExprReader} {tokens last : List Token} {tree : Expr}
    {row : List Expr} {below : List (List Expr)} {after : Remainder tokens}
    (first : readExpr tokens = .ok (tree, after)) :
    Stacked readExpr tokens row below last ↔
      (after.val = .rightBrace :: last ∧ row = [tree] ∧ below = []) ∨
      (∃ middle others, after.val = .comma :: middle ∧
        Stacked readExpr middle others below last ∧ row = tree :: others) ∨
      ∃ middle next others, after.val = .semicolon :: middle ∧
        Stacked readExpr middle next others last ∧ row = [tree] ∧ below = next :: others := by
  constructor
  · intro stack
    cases stack with
    | last only =>
      rcases (separated_iff first).mp only with ⟨closed, rfl⟩ | ⟨_, _, starts, others, rfl⟩
      · exact .inl ⟨closed, rfl, rfl⟩
      · exact .inr (.inl ⟨_, _, starts, .last others, rfl⟩)
    | above line rest =>
      rcases (separated_iff first).mp line with ⟨starts, rfl⟩ | ⟨_, _, starts, others, rfl⟩
      · exact .inr (.inr ⟨_, _, _, starts, rest, rfl, rfl⟩)
      · exact .inr (.inl ⟨_, _, starts, .above others rest, rfl⟩)
  · rintro (⟨closed, rfl, rfl⟩ | ⟨middle, others, starts, stack, rfl⟩ |
      ⟨middle, next, others, starts, stack, rfl, rfl⟩)
    · exact .last (.last ⟨after, first, closed⟩)
    · cases stack with
      | last only => exact .last (.more ⟨after, first, starts⟩ only)
      | above line rest => exact .above (.more ⟨after, first, starts⟩ line) rest
    · exact .above (.last ⟨after, first, starts⟩) stack

theorem rows_ok_iff (readExpr : ExprReader) (tokens : List Token) (row : List Expr)
    (below : List (List Expr)) (last : List Token) :
    (∃ after, rows readExpr tokens = .ok (row, below, after) ∧ after.val = last) ↔
      Stacked readExpr tokens row below last := by
  fun_induction rows readExpr tokens generalizing row below with
  | case1 tokens failure failed =>
    constructor
    · rintro ⟨_, impossible, _⟩
      cases impossible
    · intro stack
      cases stack with
      | last only => exact absurd only (not_separated failed)
      | above line rest => exact absurd line (not_separated failed)
  | case2 tokens tree after first middle starts next failure failed ih =>
    rw [stacked_iff first, starts]
    have none : ∀ row below, ¬ Stacked readExpr middle row below last := by
      intro row below stack
      obtain ⟨_, impossible, _⟩ := (ih row below).mpr stack
      simp [failed] at impossible
    simp [none]
  | case3 tokens tree after first middle starts next others under rest more ih =>
    rw [stacked_iff first, starts]
    have one : ∀ row below, Stacked readExpr middle row below last ↔
        others = row ∧ under = below ∧ rest.val = last := by
      intro row below
      refine (ih row below).symm.trans ?_
      rw [more]
      simp [Prod.ext_iff, and_assoc]
    simp [one, Remainder.beyond, Prod.ext_iff, and_assoc]
    grind
  | case4 tokens tree after first middle starts next failure failed ih =>
    rw [stacked_iff first, starts]
    have none : ∀ row below, ¬ Stacked readExpr middle row below last := by
      intro row below stack
      obtain ⟨_, impossible, _⟩ := (ih row below).mpr stack
      simp [failed] at impossible
    simp [none]
  | case5 tokens tree after first middle starts next others under rest more ih =>
    rw [stacked_iff first, starts]
    have one : ∀ row below, Stacked readExpr middle row below last ↔
        others = row ∧ under = below ∧ rest.val = last := by
      intro row below
      refine (ih row below).symm.trans ?_
      rw [more]
      simp [Prod.ext_iff, and_assoc]
    simp [one, Remainder.beyond, Prod.ext_iff, and_assoc]
    grind
  | case6 tokens tree after first middle starts =>
    rw [stacked_iff first, starts]
    simp [Remainder.next]
    grind
  | case7 tokens tree after first notComma notSemicolon notBrace =>
    rw [stacked_iff first]
    constructor
    · rintro ⟨_, impossible, _⟩
      cases impossible
    · rintro (⟨closed, _⟩ | ⟨middle, _, starts, _⟩ | ⟨middle, _, _, starts, _⟩)
      · exact absurd closed (notBrace last)
      · exact absurd starts (notComma middle)
      · exact absurd starts (notSemicolon middle)

theorem call_finds_iff {readExpr : ExprReader} {function : String} {tokens last : List Token}
    {whole : Expr} :
    Finds (call readExpr function tokens) whole last ↔
      (tokens = .rightParen :: last ∧ .call function [] = whole) ∨
        (∀ rest, tokens ≠ .rightParen :: rest) ∧
          ∃ trees, Separated readExpr tokens trees (.rightParen :: last) ∧
            .call function trees = whole := by
  rw [call.eq_def]
  split
  · simp [Remainder.tail, and_comm]
  · rename_i other
    simp only [← arguments_finds_iff, finds_map]
    simp [Finds]
    grind

theorem table_finds_iff {readExpr : ExprReader} {tokens last : List Token} {whole : Expr} :
    Finds (table readExpr tokens) whole last ↔
      (tokens = .rightBrace :: last ∧ .array [] = whole) ∨
        (∀ rest, tokens ≠ .rightBrace :: rest) ∧
          ∃ row below, Stacked readExpr tokens row below last ∧ .array (row :: below) = whole := by
  rw [table.eq_def]
  split
  · simp [Remainder.tail, and_comm]
  · rename_i other
    simp only [← rows_ok_iff]
    cases rows readExpr tokens with
    | error failure =>
      simp [Except.map]
      grind
    | ok found =>
      obtain ⟨row, below, after⟩ := found
      simp [Except.map, Prod.ext_iff, and_assoc]
      grind

theorem nameOrCall_finds_iff {readExpr : ExprReader} {name : String} {tokens last : List Token}
    {whole : Expr} :
    Finds (nameOrCall readExpr name tokens) whole last ↔
      (∃ inside, tokens = .leftParen :: inside ∧
        Finds (call readExpr (Text.uppered name) inside) whole last) ∨
        (∀ inside, tokens ≠ .leftParen :: inside) ∧ .name name = whole ∧ tokens = last := by
  rw [nameOrCall.eq_def]
  split
  · simp only [finds_map]
    simp [Finds, Remainder.toLeftover, Remainder.beyond]
  · rename_i other
    simp [Leftover.whole]
    grind

/-- The tokens that are operands by themselves. -/
def literal? : Token → Option Expr
  | .number x => some (.number x)
  | .text content => some (.text content)
  | .boolean truth => some (.boolean truth)
  | .error cause => some (.error cause)
  | .cell address => some (.cell address)
  | _ => none

/-- The primary expressions, by the token that they start with. -/
inductive Primary (readExpr : ExprReader) : List Token → Expr → List Token → Prop where
  | literal (single : literal? token = some whole) : Primary readExpr (token :: last) whole last
  | group (inside : Finds (readExpr tokens) whole (.rightParen :: last)) :
      Primary readExpr (.leftParen :: tokens) whole last
  | table (found : Finds (table readExpr tokens) whole last) :
      Primary readExpr (.leftBrace :: tokens) whole last
  | name (found : Finds (nameOrCall readExpr label tokens) whole last) :
      Primary readExpr (.identifier label :: tokens) whole last

/-- What is left behind a closing parenthesis whose opening one came first. -/
private abbrev enclosed (tokens : List Token) (after : Remainder tokens)
    (rest : Remainder after.val) : Remainder (.leftParen :: tokens) :=
  (Remainder.tail .leftParen tokens).beyond (after.beyond rest)

private theorem finds_closed {readExpr : ExprReader} {outer : List Token} {tokens last : List Token}
    (place : (after : Remainder tokens) → Remainder after.val → Remainder outer)
    (keeps : ∀ after rest, (place after rest).val = rest.val) {whole : Expr} :
    Finds (readExpr tokens >>= fun pair =>
        expect .rightParen isRightParen pair.2.val >>= fun rest =>
          pure (pair.1, place pair.2 rest)) whole last ↔
      Finds (readExpr tokens) whole (.rightParen :: last) := by
  rw [finds_bind]
  constructor
  · rintro ⟨found, after, read, reached⟩
    cases expected : expect .rightParen isRightParen after.val with
    | error failure => simp [expected, bind, Except.bind] at reached
    | ok rest =>
      simp only [expected, bind, Except.bind, pure, Except.pure, finds_ok, keeps] at reached
      obtain ⟨rfl, rfl⟩ := reached
      exact ⟨after, read, expect_rightParen_iff.mp ⟨rest, expected, rfl⟩⟩
  · rintro ⟨after, read, closed⟩
    obtain ⟨rest, expected, rfl⟩ := expect_rightParen_iff.mpr closed
    refine ⟨whole, after, read, ?_⟩
    simp [expected, bind, Except.bind, pure, Except.pure, keeps]

theorem primary_finds_iff {readExpr : ExprReader} {tokens last : List Token} {whole : Expr} :
    Finds (primary readExpr tokens) whole last ↔ Primary readExpr tokens whole last := by
  constructor
  · intro found
    cases tokens with
    | nil => simp [primary] at found
    | cons token rest =>
      cases token <;> simp only [primary, finds_ok, not_finds_error] at found
      case leftParen =>
        exact .group ((finds_closed (enclosed rest) fun _ _ => rfl).mp found)
      case leftBrace =>
        obtain ⟨table, after, read, rfl, rfl⟩ := finds_map.mp found
        exact .table ⟨after, read, rfl⟩
      case identifier label =>
        obtain ⟨name, after, read, rfl, rfl⟩ := finds_map.mp found
        exact .name ⟨after, read, rfl⟩
      all_goals
        obtain ⟨rfl, rfl⟩ := found
        exact .literal rfl
  · intro found
    cases found with
    | @literal token _ _ single =>
      cases token <;> simp only [literal?, reduceCtorEq] at single
      all_goals
        cases single
        exact finds_ok.mpr ⟨rfl, rfl⟩
    | group inside =>
      exact (finds_closed (enclosed _) fun _ _ => rfl).mpr inside
    | table found =>
      obtain ⟨after, read, rfl⟩ := found
      exact finds_map.mpr ⟨_, after, read, rfl, rfl⟩
    | name found =>
      obtain ⟨after, read, rfl⟩ := found
      exact finds_map.mpr ⟨_, after, read, rfl, rfl⟩

theorem percents_iff (operand : Expr) (tokens : List Token) {whole : Expr} {last : List Token} :
    (percents operand tokens).1 = whole ∧ (percents operand tokens).2.val = last ↔
      ∃ count, tokens = List.replicate count .percent ++ last ∧
        Grammar.underPercents count operand = whole ∧ ∀ rest, last ≠ .percent :: rest := by
  fun_induction percents operand tokens with
  | case1 operand rest inner after same ih =>
    rw [same] at ih
    refine ih.trans ?_
    constructor
    · rintro ⟨count, rfl, rfl, other⟩
      exact ⟨count + 1, rfl, rfl, other⟩
    · rintro ⟨count, starts, rfl, other⟩
      cases count with
      | zero => exact absurd starts.symm (other rest)
      | succ count => exact ⟨count, (List.cons.inj starts).2, rfl, other⟩
  | case2 operand tokens other =>
    constructor
    · rintro ⟨rfl, rfl⟩
      exact ⟨0, rfl, rfl, other⟩
    · rintro ⟨count, rfl, rfl, _⟩
      cases count with
      | zero => exact ⟨rfl, rfl⟩
      | succ count => exact absurd rfl (other _)

/-- The operands: a sign in front of an inner operand, or a range with percent signs behind it. -/
inductive Operand (readInner readExpr : ExprReader) : List Token → Expr → List Token → Prop where
  | negated (inner : Finds (readInner tokens) tree last) :
      Operand readInner readExpr (.minus :: tokens) (.unary .negate tree) last
  | signed (inner : Finds (readInner tokens) tree last) :
      Operand readInner readExpr (.plus :: tokens) tree last
  | percents (count : Nat)
      (base : Finds (range (primary readExpr) tokens) tree
        (List.replicate count .percent ++ last))
      (other : ∀ rest, last ≠ .percent :: rest) :
      Operand readInner readExpr tokens (Grammar.underPercents count tree) last

private theorem not_finds_range {readExpr : ExprReader} {token : Token} {tokens last : List Token}
    {whole : Expr} (sign : token = .minus ∨ token = .plus) :
    ¬ Finds (range (primary readExpr) (token :: tokens)) whole last := by
  have none : ∀ whole last, ¬ Finds (primary readExpr (token :: tokens)) whole last := by
    intro whole last found
    rcases sign with rfl | rfl <;> simp [primary] at found
  rw [range_finds_iff]
  rintro (⟨found, _⟩ | ⟨_, _, _, found, _⟩)
  · exact none _ _ found
  · exact none _ _ found

theorem operand_finds_iff {readInner readExpr : ExprReader} {tokens last : List Token}
    {whole : Expr} :
    Finds (operand readInner readExpr tokens) whole last ↔
      Operand readInner readExpr tokens whole last := by
  rw [operand.eq_def]
  split
  · rename_i rest
    rw [finds_map]
    constructor
    · rintro ⟨inner, after, read, rfl, rfl⟩
      exact .negated ⟨after, read, rfl⟩
    · intro found
      cases found with
      | negated inner =>
        obtain ⟨after, read, rfl⟩ := inner
        exact ⟨_, after, read, rfl, rfl⟩
      | percents count base other => exact absurd base (not_finds_range (.inl rfl))
  · rename_i rest
    rw [finds_map]
    constructor
    · rintro ⟨inner, after, read, rfl, rfl⟩
      exact .signed ⟨after, read, rfl⟩
    · intro found
      cases found with
      | signed inner =>
        obtain ⟨after, read, rfl⟩ := inner
        exact ⟨_, after, read, rfl, rfl⟩
      | percents count base other => exact absurd base (not_finds_range (.inr rfl))
  · rename_i notMinus notPlus
    rw [finds_map]
    constructor
    · rintro ⟨base, after, read, reached, left⟩
      obtain ⟨count, starts, rfl, other⟩ := (percents_iff base after.val).mp ⟨reached, left⟩
      exact .percents count ⟨after, read, starts⟩ other
    · intro found
      cases found with
      | negated inner => exact absurd rfl (notMinus _)
      | signed inner => exact absurd rfl (notPlus _)
      | percents count base other =>
        obtain ⟨after, read, starts⟩ := base
        exact ⟨_, after, read, (percents_iff _ after.val).mpr ⟨count, starts, rfl, other⟩⟩

end PhraseSheet.ExprReader
