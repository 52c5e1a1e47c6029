import PhraseSheet.Proofs.Exchange

/-! Where the error of an expression comes from. Operators pass on the errors of their operands, the
left one first, so an expression shows the error of the first part, of those that operators reach, in
which an error arises. -/

namespace PhraseSheet

namespace Value

theorem error?_eq_some_iff {value : Value} {cause : CellError} :
    value.error? = some cause ↔ value = .error cause := by
  cases value <;> simp [error?]

theorem error?_eq_none_iff {value : Value} : value.error? = none ↔ value.isError = false := by
  rw [isError, Option.isSome_eq_false_iff, Option.isNone_iff_eq_none]

end Value

/-- The errors of operators whose operands have none. -/
def operatorErrors : List CellError := [.wrongType, .divisionByZero, .badNumber]

theorem Arithmetic.mem_operatorErrors {op : Arithmetic} {x y : Float} {cause : CellError}
    (failed : (op.apply x y).error? = some cause) : cause ∈ operatorErrors := by
  have checked : ∀ result : Float,
      Value.error? (if result.isFinite then .number result else .error .badNumber) = some cause →
        cause ∈ operatorErrors := by
    intro result failed
    split at failed <;> cases failed
    decide
  cases op with
  | divide =>
    by_cases zero : (y == 0) = true
    · simp only [apply, zero, if_true] at failed
      cases failed
      decide
    · simp only [apply, zero] at failed
      exact checked _ failed
  | _ => exact checked _ failed

namespace Operator

/-- The error of the left operand goes before that of the right one, and both go before an error of
the operator's own. -/
theorem error?_apply (op : Operator) (left right : Value) : (op.apply left right).error? =
    (left.error?.or right.error?).or
      (if left.isError || right.isError then none else (op.apply left right).error?) := by
  unfold apply Value.isError
  cases left.error? <;> cases right.error? <;> rfl

theorem mem_operatorErrors {op : Operator} {left right : Value} {cause : CellError}
    (leftSound : left.isError = false) (rightSound : right.isError = false)
    (failed : (op.apply left right).error? = some cause) : cause ∈ operatorErrors := by
  rw [← Value.error?_eq_none_iff] at leftSound rightSound
  simp only [apply, leftSound, rightSound] at failed
  cases op with
  | arithmetic op =>
    simp only [applyPlain] at failed
    split at failed
    · exact Arithmetic.mem_operatorErrors failed
    · cases failed
      decide
  | comparison op => cases failed
  | join => cases failed

end Operator

namespace Sign

theorem error?_apply (sign : Sign) (operand : Value) : (sign.apply operand).error? =
    operand.error?.or (if operand.isError then none else (sign.apply operand).error?) := by
  unfold apply Value.isError
  cases operand.error? <;> rfl

theorem mem_operatorErrors {sign : Sign} {operand : Value} {cause : CellError}
    (sound : operand.isError = false) (failed : (sign.apply operand).error? = some cause) :
    cause ∈ operatorErrors := by
  rw [← Value.error?_eq_none_iff] at sound
  simp only [apply, sound] at failed
  cases number : operand.asNumber? with
  | none =>
    rw [number] at failed
    cases failed
    decide
  | some x =>
    rw [number] at failed
    cases sign <;> cases failed

end Sign

namespace Expr

/-- The operands of an operator. A range is none here, and no other expression has operands. -/
def operands : Expr → List Expr
  | .binary _ left right => [left, right]
  | .unary _ operand => [operand]
  | _ => []

/-- The expression and those that are reached from it through operators, each behind its operands. -/
def reached : Expr → List Expr
  | .binary op left right => reached left ++ reached right ++ [.binary op left right]
  | .unary sign operand => reached operand ++ [.unary sign operand]
  | expr => [expr]

theorem reached_trans {part other : Expr} (inPart : other ∈ part.reached) :
    ∀ {expr : Expr}, part ∈ expr.reached → other ∈ expr.reached
  | .binary op left right, member => by
    rw [reached, List.append_assoc, List.mem_append, List.mem_append, List.mem_singleton] at member
    rcases member with inLeft | inRight | rfl
    · simp [reached, reached_trans inPart inLeft]
    · simp [reached, reached_trans inPart inRight]
    · exact inPart
  | .unary sign operand, member => by
    rw [reached, List.mem_append, List.mem_singleton] at member
    rcases member with inOperand | rfl
    · simp [reached, reached_trans inPart inOperand]
    · exact inPart
  | .number _, member | .text _, member | .boolean _, member | .error _, member | .cell _, member
  | .range _, member | .name _, member | .span _ _, member | .call _ _, member
  | .array _, member => by
    rwa [← List.mem_singleton.mp member]

section

variable (context : Context)

/-- The error of an expression whose operands have none. -/
def raised? (expr : Expr) : Option CellError :=
  if expr.operands.any fun operand => (operand.evaluate context).isError then none
  else (expr.evaluate context).error?

/-- The error of an expression is the first one that arises in what operators reach. -/
theorem error?_evaluate : ∀ expr : Expr,
    (expr.evaluate context).error? = expr.reached.findSome? (raised? context)
  | .binary op left right => by
    rw [reached, List.findSome?_append, List.findSome?_append, ← error?_evaluate left,
      ← error?_evaluate right]
    simpa [raised?, operands, evaluate_binary] using
      op.error?_apply (left.evaluate context) (right.evaluate context)
  | .unary sign operand => by
    rw [reached, List.findSome?_append, ← error?_evaluate operand]
    simpa [raised?, operands, evaluate_unary] using sign.error?_apply (operand.evaluate context)
  | .number _ | .text _ | .boolean _ | .error _ | .cell _ | .range _ | .name _ | .span _ _
  | .call _ _ | .array _ => by
    simp [reached, raised?, operands]

/-- The error arises in the expression: none of its operands has an error. -/
structure Raises (expr : Expr) (cause : CellError) : Prop where
  fails : expr.evaluate context = .error cause
  sound : ∀ operand ∈ expr.operands, (operand.evaluate context).isError = false

theorem raised?_eq_some_iff {expr : Expr} {cause : CellError} :
    raised? context expr = some cause ↔ Raises context expr cause := by
  rw [raised?, Option.ite_none_left_eq_some, Value.error?_eq_some_iff, List.any_eq_true]
  constructor
  · rintro ⟨sound, fails⟩
    exact ⟨fails, fun operand member => Bool.eq_false_iff.mpr fun isError =>
      sound ⟨operand, member, isError⟩⟩
  · rintro ⟨fails, sound⟩
    refine ⟨?_, fails⟩
    rintro ⟨operand, member, isError⟩
    simp [sound operand member] at isError

theorem Raises.mem_operatorErrors {expr : Expr} {cause : CellError}
    (raises : Raises context expr cause) (isOperator : expr.operands ≠ []) :
    cause ∈ operatorErrors := by
  have failed := Value.error?_eq_some_iff.mpr raises.fails
  cases expr with
  | binary op left right =>
    obtain ⟨leftSound, others⟩ := List.forall_mem_cons.mp raises.sound
    exact Operator.mem_operatorErrors leftSound (others right (by simp)) failed
  | unary sign operand =>
    exact Sign.mem_operatorErrors (raises.sound operand List.mem_cons_self) failed
  | _ => exact absurd rfl isOperator

theorem isError_iff_raised (expr : Expr) :
    (expr.evaluate context).isError ↔ ∃ part ∈ expr.reached, ∃ cause, Raises context part cause := by
  rw [Value.isError, error?_evaluate, List.findSome?_isSome_iff]
  simp only [Option.isSome_iff_exists, raised?_eq_some_iff]

/-- An expression has an error if one of those has that operators reach from it. Its error is that of
the first of them in which one arises, and if that is an operator it is one of the three errors of
operators. -/
theorem evaluate_eq_error_iff (expr : Expr) :
    (∀ part ∈ expr.reached, (part.evaluate context).isError → (expr.evaluate context).isError) ∧
    ∀ cause, expr.evaluate context = .error cause ↔
      ∃ before part after, expr.reached = before ++ part :: after ∧ Raises context part cause ∧
        (part.operands ≠ [] → cause ∈ operatorErrors) ∧
        ∀ earlier ∈ before, ∀ other, ¬ Raises context earlier other := by
  constructor
  · intro part member isError
    obtain ⟨origin, inPart, raises⟩ := (isError_iff_raised context part).mp isError
    exact (isError_iff_raised context expr).mpr ⟨origin, reached_trans inPart member, raises⟩
  · intro cause
    rw [← Value.error?_eq_some_iff, error?_evaluate, List.findSome?_eq_some_iff]
    simp only [raised?_eq_some_iff, Option.eq_none_iff_forall_ne_some, ne_eq]
    constructor
    · rintro ⟨before, part, after, same, raises, first⟩
      exact ⟨before, part, after, same, raises, raises.mem_operatorErrors context, first⟩
    · rintro ⟨before, part, after, same, raises, _, first⟩
      exact ⟨before, part, after, same, raises, first⟩

/-- The error of the left operand is shown, though it arises deeper than that of the right one. -/
example : (Expr.binary .join
    (.unary .negate (.binary (.arithmetic .divide) (.number 1) (.number 0)))
    (.error .badReference)).evaluate context = .error .divisionByZero := by
  rfl

end

end Expr

end PhraseSheet
