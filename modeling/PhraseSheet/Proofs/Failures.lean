import Mathlib.Logic.Basic
import PhraseSheet.Proofs.Calls
import PhraseSheet.Proofs.Exchange

namespace PhraseSheet

namespace Function

/-- The fewest arguments on which the function does not fail. -/
def needed (function : Function) : Nat :=
  if function.name = "IF" then 2 else if function.name = "IFERROR" then 1 else 0

theorem needed_le_least : ∀ function ∈ builtins, function.needed ≤ function.least := by
  decide

theorem choice_isOk_iff {arguments : List Value} :
    (∃ value, choice arguments = .ok value) ↔ 2 ≤ arguments.length := by
  match arguments with
  | [] | [_] => simp [choice]
  | _ :: _ :: _ => simp [choice]

theorem withFallback_isOk_iff {arguments : List Value} :
    (∃ value, withFallback arguments = .ok value) ↔ 1 ≤ arguments.length := by
  match arguments with
  | [] => simp [withFallback]
  | first :: others => cases first <;> simp [withFallback]

theorem apply_cases : ∀ function ∈ builtins,
    function.apply = choice ∧ function.needed = 2 ∨
      function.apply = withFallback ∧ function.needed = 1 ∨
        (∃ total, function.apply = unfailing total) ∧ function.needed = 0 := by
  simp [builtins, needed]

/-- The choice needs its condition and its first case, the fallback needs its first argument, and
the other functions give a value on any arguments. -/
theorem apply_isOk_iff {function : Function} (listed : function ∈ builtins)
    {arguments : List Value} :
    (∃ value, function.apply arguments = .ok value) ↔ function.needed ≤ arguments.length := by
  rcases apply_cases function listed with ⟨same, needed⟩ | ⟨same, needed⟩ | ⟨⟨total, same⟩, needed⟩
  · rw [same, needed, choice_isOk_iff]
  · rw [same, needed, withFallback_isOk_iff]
  · rw [same, needed]
    exact ⟨fun _ => Nat.zero_le _, fun _ => ⟨total arguments, rfl⟩⟩

theorem exists_apply_eq_ok {function : Function} (listed : function ∈ builtins)
    {arguments : List Value} (accepted : function.accepts arguments.length) :
    ∃ value, function.apply arguments = .ok value :=
  (apply_isOk_iff listed).mpr
    (Nat.le_trans (needed_le_least function listed) (accepts_iff.mp accepted).1)

/-- Why a call on so many arguments is refused: there is no function of the name in any letter case,
or it takes more arguments or fewer. -/
inductive Refuses (name : String) (count : Nat) : FormulaError → Prop
  | unknown (absent : ∀ function ∈ builtins, function.name ≠ Text.uppered name) :
    Refuses name count (.unknownFunction name)
  | tooFew {function : Function} (listed : function ∈ builtins)
      (named : function.name = Text.uppered name) (few : count < function.least) :
    Refuses name count (.argumentCount name ("at least " ++ Nat.repr function.least) count)
  | tooMany {function : Function} {most : Nat} (listed : function ∈ builtins)
      (named : function.name = Text.uppered name) (limit : function.most = some most)
      (many : most < count) :
    Refuses name count (.argumentCount name ("at most " ++ Nat.repr most) count)

theorem accepts_or_refuses {name : String} {function : Function} (listed : function ∈ builtins)
    (named : function.name = Text.uppered name) (count : Nat) :
    function.accepts count ∨ ∃ failure, Refuses name count failure := by
  by_cases few : count < function.least
  · exact .inr ⟨_, .tooFew listed named few⟩
  by_cases many : ∃ most, function.most = some most ∧ most < count
  · obtain ⟨most, limit, many⟩ := many
    exact .inr ⟨_, .tooMany listed named limit many⟩
  · refine .inl (accepts_iff.mpr ⟨Nat.le_of_not_lt few, fun most limit => Nat.le_of_not_lt ?_⟩)
    exact fun less => many ⟨most, limit, less⟩

theorem least_le_most : ∀ function ∈ builtins, ∀ most ∈ function.most, function.least ≤ most := by
  decide

theorem call_of_refuses {name : String} {arguments : List Value} {failure : FormulaError}
    (refused : Refuses name arguments.length failure) :
    call name arguments = .error failure := by
  have listing := @Registry.function?_eq_some_iff name
  cases refused with
  | unknown absent =>
    have nothing : Registry.standard.function? name = none := by
      rw [Option.eq_none_iff_forall_ne_some]
      exact fun function found => absurd (listing.mp found).2 (absent function (listing.mp found).1)
    rw [call, nothing]
  | tooFew listed named few =>
    rw [call, listing.mpr ⟨listed, named⟩]
    exact if_pos few
  | @tooMany function most listed named limit many =>
    have enough := Nat.le_of_lt (Nat.lt_of_le_of_lt (least_le_most function listed most limit) many)
    rw [call, listing.mpr ⟨listed, named⟩]
    dsimp only
    rw [if_neg (Nat.not_lt.mpr enough), limit]
    exact if_pos many

/-- A call fails just if it is refused. -/
theorem call_eq_error_iff {name : String} {arguments : List Value} {failure : FormulaError} :
    call name arguments = .error failure ↔ Refuses name arguments.length failure := by
  refine ⟨fun failed => ?_, call_of_refuses⟩
  have same : ∀ {other}, Refuses name arguments.length other → other = failure := fun refused =>
    Except.error.inj ((call_of_refuses refused).symm.trans failed)
  cases found : Registry.standard.function? name with
  | none =>
    have unknown : Refuses name arguments.length (.unknownFunction name) := by
      refine .unknown fun function listed named => ?_
      cases found.symm.trans (Registry.function?_eq_some_iff.mpr ⟨listed, named⟩)
    exact same unknown ▸ unknown
  | some function =>
    obtain ⟨listed, named⟩ := Registry.function?_eq_some_iff.mp found
    rcases accepts_or_refuses listed named arguments.length with accepted | ⟨other, refused⟩
    · obtain ⟨value, given⟩ := exists_apply_eq_ok listed accepted
      rw [call_of_function? found accepted, given] at failed
      cases failed
    · exact same refused ▸ refused

end Function

namespace Expr

/-- What stands between two expressions: an operator on their values, or the colon of a range. -/
inductive Infix where
  | operator (op : Operator)
  | colon

namespace Infix

/-- The result on the values of both sides. The colon has none. -/
def outcome (between : Infix) (left right : Value) : Except FormulaError Value :=
  match left.error?, right.error? with
  | some cause, _ => .ok (.error cause)
  | none, some cause => .ok (.error cause)
  | none, none =>
    match between with
    | .operator op => .ok (op.applyPlain left right)
    | .colon => .error (.evaluation "Range operator reached arithmetic evaluation")

theorem outcome_operator (op : Operator) (left right : Value) :
    (operator op).outcome left right = .ok (op.apply left right) := by
  unfold outcome Operator.apply
  cases left.error? <;> cases right.error? <;> rfl

/-- Only the colon fails on values, and on any two that are no errors. -/
theorem outcome_eq_error_iff {between : Infix} {left right : Value} {failure : FormulaError} :
    between.outcome left right = .error failure ↔
      between = .colon ∧ left.isError = false ∧ right.isError = false ∧
        failure = .evaluation "Range operator reached arithmetic evaluation" := by
  cases between with
  | operator op => simp [outcome_operator]
  | colon =>
    unfold outcome Value.isError
    cases left.error? <;> cases right.error? <;> simp [eq_comm]

/-- The result on two expressions, given their values too. The colon does not look at the values: it
joins a name to itself. -/
def join (context : Context) (between : Infix) (left right : Expr) (leftValue rightValue : Value) :
    Except FormulaError Value :=
  match between with
  | .colon => .ok (spanValue context left right)
  | .operator op => (operator op).outcome leftValue rightValue

end Infix

/-- The value, or the error that a cell shows for the failure. -/
def shown : Except FormulaError Value → Value
  | .ok value => value
  | .error failure => .error failure.cellError

mutual

/-- The value of an expression, or the failure of its evaluation. What fails in a part of it is
shown as an error there. -/
def outcome (context : Context) : Expr → Except FormulaError Value
  | .number x => .ok (.number x)
  | .text content => .ok (.text content)
  | .boolean truth => .ok (.boolean truth)
  | .error cause => .ok (.error cause)
  | .cell address => .ok ((context.cell? address).getD (.error .badReference))
  | .range cells => .ok (context.rangeValue cells)
  | .name label => .ok (nameValue context label)
  | .span left right =>
    Infix.colon.join context left right (shown (outcome context left))
      (shown (outcome context right))
  | .binary op left right =>
    (Infix.operator op).join context left right (shown (outcome context left))
      (shown (outcome context right))
  | .unary sign operand => .ok (sign.apply (shown (outcome context operand)))
  | .call function arguments => .ok (shown (Function.call function (shownAll context arguments)))
  | .array rows => .ok (.array (shownRows context rows))

def shownAll (context : Context) : List Expr → List Value
  | [] => []
  | expr :: rest => shown (outcome context expr) :: shownAll context rest

def shownRows (context : Context) : List (List Expr) → List (List Value)
  | [] => []
  | row :: rest => shownAll context row :: shownRows context rest

end

theorem length_shownAll (context : Context) (exprs : List Expr) :
    (shownAll context exprs).length = exprs.length := by
  induction exprs with
  | nil => rfl
  | cons expr rest ih => rw [shownAll, List.length_cons, ih, List.length_cons]

mutual

/-- No evaluation fails as a whole. -/
theorem outcome_eq (context : Context) : ∀ expr : Expr,
    expr.outcome context = .ok (expr.evaluate context)
  | .number _ | .text _ | .boolean _ | .error _ | .cell _ | .range _ | .name _ => rfl
  | .span _ _ => by rw [outcome]; rfl
  | .binary op left right => by
    rw [outcome, outcome_eq context left, outcome_eq context right]
    exact Infix.outcome_operator op _ _
  | .unary sign operand => by
    rw [outcome, outcome_eq context operand]
    rfl
  | .call function arguments => by
    rw [outcome, shownAll_eq context arguments, evaluate_call]
    rfl
  | .array rows => by
    rw [outcome, shownRows_eq context rows]
    rfl

theorem shownAll_eq (context : Context) : ∀ exprs : List Expr,
    shownAll context exprs = evaluateAll context exprs
  | [] => rfl
  | expr :: rest => by
    rw [shownAll, outcome_eq context expr, shownAll_eq context rest]
    rfl

theorem shownRows_eq (context : Context) : ∀ rows : List (List Expr),
    shownRows context rows = evaluateRows context rows
  | [] => rfl
  | row :: rest => by
    rw [shownRows, shownAll_eq context row, shownRows_eq context rest]
    rfl

end

/-- A built-in function gives a value on as many arguments as it takes. So an evaluation never
fails: each expression has its value, and the colon, which alone fails on values, is never asked for
one. A call fails just if it is refused for its name or for the number of its arguments. -/
theorem outcome_unfailing :
    (∀ function ∈ Function.builtins, ∀ arguments : List Value,
      function.accepts arguments.length → ∃ value, function.apply arguments = .ok value) ∧
    (∀ (context : Context) (expr : Expr), expr.outcome context = .ok (expr.evaluate context)) ∧
    (∀ (between : Infix) (left right : Value) (failure : FormulaError),
      between.outcome left right = .error failure ↔
        between = .colon ∧ left.isError = false ∧ right.isError = false ∧
          failure = .evaluation "Range operator reached arithmetic evaluation") ∧
    ∀ (context : Context) (name : String) (arguments : List Expr) (failure : FormulaError),
      Function.call name (shownAll context arguments) = .error failure ↔
        Function.Refuses name arguments.length failure := by
  refine ⟨fun function listed arguments => Function.exists_apply_eq_ok listed, outcome_eq,
    fun between left right failure => Infix.outcome_eq_error_iff, ?_⟩
  intro context name arguments failure
  rw [Function.call_eq_error_iff, length_shownAll]

theorem outcome_unfailing_choice :
    let function : Function := ⟨"IF", 2, some 3, Function.choice⟩
    let arguments : List Value := [.boolean false, .text "yes"]
    function ∈ Function.builtins ∧ function.accepts arguments.length ∧
      ∃ value, function.apply arguments = .ok value := by
  intro function arguments
  have listed : function ∈ Function.builtins := by simp [function, Function.builtins]
  exact ⟨listed, rfl, outcome_unfailing.1 function listed arguments rfl⟩

end Expr

end PhraseSheet
