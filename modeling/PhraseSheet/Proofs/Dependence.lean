import Mathlib.Data.String.Basic
import PhraseSheet.Proofs.Exchange
import PhraseSheet.Proofs.RowContext

namespace PhraseSheet

namespace Context

theorem foldl_smaller_eq_some_iff {names : List String} {least? : Option String} {least : String} :
    names.foldl smaller least? = some least ↔
      (least? = some least ∨ least ∈ names) ∧ (∀ before, least? = some before → least ≤ before) ∧
        ∀ name ∈ names, least ≤ name := by
  induction names generalizing least? with
  | nil =>
    simp only [List.foldl_nil, List.not_mem_nil, or_false, false_implies, implies_true, and_true,
      iff_self_and]
    rintro rfl before same
    cases same
    exact String.le_refl least
  | cons name rest ih =>
    rw [List.foldl_cons, ih, List.mem_cons, List.forall_mem_cons]
    cases least? with
    | none => simp [smaller, eq_comm]
    | some before =>
      simp only [smaller, Option.some.injEq, forall_eq']
      -- whatever is no greater than the smaller of the two is no greater than both
      split <;> grind

/-- The alias of a name is the smallest key that differs from it in letter case only. -/
theorem alias?_eq_some_iff {context : Context} {name least : String} :
    context.alias? name = some least ↔
      (least ∈ context.names ∧ Text.sameIgnoringCase least name) ∧
        ∀ key ∈ context.names, Text.sameIgnoringCase key name → least ≤ key := by
  rw [alias?, foldl_smaller_eq_some_iff]
  simp [List.mem_filter]

section

variable {key : String} (context : Context) (value : Value)

theorem alias?_put {name : String} (apart : Text.sameIgnoringCase key name = false) :
    alias? (context.put key value) name = context.alias? name := by
  have names : (context.put key value).names =
      if key ∈ context.names then context.names else context.names ++ [key] :=
    names_putEntry key value context.entries
  unfold alias?
  rw [names]
  split
  · rfl
  · rw [List.filter_append]
    simp [apart]

theorem get?_put {name : String} (apart : Text.sameIgnoringCase key name = false) :
    get? (context.put key value) name = context.get? name := by
  have other : ∀ label, Text.sameIgnoringCase label name →
      (context.put key value).find? label = context.find? label := by
    intro label same
    rw [Labelled.find?_put, if_neg]
    rintro rfl
    simp [apart] at same
  -- the name itself and its alias, if it has one, are no other keys than before
  have itself : Text.sameIgnoringCase name name := by simp [Text.sameIgnoringCase]
  unfold get?
  rw [other name itself, alias?_put context value apart]
  cases context.find? name with
  | some found => rfl
  | none =>
    cases least : context.alias? name with
    | none => rfl
    | some label => exact other label (alias?_eq_some_iff.mp least).1.2

theorem cell?_put {address : Address} (apart : address.key ≠ key) :
    cell? (context.put key value) address = context.cell? address := by
  rw [cell?, Labelled.find?_put, if_neg (Ne.symm apart)]
  rfl

theorem rangeValue_put {range : Range}
    (apart : ∀ row ∈ range.cellRows, ∀ address ∈ row, address.key ≠ key) :
    rangeValue (context.put key value) range = context.rangeValue range := by
  unfold rangeValue
  split
  · rfl
  · congr 1
    apply List.map_congr_left
    intro row listed
    apply List.map_congr_left
    intro address member
    rw [cell?_put context value (apart row listed address member)]

end

/-- The contexts have the same value for the expression if it is a name, a cell or a range. -/
def Agree (one other : Context) : Expr → Prop
  | .name label => one.get? label = other.get? label
  | .cell address => one.cell? address = other.cell? address
  | .range cells => one.rangeValue cells = other.rangeValue cells
  | _ => True

end Context

namespace Expr

mutual

/-- The expression and all expressions that stand in it. -/
def parts (expr : Expr) : List Expr :=
  expr :: match expr with
    | .binary _ left right => parts left ++ parts right
    | .span left right => parts left ++ parts right
    | .unary _ operand => parts operand
    | .call _ arguments => partsOfAll arguments
    | .array rows => partsOfRows rows
    | _ => []

def partsOfAll : List Expr → List Expr
  | [] => []
  | expr :: rest => parts expr ++ partsOfAll rest

def partsOfRows : List (List Expr) → List Expr
  | [] => []
  | row :: rest => partsOfAll row ++ partsOfRows rest

end

theorem mem_parts (expr : Expr) : expr ∈ expr.parts := by
  cases expr <;> exact List.mem_cons_self

section

variable {one other : Context}

theorem nameValue_congr {label : String} (agree : one.Agree other (.name label)) :
    nameValue one label = nameValue other label :=
  congrArg (Option.getD · _) agree

theorem spanValue_congr {left : Expr} (agree : one.Agree other left) (right : Expr) :
    spanValue one left right = spanValue other left right := by
  unfold spanValue
  split
  · rw [nameValue_congr agree]
  · rfl

mutual

/-- Contexts that agree on the parts of an expression give it the same value. -/
theorem evaluate_congr : ∀ {expr : Expr}, (∀ part ∈ expr.parts, one.Agree other part) →
    expr.evaluate one = expr.evaluate other
  | .number _, _ => rfl
  | .text _, _ => rfl
  | .boolean _, _ => rfl
  | .error _, _ => rfl
  | .cell address, agree => congrArg (Option.getD · _) (agree _ (mem_parts _))
  | .range cells, agree => agree _ (mem_parts (.range cells))
  | .name label, agree => nameValue_congr (agree _ (mem_parts _))
  | .binary op left right, agree => by
    have inLeft : ∀ part ∈ left.parts, one.Agree other part := fun part member =>
      agree part (List.mem_cons_of_mem _ (List.mem_append_left _ member))
    have inRight : ∀ part ∈ right.parts, one.Agree other part := fun part member =>
      agree part (List.mem_cons_of_mem _ (List.mem_append_right _ member))
    rw [evaluate_binary, evaluate_binary, evaluate_congr inLeft, evaluate_congr inRight]
  | .span left right, agree =>
    spanValue_congr (agree left (List.mem_cons_of_mem _ (List.mem_append_left _ (mem_parts left))))
      right
  | .unary sign operand, agree => by
    have inOperand : ∀ part ∈ operand.parts, one.Agree other part := fun part member =>
      agree part (List.mem_cons_of_mem _ member)
    rw [evaluate_unary, evaluate_unary, evaluate_congr inOperand]
  | .call function arguments, agree => by
    have inArguments : ∀ part ∈ partsOfAll arguments, one.Agree other part := fun part member =>
      agree part (List.mem_cons_of_mem _ member)
    rw [evaluate_call, evaluate_call, evaluateAll_congr inArguments]
  | .array rows, agree => by
    have inRows : ∀ part ∈ partsOfRows rows, one.Agree other part := fun part member =>
      agree part (List.mem_cons_of_mem _ member)
    exact congrArg Value.array (evaluateRows_congr inRows)

theorem evaluateAll_congr : ∀ {exprs : List Expr},
    (∀ part ∈ partsOfAll exprs, one.Agree other part) →
      evaluateAll one exprs = evaluateAll other exprs
  | [], _ => rfl
  | expr :: rest, agree => by
    obtain ⟨inFirst, inOthers⟩ := List.forall_mem_append.mp agree
    rw [evaluateAll_cons, evaluateAll_cons, evaluate_congr inFirst, evaluateAll_congr inOthers]

theorem evaluateRows_congr : ∀ {rows : List (List Expr)},
    (∀ part ∈ partsOfRows rows, one.Agree other part) →
      evaluateRows one rows = evaluateRows other rows
  | [], _ => rfl
  | row :: rest, agree => by
    obtain ⟨inFirst, inOthers⟩ := List.forall_mem_append.mp agree
    simp only [evaluateRows, evaluateAll_congr inFirst, evaluateRows_congr inOthers]

end

end

/-- A value makes no difference to an expression if its key is none of the names in the expression,
in whatever letter case, and not the key of a cell or of a range's cell in it. -/
theorem evaluate_put (expr : Expr) (context : Context) (key : String) (value : Value)
    (names : ∀ label, .name label ∈ expr.parts → Text.sameIgnoringCase key label = false)
    (cells : ∀ address, .cell address ∈ expr.parts → address.key ≠ key)
    (ranges : ∀ range, .range range ∈ expr.parts →
      ∀ row ∈ range.cellRows, ∀ address ∈ row, address.key ≠ key) :
    expr.evaluate (context.put key value) = expr.evaluate context := by
  apply evaluate_congr
  intro part member
  cases part with
  | name label => exact Context.get?_put context value (names label member)
  | cell address => exact Context.cell?_put context value (cells address member)
  | range range => exact Context.rangeValue_put context value (ranges range member)
  | _ => trivial

/-- The cell below a range, in a context that has the name in other letters. -/
theorem evaluate_put_below :
    let first : Address := ⟨0, 0, false, false, by decide, by decide⟩
    let last : Address := ⟨1, 0, false, false, by decide, by decide⟩
    let expr : Expr := .call "SUM" [.range (.spanning first last), .name "Price"]
    let context : Context := .ofList [("A1", .number 2), ("PRICE", .number 3)]
    expr.evaluate (context.put "A3" (.number 5)) = expr.evaluate context := by
  intro first last expr context
  have parts : expr.parts = [expr, .range (.spanning first last), .name "Price"] := rfl
  have keys : ∀ row ∈ (Range.spanning first last).cellRows, ∀ address ∈ row,
      address.key ≠ "A3" := by
    decide +kernel
  refine evaluate_put expr context "A3" (.number 5) ?_ ?_ ?_
  · intro label member
    have same : label = "Price" := by simpa [parts, expr] using member
    rw [same]
    decide
  · intro address member
    simp [parts, expr] at member
  · intro range member
    have same : range = .spanning first last := by simpa [parts, expr] using member
    rw [same]
    exact keys

end Expr

end PhraseSheet
