import PhraseSheet.Proofs.Spelling

/-! The height of the expressions of formulas. The nesting that is read has a limit, but chains of
operators and percent signs take no nesting, and the expression grows by one step with each sign of
such a run. Without these steps the depth is limited, and so is the height of expressions whose runs
are. -/

namespace PhraseSheet

namespace Expr

mutual

/-- The greatest weight of the steps from an expression down to one of its parts. A step from an
operator to its left operand or from a percent sign to its operand has the given weight, all others
have weight one. -/
def depth (runStep : Nat) : Expr → Nat
  | .binary _ left right => max (left.depth runStep + runStep) (right.depth runStep + 1)
  | .span left right => max (left.depth runStep) (right.depth runStep) + 1
  | .unary .percent operand => operand.depth runStep + runStep
  | .unary .negate operand => operand.depth runStep + 1
  | .call _ arguments => depthOfAll runStep arguments
  | .array rows => depthOfRows runStep rows
  | _ => 0

def depthOfAll (runStep : Nat) : List Expr → Nat
  | [] => 0
  | expr :: rest => max (expr.depth runStep + 1) (depthOfAll runStep rest)

def depthOfRows (runStep : Nat) : List (List Expr) → Nat
  | [] => 0
  | row :: rest => max (depthOfAll runStep row) (depthOfRows runStep rest)

end

/-- The number of steps from an expression down to its deepest part. -/
abbrev height (expr : Expr) : Nat := expr.depth 1

/-- The number of steps from operators to left operands, and from percent signs to their operands,
that follow each other from the expression down. -/
def run : Expr → Nat
  | .binary _ left _ => left.run + 1
  | .unary .percent operand => operand.run + 1
  | _ => 0

mutual

/-- The longest run in an expression. -/
def longestRun : Expr → Nat
  | .binary _ left right => max (left.run + 1) (max left.longestRun right.longestRun)
  | .span left right => max left.longestRun right.longestRun
  | .unary .percent operand => max (operand.run + 1) operand.longestRun
  | .unary .negate operand => operand.longestRun
  | .call _ arguments => longestRunOfAll arguments
  | .array rows => longestRunOfRows rows
  | _ => 0

def longestRunOfAll : List Expr → Nat
  | [] => 0
  | expr :: rest => max expr.longestRun (longestRunOfAll rest)

def longestRunOfRows : List (List Expr) → Nat
  | [] => 0
  | row :: rest => max (longestRunOfAll row) (longestRunOfRows rest)

end

/-- The depth without the steps of runs. -/
abbrev nesting (expr : Expr) : Nat := expr.depth 0

theorem run_le_longestRun (expr : Expr) : expr.run ≤ expr.longestRun := by
  cases expr with
  | binary op left right => exact Nat.le_max_left _ _
  | unary sign operand =>
    cases sign with
    | negate => exact Nat.zero_le _
    | percent => exact Nat.le_max_left _ _
  | _ => exact Nat.zero_le _

theorem run_le_height (expr : Expr) : expr.run ≤ expr.height := by
  induction expr using run.induct with
  | case1 op left right ih => exact Nat.le_trans (Nat.succ_le_succ ih) (Nat.le_max_left _ _)
  | case2 operand ih => exact Nat.succ_le_succ ih
  | case3 expr noBinary noPercent =>
    rw [run.eq_3 expr noBinary noPercent]
    exact Nat.zero_le _

mutual

theorem longestRun_le_height : (expr : Expr) → expr.longestRun ≤ expr.height
  | .binary op left right => by
    have own := left.run_le_height
    have inLeft := left.longestRun_le_height
    have inRight := right.longestRun_le_height
    simp only [longestRun, height, depth] at *
    omega
  | .span left right => by
    have inLeft := left.longestRun_le_height
    have inRight := right.longestRun_le_height
    simp only [longestRun, height, depth] at *
    omega
  | .unary .percent operand => by
    have own := operand.run_le_height
    have inside := operand.longestRun_le_height
    simp only [longestRun, height, depth] at *
    omega
  | .unary .negate operand => Nat.le_succ_of_le operand.longestRun_le_height
  | .call _ arguments => longestRunOfAll_le arguments
  | .array rows => longestRunOfRows_le rows
  | .number _ | .text _ | .boolean _ | .error _ | .cell _ | .range _ | .name _ => Nat.le_refl 0

theorem longestRunOfAll_le : (exprs : List Expr) → longestRunOfAll exprs ≤ depthOfAll 1 exprs
  | [] => Nat.le_refl 0
  | expr :: rest => by
    have first := expr.longestRun_le_height
    have others := longestRunOfAll_le rest
    simp only [longestRunOfAll, height, depthOfAll] at *
    omega

theorem longestRunOfRows_le :
    (rows : List (List Expr)) → longestRunOfRows rows ≤ depthOfRows 1 rows
  | [] => Nat.le_refl 0
  | row :: rest => by
    have first := longestRunOfAll_le row
    have others := longestRunOfRows_le rest
    simp only [longestRunOfRows, depthOfRows] at *
    omega

end

theorem height_succ_le {length : Nat} {expr : Expr} (within : expr.longestRun < length)
    (le : expr.height ≤ expr.run + expr.nesting * length) :
    expr.height + 1 ≤ (expr.nesting + 1) * length := by
  have run := expr.run_le_longestRun
  rw [Nat.succ_mul]
  omega

mutual

/-- The height is made up of the run at the top and of steps of nesting with a run behind each. -/
theorem height_le {length : Nat} : (expr : Expr) → expr.longestRun < length →
    expr.height ≤ expr.run + expr.nesting * length
  | .binary op left right, within => by
    simp only [longestRun, Nat.max_lt] at within
    have inLeft := left.height_le within.2.1
    have inRight := height_succ_le within.2.2 (right.height_le within.2.2)
    simp only [height, nesting, depth, run, Nat.add_zero, ← Nat.mul_max_mul_right] at *
    omega
  | .span left right, within => by
    simp only [longestRun, Nat.max_lt] at within
    have inLeft := height_succ_le within.1 (left.height_le within.1)
    have inRight := height_succ_le within.2 (right.height_le within.2)
    simp only [height, nesting, depth, run, Nat.succ_mul, ← Nat.mul_max_mul_right] at *
    omega
  | .unary .percent operand, within => by
    simp only [longestRun, Nat.max_lt] at within
    have inside := operand.height_le within.2
    simp only [height, nesting, depth, run, Nat.add_zero] at *
    omega
  | .unary .negate operand, within => by
    have within : operand.longestRun < length := within
    have inside := height_succ_le within (operand.height_le within)
    exact Nat.le_trans inside (Nat.le_add_left _ _)
  | .call _ arguments, within => Nat.le_trans (depthOfAll_le arguments within) (Nat.le_add_left _ _)
  | .array rows, within => Nat.le_trans (depthOfRows_le rows within) (Nat.le_add_left _ _)
  | .number _, _ | .text _, _ | .boolean _, _ | .error _, _ | .cell _, _ | .range _, _
  | .name _, _ => Nat.zero_le _

theorem depthOfAll_le {length : Nat} : (exprs : List Expr) → longestRunOfAll exprs < length →
    depthOfAll 1 exprs ≤ depthOfAll 0 exprs * length
  | [], _ => Nat.zero_le _
  | expr :: rest, within => by
    simp only [longestRunOfAll, Nat.max_lt] at within
    have first := height_succ_le within.1 (expr.height_le within.1)
    have others := depthOfAll_le rest within.2
    simp only [depthOfAll, height, nesting, ← Nat.mul_max_mul_right] at *
    omega

theorem depthOfRows_le {length : Nat} : (rows : List (List Expr)) →
    longestRunOfRows rows < length → depthOfRows 1 rows ≤ depthOfRows 0 rows * length
  | [], _ => Nat.zero_le _
  | row :: rest, within => by
    simp only [longestRunOfRows, Nat.max_lt] at within
    have first := depthOfAll_le row within.1
    have others := depthOfRows_le rest within.2
    simp only [depthOfRows, ← Nat.mul_max_mul_right] at *
    omega

end

end Expr

namespace Grammar

/-- The steps of nesting that an expression of the category may have beyond those that it takes
levels for. -/
def Category.surplus : Category → Nat
  | .operand => 0
  | .power => 0
  | .chain .products => 1
  | .chain .sums => 2
  | .chain .joins => 3
  | .chain .comparisons => 4
  | .primary => 5
  | .range => 6

theorem Chain.surplus_parts (chain : Chain) :
    chain.parts.surplus + 1 = (Category.chain chain).surplus := by
  cases chain <;> rfl

theorem nesting_underPercents (count : Nat) (operand : Expr) :
    (underPercents count operand).nesting = operand.nesting := by
  induction count generalizing operand with
  | zero => rfl
  | succ count ih => exact ih (.unary .percent operand)

mutual

/-- Each level of nesting is worth six steps of depth: from an operator of each of the four chains
to its right operand, into a call or a table, and into a range. -/
theorem Derives.nesting_le : Derives category tokens tree need →
    tree.nesting + 5 ≤ 6 * need + category.surplus
  | .part only => by
    rw [← Chain.surplus_parts]
    exact Nat.le_succ_of_le only.nesting_le
  | .chain left sign right => by
    have first := left.nesting_le
    have second := right.nesting_le
    simp only [Expr.nesting, Expr.depth, ← Chain.surplus_parts] at *
    omega
  | .base only => only.nesting_le
  | .power base exponent => by
    have first := base.nesting_le
    have second := exponent.nesting_le
    simp only [Expr.nesting, Expr.depth, Category.surplus] at *
    omega
  | .negated inner => by
    have inside := inner.nesting_le
    simp only [Expr.nesting, Expr.depth, Category.surplus] at *
    omega
  | .signed inner => by
    have inside := inner.nesting_le
    omega
  | .percents count inner => by
    have inside := inner.nesting_le
    rw [nesting_underPercents]
    simp only [Category.surplus] at *
    omega
  | .single only => Nat.le_succ_of_le only.nesting_le
  | .corners _ _ => Nat.le_add_left_of_le (Nat.le_succ 5)
  | .span left right _ => by
    have first := left.nesting_le
    have second := right.nesting_le
    simp only [Expr.nesting, Expr.depth, Category.surplus] at *
    omega
  | .number _ | .text _ | .boolean _ | .error _ | .cell _ | .name _ => Nat.le_refl 5
  | .emptyCall _ | .emptyTable => Nat.le_refl 5
  | .call _ arguments => arguments.nesting_le
  | .group inner => Nat.le_succ_of_le inner.nesting_le
  | .table rows => rows.nesting_le

theorem Lists.nesting_le : Lists tokens trees need →
    Expr.depthOfAll 0 trees + 5 ≤ 6 * need + 5
  | .last only => by
    have first := only.nesting_le
    simp only [Expr.nesting, Expr.depthOfAll, Category.surplus] at *
    omega
  | .more first others => by
    have one := first.nesting_le
    have rest := others.nesting_le
    simp only [Expr.nesting, Expr.depthOfAll, Category.surplus] at *
    omega

theorem Stacks.nesting_le : Stacks tokens rows need →
    Expr.depthOfRows 0 rows + 5 ≤ 6 * need + 5
  | .last only => by
    have row := only.nesting_le
    simp only [Expr.depthOfRows] at *
    omega
  | .more first below => by
    have row := first.nesting_le
    have rest := below.nesting_le
    simp only [Expr.depthOfRows] at *
    omega

end

end Grammar

namespace Expr

open Grammar

/-- So many ones behind the first, with plus signs between them. -/
def ones : Nat → List Char
  | 0 => ['1']
  | count + 1 => ones count ++ ['+', '1']

theorem exists_ones (count : Nat) : ∃ tokens tree need, Cuts (ones count) tokens ∧
    Derives (.chain .sums) tokens tree need ∧ need ≤ 1 ∧ tree.height = count := by
  have decimal : Token.DecimalText ['1'] := .whole (by decide) (by decide)
  obtain ⟨x, scan⟩ := Token.scan_number decimal
  have cuts : Cuts ['1'] [.number x] :=
    ⟨fun rest stopped => scan rest stopped.apart, decimal.endsVisibly⟩
  have derived : Derives (.chain .products) [.number x] (.number x) 1 :=
    .part (.base (.percents 0 (.single (.number x))))
  induction count with
  | zero => exact ⟨_, _, _, cuts, .part derived, Nat.le_refl 1, rfl⟩
  | succ count ih =>
    obtain ⟨tokens, tree, need, before, left, small, height⟩ := ih
    refine ⟨_, _, _, before.join rfl (by decide) cuts, .chain left .add derived,
      Nat.max_le.mpr ⟨small, Nat.le_refl 1⟩, ?_⟩
    simp only [Expr.height, depth] at height ⊢
    omega

theorem parse_ones (count : Nat) :
    ∃ tree, parse (String.ofList ('=' :: ones count)) = .ok tree ∧ tree.height = count := by
  obtain ⟨tokens, tree, need, cuts, derived, small, height⟩ := exists_ones count
  have whole : Derives .whole tokens tree need := .part (.part derived)
  exact ⟨tree, cuts.parse whole (Nat.le_trans small (by decide)), height⟩

theorem nesting_lt {formula : String} {tree : Expr} (accepted : parse formula = .ok tree) :
    tree.nesting < 6 * nestingLimit := by
  obtain ⟨need, derived, bound⟩ := ofTokens_eq_ok_iff.mp (parse_ok_iff_ofTokens.mp accepted)
  have nesting := derived.nesting_le
  simp only [Category.surplus] at nesting
  omega

/-- The height of a formula is at least its longest run, and smaller than the limit times the length
of a run with the step behind it. -/
theorem height_within {formula : String} {tree : Expr} (accepted : parse formula = .ok tree) :
    tree.longestRun ≤ tree.height ∧ tree.height < 6 * nestingLimit * (tree.longestRun + 1) := by
  have nesting := nesting_lt accepted
  have height := tree.height_le (Nat.lt_add_one tree.longestRun)
  have run := tree.run_le_longestRun
  refine ⟨tree.longestRun_le_height, ?_⟩
  calc tree.height
      < (tree.nesting + 1) * (tree.longestRun + 1) := by rw [Nat.succ_mul]; omega
    _ ≤ 6 * nestingLimit * (tree.longestRun + 1) := Nat.mul_le_mul_right _ nesting

/-- The height of texts of a kind has a limit just if the runs of operators and percent signs in them
have one, for all other steps have a limit in every formula. The runs of all formulas have none. -/
theorem height_bounds (texts : String → Prop) :
    ((∃ bound, ∀ formula tree, texts formula → parse formula = .ok tree → tree.height ≤ bound) ↔
      ∃ bound, ∀ formula tree, texts formula → parse formula = .ok tree → tree.longestRun ≤ bound) ∧
    (∀ formula tree, parse formula = .ok tree →
      tree.nesting < 6 * nestingLimit ∧ tree.longestRun ≤ tree.height ∧
        tree.height < 6 * nestingLimit * (tree.longestRun + 1)) ∧
    ∀ bound, ∃ formula tree, parse formula = .ok tree ∧ bound < tree.height := by
  refine ⟨⟨?_, ?_⟩, fun _ _ accepted => ⟨nesting_lt accepted, height_within accepted⟩, ?_⟩
  · rintro ⟨bound, within⟩
    refine ⟨bound, fun formula tree listed accepted => ?_⟩
    exact Nat.le_trans (height_within accepted).1 (within formula tree listed accepted)
  · rintro ⟨bound, within⟩
    refine ⟨6 * nestingLimit * (bound + 1), fun formula tree listed accepted => ?_⟩
    have run := within formula tree listed accepted
    calc tree.height
        ≤ 6 * nestingLimit * (tree.longestRun + 1) := Nat.le_of_lt (height_within accepted).2
      _ ≤ 6 * nestingLimit * (bound + 1) := Nat.mul_le_mul_left _ (Nat.succ_le_succ run)
  · intro bound
    obtain ⟨tree, accepted, height⟩ := parse_ones (bound + 1)
    exact ⟨_, tree, accepted, by omega⟩

/-- Two thousand ones, joined by plus signs, are higher than any formula without runs. All texts
together have no limit. -/
theorem height_bounds_ones :
    (∃ tree, parse (String.ofList ('=' :: ones 1999)) = .ok tree ∧ 6 * nestingLimit < tree.height ∧
      tree.nesting < 6 * nestingLimit ∧ tree.height < 6 * nestingLimit * (tree.longestRun + 1)) ∧
    ¬ ∃ bound, ∀ formula tree, parse formula = .ok tree → tree.longestRun ≤ bound := by
  obtain ⟨bounded_iff, within, unbounded⟩ := height_bounds fun _ => True
  constructor
  · obtain ⟨tree, accepted, height⟩ := parse_ones 1999
    obtain ⟨nesting, _, below⟩ := within _ tree accepted
    refine ⟨tree, accepted, ?_, nesting, below⟩
    rw [height]
    decide
  · rintro ⟨bound, limit⟩
    obtain ⟨most, heights⟩ := bounded_iff.mpr ⟨bound, fun formula tree _ => limit formula tree⟩
    obtain ⟨formula, tree, accepted, higher⟩ := unbounded most
    exact absurd (heights formula tree trivial accepted) (Nat.not_le_of_lt higher)

end Expr

end PhraseSheet
