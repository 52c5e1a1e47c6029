import Mathlib
import PhraseSheet.Proofs.Calls
import PhraseSheet.Proofs.DecimalReading

/-! What the aggregates visit. They see the cells of the tables among their arguments, and pass over a
table that stands in a cell. So they visit every value at the leaves of their arguments just if what
stands in such inner tables makes no difference. -/

namespace PhraseSheet

namespace Binary

theorem isBinary_ofNat {count : ℕ} (any : 0 < count) (few : count < 2 ^ 53) :
    ∃ significand exponent, IsBinary (Float.ofNat count) .positive significand exponent ∧
      (significand : ℚ) * 2 ^ exponent = count := by
  obtain ⟨significand, exponent, whole, _, value⟩ := isBinary_toFloat any few
  let number : Decimal.Digits := ⟨count, 0⟩
  have rounds : RoundsTo (count : ℚ) significand exponent := value ▸ roundsTo_self _ _
  have written : (count : ℚ) = number.digits * 10 ^ number.exponent := by simp [number]
  have low : -(2 ^ 11 + (number.digits.log2 : ℤ)) ≤ number.exponent := by
    simp only [number]
    omega
  have high : number.exponent ≤ 2 ^ 11 := by simp [number]
  exact ⟨significand, exponent,
    isBinary_ofScientific rounds whole.canonical whole.most any.ne' written low high, value⟩

theorem ofNat_inj {one other : ℕ} (oneFew : one < 2 ^ 53) (otherFew : other < 2 ^ 53)
    (same : Float.ofNat one = Float.ofNat other) : one = other := by
  have notZero : ∀ count : ℕ, 0 < count → count < 2 ^ 53 → Float.ofNat 0 ≠ Float.ofNat count := by
    intro count any few nothing
    have zero : (Float.ofNat 0).toModel.unpack = .zero .positive := rfl
    obtain ⟨significand, exponent, binary, _⟩ := isBinary_ofNat any few
    rw [← nothing] at binary
    cases zero.symm.trans binary.unpacked
  rcases Nat.eq_zero_or_pos one with rfl | any
  · rcases Nat.eq_zero_or_pos other with rfl | otherAny
    · rfl
    · exact absurd same (notZero other otherAny otherFew)
  · rcases Nat.eq_zero_or_pos other with rfl | otherAny
    · exact absurd same.symm (notZero one any oneFew)
    · obtain ⟨significand, exponent, binary, value⟩ := isBinary_ofNat any oneFew
      obtain ⟨otherSignificand, otherExponent, otherBinary, otherValue⟩ :=
        isBinary_ofNat otherAny otherFew
      rw [← same] at otherBinary
      cases binary.unpacked.symm.trans otherBinary.unpacked
      exact_mod_cast value.symm.trans otherValue

end Binary

namespace Value

mutual

/-- The values of a value that hold no others, from the left and row by row: those at any depth of a
table, else the value itself. -/
def leaves : Value → List Value
  | .array rows => leavesOfRows rows
  | value => [value]

def leavesOfRow : List Value → List Value
  | [] => []
  | cell :: rest => leaves cell ++ leavesOfRow rest

def leavesOfRows : List (List Value) → List Value
  | [] => []
  | row :: rest => leavesOfRow row ++ leavesOfRows rest

end

theorem leavesOfRow_eq (row : List Value) : leavesOfRow row = row.flatMap leaves := by
  induction row with
  | nil => rfl
  | cons cell rest ih => rw [leavesOfRow, List.flatMap_cons, ih]

theorem leaves_array (rows : List (List Value)) :
    leaves (.array rows) = rows.flatten.flatMap leaves := by
  rw [leaves]
  induction rows with
  | nil => rfl
  | cons row rest ih =>
    rw [leavesOfRows, List.flatten_cons, List.flatMap_append, leavesOfRow_eq, ih]

theorem leaves_of_scalar {value : Value} (scalar : value.isArray = false) :
    value.leaves = [value] := by
  cases value with
  | array rows => cases scalar
  | _ => rfl

def number? : Value → Option Float
  | .number x => some x
  | _ => none

theorem number?_of_isArray {value : Value} (table : value.isArray) : value.number? = none := by
  cases value with
  | array rows => rfl
  | _ => cases table

theorem error?_of_isArray {value : Value} (table : value.isArray) : value.error? = none := by
  cases value with
  | array rows => rfl
  | _ => cases table

end Value

namespace Function

/-- All values at the leaves of the arguments, from the left and row by row. -/
def leaves (arguments : List Value) : List Value := arguments.flatMap Value.leaves

/-- The leaves that stand in the arguments themselves or in their rows. -/
def seen (arguments : List Value) : List Value := (scalars arguments).filter fun cell => !cell.isArray

/-- The leaves of the tables that stand in the rows of the arguments. -/
def hidden (arguments : List Value) : List Value :=
  ((scalars arguments).filter Value.isArray).flatMap Value.leaves

theorem leaves_eq (arguments : List Value) :
    leaves arguments = (scalars arguments).flatMap Value.leaves := by
  rw [leaves, scalars, List.flatMap_assoc]
  congr 1
  funext argument
  cases argument with
  | array rows => exact Value.leaves_array rows
  | _ => rfl

/-- Every leaf is seen or hidden. -/
theorem leaves_perm (arguments : List Value) :
    (leaves arguments).Perm (seen arguments ++ hidden arguments) := by
  have parts := (List.filter_append_perm Value.isArray (scalars arguments)).symm.trans
    List.perm_append_comm
  have scalar : (seen arguments).flatMap Value.leaves = seen arguments := by
    conv_rhs => rw [← List.flatMap_singleton' (seen arguments)]
    apply List.flatMap_congr
    intro cell member
    exact Value.leaves_of_scalar (by simpa using (List.mem_filter.mp member).2)
  have spread := parts.flatMap_right Value.leaves
  rw [List.flatMap_append, ← leaves_eq] at spread
  change (leaves arguments).Perm ((seen arguments).flatMap Value.leaves ++ hidden arguments) at spread
  rwa [scalar] at spread

/-- The numbers are those of the values, unless one of them is an error: then the first one is
given. -/
theorem numbers_eq (values : List Value) :
    numbers values = match values.findSome? Value.error? with
      | some cause => .error cause
      | none => .ok (values.filterMap Value.number?) := by
  induction values with
  | nil => rfl
  | cons value rest ih =>
    cases value with
    | number x =>
      rw [numbers, ih, List.findSome?_cons, List.filterMap_cons]
      dsimp only [Value.error?, Value.number?]
      cases rest.findSome? Value.error? <;> rfl
    | error cause => rfl
    | _ =>
      rw [numbers, ih]
      · rfl
      all_goals simp

/-- The functions whose result is made of the numbers among the values. -/
inductive Aggregate where
  | sum
  | average
  | minimum
  | maximum
  | count

namespace Aggregate

def name : Aggregate → String
  | .sum => "SUM"
  | .average => "AVERAGE"
  | .minimum => "MIN"
  | .maximum => "MAX"
  | .count => "COUNT"

def apply : Aggregate → List Value → Value
  | .sum => Function.sum
  | .average => Function.average
  | .minimum => Function.minimum
  | .maximum => Function.maximum
  | .count => Function.count

def combine : Aggregate → List Float → Value
  | .sum, terms => .number (Function.total terms)
  | .average, [] => .error .divisionByZero
  | .average, terms => .number (Function.total terms / Float.ofNat terms.length)
  | .minimum, terms => .number (Function.combined Function.lesser terms)
  | .maximum, terms => .number (Function.combined Function.greater terms)
  | .count, terms => .number (Float.ofNat terms.length)

/-- The result on leaves: the first error among them, and if there is none what the numbers among
them combine to. Only counting passes over errors. -/
def ofLeaves (aggregate : Aggregate) (leaves : List Value) : Value :=
  match aggregate, leaves.findSome? Value.error? with
  | .count, _ | _, none => aggregate.combine (leaves.filterMap Value.number?)
  | _, some cause => .error cause

theorem filterMap_scalars {α : Type} {read? : Value → Option α}
    (skips : ∀ value, value.isArray → read? value = none) (values : List Value) :
    (values.filter fun value => !value.isArray).filterMap read? = values.filterMap read? := by
  rw [List.filterMap_filter]
  congr 1
  funext value
  by_cases table : value.isArray
  · simp [table, skips value table]
  · simp [table]

theorem ofLeaves_scalars (aggregate : Aggregate) (values : List Value) :
    aggregate.ofLeaves (values.filter fun value => !value.isArray) = aggregate.ofLeaves values := by
  unfold ofLeaves
  simp only [← List.head?_filterMap, filterMap_scalars fun _ => Value.error?_of_isArray,
    filterMap_scalars fun _ => Value.number?_of_isArray]

theorem apply_eq_settled {aggregate : Aggregate} (noCount : aggregate ≠ .count)
    (arguments : List Value) : aggregate.apply arguments =
      settled ((numbers (scalars arguments)).map aggregate.combine) := by
  cases aggregate with
  | average =>
    have same : (fun terms : List Float => if terms.isEmpty then Value.error .divisionByZero
        else .number (total terms / Float.ofNat terms.length)) = combine .average := by
      funext terms
      cases terms <;> rfl
    rw [apply, Function.average, same]
  | count => exact absurd rfl noCount
  | _ => rfl

/-- An aggregate is made of the leaves that it sees. -/
theorem apply_eq (aggregate : Aggregate) (arguments : List Value) :
    aggregate.apply arguments = aggregate.ofLeaves (seen arguments) := by
  rw [seen, ofLeaves_scalars]
  by_cases isCount : aggregate = .count
  · subst isCount
    have counted : ((scalars arguments).filterMap Value.number?).length =
        ((scalars arguments).filter fun value => value.number?.isSome).length := by
      rw [List.length_filterMap_eq_countP, List.countP_eq_length_filter]
    rw [apply, Function.count, ofLeaves, combine, counted]
    congr 4
    funext value
    cases value <;> rfl
  · rw [apply_eq_settled isCount, numbers_eq]
    unfold ofLeaves
    cases (scalars arguments).findSome? Value.error? with
    | some cause =>
      cases aggregate with
      | count => exact absurd rfl isCount
      | _ => rfl
    | none => cases aggregate <;> rfl

/-- Each aggregate gives what the leaves of the arguments, at any depth, are to give. -/
def VisitsLeaves (arguments : List Value) : Prop :=
  ∀ aggregate : Aggregate, aggregate.apply arguments = aggregate.ofLeaves (leaves arguments)

/-- The hidden leaves make no difference: none is a number, and the first error of all leaves is that
of those seen. -/
structure NothingHidden (arguments : List Value) : Prop where
  numbers : ∀ leaf ∈ hidden arguments, leaf.number? = none
  errors : (leaves arguments).findSome? Value.error? = (seen arguments).findSome? Value.error?

theorem length_numbers (arguments : List Value) :
    ((leaves arguments).filterMap Value.number?).length =
      ((seen arguments).filterMap Value.number?).length +
        ((hidden arguments).filterMap Value.number?).length := by
  rw [← List.length_append, ← List.filterMap_append]
  exact ((leaves_perm arguments).filterMap Value.number?).length_eq

theorem seen_sublist (arguments : List Value) : (seen arguments).Sublist (leaves arguments) := by
  rw [seen, leaves_eq]
  induction scalars arguments with
  | nil => exact .slnil
  | cons cell rest ih =>
    rw [List.flatMap_cons]
    by_cases table : cell.isArray
    · simpa [table] using ih.trans (List.sublist_append_right _ _)
    · have scalar : cell.isArray = false := by simpa using table
      simpa [scalar, Value.leaves_of_scalar scalar] using ih

/-- Without numbers among the hidden leaves, the numbers of all leaves are those seen. -/
theorem numbers_seen {arguments : List Value}
    (none : ((hidden arguments).filterMap Value.number?).length = 0) :
    (seen arguments).filterMap Value.number? = (leaves arguments).filterMap Value.number? := by
  apply ((seen_sublist arguments).filterMap Value.number?).eq_of_length
  rw [length_numbers, none, Nat.add_zero]

theorem NothingHidden.visitsLeaves {arguments : List Value} (nothing : NothingHidden arguments) :
    VisitsLeaves arguments := by
  intro aggregate
  have none : (hidden arguments).filterMap Value.number? = [] :=
    List.filterMap_eq_nil_iff.mpr nothing.numbers
  rw [apply_eq]
  unfold ofLeaves
  rw [nothing.errors, numbers_seen (congrArg List.length none)]

/-- Where every leaf is visited, nothing is hidden: counting tells of each hidden number, and a sum is
no error of its own. -/
theorem VisitsLeaves.nothingHidden {arguments : List Value} (visits : VisitsLeaves arguments)
    (few : (leaves arguments).length < 2 ^ 53) : NothingHidden arguments where
  numbers := by
    have counted := (apply_eq .count arguments).symm.trans (visits .count)
    have parts := length_numbers arguments
    have most := List.length_filterMap_le Value.number? (leaves arguments)
    have same := Binary.ofNat_inj (by omega) (by omega) (Value.number.inj counted)
    exact List.filterMap_eq_nil_iff.mp (List.length_eq_zero_iff.mp (by omega))
  errors := by
    have summed := (apply_eq .sum arguments).symm.trans (visits .sum)
    unfold ofLeaves at summed
    cases all : (leaves arguments).findSome? Value.error? with
    | none =>
      have noError := List.findSome?_eq_none_iff.mp all
      have noneSeen : (seen arguments).findSome? Value.error? = none :=
        List.findSome?_eq_none_iff.mpr fun leaf member =>
          noError leaf ((seen_sublist arguments).mem member)
      exact noneSeen.symm
    | some cause =>
      cases some : (seen arguments).findSome? Value.error? with
      | none =>
        rw [all, some] at summed
        cases summed
      | some other =>
        rw [all, some] at summed
        cases summed
        rfl

theorem call_name (aggregate : Aggregate) {arguments : List Value} (any : arguments ≠ []) :
    call aggregate.name arguments = .ok (aggregate.apply arguments) := by
  have listed : ⟨aggregate.name, 1, none, unfailing aggregate.apply⟩ ∈ builtins := by
    cases aggregate <;> simp [builtins, name, apply]
  have some : 1 ≤ arguments.length := List.length_pos_iff.mpr any
  exact call_of_accepts listed (accepts_iff.mpr ⟨some, nofun⟩)

/-- The aggregates are made of the leaves in their arguments and in the rows of these. That is all
leaves, at any depth, just if the tables in the rows hold no number, and no error that comes in front
of the first one seen. -/
theorem visitsLeaves_iff (arguments : List Value) :
    (∀ aggregate : Aggregate, aggregate.apply arguments = aggregate.ofLeaves (seen arguments) ∧
      (arguments ≠ [] → call aggregate.name arguments = .ok (aggregate.apply arguments))) ∧
    (NothingHidden arguments → VisitsLeaves arguments) ∧
    ((leaves arguments).length < 2 ^ 53 → VisitsLeaves arguments → NothingHidden arguments) ∧
    (∀ other, leaves other = leaves arguments → NothingHidden other → NothingHidden arguments →
      ∀ aggregate : Aggregate, aggregate.apply other = aggregate.apply arguments) := by
  refine ⟨?seen, ?visits, ?nothing, ?alike⟩
  case seen => exact fun aggregate => ⟨aggregate.apply_eq arguments, aggregate.call_name⟩
  case visits => exact NothingHidden.visitsLeaves
  case nothing => exact fun few visits => visits.nothingHidden few
  case alike =>
    intro other same nothing otherNothing aggregate
    rw [nothing.visitsLeaves aggregate, otherNothing.visitsLeaves aggregate, same]

/-- The numbers of a table in a row are not counted; the texts of one are no loss. -/
theorem visitsLeaves_tableInTable :
    let numbers : Value := .array [[.number 1, .array [[.number 2, .number 3]]]]
    let texts : Value := .array [[.number 1, .array [[.text "net", .empty]]], [.error .notAvailable]]
    call "COUNT" [numbers] = .ok (.number 1) ∧ ¬ VisitsLeaves [numbers] ∧ VisitsLeaves [texts] := by
  intro numbers texts
  obtain ⟨counted, _, nothing, _⟩ := visitsLeaves_iff [numbers]
  obtain ⟨_, visits, _⟩ := visitsLeaves_iff [texts]
  refine ⟨?_, ?_, ?_⟩
  · obtain ⟨seen, call⟩ := counted .count
    rw [seen] at call
    exact call (by simp)
  · intro all
    have few : (leaves [numbers]).length < 2 ^ 53 := by decide
    have number : Value.number 2 ∈ hidden [numbers] := by
      change Value.number 2 ∈ [Value.number 2, Value.number 3]
      simp
    cases (nothing few all).numbers _ number
  · refine visits ⟨?_, rfl⟩
    change ∀ leaf ∈ [Value.text "net", Value.empty], leaf.number? = none
    simp [Value.number?]

end Aggregate

end Function

end PhraseSheet
