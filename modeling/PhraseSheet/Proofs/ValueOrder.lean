import Mathlib
import PhraseSheet.Formula.Evaluate

namespace PhraseSheet

namespace Binary

open Float.Model UnpackedFloat

/-- The rank of a number: its side of zero, with what is infinite outermost, then its exponent and
its significand, which count backwards below zero. -/
abbrev Rank := ℤ ×ₗ ℤ ×ₗ ℤ

def Rank.of (side exponent significand : ℤ) : Rank := toLex (side, toLex (exponent, significand))

theorem Rank.of_lt_of {side exponent significand otherSide otherExponent otherSignificand : ℤ} :
    Rank.of side exponent significand < Rank.of otherSide otherExponent otherSignificand ↔
      side < otherSide ∨ side = otherSide ∧
        (exponent < otherExponent ∨ exponent = otherExponent ∧ significand < otherSignificand) := by
  simp [Rank.of, Prod.Lex.toLex_lt_toLex]

/-- An undefined number has no rank. -/
def rankOf? : UnpackedFloat → Option Rank
  | .notANumber => none
  | .infinity .negative => some (.of (-2) 0 0)
  | .finite .negative significand exponent _ => some (.of (-1) (-exponent) (-significand))
  | .zero _ => some (.of 0 0 0)
  | .finite .positive significand exponent _ => some (.of 1 exponent significand)
  | .infinity .positive => some (.of 2 0 0)

theorem compare_eq_lt_iff {one other : UnpackedFloat} {rank otherRank : Rank}
    (ranked : rankOf? one = some rank) (otherRanked : rankOf? other = some otherRank) :
    UnpackedFloat.compare one other = some .lt ↔ rank < otherRank := by
  have signs : compare Sign.negative Sign.positive = .lt := rfl
  rcases one with (_ | _) | _ | _ | ⟨(_ | _), significand, exponent, _⟩ <;> cases ranked <;>
    rcases other with (_ | _) | _ | _ | ⟨(_ | _), otherSignificand, otherExponent, _⟩ <;>
      cases otherRanked <;> refine Iff.trans ?_ Rank.of_lt_of.symm <;>
      simp [UnpackedFloat.compare, signs, Ordering.then_eq_lt, Ordering.then_eq_gt,
        Ordering.swap_eq_lt, Int.compare_eq_lt, Int.compare_eq_gt, Nat.compare_eq_lt,
        Nat.compare_eq_gt]

def rank? (x : Float) : Option Rank := rankOf? x.toModel.unpack

theorem lt_iff_rank {x y : Float} {rank otherRank : Rank} (ranked : rank? x = some rank)
    (otherRanked : rank? y = some otherRank) : x < y ↔ rank < otherRank :=
  calc x < y
    _ ↔ x.toModel < y.toModel := decide_eq_true_iff
    _ ↔ UnpackedFloat.compare x.toModel.unpack y.toModel.unpack = some .lt := beq_iff_eq
    _ ↔ rank < otherRank := compare_eq_lt_iff ranked otherRanked

theorem exists_rank {x : Float} (defined : x.isNaN = false) : ∃ rank, rank? x = some rank := by
  change x.toModel.unpack.isNaN = false at defined
  unfold rank?
  generalize x.toModel.unpack = number at *
  rcases number with (_ | _) | _ | _ | ⟨_ | _, _, _, _⟩
  case notANumber => cases defined
  all_goals exact ⟨_, rfl⟩

end Binary

namespace Value

/-- The rank of a value: numbers in front of texts in front of truth values. -/
abbrev Rank := Binary.Rank ⊕ₗ List Char ⊕ₗ Bool

/-- The rank of a value. An empty value has that of zero, a text that of its lower case. Undefined
numbers, errors and tables have none. -/
def rank? : Value → Option Rank
  | .number x => (Binary.rank? x).map fun rank => Sum.inlₗ rank
  | .text content => some (Sum.inrₗ (Sum.inlₗ (Text.lower content.toList)))
  | .boolean truth => some (Sum.inrₗ (Sum.inrₗ truth))
  | .empty => (Binary.rank? 0).map fun rank => Sum.inlₗ rank
  | .error _ | .array _ => none

theorem compareFloats_compares {x y : Float} {rank otherRank : Binary.Rank}
    (ranked : Binary.rank? x = some rank) (otherRanked : Binary.rank? y = some otherRank) :
    (compareFloats x y).Compares rank otherRank := by
  have before := Binary.lt_iff_rank ranked otherRanked
  have behind := Binary.lt_iff_rank otherRanked ranked
  unfold compareFloats
  split
  · rename_i less
    exact before.mp less
  · rename_i notLess
    split
    · rename_i greater
      exact behind.mp greater
    · rename_i notGreater
      rw [before] at notLess
      rw [behind] at notGreater
      exact le_antisymm (not_lt.mp notGreater) (not_lt.mp notLess)

theorem compareChars_compares (left right : List Char) :
    (compareChars left right).Compares left right := by
  induction left generalizing right with
  | nil =>
    cases right with
    | nil => exact rfl
    | cons b right => exact List.nil_lt_cons b right
  | cons a left ih =>
    cases right with
    | nil => exact List.nil_lt_cons a left
    | cons b right =>
      rw [compareChars]
      split
      · rename_i before
        exact List.cons_lt_cons_iff.mpr (.inl before)
      · rename_i notBefore
        split
        · rename_i behind
          exact List.cons_lt_cons_iff.mpr (.inl behind)
        · rename_i notBehind
          obtain rfl : a = b := le_antisymm (not_lt.mp notBehind) (not_lt.mp notBefore)
          have rest := ih right
          cases order : compareChars left right <;> rw [order] at rest
          · exact List.cons_lt_cons_iff.mpr (.inr ⟨rfl, rest⟩)
          · exact congrArg (a :: ·) rest
          · exact List.cons_lt_cons_iff.mpr (.inr ⟨rfl, rest⟩)

theorem compare_toNat_compares (left right : Bool) :
    (compare left.toNat right.toNat).Compares left right := by
  cases left <;> cases right
  · exact rfl
  · exact Bool.false_lt_true
  · exact Bool.false_lt_true
  · exact rfl

/-- What counts as a value with a rank is a number, a text or a truth value. -/
theorem filled_cases {value : Value} {rank : Rank} (ranked : value.rank? = some rank) :
    (∃ x place, value.filled = .number x ∧ Binary.rank? x = some place ∧ rank = Sum.inlₗ place) ∨
      (∃ content, value.filled = .text content ∧
        rank = Sum.inrₗ (Sum.inlₗ (Text.lower content.toList))) ∨
      ∃ truth, value.filled = .boolean truth ∧ rank = Sum.inrₗ (Sum.inrₗ truth) := by
  cases value with
  | number x =>
    obtain ⟨place, found, rfl⟩ := Option.map_eq_some_iff.mp ranked
    exact .inl ⟨x, place, rfl, found, rfl⟩
  | empty =>
    rw [rank?] at ranked
    obtain ⟨place, found, rfl⟩ := Option.map_eq_some_iff.mp ranked
    exact .inl ⟨0, place, rfl, found, rfl⟩
  | text content => exact .inr (.inl ⟨content, rfl, (Option.some.inj ranked).symm⟩)
  | boolean truth => exact .inr (.inr ⟨truth, rfl, (Option.some.inj ranked).symm⟩)
  | error cause => cases ranked
  | array rows => cases ranked

theorem order_compares {left right : Value} {rank otherRank : Rank}
    (ranked : left.rank? = some rank) (otherRanked : right.rank? = some otherRank) :
    (left.order right).Compares rank otherRank := by
  unfold order
  rcases filled_cases ranked with ⟨x, place, same, found, rfl⟩ | ⟨content, same, rfl⟩ |
      ⟨truth, same, rfl⟩ <;>
    rcases filled_cases otherRanked with ⟨y, otherPlace, otherSame, otherFound, rfl⟩ |
      ⟨other, otherSame, rfl⟩ | ⟨otherTruth, otherSame, rfl⟩ <;>
    rw [same, otherSame]
  · exact Sum.Lex.inl_strictMono.compares.mpr (compareFloats_compares found otherFound)
  · exact Sum.Lex.inl_lt_inr _ _
  · exact Sum.Lex.inl_lt_inr _ _
  · exact Sum.Lex.inl_lt_inr _ _
  · exact Sum.Lex.inr_strictMono.compares.mpr
      (Sum.Lex.inl_strictMono.compares.mpr (compareChars_compares _ _))
  · exact Sum.Lex.inr_lt_inr_iff.mpr (Sum.Lex.inl_lt_inr _ _)
  · exact Sum.Lex.inl_lt_inr _ _
  · exact Sum.Lex.inr_lt_inr_iff.mpr (Sum.Lex.inl_lt_inr _ _)
  · exact Sum.Lex.inr_strictMono.compares.mpr
      (Sum.Lex.inr_strictMono.compares.mpr (compare_toNat_compares _ _))

/-- The values that have a place in the order: defined numbers, texts, truth values and what is
empty. -/
inductive IsScalar : Value → Prop where
  | number (defined : x.isNaN = false) : IsScalar (.number x)
  | text (content : String) : IsScalar (.text content)
  | boolean (truth : Bool) : IsScalar (.boolean truth)
  | empty : IsScalar .empty

namespace IsScalar

variable {value left right : Value}

theorem exists_rank (isScalar : value.IsScalar) : ∃ rank, value.rank? = some rank := by
  cases isScalar with
  | number defined =>
    obtain ⟨place, found⟩ := Binary.exists_rank defined
    exact ⟨Sum.inlₗ place, by rw [rank?, found]; rfl⟩
  | text content => exact ⟨_, rfl⟩
  | boolean truth => exact ⟨_, rfl⟩
  | empty =>
    obtain ⟨place, found⟩ : ∃ place, Binary.rank? 0 = some place := Binary.exists_rank rfl
    exact ⟨Sum.inlₗ place, by rw [rank?, found]; rfl⟩

theorem error?_eq_none (isScalar : value.IsScalar) : value.error? = none := by
  cases isScalar <;> rfl

theorem order_swap (leftScalar : left.IsScalar) (rightScalar : right.IsScalar) :
    right.order left = (left.order right).swap := by
  obtain ⟨rank, ranked⟩ := leftScalar.exists_rank
  obtain ⟨otherRank, otherRanked⟩ := rightScalar.exists_rank
  exact (order_compares otherRanked ranked).inj
    (Ordering.compares_swap.mpr (order_compares ranked otherRanked))

end IsScalar

/-- The place of the kind of a value among the kinds. What is empty is a number. -/
def kindPlace : Value → ℕ
  | .number _ | .empty => 0
  | .text _ => 1
  | .boolean _ => 2
  | .error _ => 3
  | .array _ => 4

theorem IsScalar.order_eq_lt {left right : Value} (leftScalar : left.IsScalar)
    (rightScalar : right.IsScalar) (earlier : left.kindPlace < right.kindPlace) :
    left.order right = .lt := by
  cases leftScalar <;> cases rightScalar <;> first | rfl | simp [kindPlace] at earlier

end Value

namespace Comparison

/-- One of three comparisons holds, whichever the order is. -/
theorem existsUnique_holds (order : Ordering) :
    ∃! op, op ∈ [less, equal, greater] ∧ holds op order = true := by
  cases order
  · exact ⟨.less, by decide, fun op held => by cases op <;> simp [holds] at held ⊢⟩
  · exact ⟨.equal, by decide, fun op held => by cases op <;> simp [holds] at held ⊢⟩
  · exact ⟨.greater, by decide, fun op held => by cases op <;> simp [holds] at held ⊢⟩

theorem holds_greater_swap (order : Ordering) : holds .greater order.swap = holds .less order := by
  cases order <;> rfl

theorem holds_lessOrEqual_iff {α : Type} [Preorder α] {order : Ordering} {x y : α}
    (compares : order.Compares x y) :
    holds .lessOrEqual order = true ↔ x ≤ y := by
  rw [← compares.ne_gt, holds, bne_iff_ne]

end Comparison

namespace Expr

open Value

/-- The value of the comparison of two expressions. -/
def compared (context : Context) (op : Comparison) (left right : Expr) : Value :=
  (Expr.binary (.comparison op) left right).evaluate context

variable {context : Context} {one other third : Expr}

theorem compared_eq_apply (context : Context) (op : Comparison) (left right : Expr) :
    compared context op left right =
      (Operator.comparison op).apply (left.evaluate context) (right.evaluate context) :=
  rfl

theorem compared_eq (oneScalar : (one.evaluate context).IsScalar)
    (otherScalar : (other.evaluate context).IsScalar) (op : Comparison) :
    compared context op one other =
      .boolean (op.holds ((one.evaluate context).order (other.evaluate context))) := by
  simp only [compared_eq_apply, Operator.apply, oneScalar.error?_eq_none,
    otherScalar.error?_eq_none, Operator.applyPlain]

/-- What is at most a value that is at most a third is at most the third. -/
theorem compared_trans (oneScalar : (one.evaluate context).IsScalar)
    (otherScalar : (other.evaluate context).IsScalar)
    (thirdScalar : (third.evaluate context).IsScalar)
    (first : compared context .lessOrEqual one other = .boolean true)
    (second : compared context .lessOrEqual other third = .boolean true) :
    compared context .lessOrEqual one third = .boolean true := by
  obtain ⟨p, ranked⟩ := oneScalar.exists_rank
  obtain ⟨q, otherRanked⟩ := otherScalar.exists_rank
  obtain ⟨r, thirdRanked⟩ := thirdScalar.exists_rank
  rw [compared_eq oneScalar otherScalar, Value.boolean.injEq,
    Comparison.holds_lessOrEqual_iff (order_compares ranked otherRanked)] at first
  rw [compared_eq otherScalar thirdScalar, Value.boolean.injEq,
    Comparison.holds_lessOrEqual_iff (order_compares otherRanked thirdRanked)] at second
  rw [compared_eq oneScalar thirdScalar, Value.boolean.injEq,
    Comparison.holds_lessOrEqual_iff (order_compares ranked thirdRanked)]
  exact first.trans second

/-- What is empty compares as zero does. -/
theorem compared_empty (isEmpty : one.evaluate context = .empty) (op : Comparison)
    (other : Expr) :
    compared context op one other = compared context op (.number 0) other ∧
      compared context op other one = compared context op other (.number 0) := by
  have zero : (Expr.number 0).evaluate context = .number 0 := rfl
  simp only [compared_eq_apply, isEmpty, zero, Operator.apply]
  exact ⟨rfl, by cases (other.evaluate context).error? <;> rfl⟩

/-- Comparisons put the values of expressions in a total order, up to the case of texts and empty
values for zero: numbers in front of texts in front of truth values. -/
theorem compared_preorder (oneScalar : (one.evaluate context).IsScalar)
    (otherScalar : (other.evaluate context).IsScalar)
    (thirdScalar : (third.evaluate context).IsScalar) :
    (∃ truth : Comparison → Bool, (∀ op, compared context op one other = .boolean (truth op)) ∧
        (∃! op, op ∈ [Comparison.less, .equal, .greater] ∧ truth op = true) ∧
        truth .lessOrEqual = !truth .greater ∧ truth .greaterOrEqual = !truth .less ∧
        truth .notEqual = !truth .equal) ∧
      compared context .less one other = compared context .greater other one ∧
      (compared context .lessOrEqual one other = .boolean true →
        compared context .lessOrEqual other third = .boolean true →
        compared context .lessOrEqual one third = .boolean true) ∧
      ((one.evaluate context).kindPlace < (other.evaluate context).kindPlace →
        compared context .less one other = .boolean true) ∧
      (one.evaluate context = .empty → ∀ op,
        compared context op one other = compared context op (.number 0) other ∧
          compared context op other one = compared context op other (.number 0)) := by
  refine ⟨?truth, ?converse, ?transitive, ?kinds, ?empty⟩
  case truth =>
    exact ⟨fun op => op.holds _, compared_eq oneScalar otherScalar,
      Comparison.existsUnique_holds _, rfl, rfl, rfl⟩
  case converse =>
    rw [compared_eq oneScalar otherScalar, compared_eq otherScalar oneScalar,
      oneScalar.order_swap otherScalar, Comparison.holds_greater_swap]
  case transitive => exact compared_trans oneScalar otherScalar thirdScalar
  case kinds =>
    intro earlier
    rw [compared_eq oneScalar otherScalar, oneScalar.order_eq_lt otherScalar earlier]
    rfl
  case empty => exact fun isEmpty op => compared_empty isEmpty op other

/-- An empty value in front of a text in front of a truth value. -/
theorem compared_preorder_blank :
    let context : Context := ⟨[("blank", .empty), ("word", .text "Đơn")], by decide⟩
    compared context .less (.name "blank") (.name "word") = .boolean true ∧
      compared context .lessOrEqual (.name "blank") (.boolean false) = .boolean true ∧
      compared context .equal (.name "blank") (.name "word") =
        compared context .equal (.number 0) (.name "word") := by
  intro context
  have blank : (Expr.name "blank").evaluate context = .empty := rfl
  have blankScalar : ((Expr.name "blank").evaluate context).IsScalar := .empty
  have wordScalar : ((Expr.name "word").evaluate context).IsScalar := .text "Đơn"
  have truthScalar : ((Expr.boolean false).evaluate context).IsScalar := .boolean false
  obtain ⟨_, _, transitive, kinds, counts⟩ := compared_preorder blankScalar wordScalar truthScalar
  exact ⟨kinds Nat.zero_lt_one, transitive rfl rfl, (counts blank .equal).1⟩

end Expr

end PhraseSheet
