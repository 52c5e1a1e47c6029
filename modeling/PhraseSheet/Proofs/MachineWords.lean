import Mathlib.Algebra.Group.Nat.Defs

/-! Arithmetic in words of so many bits. A sum, difference or product is there only if its number
has a place in the word, so a computation that goes beyond its words comes to nothing. One that
refines a computation on numbers stays within them and says what that one says. -/

namespace PhraseSheet

namespace MachineWord

variable {bits places : Nat} {x y : BitVec bits}

def plus? (x y : BitVec bits) : Option (BitVec bits) :=
  if x.uaddOverflow y then none else some (x + y)

def minus? (x y : BitVec bits) : Option (BitVec bits) :=
  if x.usubOverflow y then none else some (x - y)

def times? (x y : BitVec bits) : Option (BitVec bits) :=
  if x.umulOverflow y then none else some (x * y)

/-- The word of a number, if it has a place in it. -/
def ofNat? (number : Nat) : Option (BitVec bits) :=
  if fits : number < 2 ^ bits then some (BitVec.ofNatLT number fits) else none

def lesser (x y : BitVec bits) : BitVec bits := if x.toNat ≤ y.toNat then x else y

def greater (x y : BitVec bits) : BitVec bits := if x.toNat ≤ y.toNat then y else x

theorem plus?_eq_some (fits : x.toNat + y.toNat < 2 ^ bits) :
    plus? x y = some (BitVec.ofNatLT (x.toNat + y.toNat) fits) := by
  have within : ¬ x.uaddOverflow y := by simpa [BitVec.uaddOverflow] using fits
  rw [plus?, if_neg within]
  exact congrArg some (BitVec.eq_of_toNat_eq (BitVec.toNat_add_of_not_uaddOverflow within))

theorem minus?_eq_some (le : y.toNat ≤ x.toNat) :
    minus? x y = some (BitVec.ofNatLT (x.toNat - y.toNat) (Nat.sub_lt_of_lt x.isLt)) := by
  have within : ¬ x.usubOverflow y := by simpa [BitVec.usubOverflow] using le
  rw [minus?, if_neg within]
  exact congrArg some (BitVec.eq_of_toNat_eq (BitVec.toNat_sub_of_not_usubOverflow within))

theorem times?_eq_some (fits : x.toNat * y.toNat < 2 ^ bits) :
    times? x y = some (BitVec.ofNatLT (x.toNat * y.toNat) fits) := by
  have within : ¬ x.umulOverflow y := by simpa [BitVec.umulOverflow] using fits
  rw [times?, if_neg within]
  exact congrArg some (BitVec.eq_of_toNat_eq (BitVec.toNat_mul_of_not_umulOverflow within))

theorem setWidth_eq (fits : x.toNat < 2 ^ places) :
    x.setWidth places = BitVec.ofNatLT x.toNat fits := by
  apply BitVec.eq_of_toNat_eq
  rw [BitVec.toNat_setWidth, Nat.mod_eq_of_lt fits]
  rfl

theorem toNat_widened (narrow : bits ≤ places) {a : Nat} (value : x.toNat = a) :
    (x.setWidth places).toNat = a :=
  (BitVec.toNat_setWidth_of_le narrow).trans value

/-- A product has a place in a word of the bits of both. -/
theorem product_lt (x : BitVec bits) (y : BitVec places) :
    x.toNat * y.toNat < 2 ^ (bits + places) := by
  rw [Nat.pow_add]
  exact Nat.mul_lt_mul'' x.isLt y.isLt

/-- The computation stays within its words and gives the number. -/
def Gives (computed? : Option (BitVec bits)) (number : Nat) : Prop :=
  ∃ x, computed? = some x ∧ x.toNat = number

namespace Gives

variable {number result a b : Nat}

theorem plus (fits : a + b < 2 ^ bits) (left : x.toNat = a) (right : y.toNat = b) :
    Gives (plus? x y) (a + b) := by
  subst left right
  exact ⟨_, plus?_eq_some fits, rfl⟩

theorem minus (le : b ≤ a) (left : x.toNat = a) (right : y.toNat = b) :
    Gives (minus? x y) (a - b) := by
  subst left right
  exact ⟨_, minus?_eq_some le, rfl⟩

theorem times (fits : a * b < 2 ^ bits) (left : x.toNat = a) (right : y.toNat = b) :
    Gives (times? x y) (a * b) := by
  subst left right
  exact ⟨_, times?_eq_some fits, rfl⟩

theorem bind {computed? : Option (BitVec bits)} {after : BitVec bits → Option (BitVec places)}
    (first : Gives computed? number) (rest : ∀ x, x.toNat = number → Gives (after x) result) :
    Gives (computed? >>= after) result := by
  obtain ⟨x, computed, value⟩ := first
  rw [computed]
  exact rest x value

end Gives

@[simp] theorem toNat_lesser : (lesser x y).toNat = min x.toNat y.toNat := by
  rw [lesser, Nat.min_def, apply_ite BitVec.toNat]

@[simp] theorem toNat_greater : (greater x y).toNat = max x.toNat y.toNat := by
  rw [greater, Nat.max_def, apply_ite BitVec.toNat]

end MachineWord

/-- The words are enough for what the numbers say: the result is that of the numbers, packed, and a
failure is the same failure. -/
def Refines {ε α β : Type} (words : ExceptT ε Option β) (numbers : Except ε α) (pack : α → β) :
    Prop :=
  words.run = some (numbers.map pack)

namespace Refines

variable {ε ε' α α' β β' : Type} {words : ExceptT ε Option β} {numbers : Except ε α} {pack : α → β}
  {wordsAfter : β → ExceptT ε Option β'} {numbersAfter : α → Except ε α'} {packAfter : α' → β'}

theorem pure (x : α) : Refines (Pure.pure (pack x) : ExceptT ε Option β) (Pure.pure x) pack := rfl

theorem bind (first : Refines words numbers pack)
    (after : ∀ x, numbers = .ok x → Refines (wordsAfter (pack x)) (numbersAfter x) packAfter) :
    Refines (words >>= wordsAfter) (numbers >>= numbersAfter) packAfter := by
  unfold Refines at *
  rw [ExceptT.run_bind, first]
  cases numbers with
  | error failure => rfl
  | ok x => exact after x rfl

theorem step {computed? : Option β} {x : β} {numbers : Except ε α'} (computed : computed? = some x)
    (after : Refines (wordsAfter x) numbers packAfter) :
    Refines ((liftM computed? : ExceptT ε Option β) >>= wordsAfter) numbers packAfter := by
  rw [computed]
  exact after

theorem check {condition : Prop} [Decidable condition] {failure : ε}
    {wordsThen : PUnit → ExceptT ε Option β} {numbersThen : PUnit → Except ε α}
    (passes : ¬ condition → Refines words numbers pack) :
    Refines (if condition then MonadExcept.throw failure >>= wordsThen else words)
      (if condition then MonadExcept.throw failure >>= numbersThen else numbers) pack := by
  split
  · rfl
  · exact passes ‹_›

/-- A bound that both check, and that the numbers carry along. -/
theorem bounded {condition : Prop} [Decidable condition] {failure : ε}
    {numbersIf : condition → Except ε α}
    (inside : ∀ holds, Refines words (numbersIf holds) pack) :
    Refines (if condition then words else MonadExcept.throw failure)
      (if holds : condition then numbersIf holds else .error failure) pack := by
  split
  · exact inside ‹_›
  · rfl

theorem mapError {rephrase : ε → ε'} (refines : Refines words numbers pack) :
    Refines (words.adapt rephrase) (numbers.mapError rephrase) pack := by
  unfold Refines at *
  rw [ExceptT.run_adapt, refines]
  cases numbers <;> rfl

end Refines

end PhraseSheet
