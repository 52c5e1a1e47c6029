/-! What a reader leaves of its input. Every reader returns less than it was given, so loops over
readers end. -/

namespace PhraseSheet

/-- A list shorter than the given one: what is left after something was read. -/
abbrev Remainder {α : Type u} (input : List α) := { rest : List α // rest.length < input.length }

/-- A list no longer than the given one: what is left after something optional was read. -/
abbrev Leftover {α : Type u} (input : List α) := { rest : List α // rest.length ≤ input.length }

namespace Leftover

variable {α : Type u} {input : List α}

def whole (input : List α) : Leftover input := ⟨input, Nat.le_refl _⟩

/-- What is left behind the items at the start that are to be dropped. -/
def dropping (drop : α → Bool) (input : List α) : Leftover input :=
  ⟨input.dropWhile drop, (List.dropWhile_sublist drop).length_le⟩

end Leftover

namespace Remainder

variable {α : Type u} {input : List α}

/-- What is left after one item was read. -/
def tail (head : α) (rest : List α) : Remainder (head :: rest) := ⟨rest, Nat.lt_succ_self _⟩

/-- What is left of a remainder is a remainder of the whole input. -/
def beyond (outer : Remainder input) (inner : Remainder outer.val) : Remainder input :=
  ⟨inner.val, Nat.lt_trans inner.property outer.property⟩

/-- What something optional leaves of a remainder is a remainder of the whole input. -/
def upTo (outer : Remainder input) (inner : Leftover outer.val) : Remainder input :=
  ⟨inner.val, Nat.lt_of_le_of_lt inner.property outer.property⟩

/-- A remainder of something no longer than the input is a remainder of the input. -/
def within (outer : Leftover input) (inner : Remainder outer.val) : Remainder input :=
  ⟨inner.val, Nat.lt_of_lt_of_le inner.property outer.property⟩

def toLeftover (outer : Remainder input) : Leftover input :=
  ⟨outer.val, Nat.le_of_lt outer.property⟩

/-- What is left behind the first item of a remainder. -/
def next (outer : Remainder input) {head : α} {rest : List α} (starts : outer.val = head :: rest) :
    Remainder input :=
  ⟨rest, by have := outer.property; rw [starts, List.length_cons] at this; omega⟩

end Remainder

end PhraseSheet
