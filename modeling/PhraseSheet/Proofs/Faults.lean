import Mathlib.Algebra.Group.Nat.Even
import Mathlib.Data.List.Chain
import PhraseSheet.Draft.Fault

namespace PhraseSheet.Fault

/-- The characters of a text outside quotes. -/
def unquoted (inQuotes : Bool) : List Char → List Char
  | [] => []
  | c :: rest =>
    if c = '"' then unquoted (!inQuotes) rest
    else if inQuotes then unquoted inQuotes rest
    else c :: unquoted inQuotes rest

/-- With so many parentheses open in front of it, the text closes none that is not open, and in the
end it has closed all. -/
structure Closes (depth : Nat) (text : List Char) : Prop where
  opened : ∀ front, front <+: text → front.count ')' ≤ front.count '(' + depth
  closed : text.count ')' = text.count '(' + depth

section

variable {depth : Nat} {c : Char} {text : List Char}

theorem closes_nil : Closes depth [] ↔ depth = 0 := by
  constructor
  · intro closes
    exact (Nat.zero_add depth).symm.trans closes.closed.symm
  · rintro rfl
    exact ⟨fun front isFront => by simp [List.prefix_nil.mp isFront], rfl⟩

theorem closes_cons (after : Nat) (step : depth + [c].count '(' = after + [c].count ')') :
    Closes depth (c :: text) ↔ Closes after text := by
  have counts : ∀ front : List Char,
      (c :: front).count ')' = front.count ')' + [c].count ')' ∧
        (c :: front).count '(' = front.count '(' + [c].count '(' := by
    intro front
    exact ⟨by rw [← List.singleton_append, List.count_append, Nat.add_comm],
      by rw [← List.singleton_append, List.count_append, Nat.add_comm]⟩
  constructor
  · rintro ⟨opened, closed⟩
    refine ⟨fun front isFront => ?_, ?_⟩
    · have bound := opened (c :: front) (List.cons_prefix_cons.mpr ⟨rfl, isFront⟩)
      obtain ⟨closing, opening⟩ := counts front
      omega
    · obtain ⟨closing, opening⟩ := counts text
      omega
  · rintro ⟨opened, closed⟩
    refine ⟨fun front isFront => ?_, ?_⟩
    · rcases List.prefix_cons_iff.mp isFront with rfl | ⟨rest, rfl, isRest⟩
      · exact Nat.zero_le _
      · have bound := opened rest isRest
        obtain ⟨closing, opening⟩ := counts rest
        omega
    · obtain ⟨closing, opening⟩ := counts text
      omega

theorem not_closes_closing : ¬ Closes 0 (')' :: text) := by
  intro closes
  have bound := closes.opened [')'] ⟨text, rfl⟩
  exact absurd bound (by decide)

/-- The parentheses are found balanced just if those outside quotes close each other. -/
theorem isBalanced_iff (inQuotes : Bool) (depth : Nat) (text : List Char) :
    isBalanced inQuotes depth text ↔ Closes depth (unquoted inQuotes text) := by
  induction text generalizing inQuotes depth with
  | nil => simp [isBalanced, unquoted, closes_nil]
  | cons c rest ih =>
    by_cases quote : c = '"'
    · subst quote
      exact ih (!inQuotes) depth
    · rw [isBalanced.eq_3 _ _ _ _ quote, unquoted, if_neg quote]
      cases inQuotes with
      | true => exact ih true depth
      | false =>
        simp only [Bool.false_eq_true, if_false]
        by_cases opening : c = '('
        · subst opening
          exact (ih false (depth + 1)).trans (closes_cons (depth + 1) rfl).symm
        · by_cases closing : c = ')'
          · subst closing
            cases depth with
            | zero => simp [not_closes_closing]
            | succ depth =>
              rw [closes_cons depth rfl]
              simpa using ih false depth
          · have counts : [c].count '(' = 0 ∧ [c].count ')' = 0 := by simp [opening, closing]
            rw [closes_cons depth (by rw [counts.1, counts.2])]
            simpa [opening, closing] using ih false depth

/-- Whether the text ends in quotes, where it starts in quotes or outside them. -/
def endsQuoted (inQuotes : Bool) (text : List Char) : Bool :=
  if Even (text.count '"') then inQuotes else !inQuotes

theorem endsQuoted_cons (inQuotes : Bool) (c : Char) (text : List Char) :
    endsQuoted inQuotes (c :: text) =
      if c = '"' then endsQuoted (!inQuotes) text else endsQuoted inQuotes text := by
  by_cases quote : c = '"'
  · by_cases even : Even (text.count '"') <;> simp [endsQuoted, quote, even, Nat.even_add_one]
  · simp [endsQuoted, quote]

/-- A text that closes its own parentheses leaves those in front of it to what stands behind it. -/
theorem isBalanced_closed {inQuotes : Bool} {opened : Nat} (closes : isBalanced inQuotes opened text)
    (depth : Nat) (rest : List Char) : isBalanced inQuotes (opened + depth) (text ++ rest) =
      isBalanced (endsQuoted inQuotes text) depth rest := by
  induction text generalizing inQuotes opened with
  | nil =>
    have none : opened = 0 := by simpa [isBalanced] using closes
    simp [none, endsQuoted]
  | cons c text ih =>
    rw [List.cons_append, endsQuoted_cons]
    by_cases quote : c = '"'
    · subst quote
      exact ih closes
    · rw [isBalanced.eq_3 _ _ _ _ quote] at closes ⊢
      rw [if_neg quote]
      cases inQuotes with
      | true => exact ih closes
      | false =>
        simp only [Bool.false_eq_true, if_false] at closes ⊢
        split at closes
        · rename_i opening
          rw [if_pos opening, Nat.add_right_comm]
          exact ih closes
        split at closes
        · rename_i noOpening closing
          obtain ⟨positive, closes⟩ := Bool.and_eq_true_iff.mp closes
          have positive : 0 < opened := of_decide_eq_true positive
          have later := ih closes
          rw [← Nat.sub_add_comm positive] at later
          simp [noOpening, closing, Nat.add_pos_left positive, later]
        · rename_i noOpening noClosing
          rw [if_neg noOpening, if_neg noClosing]
          exact ih closes

theorem isBalanced_append (plain : ∀ c ∈ text, c ≠ '"' ∧ c ≠ '(' ∧ c ≠ ')') (rest : List Char) :
    isBalanced false depth (text ++ rest) = isBalanced false depth rest := by
  induction text with
  | nil => rfl
  | cons c text ih =>
    obtain ⟨noQuote, noOpening, noClosing⟩ := plain c List.mem_cons_self
    have later := ih fun d member => plain d (List.mem_cons_of_mem _ member)
    rw [List.cons_append, isBalanced.eq_3 _ _ _ _ noQuote]
    simp [noOpening, noClosing, later]

theorem closes_of_plain (plain : ∀ c ∈ text, c ≠ '"' ∧ c ≠ '(' ∧ c ≠ ')') :
    Closes 0 (unquoted false text) := by
  rw [← isBalanced_iff, ← List.append_nil text, isBalanced_append plain]
  rfl

/-- What stands behind a text matters as far as it closes the parentheses left open. -/
theorem isBalanced_congr {inQuotes : Bool} {rest others : List Char}
    (same : ∀ depth, isBalanced (endsQuoted inQuotes text) depth rest =
      isBalanced (endsQuoted inQuotes text) depth others) (depth : Nat) :
    isBalanced inQuotes depth (text ++ rest) = isBalanced inQuotes depth (text ++ others) := by
  induction text generalizing inQuotes depth with
  | nil => simpa [endsQuoted] using same depth
  | cons c text ih =>
    rw [endsQuoted_cons] at same
    rw [List.cons_append, List.cons_append]
    by_cases quote : c = '"'
    · subst quote
      exact ih same depth
    · rw [if_neg quote] at same
      rw [isBalanced.eq_3 _ _ _ _ quote, isBalanced.eq_3 _ _ _ _ quote, ih same, ih same, ih same]

end

/-- Nowhere in the text the second character stands right behind the first. -/
def Lacks (first second : Char) (text : List Char) : Prop := ¬ [first, second] <:+: text

section

variable {first second c : Char} {text others : List Char}

theorem lacks_of_not_mem (absent : second ∉ text) : Lacks first second text :=
  fun neighbours => absent (neighbours.subset (by simp))

theorem lacks_iff_isChain :
    Lacks first second text ↔ text.IsChain fun c d => ¬ (c = first ∧ d = second) := by
  rw [List.isChain_iff_forall_rel_of_append_cons_cons]
  constructor
  · rintro lacks _ _ before after same ⟨rfl, rfl⟩
    exact lacks ⟨before, after, by simp [same]⟩
  · rintro apart ⟨before, after, same⟩
    exact apart (by simpa using same.symm) ⟨rfl, rfl⟩

theorem lacks_append : Lacks first second (text ++ others) ↔ Lacks first second text ∧
    Lacks first second others ∧ ¬ (text.getLast? = some first ∧ others.head? = some second) := by
  simp only [lacks_iff_isChain, List.isChain_append, Option.mem_def]
  refine and_congr_right fun _ => and_congr_right fun _ => ?_
  constructor
  · rintro apart ⟨last, head⟩
    exact apart first last second head ⟨rfl, rfl⟩
  · rintro apart _ last _ head ⟨rfl, rfl⟩
    exact apart ⟨last, head⟩

theorem lacks_cons : Lacks first second (c :: text) ↔
    Lacks first second text ∧ ¬ (c = first ∧ text.head? = some second) := by
  have single : Lacks first second [c] := lacks_iff_isChain.mpr (.singleton c)
  rw [← List.singleton_append, lacks_append]
  simp [single]

theorem hasDoubled_eq_false_iff :
    hasDoubled text = false ↔ Lacks '/' '/' text ∧ Lacks '*' '*' text := by
  induction text with
  | nil => simp [hasDoubled, Lacks]
  | cons c rest ih =>
    rw [lacks_cons, lacks_cons, and_and_and_comm, ← ih]
    rw [hasDoubled.eq_def]
    split <;> simp_all [List.head?_eq_some_iff]

theorem hasDoubled_cons (single : c ≠ '/' ∧ c ≠ '*') (rest : List Char) :
    hasDoubled (c :: rest) = hasDoubled rest := by
  rw [hasDoubled.eq_def]
  split <;> simp_all

theorem hasDoubled_append (plain : ∀ c ∈ text, c ≠ '/' ∧ c ≠ '*') (rest : List Char) :
    hasDoubled (text ++ rest) = hasDoubled rest := by
  induction text with
  | nil => rfl
  | cons c text ih =>
    rw [List.cons_append, hasDoubled_cons (plain c List.mem_cons_self)]
    exact ih fun d member => plain d (List.mem_cons_of_mem _ member)

def doubleable : List Char := ['/', '*']

theorem hasDoubled_append_eq_false_iff : hasDoubled (text ++ others) = false ↔
    hasDoubled text = false ∧ hasDoubled others = false ∧
      ∀ c ∈ doubleable, ¬ (text.getLast? = some c ∧ others.head? = some c) := by
  simp only [hasDoubled_eq_false_iff, lacks_append, doubleable, List.forall_mem_cons]
  tauto

theorem hasMarker_eq_false_iff : hasMarker text = false ↔ Lacks '$' '\x7b' text := by
  induction text with
  | nil => simp [hasMarker, Lacks]
  | cons c rest ih =>
    rw [lacks_cons, ← ih, hasMarker.eq_def]
    split <;> simp_all [List.head?_eq_some_iff]

theorem hasMarker_of_plain (plain : ∀ c ∈ text, c ≠ '$') : hasMarker text = false :=
  hasMarker_eq_false_iff.mpr fun neighbours => plain '$' (neighbours.subset (by simp)) rfl

theorem hasMarker_append (marked : hasMarker others) : hasMarker (text ++ others) := by
  by_contra unmarked
  rw [Bool.not_eq_true, hasMarker_eq_false_iff, lacks_append] at unmarked
  simp [hasMarker_eq_false_iff.mpr unmarked.2.1] at marked

end

/-- The last character that is not white space. -/
def lastVisible? (text : List Char) : Option Char :=
  (text.filter fun c => !Text.isBlank c).getLast?

theorem lastVisible?_append (text others : List Char) :
    lastVisible? (text ++ others) = (lastVisible? others).or (lastVisible? text) := by
  rw [lastVisible?, List.filter_append, List.getLast?_append]
  rfl

theorem lastVisible?_append_blank {trail : List Char} (blank : ∀ c ∈ trail, Text.isBlank c)
    (text : List Char) : lastVisible? (text ++ trail) = lastVisible? text := by
  have nothing : trail.filter (fun c => !Text.isBlank c) = [] := by
    rw [List.filter_eq_nil_iff]
    intro c member
    simp [blank c member]
  rw [lastVisible?, List.filter_append, nothing, List.append_nil]
  rfl

theorem lastVisible?_of_getLast? {c : Char} {text : List Char}
    (last : text.getLast? = some c) (visible : Text.isBlank c = false) :
    lastVisible? text = some c := by
  obtain ⟨front, rfl⟩ := List.getLast?_eq_some_iff.mp last
  rw [lastVisible?_append]
  simp [lastVisible?, visible]

theorem mem_of_lastVisible? {c : Char} {text : List Char} (last : lastVisible? text = some c) :
    c ∈ text :=
  (List.mem_filter.mp (List.mem_of_getLast? last)).1

theorem getLast?_trimEnd (text : List Char) :
    (Text.trimEnd text).getLast? = lastVisible? text := by
  have first : ∀ text : List Char, (text.dropWhile Text.isBlank).head? =
      (text.filter fun c => !Text.isBlank c).head? := by
    intro text
    induction text with
    | nil => rfl
    | cons c rest ih => cases blank : Text.isBlank c <;> simp [blank, ih]
  rw [Text.trimEnd, List.getLast?_reverse, first, List.filter_reverse, List.head?_reverse]
  rfl

/-- The signs that no formula ends in. -/
def signs : List Char := ['+', '-', '*', '/']

theorem isOperator_iff {c : Char} : isOperator c ↔ c ∈ signs := by
  simp [isOperator, signs, or_assoc]

/-- The text starts with an equals sign, its parentheses outside quotes close each other, it holds no
doubled slash or star and no open slot, and no operator ends it. -/
structure Sound (text : List Char) : Prop where
  starts : text.head? = some '='
  closes : Closes 0 (unquoted false text)
  noSlashes : Lacks '/' '/' text
  noStars : Lacks '*' '*' text
  noSlot : Lacks '$' '\x7b' text
  ends : ∀ c, lastVisible? text = some c → c ∉ signs

theorem sound_iff_checks {text : List Char} : Sound text ↔ text.head? = some '=' ∧
    isBalanced false 0 text ∧ hasDoubled text = false ∧
      (lastVisible? text).any isOperator = false ∧ hasMarker text = false := by
  have ends : (lastVisible? text).any isOperator = false ↔
      ∀ c, lastVisible? text = some c → c ∉ signs := by
    cases lastVisible? text <;> simp [← isOperator_iff]
  rw [ends, isBalanced_iff, hasDoubled_eq_false_iff, hasMarker_eq_false_iff]
  constructor
  · rintro ⟨starts, closes, noSlashes, noStars, noSlot, ends⟩
    exact ⟨starts, closes, ⟨noSlashes, noStars⟩, ends, noSlot⟩
  · rintro ⟨starts, closes, ⟨noSlashes, noStars⟩, ends, noSlot⟩
    exact ⟨starts, closes, noSlashes, noStars, noSlot, ends⟩

instance (text : List Char) : Decidable (Sound text) := decidable_of_iff _ sound_iff_checks.symm

/-- Texts without faults and without open slots are the sound ones. -/
theorem sound_iff (formula : String) :
    ((find formula).isEmpty && !hasMarker formula.toList) ↔ Sound formula.toList := by
  rw [sound_iff_checks, find, getLast?_trimEnd]
  simp [and_assoc]

end PhraseSheet.Fault
