import PhraseSheet.Intent.Detection
import PhraseSheet.Proofs.Faults
import PhraseSheet.Proofs.Spelling

namespace PhraseSheet

open Grammar

theorem toList_intercalate_cons (sign first : String) (others : List String) :
    (sign.intercalate (first :: others)).toList =
      first.toList ++ others.flatMap fun other => sign.toList ++ other.toList := by
  induction others generalizing first with
  | nil => simp
  | cons second others ih =>
    rw [String.intercalate_cons_cons, String.toList_append, String.toList_append, ih]
    simp

/-- The operands behind the first, each with the sign in front of it. -/
def behindSign (sign : Char) (others : List String) : List Char :=
  others.flatMap fun other => sign :: other.toList

section

variable {first : String} {others : List String}

theorem Spells.chained (c : Char) {chain : Chain} {token : Token} {op : Operator}
    (sign : Token.sign? c = some token) (writes : Writes chain token op) (stop : c ∈ stopSigns)
    (single : ∀ text, Spells .operand 2 text → Spells chain.parts 2 text)
    (operands : ∀ other ∈ others, IsOperand other.toList) {text : List Char}
    (start : Spells (.chain chain) 2 text) :
    Spells (.chain chain) 2 (text ++ behindSign c others) := by
  induction others generalizing text with
  | nil => simpa [behindSign] using start
  | cons other others ih =>
    have next := start.join sign writes stop (single _ (operands other List.mem_cons_self).spells)
    have whole := ih (fun later member => operands later (List.mem_cons_of_mem _ member)) next
    simpa [behindSign] using whole

theorem spellsList_operands (operand : IsOperand first.toList)
    (operands : ∀ other ∈ others, IsOperand other.toList) :
    SpellsList 2 (first.toList ++ behindSign ',' others) := by
  induction others generalizing first with
  | nil => simpa [behindSign] using operand.spells.whole.last
  | cons other others ih =>
    have rest := ih (operands other List.mem_cons_self)
      fun later member => operands later (List.mem_cons_of_mem _ member)
    simpa [behindSign] using rest.more operand.spells.whole

end

/-- A composed formula has a sign between its operands or is a call on a list of them. -/
theorem toList_compose (operation : Operation) (first : String) (others : List String) :
    (∃ sign ∈ ['+', '-', '*', '/'], (Intent.compose operation (first :: others)).1.toList =
      '=' :: (first.toList ++ behindSign sign others)) ∨
    (Intent.compose operation (first :: others)).1.toList =
      '=' :: (operation.name.toList ++
        '(' :: ((first.toList ++ behindSign ',' others) ++ [')'])) := by
  have text : ∀ sign : Char, ∀ word : String, word.toList = [sign] →
      (word.intercalate (first :: others)).toList = first.toList ++ behindSign sign others := by
    intro sign word single
    rw [toList_intercalate_cons, single]
    rfl
  cases operation
  case add => exact .inl ⟨'+', by decide, by simp [Intent.compose, Operation.sign?, text '+']⟩
  case subtract =>
    exact .inl ⟨'-', by decide, by simp [Intent.compose, Operation.sign?, text '-']⟩
  case multiply =>
    exact .inl ⟨'*', by decide, by simp [Intent.compose, Operation.sign?, text '*']⟩
  case divide => exact .inl ⟨'/', by decide, by simp [Intent.compose, Operation.sign?, text '/']⟩
  all_goals
    refine .inr ?_
    simp [Intent.compose, Operation.sign?, text ',']

theorem Operation.isWord_name (operation : Operation) : IsWord operation.name.toList := by
  cases operation <;> decide

theorem compose_spells (operation : Operation) {first : String} {others : List String}
    (operand : IsOperand first.toList) (operands : ∀ other ∈ others, IsOperand other.toList) :
    ∃ body, (Intent.compose operation (first :: others)).1.toList = '=' :: body ∧
      Spells .whole 3 body := by
  rcases toList_compose operation first others with ⟨sign, listed, text⟩ | text
  · refine ⟨_, text, ?_⟩
    have product := operand.spells.factor
    simp only [List.mem_cons, List.not_mem_nil, or_false] at listed
    rcases listed with rfl | rfl | rfl | rfl
    · have sum := Spells.chained '+' rfl .add (by decide) (fun _ => Spells.factor) operands
        product.term
      exact (sum.weaken (by decide)).total
    · have sum := Spells.chained '-' rfl .subtract (by decide) (fun _ => Spells.factor) operands
        product.term
      exact (sum.weaken (by decide)).total
    · have whole := Spells.chained '*' rfl .multiply (by decide) (fun _ => Spells.power) operands
        product
      exact (whole.weaken (by decide)).term.total
    · have whole := Spells.chained '/' rfl .divide (by decide) (fun _ => Spells.power) operands
        product
      exact (whole.weaken (by decide)).term.total
  · have list := spellsList_operands operand operands
    exact ⟨_, text, ((list.call operation.isWord_name).range.operand).whole⟩

namespace Fault

theorem hasDoubled_apart {d : Char} (single : d ≠ '/' ∧ d ≠ '*') (c : Char) (rest : List Char) :
    hasDoubled (c :: d :: rest) = hasDoubled (d :: rest) := by
  rw [hasDoubled.eq_def]
  split <;> simp_all

theorem find_eq_nil {formula : String} {body : List Char} (text : formula.toList = '=' :: body)
    (balanced : isBalanced false 0 body = true) (single : hasDoubled body = false)
    (ends : EndsVisibly body) (any : body ≠ [])
    (last : ∀ c ∈ body.getLast?, isOperator c = false) : find formula = [] := by
  have balancedWhole : isBalanced false 0 ('=' :: body) = true :=
    (@isBalanced_append 0 ['='] (by decide) body).trans balanced
  have singleWhole : hasDoubled ('=' :: body) = false := (hasDoubled_cons (by decide) body).trans single
  have trimmed : Text.trimEnd ('=' :: body) = '=' :: body := (ends.cons (by decide)).trimEnd_eq
  have lastWhole : ('=' :: body).getLast?.any isOperator = false := by
    rw [List.getLast?_cons_of_ne_nil any]
    cases found : body.getLast? with
    | none => rfl
    | some c => exact last c found
  simp [find, text, balancedWhole, singleWhole, trimmed, lastWhole]

end Fault

section

variable {first : String} {others : List String} {sign : Char}

theorem ne_of_mem_behindSign (operand : IsOperand first.toList)
    (operands : ∀ other ∈ others, IsOperand other.toList) {d : Char}
    (other : isMagnitudeChar d = false) (noMinus : d ≠ '-') (noSign : d ≠ sign) :
    ∀ c ∈ first.toList ++ behindSign sign others, c ≠ d := by
  have apart : ∀ {text : List Char}, IsOperand text → d ∉ text := by
    intro text operand member
    rcases operand.chars d member with magnitude | minus
    · simp [other] at magnitude
    · exact noMinus minus
  rintro c member rfl
  rcases List.mem_append.mp member with inFirst | behind
  · exact apart operand inFirst
  · obtain ⟨word, present, inside⟩ := List.mem_flatMap.mp behind
    rcases List.mem_cons.mp inside with same | inOther
    · exact noSign same
    · exact apart (operands word present) inOther

theorem not_isOperator_of_isMagnitudeChar {c : Char} (plain : isMagnitudeChar c) :
    Fault.isOperator c = false := by
  cases operator : Fault.isOperator c with
  | false => rfl
  | true =>
    simp only [Fault.isOperator, Bool.or_eq_true, beq_iff_eq] at operator
    rcases operator with ((rfl | rfl) | rfl) | rfl <;> exact absurd plain (by decide)

theorem not_isBlank_of_isMagnitudeChar {c : Char} (plain : isMagnitudeChar c) :
    Text.isBlank c = false := by
  rcases Bool.or_eq_true_iff.mp plain with alphanumeric | point
  · exact not_isBlank_of_isAlphanum alphanumeric
  · rw [beq_iff_eq.mp point]
    decide

theorem last_behindSign (operand : IsOperand first.toList)
    (operands : ∀ other ∈ others, IsOperand other.toList) :
    ∀ c ∈ (first.toList ++ behindSign sign others).getLast?, isMagnitudeChar c := by
  induction others generalizing first with
  | nil => simpa [behindSign] using operand.last
  | cons other others ih =>
    have rest := ih (operands other List.mem_cons_self)
      fun later member => operands later (List.mem_cons_of_mem _ member)
    have same : (first.toList ++ behindSign sign (other :: others)).getLast? =
        (other.toList ++ behindSign sign others).getLast? := by
      have any := (operands other List.mem_cons_self).ne_nil
      have split : first.toList ++ behindSign sign (other :: others) =
          (first.toList ++ [sign]) ++ (other.toList ++ behindSign sign others) := by
        simp [behindSign]
      rw [split, List.getLast?_append]
      cases last : (other.toList ++ behindSign sign others).getLast? with
      | none => simp [any] at last
      | some c => rfl
    rw [same]
    exact rest

theorem hasDoubled_behindSign (operand : IsOperand first.toList)
    (operands : ∀ other ∈ others, IsOperand other.toList) :
    Fault.hasDoubled (first.toList ++ behindSign sign others) = false := by
  have plain : ∀ {text : List Char}, IsOperand text → ∀ c ∈ text, c ≠ '/' ∧ c ≠ '*' := by
    intro text operand c member
    have inside := operand.chars c member
    constructor <;> rintro rfl <;> exact absurd inside (by decide)
  induction others generalizing first with
  | nil => exact Fault.hasDoubled_append (plain operand) []
  | cons other others ih =>
    have next := operands other List.mem_cons_self
    have rest := ih next fun later member => operands later (List.mem_cons_of_mem _ member)
    obtain ⟨d, more, starts⟩ := List.exists_cons_of_ne_nil next.ne_nil
    have single := plain next d (by simp [starts])
    rw [starts, List.cons_append] at rest
    rw [Fault.hasDoubled_append (plain operand), behindSign, List.flatMap_cons, starts,
      List.cons_append, List.cons_append, Fault.hasDoubled_apart single]
    exact rest

private theorem signed_faultless {formula : String} (listed : sign ∈ ['+', '-', '*', '/'])
    (operand : IsOperand first.toList) (operands : ∀ other ∈ others, IsOperand other.toList)
    (text : formula.toList = '=' :: (first.toList ++ behindSign sign others)) :
    Fault.find formula = [] ∧ Fault.hasMarker formula.toList = false := by
  have apart : ∀ s ∈ ['+', '-', '*', '/'], '"' ≠ s ∧ '(' ≠ s ∧ ')' ≠ s ∧ '$' ≠ s := by decide
  obtain ⟨noQuote, noOpening, noClosing, noDollar⟩ := apart sign listed
  have plain : ∀ {d : Char}, isMagnitudeChar d = false → d ≠ '-' → d ≠ sign →
      ∀ c ∈ first.toList ++ behindSign sign others, c ≠ d :=
    ne_of_mem_behindSign operand operands
  have last : ∀ c ∈ (first.toList ++ behindSign sign others).getLast?, isMagnitudeChar c :=
    last_behindSign operand operands
  constructor
  · refine Fault.find_eq_nil text ?_ (hasDoubled_behindSign operand operands) ?_ ?_ ?_
    · rw [← List.append_nil (first.toList ++ behindSign sign others)]
      refine Fault.isBalanced_append ?_ []
      intro c member
      exact ⟨plain (by decide) (by decide) noQuote c member,
        plain (by decide) (by decide) noOpening c member,
        plain (by decide) (by decide) noClosing c member⟩
    · exact fun c found => not_isBlank_of_isMagnitudeChar (last c found)
    · simp [operand.ne_nil]
    · exact fun c found => not_isOperator_of_isMagnitudeChar (last c found)
  · rw [text]
    apply Fault.hasMarker_of_plain
    intro c member
    rcases List.mem_cons.mp member with rfl | inside
    · decide
    · exact plain (by decide) (by decide) noDollar c inside

private theorem called_faultless {formula : String} {function : List Char}
    (isWord : IsWord function) (operand : IsOperand first.toList)
    (operands : ∀ other ∈ others, IsOperand other.toList)
    (text : formula.toList = '=' ::
      (function ++ '(' :: ((first.toList ++ behindSign ',' others) ++ [')']))) :
    Fault.find formula = [] ∧ Fault.hasMarker formula.toList = false := by
  have listPlain : ∀ {d : Char}, isMagnitudeChar d = false → d ≠ '-' → d ≠ ',' →
      ∀ c ∈ first.toList ++ behindSign ',' others, c ≠ d :=
    ne_of_mem_behindSign operand operands
  have functionPlain : ∀ {d : Char}, isMagnitudeChar d = false → ∀ c ∈ function, c ≠ d := by
    rintro d other c member rfl
    simp [isMagnitudeChar, isWord.isAlphanum c member] at other
  have plain : ∀ {d : Char}, isMagnitudeChar d = false → d ∉ ['-', ',', '(', ')'] →
      ∀ c ∈ function ++ '(' :: ((first.toList ++ behindSign ',' others) ++ [')']), c ≠ d := by
    intro d other noSign c member
    simp only [List.mem_cons, List.not_mem_nil, or_false, not_or] at noSign
    obtain ⟨noMinus, noComma, noOpening, noClosing⟩ := noSign
    rcases List.mem_append.mp member with inFunction | behind
    · exact functionPlain other c inFunction
    · rcases List.mem_cons.mp behind with rfl | inside
      · exact Ne.symm noOpening
      · rcases List.mem_append.mp inside with inList | closing
        · exact listPlain other noMinus noComma c inList
        · rw [List.mem_singleton.mp closing]
          exact Ne.symm noClosing
  constructor
  · have closing : ∀ rest : List Char, (function ++ '(' :: (rest ++ [')'])).getLast? = some ')' := by
      intro rest
      rw [← List.cons_append, ← List.append_assoc, List.getLast?_concat]
    refine Fault.find_eq_nil text ?_ ?_ ?_ (by simp) ?_
    · rw [Fault.isBalanced_append]
      · refine (Fault.isBalanced_append ?_ [')']).trans rfl
        intro c member
        exact ⟨listPlain (by decide) (by decide) (by decide) c member,
          listPlain (by decide) (by decide) (by decide) c member,
          listPlain (by decide) (by decide) (by decide) c member⟩
      · intro c member
        exact ⟨functionPlain (by decide) c member, functionPlain (by decide) c member,
          functionPlain (by decide) c member⟩
    · rw [← List.append_nil (function ++ _)]
      refine Fault.hasDoubled_append ?_ []
      intro c member
      exact ⟨plain (by decide) (by decide) c member, plain (by decide) (by decide) c member⟩
    · have closed := endsVisibly_concat (c := ')') (by decide)
        (function ++ '(' :: (first.toList ++ behindSign ',' others))
      simpa using closed
    · intro c found
      rw [closing] at found
      cases found
      decide
  · rw [text]
    apply Fault.hasMarker_of_plain
    intro c member
    rcases List.mem_cons.mp member with rfl | inside
    · decide
    · exact plain (by decide) (by decide) c inside

end

/-- Composed formulas have no fault, and no slot stays open in them. -/
theorem compose_faultless (operation : Operation) {first : String} {others : List String}
    (operand : IsOperand first.toList) (operands : ∀ other ∈ others, IsOperand other.toList) :
    Fault.find (Intent.compose operation (first :: others)).1 = [] ∧
      Fault.hasMarker (Intent.compose operation (first :: others)).1.toList = false := by
  rcases toList_compose operation first others with ⟨sign, listed, text⟩ | text
  · exact signed_faultless listed operand operands text
  · exact called_faultless operation.isWord_name operand operands text

end PhraseSheet
