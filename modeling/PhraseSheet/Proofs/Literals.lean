import PhraseSheet.Proofs.Exchange
import PhraseSheet.Proofs.ReadingBack

namespace PhraseSheet

open Grammar

private theorem denotes_of_writes {context : Context} {text : List Char} {x : Float}
    (writes : Writes text x) : Denotes context .primary 0 text (.number x) :=
  .number writes.decimal ((Token.read?_eq_readMagnitude? writes.decimal).trans writes.reads)

theorem denotes_numberText {context : Context} {x : Float} (finite : x.isFinite)
    (notNegativeZero : x ≠ -0.0) :
    Denotes context .operand 2 (numberText x).toList (.number x) := by
  have text : (numberText x).toList = valueLayout.write x := String.toList_ofList
  rw [text]
  rcases write_of_isFinite finite notNegativeZero with writes | ⟨body, y, same, writes, rfl⟩
  · exact (denotes_of_writes writes).operand.weaken (by decide)
  · rw [same]
    exact (denotes_of_writes writes).operand.negated

private theorem denotes_truthText (context : Context) (truth : Bool) :
    Denotes context .operand 2 (Value.truthText truth).toList (.boolean truth) := by
  have isWord : IsWord (Value.truthText truth).toList := by cases truth <;> decide
  have becomes : Token.nameOf (Value.truthText truth).toList [] = .boolean truth := by
    cases truth <;> rfl
  have primary : Denotes context .primary 1 (Value.truthText truth).toList _ :=
    isWord.denotes becomes (.boolean truth)
  exact primary.operand

namespace Value

/-- A text, a truth value, or a finite number other than negative zero, which is written without its
sign. -/
def IsLiteral : Value → Prop
  | .number x => x.isFinite ∧ x ≠ -0.0
  | .text _ | .boolean _ => True
  | .error _ | .array _ | .empty => False

/-- Literals are written, and what is written denotes them. -/
theorem IsLiteral.denotes {value : Value} (isLiteral : value.IsLiteral) :
    ∃ text, value.literal? = some text ∧
      ∀ context, Denotes context .operand 2 text.toList value := by
  cases value with
  | number x => exact ⟨_, rfl, fun _ => denotes_numberText isLiteral.1 isLiteral.2⟩
  | text content =>
    refine ⟨_, rfl, fun context => ?_⟩
    have primary : Denotes context .primary 1 (quotedLiteral content).toList _ := .quoted content
    exact primary.operand
  | boolean truth => exact ⟨_, rfl, fun context => denotes_truthText context truth⟩
  | error | array | empty => exact absurd isLiteral id

/-- Behind an equals sign, what is written for a literal is read as an expression that has its value
in every context. A text is scanned as a single token up to its closing quote, whatever other than a
quote stands behind it. -/
theorem literal?_readsBack (value : Value) (isLiteral : value.IsLiteral) :
    ∃ text, value.literal? = some text ∧
      (∃ tree, Expr.parse ("=" ++ text) = .ok tree ∧ ∀ context, tree.evaluate context = value) ∧
      ∀ content, value = .text content → ∃ more, text.toList = '"' :: more ∧
        ∀ rest : List Char, (∀ c ∈ rest.head?, c ≠ '"') →
          (Token.scanFrom '"' (more ++ rest)).1 = .text content ∧
          (Token.scanFrom '"' (more ++ rest)).2.val = rest := by
  obtain ⟨text, written, denotes⟩ := isLiteral.denotes
  have formula : "=" ++ text = String.ofList ('=' :: text.toList) := by simp
  have hasValue : ∀ context, HasValue context ("=" ++ text) value := by
    intro context
    rw [formula, (denotes context).product.sum.whole.hasValue_iff (by decide)]
  refine ⟨text, written, ?_, ?_⟩
  · obtain ⟨tree, read, _⟩ := hasValue (.ofList [])
    refine ⟨tree, read, fun context => ?_⟩
    obtain ⟨other, readAgain, same⟩ := hasValue context
    cases read.symm.trans readAgain
    exact same
  · rintro content rfl
    cases written
    exact Token.scanFrom_quotedLiteral content

/-- A text that starts and ends with quotes, and a negative number. -/
theorem literal?_readsBack_quotes :
    (∃ text, literal? (.text "\"a\"\"") = some text ∧
      ∃ tree, Expr.parse ("=" ++ text) = .ok tree ∧
        ∀ context, tree.evaluate context = .text "\"a\"\"") ∧
    ∃ text, literal? (.number (-0.5)) = some text ∧
      ∃ tree, Expr.parse ("=" ++ text) = .ok tree ∧
        ∀ context, tree.evaluate context = .number (-0.5) := by
  have isNumber : IsLiteral (.number (-0.5)) := by
    change Float.isFinite (-0.5) = true ∧ (-0.5 : Float) ≠ -0.0
    decide +kernel
  obtain ⟨text, written, value, _⟩ := literal?_readsBack (.text "\"a\"\"") trivial
  obtain ⟨number, numberWritten, numberValue, _⟩ := literal?_readsBack (.number (-0.5)) isNumber
  exact ⟨⟨text, written, value⟩, number, numberWritten, numberValue⟩

end Value

end PhraseSheet
