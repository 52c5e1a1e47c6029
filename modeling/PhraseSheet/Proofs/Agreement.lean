import PhraseSheet.Conversion.Basic
import PhraseSheet.Proofs.Blankness
import PhraseSheet.Proofs.Composition
import PhraseSheet.Proofs.Confidence
import PhraseSheet.Proofs.Drafting

namespace PhraseSheet

namespace Draft

/-- A text without faults and open slots is a valid draft as it stands. -/
theorem isValid_ofFormula {formula : String} (faultless : Fault.find formula = [])
    (filled : Fault.hasMarker formula.toList = false) (description : String) :
    (ofFormula formula description []).isValid := by
  simp [ofFormula, faultless, filled]

end Draft

/-- The text starts with an equals sign and is read as an expression. -/
def IsFormula (formula : String) : Prop :=
  formula.toList.head? = some '=' ∧ ∃ tree, Expr.parse formula = .ok tree

namespace Intent

/-- An intent has a formula just if its draft is valid, and then the draft holds this formula. -/
structure Drafted (intent : Intent) : Prop where
  valid : (Draft.ofIntent .nothing intent).isValid ↔ ∃ formula, intent.formula? = some formula
  same : ∀ formula, intent.formula? = some formula →
    (Draft.ofIntent .nothing intent).formula = formula
  reads : ∀ formula, intent.formula? = some formula → IsFormula formula

theorem exists_recipe {pattern : Pattern} (listed : pattern ∈ Pattern.catalog) :
    ∃ recipe ∈ Recipe.catalog, Recipe.ofGoal? pattern.goal = some recipe := by
  have each : ∀ pattern ∈ Pattern.catalog, (Recipe.ofGoal? pattern.goal).isSome := by decide
  obtain ⟨recipe, found⟩ := Option.isSome_iff_exists.mp (each pattern listed)
  exact ⟨recipe, List.mem_of_find?_eq_some found, found⟩

theorem drafted_ofPattern {pattern : Pattern} (listed : pattern ∈ Pattern.catalog) (text : String)
    (confidence : Float) : (ofPattern (Request.ofText text) pattern confidence).Drafted := by
  obtain ⟨recipe, known, found⟩ := exists_recipe listed
  let plain := ofRequest (Request.ofText text) pattern.goal confidence pattern.description
  let draft := Draft.ofRecipe .nothing plain recipe
  have plainDrafts : Draft.ofIntent .nothing plain = draft := Draft.ofIntent_eq_ofRecipe found _
  have drafts : Draft.ofIntent .nothing (ofPattern (Request.ofText text) pattern confidence) =
      draft :=
    Draft.ofIntent_eq_ofRecipe found _
  have written : (ofPattern (Request.ofText text) pattern confidence).formula? =
      if draft.isValid then some draft.formula else none := by
    rw [ofPattern, plainDrafts]
  have reads : draft.isValid → IsFormula draft.formula :=
    Draft.parse_ofRecipe (spoken_ofRequest text pattern.goal confidence pattern.description) known
  by_cases valid : draft.isValid
  · rw [if_pos valid] at written
    have only : ∀ formula, some draft.formula = some formula → draft.formula = formula :=
      fun _ => Option.some.inj
    constructor
    · rw [drafts, written]
      exact ⟨fun _ => ⟨_, rfl⟩, fun _ => valid⟩
    · rw [drafts, written]
      exact only
    · rw [written]
      intro formula same
      rw [← only formula same]
      exact reads valid
  · rw [if_neg valid] at written
    constructor
    · rw [drafts, written]
      exact ⟨fun claimed => absurd claimed valid, by simp⟩
    · simp [written]
    · simp [written]

theorem isOperand_of_mem_operands {text : String} {goal : Goal} {confidence : Float}
    {description operand : String}
    (member : operand ∈
      (ofRequest (Request.ofText text) goal confidence description).operands) :
    IsOperand operand.toList := by
  unfold operands at member
  split at member
  · obtain ⟨x, _, rfl⟩ := List.mem_map.mp member
    exact numberText_isOperand x
  · exact ((spoken_ofRequest text goal confidence description).fields operand member).isOperand

theorem sure_compose (operation : Operation) (operands : List String) :
    leastConfidence ≤ (compose operation operands).2 ∧
      ¬(compose operation operands).2 < leastConfidence := by
  have given : (compose operation operands).2 ∈ [(0.5 : Float), 0.4] := by
    cases operation <;> simp [compose, Operation.sign?]
  have high : ∀ confidence ∈ [(0.5 : Float), 0.4],
      leastConfidence ≤ confidence ∧ ¬confidence < leastConfidence := by
    decide +kernel
  exact high _ given

/-- Either the intent holds a formula of its own that has no fault and is read, or it is unknown. -/
theorem ofOperation_cases (text : String) :
    (∃ formula, (ofOperation (Request.ofText text)).goal = .custom ∧
      (ofOperation (Request.ofText text)).formula? = some formula ∧
      (leastConfidence ≤ (ofOperation (Request.ofText text)).confidence ∧
        ¬(ofOperation (Request.ofText text)).confidence < leastConfidence) ∧
      Fault.find formula = [] ∧ Fault.hasMarker formula.toList = false ∧ IsFormula formula) ∨
    ((ofOperation (Request.ofText text)).goal = .unknown ∧
      (ofOperation (Request.ofText text)).formula? = none) := by
  unfold ofOperation
  dsimp only
  split
  · rename_i operation operations first others _ named
    have each : ∀ operand ∈ first :: others, IsOperand operand.toList := by
      intro operand member
      rw [← named] at member
      exact isOperand_of_mem_operands member
    have operand := each first List.mem_cons_self
    have operands := fun other member => each other (List.mem_cons_of_mem _ member)
    obtain ⟨faultless, filled⟩ := compose_faultless operation operand operands
    obtain ⟨body, starts, spelled⟩ := compose_spells operation operand operands
    refine .inl ⟨_, rfl, rfl, ?_, faultless, filled, ?_⟩
    · exact sure_compose operation _
    · refine ⟨by rw [starts]; rfl, ?_⟩
      have same : (compose operation (first :: others)).1 = String.ofList ('=' :: body) := by
        rw [← starts, String.ofList_toList]
      rw [same]
      exact spelled.parse (by decide)
  · exact .inr ⟨rfl, rfl⟩

theorem drafted_ofOperation (text : String) : (ofOperation (Request.ofText text)).Drafted := by
  rcases ofOperation_cases text with ⟨formula, goal, written, _, faultless, filled, reads⟩ | unknown
  · have drafts : Draft.ofIntent .nothing (ofOperation (Request.ofText text)) =
        Draft.ofFormula formula (ofOperation (Request.ofText text)).description [] := by
      simp only [Draft.ofIntent, goal, written]
    constructor
    · rw [drafts, written]
      exact ⟨fun _ => ⟨_, rfl⟩, fun _ => Draft.isValid_ofFormula faultless filled _⟩
    · rw [drafts, written]
      exact fun _ => Option.some.inj
    · rw [written]
      rintro _ ⟨⟩
      exact reads
  · obtain ⟨goal, written⟩ := unknown
    have drafts : (Draft.ofIntent .nothing (ofOperation (Request.ofText text))).isValid = false := by
      simp [Draft.ofIntent, goal, Draft.refused]
    constructor
    · simp [drafts, written]
    · simp [written]
    · simp [written]

/-- A detected intent follows the surest pattern, or is composed where no pattern has a cue. -/
theorem detect_cases (request : Request) :
    (∃ pattern ∈ Pattern.catalog, ∃ confidence, pattern.score? request = some confidence ∧
      surest? request = some (pattern, confidence) ∧
      detect request = ofPattern request pattern confidence) ∨
    (surest? request = none ∧ detect request = ofOperation request) := by
  unfold detect
  cases surest : surest? request with
  | none => exact .inr ⟨rfl, rfl⟩
  | some best =>
    obtain ⟨pattern, confidence⟩ := best
    obtain ⟨listed, scored⟩ := score?_of_surest? surest
    have grade := Pattern.isGrade_of_score? listed scored
    exact .inl ⟨pattern, listed, confidence, scored, rfl, if_pos grade.counts.1⟩

theorem drafted_detect (text : String) : (detect (Request.ofText text)).Drafted := by
  rcases detect_cases (Request.ofText text) with
    ⟨pattern, listed, confidence, _, _, found⟩ | ⟨_, found⟩
  · rw [found]
    exact drafted_ofPattern listed text confidence
  · rw [found]
    exact drafted_ofOperation text

/-- An intent with a formula is understood and sure enough to be followed. -/
theorem sure_of_formula {text formula : String}
    (written : (detect (Request.ofText text)).formula? = some formula) :
    (detect (Request.ofText text)).goal ≠ .unknown ∧
      leastConfidence ≤ (detect (Request.ofText text)).confidence ∧
      ¬(detect (Request.ofText text)).confidence < leastConfidence := by
  rcases detect_cases (Request.ofText text) with
    ⟨pattern, listed, confidence, scored, _, found⟩ | ⟨_, found⟩
  · rw [found]
    have grade := Pattern.isGrade_of_score? listed scored
    have understood : ∀ pattern ∈ Pattern.catalog, pattern.goal ≠ .unknown := by decide
    exact ⟨understood pattern listed, grade.counts.1, grade.counts.2.1⟩
  · rw [found] at written ⊢
    rcases ofOperation_cases text with ⟨_, goal, _, sure, _⟩ | ⟨_, nothing⟩
    · rw [goal]
      exact ⟨by decide, sure⟩
    · rw [nothing] at written
      cases written

theorem formula?_detect_blank {text : String} (blank : Text.IsBlank text.toList) :
    (detect (Request.ofText text)).formula? = none := by
  rcases detect_cases (Request.ofText text) with
    ⟨pattern, listed, confidence, scored, _, _⟩ | ⟨_, found⟩
  · rw [Pattern.score?_blank listed blank] at scored
    cases scored
  · rw [found, Request.ofText_blank blank]
    rfl

end Intent

/-- Conversion with the default options succeeds just where an intent with a formula is detected. -/
theorem Conversion.succeeded_iff (text : String) :
    (Conversion.ofText {} text).succeeded = true ↔
      ∃ formula, (Intent.detect (Request.ofText text)).formula? = some formula := by
  have drafted := Intent.drafted_detect text
  constructor
  · intro succeeded
    rw [Conversion.ofText] at succeeded
    split at succeeded
    · cases succeeded
    · exact drafted.valid.mp succeeded
  · rintro ⟨formula, written⟩
    obtain ⟨_, _, sure⟩ := Intent.sure_of_formula written
    rw [Conversion.ofText, if_neg sure]
    exact drafted.valid.mpr ⟨formula, written⟩

theorem Conversion.formula?_of_detect {text formula : String}
    (written : (Intent.detect (Request.ofText text)).formula? = some formula) :
    (Conversion.ofText {} text).formula? = some formula := by
  have drafted := Intent.drafted_detect text
  obtain ⟨_, _, sure⟩ := Intent.sure_of_formula written
  have nonempty : formula.isEmpty = false := by
    have starts := (drafted.reads formula written).1
    rw [String.isEmpty_eq_false_iff]
    rintro rfl
    cases starts
  rw [Conversion.ofText, if_neg sure]
  simp only [Conversion.formula?, Option.bind_some]
  rw [drafted.same formula written, nonempty]
  rfl

theorem Prospect.isConvertible_of_detect {text formula : String}
    (written : (Intent.detect (Request.ofText text)).formula? = some formula) :
    (Prospect.ofText text).isConvertible = true := by
  obtain ⟨understood, confident, _⟩ := Intent.sure_of_formula written
  simp [Prospect.ofText, understood, confident]

/-- The suggestions for a text with a formula start with this formula. -/
theorem Suggestion.head?_all {text formula : String}
    (written : (Intent.detect (Request.ofText text)).formula? = some formula) :
    (Suggestion.all text).head?.map Suggestion.formula = some formula := by
  have visible : (Text.trim text.toList).isEmpty = false := by
    rw [List.isEmpty_eq_false_iff]
    intro nothing
    rw [Intent.formula?_detect_blank (Text.isBlank_of_trim nothing)] at written
    cases written
  have head := Intent.head?_candidates (Request.ofText text)
  rw [Suggestion.all, visible]
  rcases Intent.detect_cases (Request.ofText text) with
    ⟨pattern, _, confidence, _, surest, found⟩ | ⟨surest, _⟩
  · rw [surest, Option.map_some, ← found] at head
    obtain ⟨others, listed⟩ := List.head?_eq_some_iff.mp head
    simp [listed, Suggestion.ofIntent?, written]
  · rw [surest, Option.map_none, List.head?_eq_none_iff] at head
    simp [head, Suggestion.ofIntent?, written]

/-- All ways to ask about a text agree: conversion succeeds just where detection gives a formula, then
all give this formula, and no formula is given that cannot be read. -/
theorem Conversion.agrees (text : String) :
    ((Conversion.ofText {} text).succeeded = true ↔
      ∃ formula, (Intent.detect (Request.ofText text)).formula? = some formula) ∧
    (∀ formula, (Intent.detect (Request.ofText text)).formula? = some formula →
      (Conversion.ofText {} text).formula? = some formula ∧
      formula.toList.head? = some '=' ∧
      (∃ tree, Expr.parse formula = .ok tree) ∧
      (Prospect.ofText text).isConvertible = true ∧
      ∀ limit, 1 ≤ limit →
        (Suggestion.ofText limit text).head?.map Suggestion.formula = some formula) ∧
    ∀ intent ∈ Intent.candidates (Request.ofText text), ∀ formula,
      intent.formula? = some formula → ∃ tree, Expr.parse formula = .ok tree := by
  refine ⟨succeeded_iff text, ?_, ?_⟩
  · intro formula written
    obtain ⟨starts, reads⟩ := (Intent.drafted_detect text).reads formula written
    refine ⟨formula?_of_detect written, starts, reads, Prospect.isConvertible_of_detect written, ?_⟩
    intro limit positive
    rw [Suggestion.ofText, List.head?_take, if_neg (by omega)]
    exact Suggestion.head?_all written
  · intro intent candidate formula written
    obtain ⟨pattern, listed, confidence, rfl⟩ := Intent.exists_of_mem_candidates candidate
    exact ((Intent.drafted_ofPattern listed text confidence).reads formula written).2

example : (Intent.detect (Request.ofText "tổng A1:A10")).formula? = some "=SUM(A1:A10)" := by
  decide +kernel

end PhraseSheet
