import PhraseSheet.Draft.Basic
import PhraseSheet.Proofs.Faults
import PhraseSheet.Proofs.Phrases

namespace PhraseSheet

open Grammar

/-- Nothing is known but what the request says. -/
abbrev Knowledge.nothing : Knowledge := {}

/-- What an intent names can stand in formulas. -/
structure Intent.Spoken (intent : Intent) : Prop where
  fields : ∀ name ∈ intent.fields, IsWord name.toList
  ranges : ∀ range ∈ intent.ranges, IsWordRange range.toList

theorem Field.isWord_name (field : Field) : IsWord field.name.toList := by
  cases field <;> decide

theorem Intent.spoken_ofRequest (text : String) (goal : Goal) (confidence : Float)
    (description : String) :
    (Intent.ofRequest (Request.ofText text) goal confidence description).Spoken where
  fields name member := by
    have listed := List.mem_eraseDups.mp member
    obtain ⟨field, _, rfl⟩ := List.mem_map.mp listed
    exact field.isWord_name
  ranges range member := Request.isWordRange_of_mem_ranges member

namespace Draft

/-- What a template makes of an intent does not depend on a formula that the intent has. -/
theorem ofIntent_eq_ofRecipe {intent : Intent} {recipe : Recipe}
    (found : Recipe.ofGoal? intent.goal = some recipe) (knowledge : Knowledge) :
    ofIntent knowledge intent = ofRecipe knowledge intent recipe := by
  unfold ofIntent
  split
  · rename_i goal
    rw [goal] at found
    cases found
  · rename_i goal
    rw [goal] at found
    cases found
  · rw [found]

def segmentText (slotText? : String → Option String) : Segment → List Char
  | .literal content => content.toList
  | .slot name => ((slotText? name).getD (Segment.marker name)).toList

theorem toList_fill (slotText? : String → Option String) (template : Template) :
    (fill slotText? template).toList = template.segments.flatMap (segmentText slotText?) := by
  rw [fill, String.toList_join, List.flatMap_map]
  congr 1
  funext segment
  cases segment <;> rfl

/-- A slot that stays open leaves its marker in the text. -/
theorem hasMarker_fill {slotText? : String → Option String} {template : Template} {name : String}
    (slot : .slot name ∈ template.segments) (unfilled : slotText? name = none) :
    Fault.hasMarker (fill slotText? template).toList = true := by
  obtain ⟨before, after, split⟩ := List.append_of_mem slot
  rw [toList_fill, split, List.flatMap_append, List.flatMap_cons]
  apply Fault.hasMarker_append
  simp [segmentText, unfilled, Segment.marker, Fault.hasMarker]

/-- Every slot of the template is filled by what the intent says. -/
def Filled (intent : Intent) (template : Template) : Prop :=
  ∀ name, .slot name ∈ template.segments → ∃ text, slotText? .nothing intent name = some text

theorem filled_of_isValid {intent : Intent} {recipe : Recipe}
    (valid : (ofRecipe .nothing intent recipe).isValid) : Filled intent recipe.template := by
  intro name slot
  cases filled : slotText? .nothing intent name with
  | some text => exact ⟨text, rfl⟩
  | none =>
    have marked := hasMarker_fill slot filled
    simp [ofRecipe, ofFormula, marked] at valid

@[simp] theorem slotText?_field (intent : Intent) (field : Field) :
    slotText? .nothing intent field.name = some field.name := by
  cases field <;> rfl

section

variable {intent : Intent}

theorem rangeText_spells (spoken : intent.Spoken) {text : String}
    (filled : rangeText? .nothing intent = some text) : Spells .range 0 text.toList := by
  unfold rangeText? at filled
  rcases Option.or_eq_some_iff.mp filled with named | ⟨_, otherwise⟩
  · exact (spoken.ranges text (List.mem_of_mem_head? named)).spells
  · rcases Option.or_eq_some_iff.mp otherwise with column | ⟨_, known⟩
    · split at column
      · cases column
      · obtain ⟨field, named, rfl⟩ := Option.map_eq_some_iff.mp column
        have isWord := spoken.fields field (List.mem_of_mem_head? named)
        exact IsWordRange.spells ⟨_, _, by simp, isWord, isWord⟩
    · cases known

theorem spells_of_numberText? {text : String}
    (filled : numberText? .nothing intent = some text) : Spells .operand 2 text.toList := by
  unfold numberText? at filled
  rcases Option.or_eq_some_iff.mp filled with known | ⟨_, named⟩
  · cases known
  · obtain ⟨x, _, rfl⟩ := Option.map_eq_some_iff.mp named
    exact (numberText_isOperand x).spells

theorem comparisonText_spells (spoken : intent.Spoken) {text : String}
    (filled : comparisonText? intent = some text) : Spells .whole 2 text.toList := by
  unfold comparisonText? at filled
  cases named : intent.fields.head? with
  | none => simp [named] at filled
  | some field =>
    cases counted : intent.numbers.head? with
    | none => simp [named, counted] at filled
    | some number =>
      simp only [named, counted, Option.bind_eq_bind, Option.bind_some, Option.pure_def,
        Option.some.injEq] at filled
      have isWord := spoken.fields field (List.mem_of_mem_head? named)
      have left : Spells .whole 2 field.toList :=
        isWord.isOperand.spells.whole
      obtain ⟨c, rest, starts⟩ := List.exists_cons_of_ne_nil (numberText_isOperand number).ne_nil
      have right := (numberText_isOperand number).spells.compared
      have apart : c ≠ '=' ∧ c ≠ '>' := by
        have plain := (numberText_isOperand number).chars c (by simp [starts])
        constructor <;> rintro rfl <;> exact absurd plain (by decide)
      rw [starts] at right
      have spelled := left.compare (intent.comparisons.head?.getD .greaterOrEqual) right apart
      rw [← filled, String.toList_append, String.toList_append, starts, List.append_assoc]
      exact spelled

end

private theorem spells_digits {digits : List Char} {bound : Nat}
    (numeric : ∀ c ∈ digits, c.isDigit) (any : digits ≠ []) : Spells .operand (bound + 1) digits :=
  (spells_number (.whole numeric any)).range.operand

private theorem spells_field (field : Field) : Spells .operand 2 field.name.toList :=
  field.isWord_name.isOperand.spells

private theorem spells_difference :
    Spells .operand 3 ('(' :: ((Field.retailPrice.name.toList ++ '-' ::
      Field.costPrice.name.toList) ++ [')'])) :=
  have difference := (spells_field .retailPrice).factor.term.minus (spells_field .costPrice).factor
  difference.total.group.range.operand

section

variable {intent : Intent} (spoken : intent.Spoken)

/-- The filled template of a goal spells an expression behind an equals sign. -/
private abbrev FillSpells (intent : Intent) (template : Template) : Prop :=
  ∃ body, (fill (slotText? .nothing intent) template).toList = '=' :: body ∧ Spells .whole 3 body

private theorem fill_share (base : Field) :
    FillSpells intent ⟨[.literal "=(", Recipe.retailSlot, .literal "-", Recipe.costSlot,
      .literal ")/", .slot base.name, .literal "*100"]⟩ := by
  have quotient := spells_difference.factor.dividedBy ((spells_field base).weaken (by decide))
  have hundred : Spells .operand 3 ['1', '0', '0'] := spells_digits (by decide) (by decide)
  refine ⟨_, ?_, (quotient.times hundred).term.total⟩
  simp [toList_fill, segmentText, Recipe.retailSlot, Recipe.costSlot]

private theorem fill_profit :
    FillSpells intent ⟨[.literal "=(", Recipe.retailSlot, .literal "-", Recipe.costSlot,
      .literal ")*", Recipe.quantitySlot]⟩ := by
  have product := spells_difference.factor.times ((spells_field .quantity).weaken (by decide))
  refine ⟨_, ?_, product.term.total⟩
  simp [toList_fill, segmentText, Recipe.retailSlot, Recipe.costSlot, Recipe.quantitySlot]

private theorem fill_revenue :
    FillSpells intent ⟨[.literal "=", Recipe.retailSlot, .literal "*", Recipe.quantitySlot]⟩ := by
  have product := (spells_field .retailPrice).factor.times (spells_field .quantity)
  refine ⟨_, ?_, (product.weaken (by decide)).term.total⟩
  simp [toList_fill, segmentText, Recipe.retailSlot, Recipe.quantitySlot]

private theorem fill_discount :
    let template : Template := ⟨[.literal "=", Recipe.retailSlot, .literal "*(1-",
      Recipe.numberSlot, .literal "/100)"]⟩
    Filled intent template → FillSpells intent template := by
  intro template filled
  obtain ⟨text, number⟩ := filled "number" (by simp [template, Recipe.numberSlot])
  have one : Spells .operand 2 ['1'] := spells_digits (by decide) (by decide)
  have hundred : Spells .operand 2 ['1', '0', '0'] := spells_digits (by decide) (by decide)
  have share := (spells_of_numberText? number).factor.dividedBy hundred
  have rest := (one.factor.term.minus share).total.group.range.operand
  have product := ((spells_field .retailPrice).factor.weaken (by decide)).times rest
  refine ⟨_, ?_, product.term.total⟩
  simp [template, toList_fill, segmentText, Recipe.retailSlot, Recipe.numberSlot, number]

private theorem fill_tax :
    let template : Template := ⟨[.literal "=", Recipe.retailSlot, .literal "*", Recipe.numberSlot,
      .literal "/100"]⟩
    Filled intent template → FillSpells intent template := by
  intro template filled
  obtain ⟨text, number⟩ := filled "number" (by simp [template, Recipe.numberSlot])
  have hundred : Spells .operand 2 ['1', '0', '0'] := spells_digits (by decide) (by decide)
  have product := (spells_field .retailPrice).factor.times (spells_of_numberText? number)
  refine ⟨_, ?_, ((product.dividedBy hundred).weaken (by decide)).term.total⟩
  simp [template, toList_fill, segmentText, Recipe.retailSlot, Recipe.numberSlot, number]

include spoken

private theorem fill_onRange {function : String} (isWord : IsWord function.toList)
    (filled : Filled intent (Recipe.onRange function)) :
    FillSpells intent (Recipe.onRange function) := by
  obtain ⟨text, range⟩ := filled "range" (by simp [Recipe.onRange, Recipe.rangeSlot])
  have list := (rangeText_spells spoken range).operand.whole.last
  refine ⟨_, ?_, ((list.call isWord).range.operand.weaken (by decide)).whole⟩
  simp [toList_fill, segmentText, Recipe.onRange, Recipe.rangeSlot, range]

private theorem fill_conditional :
    let template : Template := ⟨[.literal "=IF(", .slot "condition", .literal ",",
      .slot "trueValue", .literal ",", .slot "falseValue", .literal ")"]⟩
    Filled intent template → FillSpells intent template := by
  intro template filled
  obtain ⟨text, condition⟩ := filled "condition" (by simp [template])
  have compared : comparisonText? intent = some text := condition
  have yes : slotText? .nothing intent "trueValue" = some (Value.quotedLiteral "Đạt") := rfl
  have no : slotText? .nothing intent "falseValue" = some (Value.quotedLiteral "Không đạt") := rfl
  have branch : ∀ content, Spells .whole 2 (Value.quotedLiteral content).toList :=
    fun content => (spells_quoted content).range.operand.whole
  have branches := (branch "Không đạt").last.more (branch "Đạt")
  have list := branches.more (comparisonText_spells spoken compared)
  have isWord : IsWord ['I', 'F'] := by decide
  refine ⟨_, ?_, (list.call isWord).range.operand.whole⟩
  simp [template, toList_fill, segmentText, condition, yes, no]

private theorem fill_lookup :
    let template : Template := ⟨[.literal "=VLOOKUP(", .slot Field.sku.name, .literal ",",
      Recipe.rangeSlot, .literal ",2,FALSE)"]⟩
    Filled intent template → FillSpells intent template := by
  intro template filled
  obtain ⟨text, range⟩ := filled "range" (by simp [template, Recipe.rangeSlot])
  have two : Spells .whole 2 ['2'] := (spells_digits (by decide) (by decide)).whole
  have isWord : IsWord "VLOOKUP".toList := by decide
  have exactly : IsWord "FALSE".toList := by decide
  have table : Spells .whole 2 text.toList :=
    (rangeText_spells spoken range).operand.whole.weaken (by decide)
  have list := ((exactly.isOperand.spells.whole.last.more two).more table).more (spells_field .sku).whole
  refine ⟨_, ?_, (list.call isWord).range.operand.whole⟩
  simp [template, toList_fill, segmentText, Recipe.rangeSlot, range]

/-- The text of a draft whose slots are filled spells an expression behind an equals sign. -/
theorem fill_spells {recipe : Recipe} (listed : recipe ∈ Recipe.catalog)
    (filled : Filled intent recipe.template) : FillSpells intent recipe.template := by
  simp only [Recipe.catalog, List.mem_cons, List.not_mem_nil, or_false] at listed
  rcases listed with rfl | rfl | rfl | rfl | rfl | rfl | rfl | rfl | rfl | rfl | rfl | rfl | rfl
  · exact fill_share .retailPrice
  · exact fill_share .costPrice
  · exact fill_profit
  · exact fill_revenue
  · exact fill_discount filled
  · exact fill_tax filled
  · exact fill_onRange spoken (by decide) filled
  · exact fill_onRange spoken (by decide) filled
  · exact fill_onRange spoken (by decide) filled
  · exact fill_onRange spoken (by decide) filled
  · exact fill_onRange spoken (by decide) filled
  · exact fill_conditional spoken filled
  · exact fill_lookup spoken filled

end

/-- The formula of a valid draft that follows a template is read as an expression. -/
theorem parse_ofRecipe {intent : Intent} (spoken : intent.Spoken) {recipe : Recipe}
    (listed : recipe ∈ Recipe.catalog) (valid : (ofRecipe .nothing intent recipe).isValid) :
    (ofRecipe .nothing intent recipe).formula.toList.head? = some '=' ∧
      ∃ tree, Expr.parse (ofRecipe .nothing intent recipe).formula = .ok tree := by
  obtain ⟨body, text, spelled⟩ := fill_spells spoken listed (filled_of_isValid valid)
  have same : (ofRecipe .nothing intent recipe).formula = String.ofList ('=' :: body) := by
    rw [← text, String.ofList_toList]
    rfl
  rw [same, String.toList_ofList]
  exact ⟨rfl, spelled.parse (by decide)⟩

end Draft

end PhraseSheet
