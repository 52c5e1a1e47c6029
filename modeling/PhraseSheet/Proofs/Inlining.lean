import PhraseSheet.Proofs.Drafting
import PhraseSheet.Proofs.Literals

namespace PhraseSheet

open Grammar

theorem Context.mem_entries_of_get? {context : Context} {name : String} {value : Value}
    (found : context.get? name = some value) : ∃ label, (label, value) ∈ context.entries := by
  unfold Context.get? at found
  split at found
  · rename_i present
    exact ⟨name, Labelled.mem_of_find? (present.trans found)⟩
  · obtain ⟨label, _, present⟩ := Option.bind_eq_some_iff.mp found
    exact ⟨label, Labelled.mem_of_find? present⟩

/-- Every number that stands in the context by itself is finite and no negative zero. -/
def Context.Plain (context : Context) : Prop :=
  ∀ name x, (name, Value.number x) ∈ context.entries → x.isFinite ∧ x ≠ -0.0

theorem Field.denotes_name (context : Context) (field : Field) :
    Denotes context .operand 2 field.name.toList (Expr.nameValue context field.name) := by
  have becomes : Token.nameOf field.name.toList [] = .identifier field.name := by
    cases field <;> rfl
  have primary : Denotes context .primary 1 field.name.toList _ :=
    field.isWord_name.denotes becomes (.name field.name)
  exact primary.operand

theorem Context.Plain.denotes_literal {context : Context} (plain : context.Plain)
    {name text : String} {value : Value} (found : context.get? name = some value)
    (written : value.literal? = some text) : Denotes context .operand 2 text.toList value := by
  have isLiteral : value.IsLiteral := by
    cases value with
    | number x =>
      obtain ⟨label, listed⟩ := Context.mem_entries_of_get? found
      exact plain label x listed
    | text | boolean => trivial
    | error | array | empty => cases written
  obtain ⟨other, same, denotes⟩ := isLiteral.denotes
  cases written.symm.trans same
  exact denotes context

/-- What fills the slot of a field denotes the value of the field, whether it is the name or the
value. -/
theorem Context.Plain.denotes_fieldText {context : Context} (plain : context.Plain)
    (keepNames : Bool) (field : Field) :
    Denotes context .operand 2 (Draft.fieldText ⟨context, keepNames⟩ field.name).toList
      (Expr.nameValue context field.name) := by
  have name := field.denotes_name context
  unfold Draft.fieldText
  dsimp only
  split
  · rename_i value found
    cases keepNames with
    | true => exact name
    | false =>
      cases written : value.literal? with
      | none => exact name
      | some text =>
        have denotes := plain.denotes_literal found written
        rwa [Expr.nameValue, found, Option.getD_some, if_neg Bool.false_ne_true, Option.getD_some]
  · exact name

namespace Draft

section

variable {context : Context}

theorem slotText?_of_field (knowledge : Knowledge) (intent : Intent) (field : Field) :
    slotText? knowledge intent field.name = some (fieldText knowledge field.name) := by
  cases field <;> rfl

theorem slotText?_keepNames (keepNames : Bool) (intent : Intent) {name : String}
    (other : SlotKind.ofName name ≠ .field) :
    slotText? ⟨context, keepNames⟩ intent name = slotText? ⟨context, false⟩ intent name := by
  unfold slotText?
  split
  · rename_i field
    exact absurd field other
  · rfl
  · rfl
  · rfl

/-- Templates without slots for fields are filled in the same way. -/
theorem fill_keepNames (keepNames : Bool) (intent : Intent) {template : Template}
    (none : ∀ name, .slot name ∈ template.segments → SlotKind.ofName name ≠ .field) :
    fill (slotText? ⟨context, keepNames⟩ intent) template =
      fill (slotText? ⟨context, false⟩ intent) template := by
  unfold fill
  congr 1
  apply List.map_congr_left
  intro segment member
  cases segment with
  | literal content => rfl
  | slot name =>
    dsimp only
    rw [slotText?_keepNames keepNames intent (none name member)]

/-- The values of the filled template are the same with the values of fields in it as with their
names. -/
def KeepsValues (context : Context) (intent : Intent) (template : Template) : Prop :=
  ∀ value, HasValue context (fill (slotText? ⟨context, false⟩ intent) template) value ↔
    HasValue context (fill (slotText? ⟨context, true⟩ intent) template) value

private theorem keepsValues_of_denotes {intent : Intent} {template : Template} {value : Value}
    {body : Bool → List Char}
    (text : ∀ keepNames, (fill (slotText? ⟨context, keepNames⟩ intent) template).toList =
      '=' :: body keepNames)
    (denotes : ∀ keepNames, Denotes context .whole 3 (body keepNames) value) :
    KeepsValues context intent template := by
  have formula : ∀ keepNames, fill (slotText? ⟨context, keepNames⟩ intent) template =
      String.ofList ('=' :: body keepNames) := by
    intro keepNames
    rw [← text keepNames, String.ofList_toList]
  intro other
  rw [formula, formula, (denotes false).hasValue_iff (by decide),
    (denotes true).hasValue_iff (by decide)]

variable (plain : context.Plain) (intent : Intent)

include plain

private theorem denotes_difference (keepNames : Bool) :
    Denotes context .operand 3
      ('(' :: ((fieldText ⟨context, keepNames⟩ Field.retailPrice.name).toList ++ '-' ::
        (fieldText ⟨context, keepNames⟩ Field.costPrice.name).toList ++ [')']))
      (Operator.apply (.arithmetic .subtract) (Expr.nameValue context Field.retailPrice.name)
        (Expr.nameValue context Field.costPrice.name)) :=
  have retail := plain.denotes_fieldText keepNames .retailPrice
  have cost := plain.denotes_fieldText keepNames .costPrice
  (retail.product.sum.minus cost.product).whole.group.operand

private theorem keepsValues_share (base : Field) :
    KeepsValues context intent ⟨[.literal "=(", Recipe.retailSlot, .literal "-", Recipe.costSlot,
      .literal ")/", .slot base.name, .literal "*100"]⟩ := by
  have decimal : Token.DecimalText ['1', '0', '0'] := .whole (by decide) (by decide)
  obtain ⟨hundred, reads⟩ := Token.read?_decimal decimal
  have denotes : Denotes context .primary 2 ['1', '0', '0'] (.number hundred) :=
    .number decimal reads
  have share : ∀ keepNames, _ := fun keepNames =>
    ((denotes_difference plain keepNames).product.dividedBy
      ((plain.denotes_fieldText keepNames base).weaken (by decide))).times denotes.operand
  refine keepsValues_of_denotes ?_ fun keepNames => (share keepNames).sum.whole
  intro keepNames
  simp [toList_fill, segmentText, slotText?_of_field, Recipe.retailSlot, Recipe.costSlot]

private theorem keepsValues_profit :
    KeepsValues context intent ⟨[.literal "=(", Recipe.retailSlot, .literal "-", Recipe.costSlot,
      .literal ")*", Recipe.quantitySlot]⟩ := by
  have profit : ∀ keepNames, _ := fun keepNames =>
    (denotes_difference plain keepNames).product.times
      ((plain.denotes_fieldText keepNames .quantity).weaken (by decide))
  refine keepsValues_of_denotes ?_ fun keepNames => (profit keepNames).sum.whole
  intro keepNames
  simp [toList_fill, segmentText, slotText?_of_field, Recipe.retailSlot, Recipe.costSlot,
    Recipe.quantitySlot]

private theorem keepsValues_revenue :
    KeepsValues context intent ⟨[.literal "=", Recipe.retailSlot, .literal "*",
      Recipe.quantitySlot]⟩ := by
  have revenue : ∀ keepNames, _ := fun keepNames =>
    (plain.denotes_fieldText keepNames .retailPrice).product.times
      (plain.denotes_fieldText keepNames .quantity)
  refine keepsValues_of_denotes ?_ fun keepNames =>
    ((revenue keepNames).sum.whole.weaken (by decide))
  intro keepNames
  simp [toList_fill, segmentText, slotText?_of_field, Recipe.retailSlot, Recipe.quantitySlot]

/-- A product whose first factor is the retail price: whatever the other factor is made of, even if
a slot in it is open. -/
private theorem keepsValues_product {factor : List Char} {others : List Segment}
    (ends : EndsVisibly ('*' :: factor))
    (text : ∀ keepNames, others.flatMap (segmentText (slotText? ⟨context, keepNames⟩ intent)) =
      '*' :: factor) :
    KeepsValues context intent ⟨.literal "=" :: Recipe.retailSlot :: others⟩ := by
  have formula : ∀ keepNames,
      fill (slotText? ⟨context, keepNames⟩ intent) ⟨.literal "=" :: Recipe.retailSlot :: others⟩ =
        String.ofList ('=' :: ((fieldText ⟨context, keepNames⟩ Field.retailPrice.name).toList ++
          '*' :: factor)) := by
    intro keepNames
    rw [← text keepNames, ← String.toList_inj, toList_fill, String.toList_ofList]
    simp [segmentText, slotText?_of_field, Recipe.retailSlot]
  have parting : Parting '*' .star := ⟨rfl, by decide, by decide⟩
  intro value
  rw [formula, formula]
  exact hasValue_exchange_first parting (plain.denotes_fieldText false .retailPrice)
    (plain.denotes_fieldText true .retailPrice) ends (by decide)

omit plain in
private theorem segmentText_keepNames (keepNames : Bool) {name : String}
    (other : SlotKind.ofName name ≠ .field) :
    segmentText (slotText? ⟨context, keepNames⟩ intent) (.slot name) =
      segmentText (slotText? ⟨context, false⟩ intent) (.slot name) := by
  rw [segmentText, segmentText, slotText?_keepNames keepNames intent other]

private theorem keepsValues_discount :
    KeepsValues context intent ⟨[.literal "=", Recipe.retailSlot, .literal "*(1-",
      Recipe.numberSlot, .literal "/100)"]⟩ := by
  have ends : EndsVisibly ("*(1-".toList ++
      (segmentText (slotText? ⟨context, false⟩ intent) Recipe.numberSlot ++ "/100)".toList)) := by
    rw [← List.append_assoc]
    have close : EndsVisibly "/100)".toList := endsVisibly_of_all (by decide)
    exact close.behind (by decide) _
  refine keepsValues_product plain intent ends ?_
  intro keepNames
  have number := @segmentText_keepNames context intent keepNames "number" (by decide)
  simp only [List.flatMap_cons, List.flatMap_nil, List.append_nil, Recipe.numberSlot, number]
  rfl

private theorem keepsValues_tax :
    KeepsValues context intent ⟨[.literal "=", Recipe.retailSlot, .literal "*", Recipe.numberSlot,
      .literal "/100"]⟩ := by
  have ends : EndsVisibly ("*".toList ++
      (segmentText (slotText? ⟨context, false⟩ intent) Recipe.numberSlot ++ "/100".toList)) := by
    rw [← List.append_assoc]
    have hundred : EndsVisibly "/100".toList := endsVisibly_of_all (by decide)
    exact hundred.behind (by decide) _
  refine keepsValues_product plain intent ends ?_
  intro keepNames
  have number := @segmentText_keepNames context intent keepNames "number" (by decide)
  simp only [List.flatMap_cons, List.flatMap_nil, List.append_nil, Recipe.numberSlot, number]
  rfl

/-- The product code is the first argument of the look-up; the range behind it is filled in the same
way. -/
private theorem keepsValues_lookup :
    KeepsValues context intent ⟨[.literal "=VLOOKUP(", .slot Field.sku.name, .literal ",",
      Recipe.rangeSlot, .literal ",2,FALSE)"]⟩ := by
  have behind : ∀ keepNames, segmentText (slotText? ⟨context, keepNames⟩ intent) Recipe.rangeSlot =
      segmentText (slotText? ⟨context, false⟩ intent) Recipe.rangeSlot :=
    fun keepNames => segmentText_keepNames intent keepNames (by decide)
  have formula : ∀ keepNames,
      fill (slotText? ⟨context, keepNames⟩ intent) ⟨[.literal "=VLOOKUP(", .slot Field.sku.name,
        .literal ",", Recipe.rangeSlot, .literal ",2,FALSE)"]⟩ =
        String.ofList ('=' :: ("VLOOKUP".toList ++
          '(' :: ((fieldText ⟨context, keepNames⟩ Field.sku.name).toList ++
            ',' :: (segmentText (slotText? ⟨context, false⟩ intent) Recipe.rangeSlot ++
              ",2,FALSE)".toList)))) := by
    intro keepNames
    rw [← behind keepNames, ← String.toList_inj, toList_fill, String.toList_ofList]
    simp [segmentText, slotText?_of_field]
  have parting : Parting ',' .comma := ⟨rfl, by decide, by decide⟩
  have isWord : IsWord "VLOOKUP".toList := by decide
  have close : EndsVisibly ",2,FALSE)".toList := endsVisibly_of_all (by decide)
  have ends := (close.behind (by decide)
    (segmentText (slotText? ⟨context, false⟩ intent) Recipe.rangeSlot)).cons
      (c := ',') (by decide)
  intro value
  rw [formula, formula]
  exact hasValue_exchange_argument parting (plain.denotes_fieldText false .sku)
    (plain.denotes_fieldText true .sku) ends isWord (by decide)

omit plain in
private theorem keepsValues_of_fill {template : Template}
    (none : ∀ name, .slot name ∈ template.segments → SlotKind.ofName name ≠ .field) :
    KeepsValues context intent template := by
  intro value
  rw [fill_keepNames true intent none]

omit plain in
private theorem keepsValues_onRange (function : String) :
    KeepsValues context intent (Recipe.onRange function) := by
  apply keepsValues_of_fill
  intro name slot
  simp only [Recipe.onRange, Recipe.rangeSlot, List.mem_cons, List.not_mem_nil, or_false,
    Segment.slot.injEq, reduceCtorEq, false_or] at slot
  rw [slot]
  decide

omit plain in
private theorem keepsValues_conditional :
    KeepsValues context intent ⟨[.literal "=IF(", .slot "condition", .literal ",",
      .slot "trueValue", .literal ",", .slot "falseValue", .literal ")"]⟩ := by
  apply keepsValues_of_fill
  intro name slot
  simp only [List.mem_cons, List.not_mem_nil, or_false, Segment.slot.injEq, reduceCtorEq,
    false_or] at slot
  rcases slot with rfl | rfl | rfl <;> decide

theorem keepsValues_of_mem {recipe : Recipe} (listed : recipe ∈ Recipe.catalog) :
    KeepsValues context intent recipe.template := by
  simp only [Recipe.catalog, List.mem_cons, List.not_mem_nil, or_false] at listed
  rcases listed with rfl | rfl | rfl | rfl | rfl | rfl | rfl | rfl | rfl | rfl | rfl | rfl | rfl
  · exact keepsValues_share plain intent .retailPrice
  · exact keepsValues_share plain intent .costPrice
  · exact keepsValues_profit plain intent
  · exact keepsValues_revenue plain intent
  · exact keepsValues_discount plain intent
  · exact keepsValues_tax plain intent
  · exact keepsValues_onRange intent "SUM"
  · exact keepsValues_onRange intent "AVERAGE"
  · exact keepsValues_onRange intent "COUNT"
  · exact keepsValues_onRange intent "MIN"
  · exact keepsValues_onRange intent "MAX"
  · exact keepsValues_conditional intent
  · exact keepsValues_lookup plain intent

/-- The formula of an intent has the same values with the values of fields in it as with their
names. -/
theorem hasValue_ofIntent_iff (value : Value) :
    HasValue context (ofIntent ⟨context, false⟩ intent).formula value ↔
      HasValue context (ofIntent ⟨context, true⟩ intent).formula value := by
  cases found : Recipe.ofGoal? intent.goal with
  | some recipe =>
    rw [ofIntent_eq_ofRecipe found, ofIntent_eq_ofRecipe found]
    exact keepsValues_of_mem plain intent (List.mem_of_find?_eq_some found) value
  | none =>
    have same : ofIntent ⟨context, false⟩ intent = ofIntent ⟨context, true⟩ intent := by
      unfold ofIntent
      split
      · rfl
      · rfl
      · rw [found]
    rw [same]

end

/-- Formulas in which the values of fields stand and formulas that name the fields are read alike,
and what they are read as has the same value. -/
theorem evaluate_ofIntent_eq {context : Context} (plain : context.Plain) (intent : Intent) :
    ((∃ tree, Expr.parse (ofIntent ⟨context, false⟩ intent).formula = .ok tree) ↔
      ∃ tree, Expr.parse (ofIntent ⟨context, true⟩ intent).formula = .ok tree) ∧
    ∀ inlined named, Expr.parse (ofIntent ⟨context, false⟩ intent).formula = .ok inlined →
      Expr.parse (ofIntent ⟨context, true⟩ intent).formula = .ok named →
        inlined.evaluate context = named.evaluate context := by
  have agree := hasValue_ofIntent_iff plain intent
  refine ⟨⟨?_, ?_⟩, ?_⟩
  · rintro ⟨tree, read⟩
    obtain ⟨other, otherRead, _⟩ := (agree _).mp ⟨tree, read, rfl⟩
    exact ⟨other, otherRead⟩
  · rintro ⟨tree, read⟩
    obtain ⟨other, otherRead, _⟩ := (agree _).mpr ⟨tree, read, rfl⟩
    exact ⟨other, otherRead⟩
  · intro inlined named read namedRead
    obtain ⟨other, otherRead, same⟩ := (agree _).mp ⟨inlined, read, rfl⟩
    cases namedRead.symm.trans otherRead
    exact same.symm

/-- A negative price, a text that no number is in, and a truth value. -/
def mixedContext : Context :=
  .ofList [("RetailPrice", .number (-2.5)), ("costPrice", .text "a \"b\""),
    ("quantity", .boolean true)]

theorem mixedContext_plain : mixedContext.Plain := by
  intro name x member
  have entries : mixedContext.entries = [("RetailPrice", .number (-2.5)),
      ("costPrice", .text "a \"b\""), ("quantity", .boolean true)] := by rfl
  rw [entries] at member
  simp only [List.mem_cons, Prod.mk.injEq, Value.number.injEq, reduceCtorEq, and_false,
    List.not_mem_nil, or_false] at member
  rw [member.2]
  decide +kernel

/-- The profit, inlined as a negative number less a text and times a truth value. -/
theorem evaluate_ofIntent_mixed :
    let intent := Intent.ofRequest (Request.ofText "") .profit 1 ""
    mixedContext.Plain ∧ ∃ inlined named,
      Expr.parse (ofIntent ⟨mixedContext, false⟩ intent).formula = .ok inlined ∧
      Expr.parse (ofIntent ⟨mixedContext, true⟩ intent).formula = .ok named ∧
        inlined.evaluate mixedContext = named.evaluate mixedContext := by
  intro intent
  obtain ⟨alike, same⟩ := evaluate_ofIntent_eq mixedContext_plain intent
  have read : ∃ tree, Expr.parse (ofIntent ⟨mixedContext, true⟩ intent).formula = .ok tree := by
    have accepted : (Expr.parse (ofIntent ⟨mixedContext, true⟩ intent).formula).toBool := by
      decide +kernel
    cases outcome : Expr.parse (ofIntent ⟨mixedContext, true⟩ intent).formula with
    | error failure => rw [outcome] at accepted; cases accepted
    | ok tree => exact ⟨tree, rfl⟩
  obtain ⟨named, namedRead⟩ := read
  obtain ⟨inlined, inlinedRead⟩ := alike.mpr ⟨named, namedRead⟩
  exact ⟨mixedContext_plain, inlined, named, inlinedRead, namedRead,
    same inlined named inlinedRead namedRead⟩

end Draft

end PhraseSheet
