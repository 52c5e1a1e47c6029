import PhraseSheet.Proofs.Exchange
import PhraseSheet.Proofs.Renaming
import PhraseSheet.Proofs.WorkingContext

/-! Formulas that write just the header of a number. Such a formula gives the number, unless the
header is also a cell in A1 notation that goes by another key, as `q1` is the cell `Q1`. -/

namespace PhraseSheet

namespace Token

/-- Letters, digits and low lines spell a name if no digit comes first. -/
theorem spellsName_of_ascii {c : Char} {more : List Char} (first : c.isAlpha ∨ c = '_')
    (others : ∀ d ∈ more, d.isAlphanum ∨ d = '_') : SpellsName (c :: more) := by
  refine .mk ?_ ?_
  · rcases first with letter | rfl
    · simp [startsName, isAlphabetic_of_isAlpha letter]
    · decide
  · intro d member
    rcases others d member with alphanumeric | rfl
    · exact continuesName_of_isAlphanum alphanumeric
    · decide

theorem nameOf_alone {name : String}
    (noTruth : ∀ truth ∈ ["TRUE", "FALSE"], Text.sameIgnoringCase name truth = false) :
    (∃ cell : Reference, cell.text = name ∧ nameOf name.toList [] = .cell cell.address) ∨
      (∀ cell : Reference, cell.text ≠ name) ∧ nameOf name.toList [] = .identifier name := by
  obtain ⟨noTrue, noFalse⟩ : Text.sameIgnoringCase name "TRUE" = false ∧
      Text.sameIgnoringCase name "FALSE" = false :=
    ⟨noTruth "TRUE" (by simp), noTruth "FALSE" (by simp)⟩
  by_cases isCell : looksLikeCell name.toList
  · cases named : Address.parse name with
    | ok address =>
      refine .inl ⟨⟨name, address, isCell, named⟩, rfl, ?_⟩
      simp [nameOf, Text.trimStart, noTrue, noFalse, isCell, named]
    | error failure =>
      refine .inr ⟨?_, by simp [nameOf, Text.trimStart, noTrue, noFalse, named]⟩
      rintro cell rfl
      cases named.symm.trans cell.named
  · refine .inr ⟨?_, by simp [nameOf, Text.trimStart, noTrue, noFalse, isCell]⟩
    rintro cell rfl
    exact isCell cell.isCell

end Token

theorem Reference.address_eq {one other : Reference} (same : one.text = other.text) :
    one.address = other.address := by
  have named := one.named
  rw [same, other.named] at named
  exact (Except.ok.inj named).symm

namespace Row

variable {extra seen : Context} {row : Row} {header label : String} {x : Float}
variable {before after : List (String × Value)}

/-- Whatever stands in front, a plain column is read under its header as the row shows it. -/
theorem find?_contextAfter_header {value : Value} (plain : (header, value) ∈ row.plainCells)
    (split : row.entries = before ++ after) :
    (contextAfter (startContext extra row) before).find? header = some value.coerced := by
  obtain ⟨present, unwritten⟩ := mem_plainCells.mp plain
  rw [find?_contextAfter ?_ _, find?_startContext_header plain]
  -- a formula under this header would be a second cell of the same column
  intro cell member written same
  have alsoPresent : (header, cell.2) ∈ row.entries := by
    rw [split, ← same]
    exact List.mem_append_left _ member
  have once := (Labelled.find?_of_mem present).symm.trans (Labelled.find?_of_mem alsoPresent)
  rw [← Option.some.inj once, unwritten] at written
  cases written

/-- A formula cell shows the value of its formula with what is read behind the cells in front. -/
theorem find?_resolve_formula {value : Value} {formula : String}
    (split : row.entries = before ++ (label, value) :: after)
    (written : value.formula? = some formula) :
    (resolve extra row).find? label =
      some ((result? (contextAfter (startContext extra row) before) formula).getD .empty) := by
  apply Labelled.find?_of_mem
  simp only [resolve, split, resolveCells_append, List.mem_append]
  refine .inr ?_
  simp only [resolveCells, written]
  cases result? (contextAfter (startContext extra row) before) formula <;>
    exact List.mem_cons_self

theorem formula?_equals (content : String) :
    (Value.text ("=" ++ content)).formula? = some ("=" ++ content) := by
  have starts : ((Text.trimStart ("=" ++ content).toList).head? == some '=') = true := by
    rw [String.toList_append]
    rfl
  rw [Value.formula?, if_pos starts]

theorem shows_number_iff {formula : String} {value : Value}
    (hasValue : HasValue seen formula value) :
    (result? seen formula).getD .empty = .number x ↔ value = .number x := by
  obtain ⟨tree, read, rfl⟩ := hasValue
  simp only [result?, read]
  cases tree.evaluate seen <;> simp [Value.isError, Value.error?]

/-- The value of a formula that writes just a name: that of the cell which the name is, or else that
of the name. -/
theorem hasValue_name (spells : SpellsName header.toList)
    (noTruth : ∀ truth ∈ ["TRUE", "FALSE"], Text.sameIgnoringCase header truth = false) :
    (∃ cell : Reference, cell.text = header ∧ HasValue seen ("=" ++ header)
      ((seen.cell? cell.address).getD (.error .badReference))) ∨
    (∀ cell : Reference, cell.text ≠ header) ∧
      HasValue seen ("=" ++ header) (Expr.nameValue seen header) := by
  have formula : "=" ++ header = String.ofList ('=' :: header.toList) := by
    rw [← String.toList_inj, String.toList_append, String.toList_ofList]
    simp
  have denoted : ∀ {token tree}, Token.nameOf header.toList [] = token →
      Grammar.Derives .primary [token] tree 0 →
        HasValue seen ("=" ++ header) (tree.evaluate seen) := by
    intro token tree becomes derived
    have denotes : Denotes seen .primary 0 header.toList (tree.evaluate seen) :=
      spells.denotes becomes derived
    rw [formula]
    exact (denotes.operand.product.sum.whole.hasValue_iff (by decide)).mpr rfl
  rcases Token.nameOf_alone noTruth with ⟨cell, same, becomes⟩ | ⟨noCell, becomes⟩
  · exact .inl ⟨cell, same, denoted becomes (.cell cell.address)⟩
  · exact .inr ⟨noCell, denoted becomes (.name header)⟩

/-- Where a number stands under the header, a formula that writes just the header shows the number
unless another value stands under the key of the cell which the header is. -/
theorem shows_header_iff (spells : SpellsName header.toList)
    (noTruth : ∀ truth ∈ ["TRUE", "FALSE"], Text.sameIgnoringCase header truth = false)
    (own : seen.find? header = some (.number x)) :
    (result? seen ("=" ++ header)).getD .empty = .number x ↔
      ∀ cell : Reference, cell.text = header → cell.address.key ≠ header →
        seen.find? cell.address.key = some (.number x) := by
  rcases hasValue_name spells noTruth with ⟨cell, same, hasValue⟩ | ⟨noCell, hasValue⟩
  · have held : (seen.cell? cell.address).getD (.error .badReference) = .number x ↔
        seen.find? cell.address.key = some (.number x) := by
      rw [Context.cell?]
      cases seen.find? cell.address.key <;> simp
    rw [shows_number_iff hasValue, held]
    constructor
    · intro found other otherSame _
      rwa [Reference.address_eq (otherSame.trans same.symm)]
    · intro each
      by_cases key : cell.address.key = header
      · rw [key]
        exact own
      · exact each cell same key
  · rw [shows_number_iff hasValue, Expr.nameValue, get?_of_find? own, Option.getD_some]
    constructor
    · intro _ cell same
      exact absurd same (noCell cell)
    · intro _
      rfl

/-- A formula that writes just the header of a number gives the number if the header is no cell in
A1 notation or is the key of that cell; and if it is a cell of another key, only if the same number
stands under this key. -/
theorem find?_resolve_header_iff (extra : Context) (row : Row) (header label : String) (x : Float)
    (before after : List (String × Value)) (spells : SpellsName header.toList)
    (noTruth : ∀ truth ∈ ["TRUE", "FALSE"], Text.sameIgnoringCase header truth = false)
    (number : (header, .number x) ∈ row.entries)
    (split : row.entries = before ++ (label, .text ("=" ++ header)) :: after) :
    (resolve extra row).find? label = some (.number x) ↔
      ∀ cell : Reference, cell.text = header → cell.address.key ≠ header →
        (contextAfter (startContext extra row) before).find? cell.address.key =
          some (.number x) := by
  have own : (contextAfter (startContext extra row) before).find? header = some (.number x) :=
    find?_contextAfter_header (mem_plainCells.mpr ⟨number, rfl⟩) split
  rw [find?_resolve_formula split (formula?_equals header), Option.some.injEq]
  exact shows_header_iff spells noTruth own

/-- The headers of a number in lower case and in upper case, both the cell in the first row of the
seventeenth column. -/
theorem find?_resolve_header_q1 :
    let row : Row := ⟨[("q1", .number 5), ("copy", .text "=q1")], by decide⟩
    let upper : Row := ⟨[("Q1", .number 5), ("copy", .text "=Q1")], by decide⟩
    (resolve .empty row).find? "copy" ≠ some (.number 5) ∧
      (resolve .empty upper).find? "copy" = some (.number 5) := by
  intro row upper
  have spells : ∀ c, c.isAlpha → SpellsName [c, '1'] := fun c letter =>
    Token.spellsName_of_ascii (.inl letter) (by decide)
  let address : Address := ⟨0, 16, false, false, by decide, by decide⟩
  let cell : Reference := ⟨"q1", address, by decide, rfl⟩
  let upperCell : Reference := ⟨"Q1", address, by decide, rfl⟩
  have key : address.key = "Q1" := by decide +kernel
  have apart : address.key ≠ "q1" := by decide +kernel
  constructor
  · intro shown
    have read := (find?_resolve_header_iff .empty row "q1" "copy" 5 [("q1", .number 5)] []
      (spells 'q' (by decide)) (by decide) List.mem_cons_self rfl).mp shown cell rfl apart
    have nothing : ((contextAfter (startContext .empty row) [("q1", .number 5)]).find?
        address.key).isNone := by
      decide +kernel
    rw [Option.isNone_iff_eq_none] at nothing
    exact absurd (nothing.symm.trans read) (by simp)
  · refine (find?_resolve_header_iff .empty upper "Q1" "copy" 5 [("Q1", .number 5)] []
      (spells 'Q' (by decide)) (by decide) List.mem_cons_self rfl).mpr ?_
    intro other same otherApart
    have sameCell : other.text = upperCell.text := same
    rw [Reference.address_eq sameCell] at otherApart
    exact absurd key otherApart

end Row

end PhraseSheet
