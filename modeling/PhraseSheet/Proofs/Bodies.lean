import PhraseSheet.Proofs.Lexemes

namespace PhraseSheet

theorem Text.trimEnd_append_blank (text : List Char) {trail : List Char}
    (blank : ∀ c ∈ trail, isBlank c) : trimEnd (text ++ trail) = trimEnd text := by
  rw [trimEnd, trimEnd, List.reverse_append, List.dropWhile_append_of_pos]
  exact fun c member => blank c (List.mem_reverse.mp member)

namespace Expr

/-- The number of characters in front of the body of a formula. -/
def bodyPlace (formula : String) : Nat :=
  let gap := (formula.toList.takeWhile Text.isBlank).length
  if (Text.trim formula.toList).head? == some '=' then gap + 1 else gap

/-- What stands in front of a body: white space, with an equals sign behind it or in front of a body
that starts with neither. -/
inductive Fronts : List Char → List Char → Prop where
  | bare (blank : ∀ c ∈ front, Text.isBlank c)
      (visible : ∀ c ∈ body.head?, Text.isBlank c = false ∧ c ≠ '=') : Fronts front body
  | marked (blank : ∀ c ∈ gap, Text.isBlank c) : Fronts (gap ++ ['=']) body

theorem exists_trimEnd (text : List Char) :
    ∃ trail, text = Text.trimEnd text ++ trail ∧ ∀ c ∈ trail, Text.isBlank c := by
  have blank : ∀ c ∈ text.reverse.takeWhile Text.isBlank, Text.isBlank c :=
    List.all_eq_true.mp List.all_takeWhile
  refine ⟨(text.reverse.takeWhile Text.isBlank).reverse, ?_, ?_⟩
  · rw [Text.trimEnd, ← List.reverse_append, List.takeWhile_append_dropWhile, List.reverse_reverse]
  · intro c member
    exact blank c (List.mem_reverse.mp member)

theorem exists_trim (text : List Char) : ∃ trail, Text.trimStart text = Text.trim text ++ trail ∧
    text = text.takeWhile Text.isBlank ++ (Text.trim text ++ trail) ∧
      ∀ c ∈ trail, Text.isBlank c := by
  obtain ⟨trail, same, blank⟩ := exists_trimEnd (Text.trimStart text)
  refine ⟨trail, same, ?_, blank⟩
  rw [Text.trim, ← same]
  exact List.takeWhile_append_dropWhile.symm

/-- A formula is what stands in front of its body, the body and white space. -/
theorem exists_front (formula : String) :
    ∃ front trail, formula.toList = front ++ (formulaBody formula ++ trail) ∧
      Fronts front (formulaBody formula) ∧ front.length = bodyPlace formula ∧
      ∀ c ∈ trail, Text.isBlank c := by
  have blank : ∀ c ∈ formula.toList.takeWhile Text.isBlank, Text.isBlank c :=
    List.all_eq_true.mp List.all_takeWhile
  obtain ⟨trail, same, whole, trailBlank⟩ := exists_trim formula.toList
  unfold formulaBody bodyPlace
  split
  · rename_i body trimmed
    rw [trimmed] at whole ⊢
    refine ⟨formula.toList.takeWhile Text.isBlank ++ ['='], trail, ?_, .marked blank, ?_, trailBlank⟩
    · rw [List.append_assoc]
      exact whole
    · simp
  · rename_i noEqual
    refine ⟨formula.toList.takeWhile Text.isBlank, trail, whole, .bare blank ?_, ?_, trailBlank⟩
    · intro c first
      obtain ⟨rest, trimmed⟩ := List.head?_eq_some_iff.mp first
      constructor
      · have stops := List.head?_dropWhile_not Text.isBlank formula.toList
        have starts : (formula.toList.dropWhile Text.isBlank).head? = some c := by
          have trimmedStart : formula.toList.dropWhile Text.isBlank =
              Text.trim formula.toList ++ trail := same
          rw [trimmedStart, trimmed]
          rfl
        rw [starts] at stops
        simpa using stops
      · rintro rfl
        exact noEqual rest trimmed
    · rw [if_neg]
      intro starts
      obtain ⟨rest, trimmed⟩ := List.head?_eq_some_iff.mp (beq_iff_eq.mp starts)
      exact noEqual rest trimmed

theorem trimEnd_append {text trail : List Char} (ends : EndsVisibly text)
    (blank : ∀ c ∈ trail, Text.isBlank c) : Text.trimEnd (text ++ trail) = text :=
  (Text.trimEnd_append_blank text blank).trans ends.trimEnd_eq

/-- A text that ends visibly is the body behind what may stand in front of it. -/
theorem formulaBody_of_fronts {front text trail : List Char} (fronts : Fronts front text)
    (ends : EndsVisibly text) (any : text ≠ []) (blank : ∀ c ∈ trail, Text.isBlank c) :
    formulaBody (String.ofList (front ++ (text ++ trail))) = text := by
  unfold formulaBody
  rw [String.toList_ofList, Text.trim]
  cases fronts with
  | bare frontBlank visible =>
    obtain ⟨c, rest, rfl⟩ := List.exists_cons_of_ne_nil any
    obtain ⟨notBlank, notEqual⟩ := visible c rfl
    have started : Text.trimStart (front ++ (c :: rest ++ trail)) = c :: rest ++ trail :=
      dropWhile_run frontBlank (by simpa using notBlank)
    rw [started, trimEnd_append ends blank]
    split
    · rename_i same
      exact absurd (List.cons.inj same).1 notEqual
    · rfl
  | @marked gap _ gapBlank =>
    have started : Text.trimStart (gap ++ ['='] ++ (text ++ trail)) = '=' :: text ++ trail := by
      rw [List.append_assoc]
      exact dropWhile_run gapBlank (by simp; decide)
    rw [started, trimEnd_append (ends.cons (by decide)) blank]
    rfl

end Expr

namespace Token

theorem NumberText.visible {number : List Char} (shape : NumberText number) :
    ∀ c ∈ number, Text.isBlank c = false := by
  intro c member
  rcases shape.continuesName c member with goesOn | sign
  · exact not_isBlank_of_continuesName goesOn
  · have signs : ∀ c ∈ ['+', '-'], Text.isBlank c = false := by decide
    exact signs c sign

theorem Written.endsVisibly {chars after : List Char} {token : Token}
    (written : Written chars token after) : EndsVisibly chars := by
  cases written with
  | sign sign => exact endsVisibly_singleton (not_isBlank_of_sign sign)
  | less => exact endsVisibly_singleton (by decide)
  | greater => exact endsVisibly_singleton (by decide)
  | pair op => cases op <;> exact endsVisibly_of_all (by decide)
  | text content =>
    rw [← List.cons_append]
    exact endsVisibly_concat (by decide) _
  | number shape => exact endsVisibly_of_all shape.visible
  | error run =>
    have visible : ∀ c, isErrorChar c → Text.isBlank c = false := by
      intro c inside
      cases blank : Text.isBlank c with
      | false => rfl
      | true =>
        have outside := of_isBlank (P := fun c => isErrorChar c = false) (by decide) blank
        simp [outside] at inside
    refine endsVisibly_of_all (List.forall_mem_cons.mpr ⟨by decide, ?_⟩)
    exact fun c member => visible c (run c member)
  | name starts goesOn =>
    refine endsVisibly_of_all (List.forall_mem_cons.mpr ⟨not_isBlank_of_startsName starts, ?_⟩)
    exact fun c member => not_isBlank_of_continuesName (goesOn c member)

end Token

namespace Lexeme

/-- The text of joined lexemes ends visibly, and there is text if there are lexemes. -/
theorem Joined.endsVisibly {trail : List Char} {lexemes : List Lexeme} (joined : Joined trail lexemes)
    (any : lexemes ≠ []) : EndsVisibly (textOf lexemes) ∧ textOf lexemes ≠ [] := by
  induction joined with
  | nil => exact absurd rfl any
  | @cons rest lexeme blank written called joined ih =>
    obtain ⟨c, more, spelled, _⟩ := written.visible
    rw [textOf_cons]
    refine ⟨?_, by simp [spelled]⟩
    cases rest with
    | nil =>
      rw [textOf, List.flatMap_nil, List.append_nil]
      exact written.endsVisibly.behind (by simp [spelled]) _
    | cons next others =>
      obtain ⟨ends, some⟩ := ih (by simp)
      exact (ends.behind some _).behind (by simp [spelled]) _

end Lexeme

end PhraseSheet
