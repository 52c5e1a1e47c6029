import PhraseSheet.Proofs.Bodies
import PhraseSheet.Proofs.Mentions
import PhraseSheet.Proofs.ReadNames

namespace PhraseSheet

open FormulaPart

namespace Expr.Fronts

theorem plain {front body : List Char} (fronts : Fronts front body) : ∀ c ∈ front, isPlain c := by
  cases fronts with
  | bare blank => exact fun c member => isPlain_of_isBlank (blank c member)
  | marked blank =>
    intro c member
    rcases List.mem_append.mp member with inGap | isMark
    · exact isPlain_of_isBlank (blank c inGap)
    · rw [List.mem_singleton.mp isMark]
      decide

theorem alike {front text others : List Char} (fronts : Fronts front text)
    (alike : Token.Alike text others) (any : text ≠ []) : Fronts front others := by
  cases fronts with
  | bare blank visible =>
    refine .bare blank ?_
    obtain ⟨first, rest, rfl⟩ := List.exists_cons_of_ne_nil any
    rcases alike with same | ⟨starts, _⟩ | ⟨_, d, starts, isName⟩
    · rw [← same]
      exact visible
    · simp [starts first rfl] at visible
    · intro c also
      cases starts.symm.trans also
      refine ⟨Token.not_isBlank_of_startsName isName, ?_⟩
      rintro rfl
      exact absurd isName (by decide)
  | marked blank => exact .marked blank

theorem shorten {front text trail : List Char} (fronts : Fronts front (text ++ trail)) :
    Fronts front text := by
  cases fronts with
  | bare blank visible =>
    refine .bare blank ?_
    intro c first
    obtain ⟨rest, rfl⟩ := List.head?_eq_some_iff.mp first
    exact visible c rfl
  | marked blank => exact .marked blank

end Expr.Fronts

namespace Lexeme

open PhraseSheet.Expr

/-- The text of a formula is its lexemes, between what stands in front of a body and white space. -/
structure Layout (formula : String) (lexemes : List Lexeme) (front trail : List Char) : Prop where
  whole : formula.toList = front ++ (textOf lexemes ++ trail)
  fronts : Fronts front (textOf lexemes ++ trail)
  place : front.length = bodyPlace formula
  blank : ∀ c ∈ trail, Text.isBlank c
  joined : Joined trail lexemes
  any : textOf lexemes ≠ []

theorem renamed_none (lexeme : Lexeme) : lexeme.renamed (fun _ => none) = lexeme := by
  simp [renamed]

theorem exists_layout {formula : String} {tree : Expr} (accepted : Expr.parse formula = .ok tree) :
    ∃ front trail, Layout formula (split (formulaBody formula)) front trail := by
  obtain ⟨settled, some⟩ := Grammar.settled_of_parse accepted
  obtain ⟨front, trail, whole, fronts, place, blank⟩ := exists_front formula
  obtain ⟨ends, endsBlank, same, joined⟩ := joined_split (formulaBody formula) settled
  have lexemes : split (formulaBody formula) ≠ [] := by
    intro none
    rw [← map_token_split, none] at some
    exact some rfl
  have any := (joined.endsVisibly lexemes).2
  have allBlank : ∀ c ∈ ends ++ trail, Text.isBlank c := fun c member =>
    (List.mem_append.mp member).elim (endsBlank c) (blank c)
  obtain ⟨moved, alike, _⟩ := joined.renamed (fun _ => none) endsBlank allBlank
  have unchanged : (split (formulaBody formula)).map (renamed fun _ => none) =
      split (formulaBody formula) :=
    (List.map_congr_left fun lexeme _ => renamed_none lexeme).trans (List.map_id _)
  rw [unchanged] at moved alike
  generalize split (formulaBody formula) = lexemes at *
  refine ⟨front, ends ++ trail, ?_, ?_, place, allBlank, moved, any⟩
  · rw [whole, same, List.append_assoc]
  · rw [same] at fronts
    exact fronts.alike alike (by simp [any])

namespace Layout

variable {formula : String} {lexemes : List Lexeme} {front trail : List Char}

theorem endsVisibly (layout : Layout formula lexemes front trail) :
    EndsVisibly (textOf lexemes) :=
  (layout.joined.endsVisibly fun none => layout.any (by rw [none]; rfl)).1

/-- The names that are found in a formula are its lexemes that are names just if every lexeme is
taken whole. -/
theorem spans_iff (layout : Layout formula lexemes front trail) :
    FormulaPart.spans formula = spansFrom (bodyPlace formula) lexemes ↔
      ∀ lexeme ∈ lexemes, lexeme.isTakenWhole := by
  obtain ⟨parts, cuts, silent⟩ := cutsInto_plains layout.fronts.plain (textOf lexemes ++ trail)
  have found : FormulaPart.spans formula =
      FormulaPart.spansFrom (bodyPlace formula) (cut (textOf lexemes ++ trail)) := by
    rw [FormulaPart.spans, layout.whole, cuts.cut, FormulaPart.spansFrom_append,
      spansFrom_eq_nil.mpr silent, cuts.whole, layout.place, Nat.zero_add, List.nil_append]
  rw [found]
  exact layout.joined.spansFrom_iff layout.blank _

variable (cell? : String → Option Reference)

/-- The formula with cells in place of the names that are found in it. -/
theorem toList_rename (layout : Layout formula lexemes front trail)
    (whole : ∀ lexeme ∈ lexemes, lexeme.isTakenWhole) :
    (rename (fun name => (cell? name).map Reference.text) formula).toList =
      front ++ (textOf (lexemes.map (renamed cell?)) ++ trail) := by
  obtain ⟨parts, cuts, silent⟩ := cutsInto_plains layout.fronts.plain (textOf lexemes ++ trail)
  have replaced : (rename (fun name => (cell? name).map Reference.text) formula).toList =
      (cut formula.toList).flatMap (replacedText cell?) :=
    FormulaPart.toList_rename _ formula
  rw [replaced, layout.whole, cuts.cut, List.flatMap_append, replacedText_silent cell? silent,
    cuts.whole, layout.joined.replacedText cell? layout.blank whole]

/-- The tokens of the formula with cells in place of names are its own with these cells. -/
theorem scan_rename (layout : Layout formula lexemes front trail)
    (whole : ∀ lexeme ∈ lexemes, lexeme.isTakenWhole) :
    Token.scan (formulaBody (rename (fun name => (cell? name).map Reference.text) formula)) =
      lexemes.map fun lexeme => (lexeme.renamed cell?).token := by
  have written := layout.toList_rename cell? whole
  obtain ⟨joined, alike, _⟩ := layout.joined.renamed cell? layout.blank layout.blank
  have fronts := layout.fronts.alike alike (by simp [layout.any])
  have lexemesLeft : lexemes.map (renamed cell?) ≠ [] := by
    intro none
    rw [List.map_eq_nil_iff.mp none] at layout
    exact layout.any rfl
  obtain ⟨ends, any⟩ := joined.endsVisibly lexemesLeft
  have body := formulaBody_of_fronts fronts.shorten ends any layout.blank
  rw [← written, String.ofList_toList] at body
  have nothing : ∀ c ∈ ([] : List Char), Text.isBlank c := List.forall_mem_nil _
  have scanned := (layout.joined.renamed cell? layout.blank nothing).1.scan nothing
  rw [List.append_nil, List.map_map] at scanned
  rw [body, scanned]
  rfl

end Layout

theorem exists_of_isSome {formula : String} (some : (Expr.parse formula).toOption.isSome) :
    ∃ tree, Expr.parse formula = .ok tree := by
  cases read : Expr.parse formula with
  | ok tree => exact ⟨tree, rfl⟩
  | error failure =>
    rw [read] at some
    cases some

def names (formula : String) : List Lexeme := (split (formulaBody formula)).filter isName

/-- The places and texts of the names that a formula reads. -/
def spans (formula : String) : List (Nat × String) :=
  spansFrom (bodyPlace formula) (split (formulaBody formula))

/-- The names that are found in the text of a formula are those that its expression reads, at their
places, and cells may be put in place of them. -/
structure NamesAgree (formula : String) (tree : Expr) : Prop where
  scanned : (split (formulaBody formula)).map token = Token.scan (formulaBody formula)
  spans : FormulaPart.spans formula = Lexeme.spans formula
  reads : tree.Reads ((names formula).map token)
  mentioned : FormulaPart.mentioned formula =
    ((names formula).map fun lexeme => String.ofList lexeme.chars).eraseDups
  /-- A name that is given a cell becomes the token of that cell; other tokens stay as they are. -/
  renamed (cell? : String → Option Reference) :
    Token.scan (formulaBody (rename (fun name => (cell? name).map Reference.text) formula)) =
      (split (formulaBody formula)).map fun lexeme => (lexeme.renamed cell?).token

theorem map_spansFrom (start : Nat) (lexemes : List Lexeme) :
    (spansFrom start lexemes).map Prod.snd =
      (lexemes.filter isName).map fun lexeme => String.ofList lexeme.chars := by
  induction lexemes generalizing start with
  | nil => rfl
  | cons lexeme rest ih =>
    rw [spansFrom, List.map_append, ih, span?, List.filter_cons]
    cases lexeme.isName <;> rfl

/-- The expression of a formula reads its lexemes that are names. -/
theorem reads_of_parse {formula : String} {tree : Expr} (accepted : Expr.parse formula = .ok tree) :
    tree.Reads ((names formula).map token) := by
  obtain ⟨front, trail, layout⟩ := exists_layout accepted
  obtain ⟨need, derived, _⟩ :=
    Grammar.ofTokens_eq_ok_iff.mp (Grammar.parse_ok_iff_ofTokens.mp accepted)
  have reads := derived.reads
  rw [← map_token_split, layout.joined.reading layout.blank] at reads
  exact reads

/-- The names of a formula that is read are found as they are read just if every lexeme is taken
whole: no name has a point in it, save that of a function which hides its points. -/
theorem namesAgree_iff {formula : String} {tree : Expr} (accepted : Expr.parse formula = .ok tree) :
    NamesAgree formula tree ↔ ∀ lexeme ∈ split (formulaBody formula), lexeme.isTakenWhole := by
  obtain ⟨front, trail, layout⟩ := exists_layout accepted
  constructor
  · intro agree
    exact layout.spans_iff.mp agree.spans
  · intro whole
    have found : FormulaPart.spans formula = spans formula := layout.spans_iff.mpr whole
    refine ⟨map_token_split _, found, reads_of_parse accepted, ?_, ?_⟩
    · rw [mentioned_eq, found, spans, map_spansFrom]
      rfl
    · exact fun cell? => layout.scan_rename cell? whole

/-- A name with a point in it is taken for the name in front of the point. -/
theorem not_namesAgree_point :
    (∃ tree, Expr.parse "=Total+B2" = .ok tree ∧ NamesAgree "=Total+B2" tree) ∧
      ∃ tree, Expr.parse "=a.b" = .ok tree ∧ ¬NamesAgree "=a.b" tree := by
  have accepts : ∀ formula ∈ ["=Total+B2", "=a.b"], (Expr.parse formula).toOption.isSome := by
    decide +kernel
  obtain ⟨tree, accepted⟩ := exists_of_isSome (accepts "=Total+B2" (by simp))
  obtain ⟨other, otherAccepted⟩ := exists_of_isSome (accepts "=a.b" (by simp))
  refine ⟨⟨tree, accepted, (namesAgree_iff accepted).mpr (by decide +kernel)⟩, other,
    otherAccepted, ?_⟩
  intro agree
  have whole := (namesAgree_iff otherAccepted).mp agree
  have pointed : ¬∀ lexeme ∈ split (formulaBody "=a.b"), lexeme.isTakenWhole := by decide +kernel
  exact pointed whole

end Lexeme

end PhraseSheet
