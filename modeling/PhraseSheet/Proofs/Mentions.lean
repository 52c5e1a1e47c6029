import PhraseSheet.Proofs.LexemeParts

namespace PhraseSheet

namespace FormulaPart

/-- The places and texts of the names among the parts of a text, which starts at the given place. -/
def spansFrom (start : Nat) : List FormulaPart → List (Nat × String)
  | [] => []
  | part :: rest =>
    (part.name?.map fun name => (start, name)).toList ++ spansFrom (start + part.chars.length) rest

/-- The places and texts of the names that are found in the text of a formula. -/
def spans (formula : String) : List (Nat × String) := spansFrom 0 (cut formula.toList)

theorem mentioned_eq (formula : String) :
    mentioned formula = ((spans formula).map Prod.snd).eraseDups := by
  have names : ∀ parts start, parts.filterMap name? = (spansFrom start parts).map Prod.snd := by
    intro parts
    induction parts with
    | nil => exact fun _ => rfl
    | cons part rest ih =>
      intro start
      rw [spansFrom, List.map_append, ← ih, List.filterMap_cons]
      cases part.name? <;> rfl
  rw [mentioned, spans, ← names]

section

variable {parts : List FormulaPart}

theorem spansFrom_append (start : Nat) (parts more : List FormulaPart) :
    spansFrom start (parts ++ more) =
      spansFrom start parts ++ spansFrom (start + (parts.flatMap chars).length) more := by
  induction parts generalizing start with
  | nil => rfl
  | cons part rest ih =>
    rw [List.cons_append, spansFrom, spansFrom, ih, List.flatMap_cons, List.length_append,
      List.append_assoc, Nat.add_assoc]

theorem spansFrom_eq_nil {start : Nat} : spansFrom start parts = [] ↔ Silent parts := by
  induction parts generalizing start with
  | nil => simp [spansFrom, Silent]
  | cons part rest ih =>
    rw [spansFrom, List.append_eq_nil_iff, ih]
    cases isName : part.isName <;> simp [name?, isName, Silent]

theorem le_of_mem_spansFrom {start : Nat} {span : Nat × String}
    (member : span ∈ spansFrom start parts) : start ≤ span.1 := by
  induction parts generalizing start with
  | nil => cases member
  | cons part rest ih =>
    rcases List.mem_append.mp member with first | later
    · cases named : part.name? with
      | none => simp [named] at first
      | some label =>
        have same : span = (start, label) := by simpa [named] using first
        rw [same]
    · have bound := ih later
      omega

theorem lt_of_mem_spansFrom (proper : ∀ part ∈ parts, part.chars ≠ []) {start : Nat}
    {span : Nat × String} (member : span ∈ spansFrom start parts) :
    span.1 < start + (parts.flatMap chars).length := by
  induction parts generalizing start with
  | nil => cases member
  | cons part rest ih =>
    have any := List.length_pos_iff.mpr (proper part List.mem_cons_self)
    rw [List.flatMap_cons, List.length_append]
    rcases List.mem_append.mp member with first | later
    · cases named : part.name? with
      | none => simp [named] at first
      | some label =>
        have same : span = (start, label) := by simpa [named] using first
        rw [same]
        dsimp only
        omega
    · have bound := ih (fun other later => proper other (List.mem_cons_of_mem _ later)) later
      omega

theorem not_point_of_mem_spansFrom (pointless : Pointless parts) {start : Nat}
    {span : Nat × String} (member : span ∈ spansFrom start parts) : '.' ∉ span.2.toList := by
  induction parts generalizing start with
  | nil => cases member
  | cons part rest ih =>
    rcases List.mem_append.mp member with first | later
    · cases isName : part.isName with
      | false => simp [name?, isName] at first
      | true =>
        have same : span = (start, String.ofList part.chars) := by simpa [name?, isName] using first
        rw [same, String.toList_ofList]
        exact pointless part List.mem_cons_self isName
    · exact ih (fun other later => pointless other (List.mem_cons_of_mem _ later)) later

end

end FormulaPart

namespace Lexeme

open FormulaPart

/-- The place and text of the lexeme that starts at the given place, if it is a name. -/
def span? (start : Nat) (lexeme : Lexeme) : Option (Nat × String) :=
  if lexeme.isName then some (start, String.ofList lexeme.chars) else none

def spansFrom (start : Nat) : List Lexeme → List (Nat × String)
  | [] => []
  | lexeme :: rest =>
    let place := start + lexeme.gap.length
    (lexeme.span? place).toList ++ spansFrom (place + lexeme.chars.length) rest

theorem le_of_mem_spansFrom {start : Nat} {lexemes : List Lexeme} {span : Nat × String}
    (member : span ∈ spansFrom start lexemes) : start ≤ span.1 := by
  induction lexemes generalizing start with
  | nil => cases member
  | cons lexeme rest ih =>
    rcases List.mem_append.mp member with first | later
    · unfold span? at first
      split at first
      · rw [Option.toList_some, List.mem_singleton] at first
        rw [first]
        exact Nat.le_add_right _ _
      · cases first
    · have bound := ih later
      omega

theorem append_eq_append_iff_of_bounds {place : Nat} {first second others more : List (Nat × String)}
    (below : ∀ span ∈ first, span.1 < place) (above : ∀ span ∈ second, place ≤ span.1)
    (otherBelow : ∀ span ∈ others, span.1 < place) (otherAbove : ∀ span ∈ more, place ≤ span.1) :
    first ++ second = others ++ more ↔ first = others ∧ second = more := by
  constructor
  · intro same
    have cut : ∀ low high : List (Nat × String), (∀ span ∈ low, span.1 < place) →
        (∀ span ∈ high, place ≤ span.1) →
        (low ++ high).filter (fun span => decide (span.1 < place)) = low := by
      intro low high low_lt le_high
      have kept : low.filter (fun span => decide (span.1 < place)) = low :=
        List.filter_eq_self.mpr fun span member => decide_eq_true (low_lt span member)
      have dropped : high.filter (fun span => decide (span.1 < place)) = [] := by
        rw [List.filter_eq_nil_iff]
        intro span member
        simpa using le_high span member
      rw [List.filter_append, kept, dropped, List.append_nil]
    have firsts : first = others := by
      rw [← cut first second below above, same, cut others more otherBelow otherAbove]
    rw [firsts] at same
    exact ⟨firsts, List.append_cancel_left same⟩
  · rintro ⟨rfl, rfl⟩
    rfl

/-- The names among the parts of one lexeme are the lexeme just if it is taken whole. -/
theorem Parts.spansFrom_iff {lexeme : Lexeme} {parts : List FormulaPart} (isParts : Parts lexeme parts)
    (start : Nat) :
    FormulaPart.spansFrom start parts = (lexeme.span? start).toList ↔ lexeme.isTakenWhole := by
  unfold span?
  cases whole : lexeme.isTakenWhole with
  | true =>
    cases isName : lexeme.isName with
    | true =>
      rw [isParts.name whole isName]
      simp [FormulaPart.spansFrom, FormulaPart.name?]
    | false =>
      simpa using spansFrom_eq_nil.mpr (isParts.silent whole isName)
  | false =>
    cases isName : lexeme.isName with
    | true =>
      obtain ⟨pointless, point⟩ := isParts.pointed whole isName
      have differs : FormulaPart.spansFrom start parts ≠ [(start, String.ofList lexeme.chars)] := by
        intro same
        have noPoint := not_point_of_mem_spansFrom pointless
          (same ▸ List.mem_singleton_self (start, String.ofList lexeme.chars))
        rw [String.toList_ofList] at noPoint
        exact noPoint point
      simpa using differs
    | false =>
      have heard := isParts.heard whole isName
      simpa [spansFrom_eq_nil] using heard

/-- The parts of a text are those of its first gap, its first lexeme and the rest. -/
theorem exists_cut {trail : List Char} {lexeme : Lexeme} {rest : List Lexeme}
    (blank : ∀ c ∈ lexeme.gap, Text.isBlank c)
    (written : Token.Written lexeme.chars lexeme.token (textOf rest ++ trail))
    (called : lexeme.called = Token.beforeParen (textOf rest ++ trail)) :
    ∃ gapParts parts, Silent gapParts ∧ Parts lexeme parts ∧
      (∀ part ∈ parts, part.chars ≠ []) ∧ gapParts.flatMap FormulaPart.chars = lexeme.gap ∧
      parts.flatMap FormulaPart.chars = lexeme.chars ∧
      cut (textOf (lexeme :: rest) ++ trail) =
        gapParts ++ (parts ++ cut (textOf rest ++ trail)) := by
  obtain ⟨gapParts, gapCuts, silent⟩ :=
    cutsInto_plains (fun c member => isPlain_of_isBlank (blank c member))
      (lexeme.chars ++ (textOf rest ++ trail))
  obtain ⟨parts, cuts, isParts⟩ := exists_parts written called
  refine ⟨gapParts, parts, silent, isParts, cuts.proper, gapCuts.whole, cuts.whole, ?_⟩
  rw [textOf_cons, List.append_assoc, List.append_assoc, gapCuts.cut, cuts.cut]

theorem exists_cut_blank {trail : List Char} (blank : ∀ c ∈ trail, Text.isBlank c) :
    Silent (cut trail) ∧ (cut trail).flatMap FormulaPart.chars = trail := by
  obtain ⟨parts, cuts, silent⟩ :=
    cutsInto_plains (fun c member => isPlain_of_isBlank (blank c member)) []
  have same : cut trail = parts := by
    have whole := cuts.cut
    rwa [List.append_nil, FormulaPart.cut.eq_1, List.append_nil] at whole
  rw [same]
  exact ⟨silent, cuts.whole⟩

/-- The names that are found in a text are its lexemes that are names just if every lexeme is taken
whole. -/
theorem Joined.spansFrom_iff {trail : List Char} (trailBlank : ∀ c ∈ trail, Text.isBlank c)
    {lexemes : List Lexeme} (joined : Joined trail lexemes) (start : Nat) :
    FormulaPart.spansFrom start (cut (textOf lexemes ++ trail)) = spansFrom start lexemes ↔
      ∀ lexeme ∈ lexemes, lexeme.isTakenWhole := by
  induction joined generalizing start with
  | nil =>
    have silent : Silent (cut (textOf [] ++ trail)) := (exists_cut_blank trailBlank).1
    rw [spansFrom_eq_nil.mpr silent]
    simp [spansFrom]
  | @cons rest lexeme blank written called joined ih =>
    obtain ⟨gapParts, parts, silent, isParts, proper, gapWhole, whole, same⟩ :=
      exists_cut blank written called
    have spans : FormulaPart.spansFrom start (cut (textOf (lexeme :: rest) ++ trail)) =
        FormulaPart.spansFrom (start + lexeme.gap.length) parts ++
          FormulaPart.spansFrom (start + lexeme.gap.length + lexeme.chars.length)
            (cut (textOf rest ++ trail)) := by
      rw [same, FormulaPart.spansFrom_append, FormulaPart.spansFrom_append,
        spansFrom_eq_nil.mpr silent, gapWhole, whole, List.nil_append]
    have visible : 0 < lexeme.chars.length := by
      obtain ⟨c, more, spelled, _⟩ := written.visible
      rw [spelled]
      exact Nat.succ_pos _
    have own : ∀ span ∈ (lexeme.span? (start + lexeme.gap.length)).toList,
        span.1 < start + lexeme.gap.length + lexeme.chars.length := by
      unfold span?
      intro span member
      split at member
      · rw [Option.toList_some, List.mem_singleton] at member
        rw [member]
        exact Nat.lt_add_of_pos_right visible
      · cases member
    rw [spans, spansFrom, append_eq_append_iff_of_bounds
        (fun span member => whole ▸ lt_of_mem_spansFrom proper member)
        (fun span member => FormulaPart.le_of_mem_spansFrom member) own
        (fun span member => le_of_mem_spansFrom member),
      isParts.spansFrom_iff, ih, List.forall_mem_cons]

section

variable (cell? : String → Option Reference)

def replacedText (part : FormulaPart) : List Char :=
  (part.replaced fun name => (cell? name).map Reference.text).toList

theorem replacedText_silent {parts : List FormulaPart} (silent : Silent parts) :
    parts.flatMap (replacedText cell?) = parts.flatMap FormulaPart.chars :=
  silent.toList_replaced _

theorem Parts.replacedText {lexeme : Lexeme} {parts : List FormulaPart}
    (isParts : Parts lexeme parts) (whole : parts.flatMap FormulaPart.chars = lexeme.chars)
    (taken : lexeme.isTakenWhole) :
    parts.flatMap (Lexeme.replacedText cell?) = (lexeme.renamed cell?).chars := by
  cases isName : lexeme.isName with
  | true =>
    rw [isParts.name taken isName]
    cases image : cell? (String.ofList lexeme.chars) <;>
      simp [Lexeme.replacedText, FormulaPart.replaced, FormulaPart.name?, renamed, isName, image]
  | false =>
    rw [replacedText_silent cell? (isParts.silent taken isName), whole]
    simp [renamed, isName]

/-- The text with cells in place of the names that are found in it, if every lexeme is taken whole. -/
theorem Joined.replacedText {trail : List Char} (trailBlank : ∀ c ∈ trail, Text.isBlank c)
    {lexemes : List Lexeme} (joined : Joined trail lexemes)
    (whole : ∀ lexeme ∈ lexemes, lexeme.isTakenWhole) :
    (cut (textOf lexemes ++ trail)).flatMap (replacedText cell?) =
      textOf (lexemes.map (Lexeme.renamed cell?)) ++ trail := by
  induction joined with
  | nil =>
    obtain ⟨silent, same⟩ := exists_cut_blank trailBlank
    exact (replacedText_silent cell? silent).trans same
  | @cons rest lexeme blank written called joined ih =>
    obtain ⟨taken, others⟩ := List.forall_mem_cons.mp whole
    obtain ⟨gapParts, parts, silent, isParts, _, gapWhole, partsWhole, same⟩ :=
      exists_cut blank written called
    rw [same, List.flatMap_append, List.flatMap_append, replacedText_silent cell? silent, gapWhole,
      isParts.replacedText cell? partsWhole taken, ih others, List.map_cons, textOf_cons,
      gap_renamed, List.append_assoc, List.append_assoc]

end

end Lexeme

end PhraseSheet
