import PhraseSheet.Proofs.Scanning

/-! The characters that write a token. They depend on what follows only through its first
characters: no name and no number may go on there, and a parenthesis makes a name a function. -/

namespace PhraseSheet

namespace Token

/-- A whole operand by itself, between which and the next operand a sign must stand. -/
def isAtom : Token → Bool
  | .number _ | .text _ | .boolean _ | .error _ | .identifier _ | .cell _ => true
  | _ => false

/-- The token may stand in a formula. -/
def isPart : Token → Bool
  | .invalid _ => false
  | _ => true

/-- An opening parenthesis comes next, behind white space at most. -/
def beforeParen (after : List Char) : Bool := (Text.trimStart after).head? == some '('

/-- The characters write the token in front of what follows. -/
inductive Written : List Char → Token → List Char → Prop where
  | sign (sign : sign? c = some token) : Written [c] token after
  | less (stops : ∀ c ∈ after.head?, c ≠ '=' ∧ c ≠ '>') : Written ['<'] (.comparison .less) after
  | greater (stops : ∀ c ∈ after.head?, c ≠ '=') : Written ['>'] (.comparison .greater) after
  | pair (op : Comparison) (wide : op ∈ [Comparison.notEqual, .lessOrEqual, .greaterOrEqual]) :
      Written op.symbol.toList (.comparison op) after
  | text (content : List Char) (stops : ∀ c ∈ after.head?, c ≠ '"') :
      Written ('"' :: (doubled content ++ ['"'])) (.text (String.ofList content)) after
  | number (shape : NumberText (c :: more))
      (starts : c.isDigit || c == '.' && more.head?.any Char.isDigit)
      (reads : Decimal.read? (c :: more) = some x) (stops : Apart after) :
      Written (c :: more) (.number x) after
  | error (run : ∀ c ∈ more, isErrorChar c) (stops : ∀ c ∈ after.head?, isErrorChar c = false)
      (reads : CellError.ofText? (String.ofList ('#' :: more)) = some cause) (apart : Apart after) :
      Written ('#' :: more) (.error cause) after
  | name (starts : startsName c) (goesOn : ∀ d ∈ more, continuesName d) (stops : Apart after)
      (reads : nameOf (c :: more) after = token) : Written (c :: more) token after

theorem isAtom_nameOf (content after : List Char) : (nameOf content after).isAtom := by
  unfold nameOf
  dsimp only
  repeat' split
  all_goals rfl

private theorem doubled_cons (c : Char) (content : List Char) :
    doubled (c :: content) = (if c == '"' then [c, c] else [c]) ++ doubled content :=
  List.flatMap_cons

/-- The text is closed behind the content by a single quote. -/
def Closes (input content after : List Char) : Prop :=
  input = doubled content ++ '"' :: after ∧ ∀ c ∈ after.head?, c ≠ '"'

theorem Closes.step {input content after : List Char} (closes : Closes input content after)
    (c : Char) :
    Closes ((if c == '"' then [c, c] else [c]) ++ input) (c :: content) after := by
  refine ⟨?_, closes.2⟩
  rw [doubled_cons, List.append_assoc, ← closes.1]

theorem closes_of_quoted {input content after : List Char}
    (closed : quoted input = (content, some after)) : Closes input content after := by
  induction input using readQuoted.induct generalizing content with
  | case1 => simp [quoted, readQuoted] at closed
  | case2 rest _ _ _ ih =>
    rw [quoted_double] at closed
    obtain ⟨rfl, reached⟩ := Prod.ext_iff.mp closed
    exact (ih (Prod.ext rfl reached)).step '"'
  | case3 c rest single quote =>
    rw [beq_iff_eq] at quote
    subst quote
    have stops : ∀ c ∈ rest.head?, c ≠ '"' := by
      rintro _ first rfl
      obtain ⟨others, rfl⟩ := List.head?_eq_some_iff.mp first
      exact single others rfl rfl
    rw [quoted_close stops] at closed
    cases closed
    exact ⟨rfl, stops⟩
  | case4 c rest _ other _ _ _ ih =>
    rw [beq_iff_eq] at other
    rw [quoted_cons other] at closed
    obtain ⟨rfl, reached⟩ := Prod.ext_iff.mp closed
    have closes := (ih (Prod.ext rfl reached)).step c
    rwa [if_neg (by simpa using other)] at closes

section

variable {c : Char} {rest : List Char}

theorem scanFrom_error (rest : List Char) :
    scanFrom '#' rest =
      taking (rest.takeWhile isErrorChar).length '#' rest fun content _ => errorOf content :=
  rfl

theorem written_less (rest : List Char) :
    ∃ chars, '<' :: rest = chars ++ (scanLess rest).2.val ∧
      Written chars (scanLess rest).1 (scanLess rest).2.val := by
  unfold scanLess
  split
  · exact ⟨['<', '='], rfl, .pair .lessOrEqual (by decide)⟩
  · exact ⟨['<', '>'], rfl, .pair .notEqual (by decide)⟩
  · rename_i noEqual noGreater
    refine ⟨['<'], rfl, .less ?_⟩
    intro c first
    obtain ⟨others, rfl⟩ := List.head?_eq_some_iff.mp first
    exact ⟨fun same => noEqual others (by rw [same]), fun same => noGreater others (by rw [same])⟩

theorem written_greater (rest : List Char) :
    ∃ chars, '>' :: rest = chars ++ (scanGreater rest).2.val ∧
      Written chars (scanGreater rest).1 (scanGreater rest).2.val := by
  unfold scanGreater
  split
  · exact ⟨['>', '='], rfl, .pair .greaterOrEqual (by decide)⟩
  · rename_i noEqual
    refine ⟨['>'], rfl, .greater ?_⟩
    intro c first
    obtain ⟨others, rfl⟩ := List.head?_eq_some_iff.mp first
    exact fun same => noEqual others (by rw [same])

theorem written_text (part : (scanText rest).1.isPart) :
    ∃ chars, '"' :: rest = chars ++ (scanText rest).2.val ∧
      Written chars (scanText rest).1 (scanText rest).2.val := by
  unfold scanText at part ⊢
  split
  · rename_i content after found
    obtain ⟨same, stops⟩ := @closes_of_quoted rest content after.val (by simp [quoted, found])
    refine ⟨'"' :: (doubled content ++ ['"']), ?_, .text content stops⟩
    simpa using same
  · rename_i content found
    simp [found, isPart] at part

theorem lt_numberLength (starts : c.isDigit || c == '.' && rest.head?.any Char.isDigit) :
    0 < numberLength (c :: rest) ∧ (c.isDigit = false → 1 < numberLength (c :: rest)) := by
  cases digit : c.isDigit with
  | true =>
    refine ⟨?_, by simp⟩
    simp only [numberLength, List.takeWhile_cons, digit, if_true, List.length_cons]
    omega
  | false =>
    rw [digit, Bool.false_or, Bool.and_eq_true, beq_iff_eq] at starts
    obtain ⟨rfl, digits⟩ := starts
    have length := @numberLength_append [] ('.' :: rest) (by simp) (by simp [digit])
    cases rest with
    | nil => simp at digits
    | cons d others =>
      have next : d.isDigit = true := by simpa using digits
      simp only [List.nil_append, fractionLength, List.takeWhile_cons, next, if_true,
        List.length_cons] at length
      omega

theorem written_number (starts : c.isDigit || c == '.' && rest.head?.any Char.isDigit)
    (part : (scanFrom c rest).1.isPart)
    (settled : (scanFrom c rest).1.isAtom → Apart (scanFrom c rest).2.val) :
    ∃ chars, c :: rest = chars ++ (scanFrom c rest).2.val ∧
      Written chars (scanFrom c rest).1 (scanFrom c rest).2.val := by
  obtain ⟨number, after, same, shape, length⟩ := exists_number (c :: rest)
  obtain ⟨first, second⟩ := lt_numberLength starts
  rw [scanFrom_number starts, length] at part settled ⊢
  rw [length] at first second
  cases number with
  | nil => simp at first
  | cons d more =>
    rw [List.cons_append] at same
    obtain ⟨rfl, rfl⟩ := List.cons.inj same
    simp only [taking, List.length_cons, Nat.add_sub_cancel, List.take_left, List.drop_left]
      at part settled ⊢
    cases read : Decimal.read? (c :: more) with
    | none => simp [numberOf, read, isPart] at part
    | some x =>
      have written : numberOf (c :: more) = .number x := by simp [numberOf, read]
      rw [written] at settled ⊢
      refine ⟨c :: more, rfl, .number shape ?_ read (settled rfl)⟩
      cases digit : c.isDigit with
      | true => rfl
      | false =>
        cases more with
        | nil => simp [digit] at second
        | cons e others => simpa [digit] using starts

theorem written_error (part : (scanFrom '#' rest).1.isPart)
    (settled : (scanFrom '#' rest).1.isAtom → Apart (scanFrom '#' rest).2.val) :
    ∃ chars, '#' :: rest = chars ++ (scanFrom '#' rest).2.val ∧
      Written chars (scanFrom '#' rest).1 (scanFrom '#' rest).2.val := by
  obtain ⟨run, after, rfl, inside, stops, taken⟩ := exists_run isErrorChar rest
  rw [scanFrom_error] at part settled ⊢
  simp only [taking, taken, List.take_left, List.drop_left] at part settled ⊢
  cases read : CellError.ofText? (String.ofList ('#' :: run)) with
  | none =>
    rw [errorOf, read] at part
    cases part
  | some cause =>
    have written : errorOf ('#' :: run) = .error cause := by rw [errorOf, read]
    rw [written] at settled ⊢
    exact ⟨'#' :: run, rfl, .error inside stops read (settled rfl)⟩

theorem written_name (starts : startsName c) :
    ∃ chars, c :: rest = chars ++ (scanFrom c rest).2.val ∧
      Written chars (scanFrom c rest).1 (scanFrom c rest).2.val := by
  obtain ⟨run, after, rfl, inside, stops, taken⟩ := exists_run continuesName rest
  rw [scanFrom_name starts]
  simp only [taking, taken, List.take_left, List.drop_left]
  exact ⟨c :: run, rfl, .name starts inside stops rfl⟩

/-- A token that is part of a formula and keeps apart from what follows is written by the characters
that were scanned. -/
theorem written_of_scanFrom (part : (scanFrom c rest).1.isPart)
    (settled : (scanFrom c rest).1.isAtom → Apart (scanFrom c rest).2.val) :
    ∃ chars, c :: rest = chars ++ (scanFrom c rest).2.val ∧
      Written chars (scanFrom c rest).1 (scanFrom c rest).2.val := by
  cases sign : sign? c with
  | some token =>
    rw [scanFrom_sign sign]
    exact ⟨[c], rfl, .sign sign⟩
  | none =>
    by_cases less : c = '<'
    · subst less
      exact written_less rest
    by_cases greater : c = '>'
    · subst greater
      exact written_greater rest
    by_cases quote : c = '"'
    · subst quote
      exact written_text part
    by_cases number : c.isDigit || c == '.' && rest.head?.any Char.isDigit
    · exact written_number number part settled
    by_cases error : c = '#'
    · subst error
      exact written_error part settled
    by_cases name : startsName c
    · exact written_name name
    · unfold scanFrom at part
      simp [sign, less, greater, quote, number, error, name, isPart] at part

end

theorem not_continuesName_of_sign {c : Char} {token : Token} (sign : sign? c = some token) :
    continuesName c = false :=
  of_sign (P := fun c => continuesName c = false) (by decide) sign

theorem isAtom_of_sign {c : Char} {token : Token} (sign : sign? c = some token) :
    token.isAtom = false := by
  unfold sign? at sign
  split at sign <;> cases sign <;> rfl

theorem Written.head {chars after : List Char} {token : Token} (written : Written chars token after)
    (sign : token.isAtom = false) : ∃ c rest, chars = c :: rest ∧ continuesName c = false := by
  cases written with
  | sign sign => exact ⟨_, [], rfl, not_continuesName_of_sign sign⟩
  | less => exact ⟨'<', [], rfl, by decide⟩
  | greater => exact ⟨'>', [], rfl, by decide⟩
  | pair op wide =>
    simp only [List.mem_cons, List.not_mem_nil, or_false] at wide
    rcases wide with rfl | rfl | rfl
    · exact ⟨'<', ['>'], rfl, by decide⟩
    · exact ⟨'<', ['='], rfl, by decide⟩
    · exact ⟨'>', ['='], rfl, by decide⟩
  | name starts goesOn stops reads =>
    rw [← reads, isAtom_nameOf] at sign
    cases sign
  | _ => cases sign

theorem Written.visible {chars after : List Char} {token : Token}
    (written : Written chars token after) :
    ∃ c rest, chars = c :: rest ∧ Text.isBlank c = false := by
  cases written with
  | sign sign => exact ⟨_, [], rfl, not_isBlank_of_sign sign⟩
  | less => exact ⟨'<', [], rfl, by decide⟩
  | greater => exact ⟨'>', [], rfl, by decide⟩
  | pair op wide =>
    simp only [List.mem_cons, List.not_mem_nil, or_false] at wide
    rcases wide with rfl | rfl | rfl
    · exact ⟨'<', ['>'], rfl, by decide⟩
    · exact ⟨'<', ['='], rfl, by decide⟩
    · exact ⟨'>', ['='], rfl, by decide⟩
  | text content => exact ⟨'"', _, rfl, by decide⟩
  | number shape starts => exact ⟨_, _, rfl, not_isBlank_of_startsNumber starts⟩
  | error => exact ⟨'#', _, rfl, by decide⟩
  | name starts => exact ⟨_, _, rfl, not_isBlank_of_startsName starts⟩

theorem Written.scan {chars after : List Char} {token : Token} (written : Written chars token after) :
    Token.scan (chars ++ after) = token :: Token.scan after := by
  cases written with
  | sign sign => exact scan_sign sign after
  | less stops =>
    rw [List.singleton_append, scan_less, scanLess_alone stops]
    rfl
  | greater stops =>
    rw [List.singleton_append, scan_greater, scanGreater_alone stops]
    rfl
  | pair op wide =>
    simp only [List.mem_cons, List.not_mem_nil, or_false] at wide
    rcases wide with rfl | rfl | rfl
    · exact scan_less ('>' :: after)
    · exact scan_less ('=' :: after)
    · exact scan_greater ('=' :: after)
  | text content stops =>
    rw [List.cons_append, List.append_assoc]
    exact scan_quote (quoted_doubled stops)
  | number shape starts reads stops => exact scan_numberText shape starts reads stops
  | error run stops reads apart =>
    rw [List.cons_append, scan_cons (by decide), scanFrom_error, takeWhile_run run stops]
    simp only [taking, List.take_left, List.drop_left]
    rw [errorOf, reads]
  | name starts goesOn stops reads =>
    rw [← reads]
    exact scan_name starts goesOn stops

/-- The texts start with the same character, both with none or white space, or both as names do. -/
def Alike (after others : List Char) : Prop :=
  after.head? = others.head? ∨
    (∀ c ∈ after.head?, Text.isBlank c) ∧ (∀ c ∈ others.head?, Text.isBlank c) ∨
    (∃ c ∈ after.head?, startsName c) ∧ ∃ c ∈ others.head?, startsName c

theorem continuesName_of_startsName {c : Char} (starts : startsName c) : continuesName c := by
  simp only [startsName, continuesName, Text.isAlphanumeric, Bool.or_eq_true] at starts ⊢
  rcases starts with (letter | line) | mark
  · exact .inl (.inl (.inl (.inl letter)))
  · exact .inl (.inl (.inr line))
  · exact .inl (.inr mark)

/-- What a token keeps apart from, it also keeps apart from in a text that starts alike. -/
theorem Alike.apart {after others : List Char} (alike : Alike after others) {P : Char → Prop}
    (blanks : ∀ c, Text.isBlank c → P c) (apart : Apart after) (stops : ∀ c ∈ after.head?, P c) :
    Apart others ∧ ∀ c ∈ others.head?, P c := by
  rcases alike with same | ⟨_, blank⟩ | ⟨⟨c, first, starts⟩, _⟩
  · rw [Apart, ← same]
    exact ⟨apart, stops⟩
  · exact ⟨fun c first => not_continuesName_of_isBlank (blank c first),
      fun c first => blanks c (blank c first)⟩
  · have goesOn := continuesName_of_startsName starts
    rw [apart c first] at goesOn
    cases goesOn

theorem Alike.stops {after others : List Char} (alike : Alike after others) {P : Char → Prop}
    (blanks : ∀ c, Text.isBlank c → P c) (names : ∀ c, startsName c → P c)
    (stops : ∀ c ∈ after.head?, P c) : ∀ c ∈ others.head?, P c := by
  rcases alike with same | ⟨_, blank⟩ | ⟨_, c, first, starts⟩
  · rw [← same]
    exact stops
  · exact fun c first => blanks c (blank c first)
  · intro d also
    cases first.symm.trans also
    exact names c starts

theorem nameOf_congr {after others : List Char} (same : beforeParen after = beforeParen others)
    (content : List Char) : nameOf content after = nameOf content others := by
  unfold nameOf
  unfold beforeParen at same
  rw [same]

/-- The token stays as it is where other text follows that starts alike. -/
theorem Written.alike {chars after others : List Char} {token : Token}
    (written : Written chars token after) (alike : Alike after others)
    (paren : beforeParen after = beforeParen others) : Written chars token others := by
  have nothing : ∀ c, Text.isBlank c → True := fun _ _ => trivial
  have plain : ∀ d : Char, Text.isBlank d = false → startsName d = false →
      (∀ c, Text.isBlank c → c ≠ d) ∧ ∀ c, startsName c → c ≠ d := by
    intro d visible other
    constructor
    · rintro c blank rfl
      simp [visible] at blank
    · rintro c starts rfl
      simp [other] at starts
  obtain ⟨equalBlank, equalName⟩ := plain '=' (by decide) (by decide)
  obtain ⟨greaterBlank, greaterName⟩ := plain '>' (by decide) (by decide)
  obtain ⟨quoteBlank, quoteName⟩ := plain '"' (by decide) (by decide)
  cases written with
  | sign sign => exact .sign sign
  | less stops =>
    exact .less (alike.stops (fun c blank => ⟨equalBlank c blank, greaterBlank c blank⟩)
      (fun c starts => ⟨equalName c starts, greaterName c starts⟩) stops)
  | greater stops => exact .greater (alike.stops equalBlank equalName stops)
  | pair op wide => exact .pair op wide
  | text content stops => exact .text content (alike.stops quoteBlank quoteName stops)
  | number shape starts reads stops =>
    exact .number shape starts reads (alike.apart nothing stops fun _ _ => trivial).1
  | error run stops reads apart =>
    have blanks : ∀ c, Text.isBlank c → isErrorChar c = false := fun c =>
      of_isBlank (P := fun c => isErrorChar c = false) (by decide)
    obtain ⟨othersApart, othersStop⟩ := alike.apart blanks apart stops
    exact .error run othersStop reads othersApart
  | name starts goesOn stops reads =>
    rw [nameOf_congr paren] at reads
    exact .name starts goesOn (alike.apart nothing stops fun _ _ => trivial).1 reads

end Token

end PhraseSheet
