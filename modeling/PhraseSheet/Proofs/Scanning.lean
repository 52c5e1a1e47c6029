import PhraseSheet.Proofs.Numbers

namespace PhraseSheet

namespace Token

theorem scan_nil_of_dropWhile {input : List Char} (blank : input.dropWhile Text.isBlank = []) :
    scan input = [] := by
  rw [scan.eq_def]
  split
  · rfl
  · rename_i c rest bound found
    have same : input.dropWhile Text.isBlank = c :: rest := congrArg Subtype.val found
    simp [blank] at same

theorem scan_of_dropWhile {input rest : List Char} {c : Char}
    (starts : input.dropWhile Text.isBlank = c :: rest) :
    scan input = (scanFrom c rest).1 :: scan (scanFrom c rest).2.val := by
  rw [scan.eq_def]
  split
  · rename_i bound found
    have same : input.dropWhile Text.isBlank = [] := congrArg Subtype.val found
    simp [starts] at same
  · rename_i c' rest' bound found
    have same : input.dropWhile Text.isBlank = c' :: rest' := congrArg Subtype.val found
    cases starts.symm.trans same
    rfl

@[simp] theorem scan_nil : scan [] = [] := scan_nil_of_dropWhile rfl

theorem scan_cons {c : Char} (visible : Text.isBlank c = false) (rest : List Char) :
    scan (c :: rest) = (scanFrom c rest).1 :: scan (scanFrom c rest).2.val :=
  scan_of_dropWhile (by simp [visible])

theorem scan_blank {c : Char} (blank : Text.isBlank c) (rest : List Char) :
    scan (c :: rest) = scan rest := by
  have same : (c :: rest).dropWhile Text.isBlank = rest.dropWhile Text.isBlank := by simp [blank]
  cases left : rest.dropWhile Text.isBlank with
  | nil => rw [scan_nil_of_dropWhile left, scan_nil_of_dropWhile (same.trans left)]
  | cons d others => rw [scan_of_dropWhile left, scan_of_dropWhile (same.trans left)]

theorem scanFrom_sign {c : Char} {token : Token} (sign : sign? c = some token) (rest : List Char) :
    scanFrom c rest = (token, Remainder.tail c rest) := by
  unfold scanFrom
  simp only [sign]

theorem scan_sign {c : Char} {token : Token} (sign : sign? c = some token) (rest : List Char) :
    scan (c :: rest) = token :: scan rest := by
  rw [scan_cons (not_isBlank_of_sign sign), scanFrom_sign sign]
  rfl

theorem scan_less (rest : List Char) :
    scan ('<' :: rest) = (scanLess rest).1 :: scan (scanLess rest).2.val :=
  scan_cons (by decide) rest

theorem scan_greater (rest : List Char) :
    scan ('>' :: rest) = (scanGreater rest).1 :: scan (scanGreater rest).2.val :=
  scan_cons (by decide) rest

theorem scanLess_alone {rest : List Char} (stops : ∀ c ∈ rest.head?, c ≠ '=' ∧ c ≠ '>') :
    scanLess rest = (.comparison .less, .whole rest) := by
  unfold scanLess
  split
  · exact absurd rfl (stops '=' rfl).1
  · exact absurd rfl (stops '>' rfl).2
  · rfl

theorem scanGreater_alone {rest : List Char} (stops : ∀ c ∈ rest.head?, c ≠ '=') :
    scanGreater rest = (.comparison .greater, .whole rest) := by
  unfold scanGreater
  split
  · exact absurd rfl (stops '=' rfl)
  · rfl

theorem scan_comparison (op : Comparison) {rest : List Char}
    (stops : ∀ c ∈ rest.head?, c ≠ '=' ∧ c ≠ '>') :
    scan (op.symbol.toList ++ rest) = .comparison op :: scan rest := by
  cases op with
  | equal => exact scan_sign rfl rest
  | notEqual => exact scan_less ('>' :: rest)
  | less => exact (scan_less rest).trans (by rw [scanLess_alone stops]; rfl)
  | lessOrEqual => exact scan_less ('=' :: rest)
  | greater =>
    have noEqual : ∀ c ∈ rest.head?, c ≠ '=' := fun c first => (stops c first).1
    exact (scan_greater rest).trans (by rw [scanGreater_alone noEqual]; rfl)
  | greaterOrEqual => exact scan_greater ('=' :: rest)

theorem scanFrom_name {c : Char} (starts : startsName c) (rest : List Char) :
    scanFrom c rest = taking (rest.takeWhile continuesName).length c rest nameOf := by
  have noSign : sign? c = none := by
    cases sign : sign? c with
    | none => rfl
    | some token => simp [not_startsName_of_sign sign] at starts
  have noDigit : c.isDigit = false := by
    cases digit : c.isDigit with
    | false => rfl
    | true => simp [not_startsName_of_isDigit digit] at starts
  have others : c ≠ '<' ∧ c ≠ '>' ∧ c ≠ '"' ∧ c ≠ '.' ∧ c ≠ '#' := by
    refine ⟨?_, ?_, ?_, ?_, ?_⟩ <;> rintro rfl <;> exact absurd starts (by decide)
  unfold scanFrom
  simp [noSign, noDigit, others, starts]

theorem scan_name {c : Char} {more rest : List Char} (starts : startsName c)
    (goesOn : ∀ d ∈ more, continuesName d) (apart : Apart rest) :
    scan (c :: (more ++ rest)) = nameOf (c :: more) rest :: scan rest := by
  rw [scan_cons (not_isBlank_of_startsName starts), scanFrom_name starts,
    takeWhile_run goesOn apart]
  simp [taking]

theorem scanFrom_digit {c : Char} (digit : c.isDigit) (rest : List Char) :
    scanFrom c rest =
      taking (numberLength (c :: rest) - 1) c rest fun content _ => numberOf content := by
  have noSign : sign? c = none := by
    cases sign : sign? c with
    | none => rfl
    | some token => simp [not_isDigit_of_sign sign] at digit
  have others : c ≠ '<' ∧ c ≠ '>' ∧ c ≠ '"' := by
    refine ⟨?_, ?_, ?_⟩ <;> rintro rfl <;> exact absurd digit (by decide)
  unfold scanFrom
  simp [noSign, digit, others]

section

variable {c : Char}

theorem scanFrom_number {rest : List Char}
    (starts : c.isDigit || c == '.' && rest.head?.any Char.isDigit) :
    scanFrom c rest =
      taking (numberLength (c :: rest) - 1) c rest fun content _ => numberOf content := by
  rcases Bool.or_eq_true_iff.mp starts with digit | point
  · exact scanFrom_digit digit rest
  · obtain ⟨same, digits⟩ := Bool.and_eq_true_iff.mp point
    rw [beq_iff_eq.mp same]
    unfold scanFrom
    simp [sign?, digits]

theorem not_isBlank_of_startsNumber {rest : List Char}
    (starts : c.isDigit || c == '.' && rest.head?.any Char.isDigit) : Text.isBlank c = false := by
  rcases Bool.or_eq_true_iff.mp starts with digit | point
  · exact not_isBlank_of_isDigit digit
  · rw [beq_iff_eq.mp (Bool.and_eq_true_iff.mp point).1]
    decide

theorem scan_numberText {more after : List Char} {x : Float} (shape : NumberText (c :: more))
    (starts : c.isDigit || c == '.' && more.head?.any Char.isDigit)
    (reads : Decimal.read? (c :: more) = some x) (apart : Apart after) :
    scan (c :: (more ++ after)) = .number x :: scan after := by
  have length := shape.length apart
  have startsWhole : (c.isDigit || c == '.' && (more ++ after).head?.any Char.isDigit) = true := by
    cases more with
    | nil =>
      have digit : c.isDigit = true := by simpa using starts
      simp [digit]
    | cons d others => exact starts
  rw [List.cons_append] at length
  rw [scan_cons (not_isBlank_of_startsNumber starts), scanFrom_number startsWhole, length]
  simp [taking, numberOf, reads]

end

theorem scan_number {number : List Char} (decimal : DecimalText number) :
    ∃ x, ∀ rest : List Char, Apart rest → scan (number ++ rest) = .number x :: scan rest := by
  obtain ⟨x, reads⟩ := read?_decimal decimal
  have shape := decimal.numberText
  obtain ⟨c, more, rfl, digit⟩ := decimal.head
  exact ⟨x, fun rest apart => scan_numberText shape (by simp [digit]) reads apart⟩

/-- The content of a text behind its opening quote, and what is left behind its closing quote. -/
def quoted (input : List Char) : List Char × Option (List Char) :=
  ((readQuoted input).1, (readQuoted input).2.map Subtype.val)

theorem quoted_double (rest : List Char) :
    quoted ('"' :: '"' :: rest) = ('"' :: (quoted rest).1, (quoted rest).2) := by
  simp [quoted, readQuoted.eq_2, Function.comp_def]

theorem quoted_close {rest : List Char} (stops : ∀ c ∈ rest.head?, c ≠ '"') :
    quoted ('"' :: rest) = ([], some rest) := by
  unfold quoted
  rw [readQuoted.eq_3 _ _ (by rintro others - rfl; exact stops '"' rfl rfl)]
  rfl

theorem quoted_cons {c : Char} (other : c ≠ '"') (rest : List Char) :
    quoted (c :: rest) = (c :: (quoted rest).1, (quoted rest).2) := by
  unfold quoted
  rw [readQuoted.eq_3 _ _ (by rintro _ rfl; exact absurd rfl other)]
  simp [other, Function.comp_def]

def doubled (content : List Char) : List Char :=
  content.flatMap fun c => if c == '"' then [c, c] else [c]

theorem quoted_doubled {content rest : List Char} (stops : ∀ c ∈ rest.head?, c ≠ '"') :
    quoted (doubled content ++ '"' :: rest) = (content, some rest) := by
  induction content with
  | nil => exact quoted_close stops
  | cons c content ih =>
    by_cases quote : c = '"'
    · subst quote
      have same : doubled ('"' :: content) = '"' :: '"' :: doubled content := by simp [doubled]
      rw [same, List.cons_append, List.cons_append, quoted_double, ih]
    · have same : doubled (c :: content) = c :: doubled content := by simp [doubled, quote]
      rw [same, List.cons_append, quoted_cons quote, ih]

theorem scanFrom_quote {rest content left : List Char}
    (closed : quoted rest = (content, some left)) :
    (scanFrom '"' rest).1 = .text (String.ofList content) ∧ (scanFrom '"' rest).2.val = left := by
  obtain ⟨same, found⟩ := Prod.ext_iff.mp closed
  obtain ⟨after, reached, rfl⟩ := Option.map_eq_some_iff.mp found
  have pair : readQuoted rest = (content, some after) := Prod.ext same reached
  have text : scanText rest = (.text (String.ofList content), after) := by simp [scanText, pair]
  have step : (scanFrom '"' rest).1 = (scanText rest).1 ∧
      (scanFrom '"' rest).2.val = (scanText rest).2.val := ⟨rfl, rfl⟩
  rwa [text] at step

theorem scan_quote {rest content left : List Char} (closed : quoted rest = (content, some left)) :
    scan ('"' :: rest) = .text (String.ofList content) :: scan left := by
  obtain ⟨token, after⟩ := scanFrom_quote closed
  rw [scan_cons (by decide), token, after]

/-- What is written for a text is its token, up to the closing quote. -/
theorem scanFrom_quotedLiteral (content : String) :
    ∃ more, (Value.quotedLiteral content).toList = '"' :: more ∧
      ∀ rest : List Char, (∀ c ∈ rest.head?, c ≠ '"') →
        (scanFrom '"' (more ++ rest)).1 = .text content ∧
        (scanFrom '"' (more ++ rest)).2.val = rest := by
  refine ⟨doubled content.toList ++ ['"'], ?_, fun rest stops => ?_⟩
  · simp [Value.quotedLiteral, doubled]
  · have closed := @quoted_doubled content.toList rest stops
    rw [← List.singleton_append, ← List.append_assoc] at closed
    have scanned := scanFrom_quote closed
    rwa [String.ofList_toList] at scanned

theorem scan_quotedLiteral (content : String) {rest : List Char}
    (stops : ∀ c ∈ rest.head?, c ≠ '"') :
    scan ((Value.quotedLiteral content).toList ++ rest) = .text content :: scan rest := by
  obtain ⟨more, same, scanned⟩ := scanFrom_quotedLiteral content
  obtain ⟨token, after⟩ := scanned rest stops
  rw [same, List.cons_append, scan_cons (by decide), token, after]

end Token

end PhraseSheet
