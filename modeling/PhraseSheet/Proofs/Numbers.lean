import PhraseSheet.Formula.Literal
import PhraseSheet.Proofs.Characters

namespace PhraseSheet

namespace Token

/-- The run of such characters at the start of a text. -/
theorem exists_run (inside : Char → Bool) (text : List Char) :
    ∃ run after, text = run ++ after ∧ (∀ c ∈ run, inside c) ∧
      (∀ c ∈ after.head?, inside c = false) ∧ text.takeWhile inside = run := by
  refine ⟨text.takeWhile inside, text.dropWhile inside, ?_, ?_, ?_, rfl⟩
  · exact List.takeWhile_append_dropWhile.symm
  · exact List.all_eq_true.mp List.all_takeWhile
  · intro c first
    have stops := List.head?_dropWhile_not inside text
    rw [Option.mem_def.mp first] at stops
    simpa using stops

/-- No name and no number goes on there. -/
def Apart (after : List Char) : Prop := ∀ c ∈ after.head?, continuesName c = false

/-- A point with digits behind it, or nothing. -/
inductive Fraction : List Char → Prop where
  | none : Fraction []
  | point (digits : ∀ c ∈ places, c.isDigit) : Fraction ('.' :: places)

/-- A mark with a whole number behind it, or nothing. -/
inductive Exponent : List Char → Prop where
  | none : Exponent []
  | power (mark : c = 'e' ∨ c = 'E') (listed : sign ∈ [[], ['+'], ['-']])
      (digits : ∀ d ∈ run, d.isDigit) (any : run ≠ []) : Exponent (c :: (sign ++ run))

/-- Digits, a fraction and an exponent; each may be missing. -/
inductive NumberText : List Char → Prop where
  | of (digits : ∀ c ∈ whole, c.isDigit) (fraction : Fraction places) (exponent : Exponent power) :
      NumberText (whole ++ (places ++ power))

/-- Digits, or digits with a point and further digits behind them. -/
inductive DecimalText : List Char → Prop where
  | whole (digits : ∀ c ∈ run, c.isDigit) (any : run ≠ []) : DecimalText run
  | pointed (digits : ∀ c ∈ run, c.isDigit) (any : run ≠ []) (places : ∀ c ∈ more, c.isDigit) :
      DecimalText (run ++ '.' :: more)

theorem DecimalText.numberText {number : List Char} (decimal : DecimalText number) :
    NumberText number := by
  cases decimal with
  | whole digits => simpa using NumberText.of digits .none .none
  | pointed digits any places => simpa using NumberText.of digits (.point places) .none

theorem DecimalText.head {number : List Char} (decimal : DecimalText number) :
    ∃ c rest, number = c :: rest ∧ c.isDigit := by
  cases decimal with
  | @whole run digits any =>
    obtain ⟨c, rest, rfl⟩ := List.exists_cons_of_ne_nil any
    exact ⟨c, rest, rfl, digits c List.mem_cons_self⟩
  | @pointed run more digits any places =>
    obtain ⟨c, rest, rfl⟩ := List.exists_cons_of_ne_nil any
    exact ⟨c, _, rfl, digits c List.mem_cons_self⟩

/-- Numbers hold signs in their exponents, and otherwise characters of names. -/
theorem NumberText.continuesName {number : List Char} (shape : NumberText number) :
    ∀ c ∈ number, Token.continuesName c ∨ c ∈ ['+', '-'] := by
  have goesOn : ∀ c, c.isDigit → Token.continuesName c := fun c digit =>
    continuesName_of_isAlphanum (Bool.or_eq_true_iff.mpr (.inr digit))
  cases shape with
  | of digits fraction exponent =>
    simp only [List.mem_append]
    rintro c (inWhole | inPlaces | inPower)
    · exact .inl (goesOn c (digits c inWhole))
    · cases fraction with
      | none => cases inPlaces
      | point places =>
        rcases List.mem_cons.mp inPlaces with rfl | later
        · exact .inl (by decide)
        · exact .inl (goesOn c (places c later))
    · cases exponent with
      | none => cases inPower
      | power mark listed run any =>
        rcases List.mem_cons.mp inPower with rfl | later
        · rcases mark with rfl | rfl <;> exact .inl (by decide)
        · rcases List.mem_append.mp later with inSign | inRun
          · have signs : ∀ sign ∈ [[], ['+'], ['-']], ∀ c ∈ sign, c ∈ ['+', '-'] := by decide
            exact .inr (signs _ listed c inSign)
          · exact .inl (goesOn c (run c inRun))

theorem exponentLength_stopped {rest : List Char} (apart : Apart rest) :
    exponentLength rest = 0 := by
  cases rest with
  | nil => rfl
  | cons c rest =>
    have stopped := apart c rfl
    have noMark : (c == 'e' || c == 'E') = false := by
      rw [Bool.or_eq_false_iff, beq_eq_false_iff_ne, beq_eq_false_iff_ne]
      constructor <;> rintro rfl <;> exact absurd stopped (by decide)
    simp [exponentLength, noMark]

theorem isDigit_stopped {rest : List Char} (apart : Apart rest) :
    ∀ c ∈ rest.head?, c.isDigit = false := by
  intro c first
  cases digit : c.isDigit with
  | false => rfl
  | true =>
    have goesOn : continuesName c := by
      simp [continuesName, isAlphanumeric_of_isAlphanum, Char.isAlphanum, digit]
    simp [apart c first] at goesOn

/-- The length of a point with digits behind it at the start of the text. -/
def fractionLength (text : List Char) : Nat :=
  match text with
  | '.' :: rest => 1 + (rest.takeWhile Char.isDigit).length
  | _ => 0

theorem numberLength_append {whole rest : List Char} (digits : ∀ c ∈ whole, c.isDigit)
    (stops : ∀ c ∈ rest.head?, c.isDigit = false) :
    numberLength (whole ++ rest) =
      whole.length + fractionLength rest + exponentLength (rest.drop (fractionLength rest)) := by
  have unfolded : ∀ text, numberLength text =
      (text.takeWhile Char.isDigit).length +
        fractionLength (text.drop (text.takeWhile Char.isDigit).length) +
        exponentLength (text.drop ((text.takeWhile Char.isDigit).length +
          fractionLength (text.drop (text.takeWhile Char.isDigit).length))) :=
    fun _ => rfl
  rw [unfolded, takeWhile_run digits stops, List.drop_left, ← List.drop_drop, List.drop_left]

theorem Fraction.length {places after : List Char} (fraction : Fraction places)
    (stops : ∀ c ∈ after.head?, c.isDigit = false ∧ c ≠ '.') :
    fractionLength (places ++ after) = places.length := by
  cases fraction with
  | none =>
    rw [List.nil_append]
    unfold fractionLength
    split
    · exact absurd rfl (stops '.' rfl).2
    · rfl
  | point digits =>
    rw [List.cons_append, fractionLength, takeWhile_run digits fun c first => (stops c first).1]
    exact Nat.add_comm 1 _

theorem Exponent.length {power after : List Char} (exponent : Exponent power) (apart : Apart after) :
    exponentLength (power ++ after) = power.length := by
  cases exponent with
  | none => exact exponentLength_stopped apart
  | @power c sign run mark listed digits any =>
    obtain ⟨first, others, starts⟩ := List.exists_cons_of_ne_nil any
    have firstDigit := digits first (by simp [starts])
    have noSign : (first == '+' || first == '-') = false := by
      rw [Bool.or_eq_false_iff, beq_eq_false_iff_ne, beq_eq_false_iff_ne]
      constructor <;> rintro rfl <;> exact absurd firstDigit (by decide)
    have marked : (c == 'e' || c == 'E') = true := by simpa using mark
    have taken := takeWhile_run digits (isDigit_stopped apart)
    have some : run.length ≠ 0 := by simp [any]
    simp only [List.mem_cons, List.not_mem_nil, or_false] at listed
    rcases listed with rfl | rfl | rfl
    · rw [starts] at taken some ⊢
      simp only [List.cons_append] at taken
      simp [exponentLength, marked, noSign, taken]
      omega
    · simp [exponentLength, marked, taken, any]
      omega
    · simp [exponentLength, marked, taken, any]
      omega

theorem Exponent.head {power after : List Char} (exponent : Exponent power) (apart : Apart after) :
    ∀ c ∈ (power ++ after).head?, c.isDigit = false ∧ c ≠ '.' := by
  cases exponent with
  | none =>
    intro c first
    refine ⟨isDigit_stopped apart c first, ?_⟩
    rintro rfl
    exact absurd (apart '.' first) (by decide)
  | power mark =>
    rintro c ⟨⟩
    rcases mark with rfl | rfl <;> decide

theorem NumberText.length {number after : List Char} (shape : NumberText number)
    (apart : Apart after) : numberLength (number ++ after) = number.length := by
  cases shape with
  | @of whole places power digits fraction exponent =>
    have head := exponent.head apart
    have fractionHead : ∀ c ∈ (places ++ (power ++ after)).head?, c.isDigit = false := by
      cases fraction with
      | none => exact fun c first => (head c first).1
      | point =>
        rintro c ⟨⟩
        decide
    rw [List.append_assoc, List.append_assoc, numberLength_append digits fractionHead,
      fraction.length head, List.drop_left, exponent.length apart]
    simp [Nat.add_assoc]

theorem exists_exponent (text : List Char) :
    ∃ power after, text = power ++ after ∧ Exponent power ∧ exponentLength text = power.length := by
  have nothing : exponentLength text = 0 → ∃ power after, text = power ++ after ∧ Exponent power ∧
      exponentLength text = power.length :=
    fun zero => ⟨[], text, rfl, .none, zero⟩
  have power : ∀ c sign digits, (c = 'e' ∨ c = 'E') → sign ∈ [[], ['+'], ['-']] →
      text = c :: (sign ++ digits) →
      (exponentLength text = if (digits.takeWhile Char.isDigit).length = 0 then 0
        else 1 + sign.length + (digits.takeWhile Char.isDigit).length) →
      ∃ power after, text = power ++ after ∧ Exponent power ∧
        exponentLength text = power.length := by
    intro c sign digits mark listed same length
    obtain ⟨run, after, rfl, digit, _, taken⟩ := exists_run Char.isDigit digits
    rw [taken] at length
    split at length
    · exact nothing length
    · rename_i any
      refine ⟨c :: (sign ++ run), after, by simp [same], ?_, ?_⟩
      · exact .power mark listed digit (by simpa using any)
      · rw [length, List.length_cons, List.length_append]
        omega
  cases text with
  | nil => exact nothing rfl
  | cons c rest =>
    by_cases marked : (c == 'e' || c == 'E') = true
    · have mark : c = 'e' ∨ c = 'E' := by simpa using marked
      cases rest with
      | nil => exact nothing (by simp [exponentLength])
      | cons sign tail =>
        by_cases signed : (sign == '+' || sign == '-') = true
        · have listed : [sign] ∈ [[], ['+'], ['-']] := by simpa using signed
          refine power c [sign] tail mark listed rfl ?_
          simp [exponentLength, marked, signed]
        · refine power c [] (sign :: tail) mark (by simp) rfl ?_
          simp [exponentLength, marked, signed]
    · exact nothing (by simp [exponentLength, marked])

theorem exists_fraction (text : List Char) :
    ∃ places after, text = places ++ after ∧ Fraction places ∧
      fractionLength text = places.length := by
  unfold fractionLength
  split
  · rename_i rest
    obtain ⟨run, after, rfl, digit, _, taken⟩ := exists_run Char.isDigit rest
    refine ⟨'.' :: run, after, rfl, .point digit, ?_⟩
    rw [taken, List.length_cons, Nat.add_comm]
  · exact ⟨[], text, rfl, .none, rfl⟩

/-- What is as long as the number at the start of a text is a number. -/
theorem exists_number (text : List Char) :
    ∃ number after, text = number ++ after ∧ NumberText number ∧
      numberLength text = number.length := by
  obtain ⟨whole, behindWhole, rfl, digits, stops, _⟩ := exists_run Char.isDigit text
  obtain ⟨places, behindPlaces, rfl, fraction, places_length⟩ := exists_fraction behindWhole
  obtain ⟨power, after, rfl, exponent, power_length⟩ := exists_exponent behindPlaces
  refine ⟨whole ++ (places ++ power), after, by simp, .of digits fraction exponent, ?_⟩
  rw [numberLength_append digits stops, places_length, List.drop_left, power_length]
  simp [Nat.add_assoc]

/-- Digits in front of a point and behind it are read as they are written. -/
theorem readUnsigned?_digits {whole fraction : List Char} (digits : ∀ c ∈ whole, c.isDigit)
    (shape : Fraction fraction) (any : whole ++ fraction.tail ≠ []) :
    Decimal.readUnsigned? (whole ++ fraction) =
      some ⟨Decimal.digitsNumber (whole ++ fraction.tail), -(fraction.tail.length : Int)⟩ := by
  have none : ∀ c ∈ ([] : List Char).head?, c.isDigit = false := by simp
  cases shape with
  | none =>
    have some : whole ≠ [] := by simpa using any
    have taken := takeWhile_run digits none
    have dropped := dropWhile_run digits none
    rw [List.append_nil] at taken dropped
    unfold Decimal.readUnsigned?
    simp [taken, dropped, some]
  | @point places placeDigits =>
    have point : ∀ c ∈ ('.' :: places).head?, c.isDigit = false := by simp
    have taken := takeWhile_run placeDigits none
    have dropped := dropWhile_run placeDigits none
    have some : (whole.isEmpty && places.isEmpty) = false := by
      rw [Bool.eq_false_iff, Ne, Bool.and_eq_true, List.isEmpty_iff, List.isEmpty_iff]
      exact fun none => any (List.append_eq_nil_iff.mpr none)
    rw [List.append_nil] at taken dropped
    unfold Decimal.readUnsigned?
    simp only [takeWhile_run digits point, dropWhile_run digits point, taken, dropped, some]
    rfl

theorem readUnsigned?_whole {run : List Char} (digits : ∀ c ∈ run, c.isDigit) (any : run ≠ []) :
    Decimal.readUnsigned? run = some ⟨Decimal.digitsNumber run, 0⟩ := by
  simpa using readUnsigned?_digits digits .none (by simpa using any)

theorem readUnsigned?_pointed {run places : List Char} (digits : ∀ c ∈ run, c.isDigit)
    (any : run ≠ []) (placeDigits : ∀ c ∈ places, c.isDigit) :
    Decimal.readUnsigned? (run ++ '.' :: places) =
      some ⟨Decimal.digitsNumber (run ++ places), -(places.length : Int)⟩ :=
  readUnsigned?_digits digits (.point placeDigits) (by simp [any])

/-- What starts with a digit or a point is no word. -/
theorem readMagnitude?_cons {c : Char} {rest : List Char} (starts : c.isDigit ∨ c = '.') :
    Decimal.readMagnitude? (c :: rest) =
      (Decimal.readUnsigned? (c :: rest)).map Decimal.nearest := by
  have noLetter : c.toLower.isAlpha = false := by
    have each : ∀ code < 128, (Char.ofNat code).isDigit →
        (Char.ofNat code).toLower.isAlpha = false := by
      decide
    rcases starts with digit | rfl
    · exact of_ascii (P := fun c => c.isDigit → c.toLower.isAlpha = false) each
        (toNat_lt_of_isDigit digit) digit
    · decide
  have apart : ∀ (word : String) {first : Char}, word.toList.head? = some first →
      first.isAlpha → String.ofList ((c :: rest).map Char.toLower) ≠ word := by
    rintro word first begins letter rfl
    rw [String.toList_ofList] at begins
    cases begins
    rw [noLetter] at letter
    cases letter
  unfold Decimal.readMagnitude?
  dsimp only
  rw [if_neg, if_neg (apart "nan" rfl rfl)]
  rw [Bool.or_eq_true, decide_eq_true_iff, decide_eq_true_iff, not_or]
  exact ⟨apart "inf" rfl rfl, apart "infinity" rfl rfl⟩

theorem read?_cons {c : Char} {rest : List Char} (starts : c.isDigit ∨ c = '.') :
    Decimal.read? (c :: rest) = Decimal.readMagnitude? (c :: rest) := by
  unfold Decimal.read?
  split
  · rename_i same
    cases same
    exact absurd starts (by decide)
  · rename_i same
    cases same
    exact absurd starts (by decide)
  · rfl

theorem readMagnitude?_decimal {number : List Char} (decimal : DecimalText number) :
    Decimal.readMagnitude? number = (Decimal.readUnsigned? number).map Decimal.nearest := by
  obtain ⟨c, rest, rfl, digit⟩ := decimal.head
  exact readMagnitude?_cons (.inl digit)

theorem read?_eq_readMagnitude? {number : List Char} (decimal : DecimalText number) :
    Decimal.read? number = Decimal.readMagnitude? number := by
  obtain ⟨c, rest, rfl, digit⟩ := decimal.head
  exact read?_cons (.inl digit)

theorem read?_decimal {number : List Char} (decimal : DecimalText number) :
    ∃ x, Decimal.read? number = some x := by
  rw [read?_eq_readMagnitude? decimal, readMagnitude?_decimal decimal]
  cases decimal with
  | whole digits any => exact ⟨_, by rw [readUnsigned?_whole digits any]; rfl⟩
  | pointed digits any places => exact ⟨_, by rw [readUnsigned?_pointed digits any places]; rfl⟩

end Token

end PhraseSheet
