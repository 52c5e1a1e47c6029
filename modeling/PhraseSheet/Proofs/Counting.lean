import PhraseSheet.Proofs.Spelling

namespace PhraseSheet

namespace Address

/-- What column letters count to, the first of them counting most. -/
def letterCount (letters : List Char) : Nat :=
  letters.foldl (fun count c => count * 26 + letterRank c) 0

theorem letterRank_bounds {c : Char} (letter : c.isAlpha) :
    1 ≤ letterRank c ∧ letterRank c ≤ 26 := by
  have each : ∀ code < 128, (Char.ofNat code).isAlpha →
      1 ≤ letterRank (Char.ofNat code) ∧ letterRank (Char.ofNat code) ≤ 26 := by
    decide
  exact of_ascii (P := fun c => c.isAlpha → 1 ≤ letterRank c ∧ letterRank c ≤ 26) each
    (toNat_lt_of_isAlpha letter) letter

/-- A letter is told from its rank, but for its case. -/
theorem letter_letterRank {c : Char} (isAlpha : c.isAlpha) :
    letter (letterRank c - 1) = c.toUpper := by
  have each : ∀ code < 128, (Char.ofNat code).isAlpha →
      letter (letterRank (Char.ofNat code) - 1) = (Char.ofNat code).toUpper := by
    decide
  exact of_ascii (P := fun c => c.isAlpha → letter (letterRank c - 1) = c.toUpper) each
    (toNat_lt_of_isAlpha isAlpha) isAlpha

theorem letterRank_letter : ∀ rank < 26, letterRank (letter rank) = rank + 1 := by
  decide

theorem isAlpha_letter : ∀ rank < 26, (letter rank).isAlpha := by
  decide

theorem countLetters_step (count : Nat) {rank : Nat} (inAlphabet : rank < 26) :
    countLetters (count * 26 + (rank + 1)) = countLetters count ++ [letter rank] := by
  have parts : (count * 26 + rank) / 26 = count ∧ (count * 26 + rank) % 26 = rank := by omega
  rw [← Nat.add_assoc, countLetters, parts.1, parts.2]

theorem isAlpha_countLetters (count : Nat) : ∀ c ∈ countLetters count, c.isAlpha := by
  induction count using countLetters.induct with
  | case1 =>
    rw [countLetters]
    exact List.forall_mem_nil _
  | case2 count ih =>
    rw [countLetters, List.forall_mem_append, List.forall_mem_singleton]
    exact ⟨ih, isAlpha_letter _ (Nat.mod_lt _ (by decide))⟩

theorem letterCount_countLetters (count : Nat) : letterCount (countLetters count) = count := by
  induction count using countLetters.induct with
  | case1 =>
    rw [countLetters]
    rfl
  | case2 count ih =>
    have rank := letterRank_letter (count % 26) (Nat.mod_lt _ (by decide))
    rw [countLetters, letterCount, List.foldl_append, ← letterCount, ih, List.foldl_cons, rank,
      List.foldl_nil]
    omega

/-- Letters are those that are written for their count, but for their case. -/
theorem countLetters_letterCount {letters : List Char} (isAlpha : ∀ c ∈ letters, c.isAlpha) :
    countLetters (letterCount letters) = letters.map Char.toUpper := by
  -- the letters read so far stay in front of those that follow
  have behind : ∀ count, countLetters
      (letters.foldl (fun count c => count * 26 + letterRank c) count) =
        countLetters count ++ letters.map Char.toUpper := by
    induction letters with
    | nil => simp
    | cons c rest ih =>
      intro count
      obtain ⟨first, others⟩ := List.forall_mem_cons.mp isAlpha
      obtain ⟨positive, atMost⟩ := letterRank_bounds first
      have rank : letterRank c = (letterRank c - 1) + 1 := by omega
      rw [List.foldl_cons, ih others, rank, countLetters_step count (by omega),
        letter_letterRank first, List.map_cons, List.append_assoc, List.singleton_append]
  have whole := behind 0
  rwa [countLetters, List.nil_append] at whole

theorem le_letterCount_from (letters : List Char) (count : Nat) :
    count ≤ letters.foldl (fun count c => count * 26 + letterRank c) count := by
  induction letters generalizing count with
  | nil => exact Nat.le_refl count
  | cons c rest ih =>
    have next := ih (count * 26 + letterRank c)
    rw [List.foldl_cons]
    omega

theorem letterCount_pos {letters : List Char} (any : letters ≠ [])
    (isAlpha : ∀ c ∈ letters, c.isAlpha) : 0 < letterCount letters := by
  obtain ⟨c, rest, rfl⟩ := List.exists_cons_of_ne_nil any
  have first := letterRank_bounds (isAlpha c List.mem_cons_self)
  have more := le_letterCount_from rest (0 * 26 + letterRank c)
  rw [letterCount, List.foldl_cons]
  omega

/-- A count that has left the sheet does not come back, so only the whole count decides. -/
theorem countFrom_eq_ok_iff {whole : String} {letters : List Char} {count total : ColumnCount} :
    countFrom whole count letters = .ok total ↔ (∀ c ∈ letters, c.isAlpha) ∧
      letters.foldl (fun count c => count * 26 + letterRank c) count.val = total.val := by
  induction letters generalizing count with
  | nil => simp [countFrom, Subtype.ext_iff]
  | cons c rest ih =>
    rw [countFrom, List.forall_mem_cons, List.foldl_cons]
    cases letter : c.isAlpha with
    | false => simp
    | true =>
      simp only [Bool.not_true, Bool.false_eq_true, if_false, true_and]
      split
      · exact ih
      · rename_i beyond
        have more := le_letterCount_from rest (count.val * 26 + letterRank c)
        have within := total.property
        constructor
        · intro read
          cases read
        · rintro ⟨_, same⟩
          omega

theorem columnOfLetters_eq_ok_iff {letters : List Char}
    {column : { column : Nat // column < columnLimit }} :
    columnOfLetters letters = .ok column ↔ letters ≠ [] ∧ (∀ c ∈ letters, c.isAlpha) ∧
      letterCount letters = column.val + 1 := by
  have start : ∀ total : ColumnCount,
      countFrom (String.ofList letters) ⟨0, Nat.zero_le _⟩ letters = .ok total ↔
        (∀ c ∈ letters, c.isAlpha) ∧ letterCount letters = total.val :=
    fun _ => countFrom_eq_ok_iff
  by_cases none : letters = []
  · simp [columnOfLetters, none]
  · simp only [columnOfLetters, List.isEmpty_iff, none, if_false]
    constructor
    · intro read
      cases counted : countFrom (String.ofList letters) ⟨0, Nat.zero_le _⟩ letters with
      | error failure =>
        rw [counted] at read
        cases read
      | ok total =>
        rw [counted] at read
        cases read
        obtain ⟨isAlpha, count⟩ := (start total).mp counted
        have positive := letterCount_pos none isAlpha
        exact ⟨none, isAlpha, by simp only; omega⟩
    · rintro ⟨_, isAlpha, count⟩
      have within : letterCount letters ≤ columnLimit := by
        have := column.property
        omega
      rw [(start ⟨letterCount letters, within⟩).mpr ⟨isAlpha, rfl⟩]
      exact congrArg Except.ok (Subtype.ext (by simp only; omega))

end Address

namespace Decimal

theorem digitsNumber_eq (digits : List Char) :
    digitsNumber digits = Nat.ofDigitChars 10 digits 0 := by
  unfold digitsNumber Nat.ofDigitChars
  congr 1
  funext number c
  rw [Nat.mul_comm, digitValue]

@[simp] theorem digitsNumber_natDigits (n : Nat) : digitsNumber (natDigits n) = n := by
  rw [digitsNumber_eq]
  exact Nat.ofDigitChars_ten_toDigits

theorem number?_eq_some_iff {text : List Char} {number : Nat} :
    number? text = some number ↔
      text ≠ [] ∧ (∀ c ∈ text, c.isDigit) ∧ digitsNumber text = number := by
  rw [number?, Option.ite_none_left_eq_some, Option.some.injEq, Bool.or_eq_true, not_or,
    Bool.not_eq_true', Bool.not_eq_false, List.isEmpty_iff, List.all_eq_true, and_assoc]

theorem natDigits_digitValue {c : Char} (digit : c.isDigit) :
    digitValue c < 10 ∧ natDigits (digitValue c) = [c] := by
  have each : ∀ code < 128, (Char.ofNat code).isDigit → digitValue (Char.ofNat code) < 10 ∧
      natDigits (digitValue (Char.ofNat code)) = [Char.ofNat code] := by
    decide
  exact of_ascii (P := fun c => c.isDigit → digitValue c < 10 ∧ natDigits (digitValue c) = [c]) each
    (toNat_lt_of_isDigit digit) digit

/-- Digits are those that are written for their number, but for the zeros in front. -/
theorem natDigits_digitsNumber {digits : List Char} (isDigit : ∀ c ∈ digits, c.isDigit)
    (positive : 0 < digitsNumber digits) :
    natDigits (digitsNumber digits) = digits.dropWhile (· == '0') := by
  -- behind a first digit that is no zero, each further digit is written as it stands
  have behind : ∀ rest : List Char, (∀ c ∈ rest, c.isDigit) → ∀ number, 0 < number →
      natDigits (rest.foldl (fun number c => number * 10 + digitValue c) number) =
        natDigits number ++ rest := by
    intro rest
    induction rest with
    | nil => simp
    | cons c rest ih =>
      intro isDigit number positive
      obtain ⟨first, others⟩ := List.forall_mem_cons.mp isDigit
      obtain ⟨low, written⟩ := natDigits_digitValue first
      have step : natDigits number ++ [c] = natDigits (number * 10 + digitValue c) := by
        rw [← written, Nat.mul_comm]
        exact Nat.toDigits_append_toDigits (by decide) positive low
      rw [List.foldl_cons, ih others _ (by omega), ← step, List.append_assoc,
        List.singleton_append]
  induction digits with
  | nil => cases positive
  | cons c rest ih =>
    obtain ⟨first, others⟩ := List.forall_mem_cons.mp isDigit
    by_cases zero : c = '0'
    · subst zero
      exact ih others positive
    · obtain ⟨low, written⟩ := natDigits_digitValue first
      have starts : 0 < digitValue c := by
        have each : ∀ code < 128, (Char.ofNat code).isDigit → Char.ofNat code ≠ '0' →
            0 < digitValue (Char.ofNat code) := by
          decide
        exact of_ascii (P := fun c => c.isDigit → c ≠ '0' → 0 < digitValue c) each
          (toNat_lt_of_isDigit first) first zero
      have number : digitsNumber (c :: rest) =
          rest.foldl (fun number c => number * 10 + digitValue c) (digitValue c) := by
        rw [digitsNumber, List.foldl_cons, Nat.zero_mul, Nat.zero_add]
      rw [number, behind rest others _ starts, written,
        List.dropWhile_cons_of_neg (by simpa using zero), List.singleton_append]

end Decimal

end PhraseSheet
