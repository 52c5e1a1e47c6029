import PhraseSheet.Formula.Token

namespace PhraseSheet

/-- What is said of the characters in a list is decided for these, not for all characters. -/
instance (priority := high) decidableForallMem {P : Char → Prop} [DecidablePred P]
    (text : List Char) : Decidable (∀ c ∈ text, P c) :=
  List.decidableBAll P text

/-- What holds of each of the first 128 characters holds of every character among them. -/
theorem of_ascii {P : Char → Prop} (each : ∀ code < 128, P (Char.ofNat code)) {c : Char}
    (low : c.toNat < 128) : P c := by
  simpa using each c.toNat low

theorem toNat_lt_of_isDigit {c : Char} (digit : c.isDigit) : c.toNat < 128 := by
  have bounds := Char.isDigit_iff_toNat.mp digit
  exact Nat.lt_of_le_of_lt bounds.2 (by decide)

theorem toNat_lt_of_isAlpha {c : Char} (letter : c.isAlpha) : c.toNat < 128 := by
  rcases Bool.or_eq_true_iff.mp letter with upper | lower
  · have below : c.val ≤ 'Z'.val := (of_decide_eq_true upper).2
    exact Nat.lt_of_le_of_lt (UInt32.le_iff_toNat_le.mp below) (by decide)
  · have below : c.val ≤ 'z'.val := of_decide_eq_true (Bool.and_eq_true_iff.mp lower).2
    exact Nat.lt_of_le_of_lt (UInt32.le_iff_toNat_le.mp below) (by decide)

theorem toNat_lt_of_isAlphanum {c : Char} (alphanumeric : c.isAlphanum) : c.toNat < 128 := by
  rcases Bool.or_eq_true_iff.mp alphanumeric with letter | digit
  · exact toNat_lt_of_isAlpha letter
  · exact toNat_lt_of_isDigit digit

theorem Text.CodeRanges.within_of_covers {ranges : CodeRanges} {code : Nat}
    (covered : ranges.covers code) : ∃ range ∈ ranges, range.1 ≤ code ∧ code ≤ range.2 := by
  induction ranges with
  | nil => cases covered
  | cons range rest ih =>
    obtain ⟨first, last⟩ := range
    simp only [covers] at covered
    split at covered
    · cases covered
    · rename_i reached
      rcases Bool.or_eq_true_iff.mp covered with inside | later
      · exact ⟨(first, last), List.mem_cons_self, Nat.not_lt.mp reached, of_decide_eq_true inside⟩
      · obtain ⟨other, member, bounds⟩ := ih later
        exact ⟨other, List.mem_cons_of_mem _ member, bounds⟩

private def blankCodes : List Nat :=
  [0x0009, 0x000A, 0x000B, 0x000C, 0x000D, 0x0020, 0x0085, 0x00A0, 0x1680, 0x2000, 0x2001, 0x2002,
   0x2003, 0x2004, 0x2005, 0x2006, 0x2007, 0x2008, 0x2009, 0x200A, 0x2028, 0x2029, 0x202F, 0x205F,
   0x3000]

/-- What holds of each of the twenty-five blanks holds of every blank. -/
theorem of_isBlank {P : Char → Prop} (each : ∀ code ∈ blankCodes, P (Char.ofNat code)) {c : Char}
    (blank : Text.isBlank c) : P c := by
  have listed : c.toNat ∈ blankCodes := by
    obtain ⟨range, member, bounds⟩ := Text.CodeRanges.within_of_covers blank
    simp only [Text.blanks, List.mem_cons, List.not_mem_nil, or_false] at member
    simp only [blankCodes, List.mem_cons, List.not_mem_nil, or_false]
    rcases member with rfl | rfl | rfl | rfl | rfl | rfl | rfl | rfl | rfl | rfl <;>
      simp only at bounds <;> omega
  simpa using each c.toNat listed

theorem isAlphabetic_of_isAlpha {c : Char} (letter : c.isAlpha) : Text.isAlphabetic c := by
  have each : ∀ code < 128, (Char.ofNat code).isAlpha → Text.isAlphabetic (Char.ofNat code) := by
    decide
  exact of_ascii (P := fun c => c.isAlpha → Text.isAlphabetic c) each (toNat_lt_of_isAlpha letter)
    letter

theorem isAlphanumeric_of_isAlphanum {c : Char} (alphanumeric : c.isAlphanum) :
    Text.isAlphanumeric c := by
  have each : ∀ code < 128, (Char.ofNat code).isAlphanum →
      Text.isAlphanumeric (Char.ofNat code) := by
    decide
  exact of_ascii (P := fun c => c.isAlphanum → Text.isAlphanumeric c) each
    (toNat_lt_of_isAlphanum alphanumeric) alphanumeric

theorem not_isDigit_of_isAlpha {c : Char} (letter : c.isAlpha) : c.isDigit = false := by
  have each : ∀ code < 128, (Char.ofNat code).isAlpha → (Char.ofNat code).isDigit = false := by
    decide
  exact of_ascii (P := fun c => c.isAlpha → c.isDigit = false) each (toNat_lt_of_isAlpha letter)
    letter

theorem not_isBlank_of_isAlphanum {c : Char} (alphanumeric : c.isAlphanum) :
    Text.isBlank c = false := by
  have each : ∀ code < 128, (Char.ofNat code).isAlphanum →
      Text.isBlank (Char.ofNat code) = false := by
    decide
  exact of_ascii (P := fun c => c.isAlphanum → Text.isBlank c = false) each
    (toNat_lt_of_isAlphanum alphanumeric) alphanumeric

theorem not_isBlank_of_isDigit {c : Char} (digit : c.isDigit) : Text.isBlank c = false :=
  not_isBlank_of_isAlphanum (Bool.or_eq_true_iff.mpr (.inr digit))

namespace Token

theorem not_startsName_of_isBlank {c : Char} (blank : Text.isBlank c) : startsName c = false :=
  of_isBlank (P := fun c => startsName c = false) (by decide +kernel) blank

theorem not_isBlank_of_startsName {c : Char} (starts : startsName c) : Text.isBlank c = false := by
  cases blank : Text.isBlank c with
  | false => rfl
  | true => simp [not_startsName_of_isBlank blank] at starts

theorem not_continuesName_of_isBlank {c : Char} (blank : Text.isBlank c) :
    continuesName c = false :=
  of_isBlank (P := fun c => continuesName c = false) (by decide +kernel) blank

theorem not_isBlank_of_continuesName {c : Char} (goesOn : continuesName c) :
    Text.isBlank c = false := by
  cases blank : Text.isBlank c with
  | false => rfl
  | true => simp [not_continuesName_of_isBlank blank] at goesOn

theorem continuesName_of_isAlphanum {c : Char} (alphanumeric : c.isAlphanum) : continuesName c := by
  simp [continuesName, isAlphanumeric_of_isAlphanum alphanumeric]

private def signs : List Char :=
  ['+', '-', '*', '/', '^', '%', '&', ':', ',', ';', '(', ')', '\x7b', '\x7d', '=']

/-- What holds of each of the fifteen signs holds of every sign. -/
theorem of_sign {P : Char → Prop} (each : ∀ c ∈ signs, P c) {c : Char} {token : Token}
    (sign : sign? c = some token) : P c := by
  have listed : c ∈ signs := by
    unfold sign? at sign
    split at sign <;> first | decide | cases sign
  exact each c listed

theorem not_startsName_of_sign {c : Char} {token : Token} (sign : sign? c = some token) :
    startsName c = false :=
  of_sign (P := fun c => startsName c = false) (by decide) sign

theorem not_isBlank_of_sign {c : Char} {token : Token} (sign : sign? c = some token) :
    Text.isBlank c = false :=
  of_sign (P := fun c => Text.isBlank c = false) (by decide) sign

theorem not_isDigit_of_isBlank {c : Char} (blank : Text.isBlank c) : c.isDigit = false :=
  of_isBlank (P := fun c => c.isDigit = false) (by decide) blank

theorem not_isDigit_of_sign {c : Char} {token : Token} (sign : sign? c = some token) :
    c.isDigit = false :=
  of_sign (P := fun c => c.isDigit = false) (by decide) sign

theorem not_startsName_of_isDigit {c : Char} (digit : c.isDigit) : startsName c = false := by
  have each : ∀ code < 128, (Char.ofNat code).isDigit → startsName (Char.ofNat code) = false := by
    decide
  exact of_ascii (P := fun c => c.isDigit → startsName c = false) each
    (toNat_lt_of_isDigit digit) digit

end Token

theorem takeWhile_run {inside : Char → Bool} {run rest : List Char} (all : ∀ c ∈ run, inside c)
    (stops : ∀ c ∈ rest.head?, inside c = false) : (run ++ rest).takeWhile inside = run := by
  rw [List.takeWhile_append_of_pos all]
  cases rest with
  | nil => simp
  | cons c rest => simp [stops c rfl]

theorem dropWhile_run {inside : Char → Bool} {run rest : List Char} (all : ∀ c ∈ run, inside c)
    (stops : ∀ c ∈ rest.head?, inside c = false) : (run ++ rest).dropWhile inside = rest := by
  rw [List.dropWhile_append_of_pos all]
  cases rest with
  | nil => rfl
  | cons c rest => simp [stops c rfl]

theorem take_takeWhile (inside : Char → Bool) (text : List Char) :
    text.take (text.takeWhile inside).length = text.takeWhile inside :=
  (List.prefix_iff_eq_take.mp (List.takeWhile_prefix inside)).symm

theorem drop_takeWhile (inside : Char → Bool) (text : List Char) :
    text.drop (text.takeWhile inside).length = text.dropWhile inside := by
  induction text with
  | nil => rfl
  | cons c rest ih => cases first : inside c <;> simp [first, ih]

end PhraseSheet
