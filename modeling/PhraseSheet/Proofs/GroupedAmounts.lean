import Mathlib.Data.List.Basic
import PhraseSheet.Proofs.Blankness
import PhraseSheet.Proofs.Bodies
import PhraseSheet.Proofs.RoundTrip
import PhraseSheet.Row.Amount

namespace PhraseSheet

namespace Text

theorem trim_surrounded {before after : List Char} (beforeBlank : IsBlank before) (text : List Char)
    (afterBlank : IsBlank after) : trim (before ++ text ++ after) = trim text := by
  rw [trim, trim, trimStart, trimStart, List.append_assoc, List.dropWhile_append_of_pos beforeBlank,
    List.dropWhile_append]
  split
  · rename_i nothing
    rw [List.isEmpty_iff.mp nothing, List.dropWhile_eq_nil_iff.mpr afterBlank]
  · exact trimEnd_append_blank _ afterBlank

end Text

namespace Amount

/-- Digits in groups of three, the first of which may have fewer. -/
structure Groups where
  first : List Char
  others : List (List Char)
  isDigit : ∀ group ∈ first :: others, ∀ c ∈ group, c.isDigit
  anyDigit : first ≠ []
  first_le : first.length ≤ 3
  length_eq : ∀ group ∈ others, group.length = 3

namespace Groups

def digits (groups : Groups) : List Char := groups.first ++ groups.others.flatten

/-- The groups with a separator between neighbours. -/
def written (groups : Groups) (separator : Char) : List Char :=
  groups.first ++ groups.others.flatMap (separator :: ·)

end Groups

def minus (negative : Bool) : List Char := if negative then ['-'] else []

/-- The number that digits write in front of a point and behind it. -/
def number (negative : Bool) (whole places : List Char) : Float :=
  let size := Decimal.nearest ⟨Decimal.digitsNumber (whole ++ places), -(places.length : Int)⟩
  if negative then -size else size

/-- A character of an amount without currency signs. -/
def IsBare (c : Char) : Prop := c.isDigit ∨ c ∈ ['-', '.', ',']

instance : DecidablePred IsBare := fun c =>
  inferInstanceAs (Decidable (c.isDigit ∨ c ∈ ['-', '.', ',']))

section

variable {groups : Groups} {negative : Bool} {c : Char} {text : List Char}

theorem ne_of_isDigit {separator : Char} (apart : separator.isDigit = false) (digit : c.isDigit) :
    c ≠ separator := by
  rintro rfl
  rw [digit] at apart
  cases apart

theorem filter_of_ne {separator : Char} (apart : ∀ c ∈ text, c ≠ separator) :
    text.filter (· != separator) = text :=
  List.filter_eq_self.mpr fun c member => bne_iff_ne.mpr (apart c member)

theorem count_of_isDigit {separator : Char} (apart : separator.isDigit = false)
    (digits : ∀ c ∈ text, c.isDigit) : text.count separator = 0 :=
  List.count_eq_zero.mpr fun member => ne_of_isDigit apart (digits _ member) rfl

section

variable {separator : Char} {others : List (List Char)} (apart : separator.isDigit = false)
  (isDigit : ∀ group ∈ others, ∀ c ∈ group, c.isDigit)

include apart isDigit

theorem filter_flatMap_cons :
    (others.flatMap (separator :: ·)).filter (· != separator) = others.flatten := by
  induction others with
  | nil => rfl
  | cons group rest ih =>
    obtain ⟨inGroup, inRest⟩ := List.forall_mem_cons.mp isDigit
    rw [List.flatMap_cons, List.filter_append, List.filter_cons_of_neg (by simp), ih inRest,
      filter_of_ne fun c member => ne_of_isDigit apart (inGroup c member), List.flatten_cons]

theorem count_flatMap_cons : (others.flatMap (separator :: ·)).count separator = others.length := by
  induction others with
  | nil => rfl
  | cons group rest ih =>
    obtain ⟨inGroup, inRest⟩ := List.forall_mem_cons.mp isDigit
    rw [List.flatMap_cons, List.count_append, List.count_cons_self, ih inRest,
      count_of_isDigit apart inGroup, List.length_cons, Nat.zero_add, Nat.add_comm]

end

namespace Groups

theorem isDigit_first (groups : Groups) : ∀ c ∈ groups.first, c.isDigit :=
  groups.isDigit _ List.mem_cons_self

theorem isDigit_others (groups : Groups) : ∀ group ∈ groups.others, ∀ c ∈ group, c.isDigit :=
  fun group member => groups.isDigit group (List.mem_cons_of_mem _ member)

theorem isDigit_digits (groups : Groups) : ∀ c ∈ groups.digits, c.isDigit := by
  intro c member
  rcases List.mem_append.mp member with front | behind
  · exact groups.isDigit_first c front
  · obtain ⟨group, listed, inGroup⟩ := List.mem_flatten.mp behind
    exact groups.isDigit_others group listed c inGroup

theorem digits_ne_nil (groups : Groups) : groups.digits ≠ [] := by
  simp [digits, groups.anyDigit]

variable {separator : Char}

theorem mem_written (member : c ∈ groups.written separator) : c.isDigit ∨ c = separator := by
  rcases List.mem_append.mp member with front | behind
  · exact .inl (groups.isDigit_first c front)
  · obtain ⟨group, listed, inGroup⟩ := List.mem_flatMap.mp behind
    rcases List.mem_cons.mp inGroup with rfl | digit
    · exact .inr rfl
    · exact .inl (groups.isDigit_others group listed c digit)

theorem written_head (groups : Groups) (separator : Char) :
    ∃ c rest, groups.written separator = c :: rest ∧ c.isDigit := by
  obtain ⟨c, rest, same⟩ := List.exists_cons_of_ne_nil groups.anyDigit
  exact ⟨c, _, by rw [written, same, List.cons_append], groups.isDigit_first c (by simp [same])⟩

theorem filter_written (groups : Groups) (apart : separator.isDigit = false) :
    (groups.written separator).filter (· != separator) = groups.digits := by
  have first : groups.first.filter (· != separator) = groups.first :=
    filter_of_ne fun c member => ne_of_isDigit apart (groups.isDigit_first c member)
  rw [written, List.filter_append, first, filter_flatMap_cons apart groups.isDigit_others, digits]

theorem count_written (groups : Groups) (apart : separator.isDigit = false) :
    (groups.written separator).count separator = groups.others.length := by
  rw [written, List.count_append, count_flatMap_cons apart groups.isDigit_others,
    count_of_isDigit apart groups.isDigit_first, Nat.zero_add]

end Groups

theorem isPointGroups_flatMap {others : List (List Char)}
    (isDigit : ∀ group ∈ others, ∀ c ∈ group, c.isDigit)
    (length_eq : ∀ group ∈ others, group.length = 3) :
    isPointGroups (others.flatMap ('.' :: ·)) = !others.isEmpty := by
  induction others with
  | nil => rfl
  | cons group rest ih =>
    obtain ⟨inGroup, inRest⟩ := List.forall_mem_cons.mp isDigit
    obtain ⟨three, threeLater⟩ := List.forall_mem_cons.mp length_eq
    obtain ⟨a, b, c, rfl⟩ := List.length_eq_three.mp three
    have later := ih inRest threeLater
    cases rest with
    | nil => simpa [isPointGroups, and_assoc] using inGroup
    | cons next rest =>
      simp only [List.flatMap_cons, List.cons_append, List.nil_append] at later ⊢
      rw [isPointGroups, later]
      simpa [and_assoc] using inGroup

theorem unsigned_minus {rest : List Char} (starts : c.isDigit ∨ c = '.') :
    unsigned (minus negative ++ c :: rest) = c :: rest := by
  cases negative with
  | true => rfl
  | false =>
    simp only [minus, Bool.false_eq_true, if_false, List.nil_append]
    unfold unsigned
    split
    · rename_i same
      cases same
      exact absurd starts (by decide)
    · rfl

theorem hasPointGroups_written (groups : Groups) (negative : Bool) :
    hasPointGroups (minus negative ++ groups.written '.') = !groups.others.isEmpty := by
  obtain ⟨c, rest, starts, digit⟩ := groups.written_head '.'
  have bare : unsigned (minus negative ++ groups.written '.') = groups.written '.' := by
    rw [starts, unsigned_minus (.inl digit)]
  have stops : ∀ c ∈ (groups.others.flatMap ('.' :: ·)).head?, c.isDigit = false := by
    cases groups.others with
    | nil => simp
    | cons group others => simp
  have front : ((groups.written '.').takeWhile Char.isDigit) = groups.first :=
    takeWhile_run groups.isDigit_first stops
  unfold hasPointGroups
  rw [bare, front]
  dsimp only
  rw [Groups.written, List.drop_left,
    isPointGroups_flatMap groups.isDigit_others groups.length_eq]
  simp [groups.first_le, List.length_pos_iff, groups.anyDigit]

section

variable {whole fraction : List Char} (digits : ∀ c ∈ whole, c.isDigit)
  (shape : Token.Fraction fraction) (any : whole ++ fraction.tail ≠ [])

include digits shape any

theorem fraction_head : ∃ c rest, whole ++ fraction = c :: rest ∧ (c.isDigit ∨ c = '.') := by
  cases whole with
  | cons c rest => exact ⟨c, _, rfl, .inl (digits c List.mem_cons_self)⟩
  | nil =>
    cases shape with
    | none => exact absurd rfl any
    | @point places => exact ⟨'.', places, rfl, .inr rfl⟩

theorem isPlain_fraction : isPlain (minus negative ++ (whole ++ fraction)) := by
  have bare : unsigned (minus negative ++ (whole ++ fraction)) = whole ++ fraction := by
    obtain ⟨c, rest, same, starts⟩ := fraction_head digits shape any
    rw [same, unsigned_minus starts]
  have stops : ∀ c ∈ fraction.head?, c.isDigit = false := by
    cases shape with
    | none => simp
    | point places => simp
  unfold isPlain
  rw [bare, takeWhile_run digits stops, dropWhile_run digits stops]
  cases shape with
  | none => simpa using any
  | point places =>
    have some := not_and_or.mp (mt List.append_eq_nil_iff.mpr any)
    simpa [List.all_eq_true.mpr places] using some

theorem decimal_read?_fraction : Decimal.read? (minus negative ++ (whole ++ fraction)) =
    some (number negative whole fraction.tail) := by
  have unsigned := Token.readUnsigned?_digits digits shape any
  obtain ⟨c, rest, same, starts⟩ := fraction_head digits shape any
  have magnitude : Decimal.readMagnitude? (c :: rest) = _ := Token.readMagnitude?_cons starts
  rw [same] at unsigned
  rw [unsigned, Option.map_some] at magnitude
  rw [same]
  cases negative with
  | true =>
    change (Decimal.readMagnitude? (c :: rest)).map (fun x => -x) = _
    rw [magnitude]
    rfl
  | false => exact (Token.read?_cons starts).trans magnitude

theorem readDigits?_fraction {isDong : Bool}
    (left : (if hasPointGroups text && (isDong || decide (1 < text.count '.'))
      then text.filter (· != '.') else text.filter (· != ',')) =
        minus negative ++ (whole ++ fraction)) :
    readDigits? isDong text = some (number negative whole fraction.tail) := by
  unfold readDigits?
  rw [left]
  dsimp only
  rw [if_pos (isPlain_fraction digits shape any), decimal_read?_fraction digits shape any]

end

theorem minus_apart {separator : Char} (apart : separator ≠ '-') :
    ∀ c ∈ minus negative, c ≠ separator := by
  cases negative with
  | true => simpa [minus] using apart.symm
  | false => simp [minus]

theorem count_minus_written (groups : Groups) (negative : Bool) :
    (minus negative ++ groups.written '.').count '.' = groups.others.length := by
  rw [List.count_append, groups.count_written (by decide), List.count_eq_zero.mpr, Nat.zero_add]
  exact fun member => minus_apart (by decide) _ member rfl

/-- Points separate thousands in amounts of dong, and where there are several. -/
theorem readDigits?_points {isDong : Bool} (groups : Groups) (negative : Bool)
    (thousands : isDong ∨ 2 ≤ groups.others.length) :
    readDigits? isDong (minus negative ++ groups.written '.') =
      some (number negative groups.digits []) := by
  refine readDigits?_fraction groups.isDigit_digits .none (by simp [groups.digits_ne_nil]) ?_
  rw [hasPointGroups_written, count_minus_written, List.append_nil]
  cases alone : groups.others with
  | nil =>
    have whole : groups.written '.' = groups.digits := by
      rw [Groups.written, Groups.digits, alone]
      rfl
    rw [whole, List.isEmpty_nil, Bool.not_true, Bool.false_and, if_neg Bool.false_ne_true]
    refine filter_of_ne fun c member => ?_
    rcases List.mem_append.mp member with sign | digit
    · exact minus_apart (by decide) c sign
    · exact ne_of_isDigit (by decide) (groups.isDigit_digits c digit)
  | cons group rest =>
    have several : isDong = true ∨ 1 < (group :: rest).length := by
      rwa [alone] at thousands
    rw [if_pos (by simpa using several), List.filter_append, groups.filter_written (by decide),
      filter_of_ne (minus_apart (by decide))]

/-- Commas separate thousands, and a point behind them starts the fraction. -/
theorem readDigits?_commas (groups : Groups) (negative : Bool) {fraction : List Char}
    (shape : Token.Fraction fraction) :
    readDigits? false (minus negative ++ (groups.written ',' ++ fraction)) =
      some (number negative groups.digits fraction.tail) := by
  refine readDigits?_fraction groups.isDigit_digits shape (by simp [groups.digits_ne_nil]) ?_
  have one : fraction.count '.' ≤ 1 ∧ ∀ c ∈ fraction, c ≠ ',' := by
    cases shape with
    | none => simp
    | point places =>
      rw [List.count_cons_self, List.count_eq_zero.mpr fun member => by cases places _ member]
      refine ⟨Nat.le_refl 1, List.forall_mem_cons.mpr ⟨by decide, ?_⟩⟩
      exact fun c member => ne_of_isDigit (by decide) (places c member)
  have sign : (minus negative).count '.' = 0 :=
    List.count_eq_zero.mpr fun member => minus_apart (by decide) _ member rfl
  have whole : (groups.written ',').count '.' = 0 := by
    refine List.count_eq_zero.mpr fun member => ?_
    rcases Groups.mem_written member with digit | same
    · cases digit
    · cases same
  have few : ¬ 1 < (minus negative ++ (groups.written ',' ++ fraction)).count '.' := by
    rw [List.count_append, List.count_append, sign, whole]
    omega
  rw [Bool.false_or, decide_eq_false few, Bool.and_false, if_neg Bool.false_ne_true,
    List.filter_append, List.filter_append, groups.filter_written (by decide),
    filter_of_ne (minus_apart (by decide)), filter_of_ne one.2]

theorem withoutEnding?_ending {ending : List Char} (listed : ending ∈ dongEndings)
    (text : List Char) : withoutEnding? (text ++ ending) = some (Text.trimEnd text) := by
  -- No ending is a suffix of another, so the text has just the one.
  have apart : ∀ ending ∈ dongEndings, ∀ other ∈ dongEndings, other <:+ ending → other = ending := by
    decide
  have only : ∀ other ∈ dongEndings, other <:+ text ++ ending → other = ending := by
    intro other otherListed suffix
    rcases List.suffix_or_suffix_of_suffix suffix (List.suffix_append text ending) with short | long
    · exact apart ending listed other otherListed short
    · exact (apart other otherListed ending listed long).symm
  unfold withoutEnding?
  cases found : dongEndings.findSome? fun other =>
      if other.isSuffixOf (text ++ ending) then
        some (Text.trimEnd ((text ++ ending).take ((text ++ ending).length - other.length)))
      else none with
  | none => simpa using List.findSome?_eq_none_iff.mp found ending listed
  | some front =>
    obtain ⟨other, otherListed, taken⟩ := List.exists_of_findSome?_eq_some found
    split at taken
    · rename_i suffix
      cases only other otherListed (List.isSuffixOf_iff_suffix.mp suffix)
      simpa using taken.symm
    · cases taken

theorem withoutEnding?_bare (last : ∀ c ∈ text.getLast?, IsBare c) : withoutEnding? text = none := by
  have marks : ∀ ending ∈ dongEndings, ∃ c, ending.getLast? = some c ∧ ¬ IsBare c := by
    simp only [dongEndings, List.forall_mem_cons]
    exact ⟨⟨_, rfl, by decide⟩, ⟨_, rfl, by decide⟩, ⟨_, rfl, by decide⟩, ⟨_, rfl, by decide⟩,
      ⟨_, rfl, by decide⟩, by simp⟩
  refine List.findSome?_eq_none_iff.mpr fun ending listed => if_neg fun suffix => ?_
  obtain ⟨c, ends, notBare⟩ := marks ending listed
  obtain ⟨front, rfl⟩ := List.isSuffixOf_iff_suffix.mp suffix
  refine notBare (last c ?_)
  rw [List.getLast?_append, ends]
  rfl

theorem IsBare.visible (bare : IsBare c) : Text.isBlank c = false := by
  rcases bare with digit | listed
  · exact not_isBlank_of_isDigit digit
  · have each : ∀ c ∈ ['-', '.', ','], Text.isBlank c = false := by decide
    exact each c listed

theorem IsBare.not_isCurrencySign (bare : IsBare c) : isCurrencySign c = false := by
  simp only [isCurrencySign, Bool.or_eq_false_iff, beq_eq_false_iff_ne]
  refine ⟨⟨⟨⟨?_, ?_⟩, ?_⟩, ?_⟩, ?_⟩ <;> rintro rfl <;> exact absurd bare (by decide)

theorem filter_bare (bare : ∀ c ∈ text, IsBare c) :
    (text.filter fun c => !isCurrencySign c && !Text.isBlank c) = text := by
  refine List.filter_eq_self.mpr fun c member => ?_
  rw [(bare c member).not_isCurrencySign, (bare c member).visible]
  rfl

theorem isBare_minus : ∀ c ∈ minus negative, IsBare c := by
  cases negative <;> decide

theorem isBare_written {separator : Char} (listed : separator ∈ ['.', ',']) :
    ∀ c ∈ groups.written separator, IsBare c := by
  intro c member
  rcases Groups.mem_written member with digit | rfl
  · exact .inl digit
  · exact .inr (List.mem_cons_of_mem _ listed)

theorem isBare_fraction {fraction : List Char} (shape : Token.Fraction fraction) :
    ∀ c ∈ fraction, IsBare c := by
  cases shape with
  | none => simp
  | point places => exact List.forall_mem_cons.mpr ⟨by decide, fun c member => .inl (places c member)⟩

theorem read?_surrounded {before after : List Char} (beforeBlank : Text.IsBlank before)
    (text : List Char) (afterBlank : Text.IsBlank after) :
    read? (before ++ text ++ after) = read? text := by
  rw [read?, read?, Text.trim_surrounded beforeBlank text afterBlank]

/-- An ending with white space in front of it marks dong. -/
theorem read?_ending {gap ending : List Char} (bare : ∀ c ∈ text, IsBare c) (any : text ≠ [])
    (blank : Text.IsBlank gap) (listed : ending ∈ dongEndings) :
    read? (text ++ gap ++ ending) = readDigits? true text := by
  have ends : EndsVisibly ending := by
    have each : ∀ ending ∈ dongEndings, ∀ c ∈ ending, Text.isBlank c = false := by decide
    exact endsVisibly_of_all (each ending listed)
  have some : ending ≠ [] := by
    rintro rfl
    exact absurd listed (by decide)
  have inner : Text.trim (text ++ gap ++ ending) = text ++ gap ++ ending := by
    obtain ⟨c, rest, rfl⟩ := List.exists_cons_of_ne_nil any
    have starts : Text.isBlank c = false := (bare c List.mem_cons_self).visible
    have front : Text.trimStart (c :: rest ++ gap ++ ending) = c :: rest ++ gap ++ ending :=
      List.dropWhile_cons_of_neg (by simp [starts])
    rw [Text.trim, front, (ends.behind some _).trimEnd_eq]
  have visible : EndsVisibly text := endsVisibly_of_all fun c member => (bare c member).visible
  have left : withoutEnding? (text ++ gap ++ ending) = .some text := by
    rw [withoutEnding?_ending listed, Expr.trimEnd_append visible blank]
  rw [read?, inner, left]
  dsimp only [Option.getD_some, Option.isSome_some]
  rw [Bool.true_or, filter_bare bare]

/-- A currency sign in front of the digits or of the minus sign is passed by. -/
theorem read?_marked {mark : String} {lead : List Char}
    (marked : mark ∈ ["", "$", "€", "£", "¥"])
    (leads : lead ∈ [mark.toList ++ minus negative, minus negative ++ mark.toList])
    (bare : ∀ c ∈ text, IsBare c) (any : text ≠ []) :
    read? (lead ++ text) = readDigits? false (minus negative ++ text) := by
  have each : ∀ mark ∈ ["", "$", "€", "£", "¥"], ∀ negative,
      ∀ lead ∈ [mark.toList ++ minus negative, minus negative ++ mark.toList],
        (∀ c ∈ lead, Text.isBlank c = false) ∧ '₫' ∉ lead ∧
          (lead.filter fun c => !isCurrencySign c && !Text.isBlank c) = minus negative := by
    decide
  obtain ⟨visible, noDong, left⟩ := each mark marked negative lead leads
  have inner : Text.trim (lead ++ text) = lead ++ text := by
    refine Text.trim_of_visible fun c member => ?_
    rcases List.mem_append.mp member with inLead | inText
    · exact visible c inLead
    · exact (bare c inText).visible
  have noEnding : withoutEnding? (lead ++ text) = none := by
    refine withoutEnding?_bare fun c last => bare c ?_
    rw [List.getLast?_append, List.getLast?_eq_some_getLast any] at last
    exact List.mem_of_getLast? (List.getLast?_eq_some_getLast any ▸ last)
  have noSign : (lead ++ text).contains '₫' = false := by
    rw [List.contains_eq_mem, decide_eq_false_iff_not, List.mem_append]
    rintro (inLead | inText)
    · exact noDong inLead
    · exact absurd (bare _ inText) (by decide)
  rw [read?, inner, noEnding]
  dsimp only [Option.getD_none, Option.isSome_none]
  rw [noSign, Bool.or_false, List.filter_append, left, filter_bare bare]

/-- Amounts with grouped digits have the number that all their digits write. The groups have points
between them and an ending that marks dong, or at least two points, or they have commas between them,
where a currency sign may stand in front and a fraction behind. -/
theorem read?_grouped (groups : Groups) (negative : Bool) {before after : List Char}
    (beforeBlank : Text.IsBlank before) (afterBlank : Text.IsBlank after) :
    (∀ gap, Text.IsBlank gap → ∀ ending ∈ ["VND", "vnd", "Vnd", "đ", "₫"],
      read? (before ++ (minus negative ++ groups.written '.' ++ gap ++ ending.toList) ++ after) =
        some (number negative groups.digits [])) ∧
    (2 ≤ groups.others.length →
      read? (before ++ (minus negative ++ groups.written '.') ++ after) =
        some (number negative groups.digits [])) ∧
    (∀ mark ∈ ["", "$", "€", "£", "¥"],
      ∀ lead ∈ [mark.toList ++ minus negative, minus negative ++ mark.toList],
        ∀ fraction, Token.Fraction fraction →
          read? (before ++ (lead ++ (groups.written ',' ++ fraction)) ++ after) =
            some (number negative groups.digits fraction.tail)) := by
  have any : ∀ separator, groups.written separator ≠ [] := by
    simp [Groups.written, groups.anyDigit]
  refine ⟨?ending, ?points, ?commas⟩
  case ending =>
    intro gap blank ending listed
    have bare : ∀ c ∈ minus negative ++ groups.written '.', IsBare c :=
      List.forall_mem_append.mpr ⟨isBare_minus, isBare_written (by decide)⟩
    have marks : ending.toList ∈ dongEndings := List.mem_map_of_mem (f := String.toList) listed
    rw [read?_surrounded beforeBlank _ afterBlank, read?_ending bare (by simp [any]) blank marks,
      readDigits?_points groups negative (.inl rfl)]
  case points =>
    intro several
    have lead : minus negative ∈ ["".toList ++ minus negative, minus negative ++ "".toList] :=
      List.mem_cons_self
    rw [read?_surrounded beforeBlank _ afterBlank,
      read?_marked (by decide) lead (isBare_written (by decide)) (any _),
      readDigits?_points groups negative (.inr several)]
  case commas =>
    intro mark marked lead leads fraction shape
    have bare : ∀ c ∈ groups.written ',' ++ fraction, IsBare c :=
      List.forall_mem_append.mpr ⟨isBare_written (by decide), isBare_fraction shape⟩
    rw [read?_surrounded beforeBlank _ afterBlank,
      read?_marked marked leads bare (by simp [any]), readDigits?_commas groups negative shape]

end

/-- Two and a half million, and as much below zero with a fraction. -/
theorem read?_grouped_millions :
    read? "\t2.500.000 VND".toList = some 2500000 ∧ read? "\t2.500.000".toList = some 2500000 ∧
      read? "$-2,500,000.5 ".toList = some (-2500000.5) := by
  let groups : Groups :=
    { first := ['2']
      others := [['5', '0', '0'], ['0', '0', '0']]
      isDigit := by decide
      anyDigit := by decide
      first_le := by decide
      length_eq := by decide }
  have size : number false groups.digits [] = 2500000 := by decide +kernel
  have below : number true groups.digits ['5'] = -2500000.5 := by decide +kernel
  have tab : Text.IsBlank ['\t'] := by simp only [Text.IsBlank]; decide
  have space : Text.IsBlank [' '] := by simp only [Text.IsBlank]; decide
  have nothing : Text.IsBlank [] := by simp [Text.IsBlank]
  obtain ⟨ending, points, _⟩ := read?_grouped groups false tab nothing
  obtain ⟨_, _, commas⟩ := read?_grouped groups true nothing space
  rw [size] at ending points
  refine ⟨ending [' '] space "VND" (by decide), points (by decide), ?_⟩
  exact (commas "$" (by decide) ['$', '-'] (by decide) ['.', '5'] (.point (by decide))).trans
    (congrArg some below)

end Amount

end PhraseSheet
