import PhraseSheet.Proofs.FoldedCharacters
import PhraseSheet.Proofs.GroupedAmounts
import PhraseSheet.Proofs.WordPattern

namespace PhraseSheet

namespace Text

theorem combiningClass_of_ascii {c : Char} (low : c.toNat < 128) : combiningClass c = 0 :=
  combiningClass_eq_zero (of_ascii (P := fun c => isDiacritic c = false) (by decide) low)

theorem composeAfter_of_ascii {rest : List Char} (ascii : ∀ c ∈ rest, c.toNat < 128) (c : Char) :
    composeAfter c [] rest = c :: rest := by
  induction rest generalizing c with
  | nil => rfl
  | cons d rest ih =>
    obtain ⟨low, later⟩ := List.forall_mem_cons.mp ascii
    have apart : compose? c d = none := if_pos (Nat.lt_trans low (by decide))
    simp [composeAfter, apart, combiningClass_of_ascii low, ih later]

theorem compose_of_ascii {text : List Char} (ascii : ∀ c ∈ text, c.toNat < 128) :
    compose text = text := by
  have decomposed : decompose text = text := decompose_of_simple fun c member =>
    ⟨if_pos (Nat.lt_trans (ascii c member) (by decide)), combiningClass_of_ascii (ascii c member)⟩
  rw [compose, decomposed]
  cases text with
  | nil => rfl
  | cons c rest =>
    obtain ⟨low, later⟩ := List.forall_mem_cons.mp ascii
    rw [composeFrom, if_pos (combiningClass_of_ascii low), composeAfter_of_ascii later]

theorem lower_of_caseless {text : List Char} (caseless : ∀ c ∈ text, c ≠ 'Σ' ∧ lowerChar c = [c]) :
    lower text = text := by
  have behind : ∀ before, lowerAfter before text = text := by
    induction text with
    | nil => exact fun _ => rfl
    | cons c rest ih =>
      intro before
      obtain ⟨⟨noSigma, same⟩, later⟩ := List.forall_mem_cons.mp caseless
      rw [lowerAfter, if_neg (by simpa using noSigma), same, ih later, List.singleton_append]
  exact behind []

end Text

namespace Numeral

/-- The sign that starts a fraction where the given one stands between groups. -/
def otherSign (sign : Char) : Char := if sign == '.' then ',' else '.'

/-- A fraction with a sign in front of it, if there is one. -/
def fractionBehind (sign : Char) (fraction : List Char) : List Char :=
  if fraction.isEmpty then [] else sign :: fraction

def percentSign (percent : Bool) : List Char := if percent then ['%'] else []

/-- The characters of numbers with percent signs. -/
def isNumeralChar (c : Char) : Bool := c.isDigit || isSeparator c || c == '%'

/-- Digits in groups of three, with more or fewer in the first, and a fraction. One sign stands
between groups and the other in front of the fraction. Without further groups three digits behind a
sign are a group and no fraction. -/
structure Writing where
  first : List Char
  groups : List (List Char)
  fraction : List Char
  sign : Char
  isDigit : ∀ run ∈ first :: fraction :: groups, ∀ c ∈ run, c.isDigit
  anyDigit : first ≠ []
  length_eq : ∀ group ∈ groups, group.length = 3
  fraction_length : groups = [] → fraction.length ≠ 3
  separates : isSeparator sign

namespace Writing

/-- The groups with the sign between neighbours. -/
def grouped (writing : Writing) : List Char :=
  writing.first ++ writing.groups.flatMap (writing.sign :: ·)

def text (writing : Writing) : List Char :=
  writing.grouped ++ fractionBehind (otherSign writing.sign) writing.fraction

def digits (writing : Writing) : List Char := writing.first ++ writing.groups.flatten

/-- The number that the digits write in front of a point and the fraction behind it. -/
def value (writing : Writing) : Float := Amount.number false writing.digits writing.fraction

end Writing

/-- Further runs of digits, each with a separator in front. -/
inductive Further : List Char → Prop
  | none : Further []
  | run (separates : isSeparator sign) (digits : ∀ c ∈ run, c.isDigit) (any : run ≠ [])
      (further : Further rest) : Further (sign :: (run ++ rest))

section

variable {c sign : Char} {run rest tail front : List Char}

theorem separator_cases (separates : isSeparator sign) : sign = '.' ∨ sign = ',' := by
  simpa [isSeparator] using separates

theorem not_isDigit_of_isSeparator (separates : isSeparator sign) : sign.isDigit = false := by
  rcases separator_cases separates with rfl | rfl <;> rfl

theorem not_isSeparator_of_isDigit (digit : c.isDigit) : isSeparator c = false := by
  cases separates : isSeparator c with
  | false => rfl
  | true =>
    rw [not_isDigit_of_isSeparator separates] at digit
    cases digit

theorem isSeparator_otherSign (sign : Char) : isSeparator (otherSign sign) := by
  unfold otherSign
  split <;> rfl

theorem otherSign_otherSign (separates : isSeparator sign) : otherSign (otherSign sign) = sign := by
  rcases separator_cases separates with rfl | rfl <;> rfl

theorem otherSign_ne (separates : isSeparator sign) : otherSign sign ≠ sign := by
  rcases separator_cases separates with rfl | rfl <;> decide

theorem plain_of_last (separates : isSeparator sign) (digits : ∀ c ∈ tail, c.isDigit) :
    plain (front ++ sign :: tail) =
      if (front ++ sign :: tail).contains (otherSign sign) then
        pointed sign (without (otherSign sign) (front ++ sign :: tail))
      else if 1 < (front ++ sign :: tail).count sign || tail.length == 3 then
        without sign (front ++ sign :: tail)
      else pointed sign (front ++ sign :: tail) := by
  have backwards : (front ++ sign :: tail).reverse = tail.reverse ++ sign :: front.reverse := by
    simp
  have none : tail.reverse.find? isSeparator = none := by
    rw [List.find?_eq_none]
    intro c member
    simp [not_isSeparator_of_isDigit (digits c (List.mem_reverse.mp member))]
  have last : (front ++ sign :: tail).reverse.find? isSeparator = some sign := by
    rw [backwards, List.find?_append, none, Option.none_or, List.find?_cons_of_pos separates]
  have run : ∀ c ∈ tail.reverse, c != sign := fun c member =>
    bne_iff_ne.mpr (Amount.ne_of_isDigit (not_isDigit_of_isSeparator separates)
      (digits c (List.mem_reverse.mp member)))
  have taken : ((front ++ sign :: tail).reverse.takeWhile (· != sign)).length = tail.length := by
    rw [backwards, takeWhile_run run (by simp), List.length_reverse]
  unfold plain
  rw [last]
  dsimp only
  rw [taken]
  rfl

theorem plain_of_isDigit (digits : ∀ c ∈ run, c.isDigit) : plain run = run := by
  have none : run.reverse.find? isSeparator = none := by
    rw [List.find?_eq_none]
    intro c member
    simp [not_isSeparator_of_isDigit (digits c (List.mem_reverse.mp member))]
  unfold plain
  rw [none]

theorem pointed_of_ne (apart : ∀ c ∈ front, c ≠ sign) : pointed sign front = front := by
  rw [pointed, List.map_congr_left (g := id), List.map_id]
  exact fun c member => if_neg (by simpa using apart c member)

theorem inRun_of_isDigit (digit : c.isDigit) : Word.inRun c :=
  of_ascii (P := fun c => c.isDigit → Word.inRun c) (by decide) (toNat_lt_of_isDigit digit)
    digit

theorem eq_of_mem_head?_percentSign {percent : Bool} (head : c ∈ (percentSign percent).head?) :
    c = '%' := by
  cases percent with
  | false => cases head
  | true =>
    cases head
    rfl

theorem Further.stops (further : Further rest) (percent : Bool) :
    ∀ c ∈ (rest ++ percentSign percent).head?, Word.inRun c = false := by
  cases further with
  | none =>
    intro c head
    rw [eq_of_mem_head?_percentSign head]
    decide
  | run separates =>
    rintro c ⟨⟩
    rcases separator_cases separates with rfl | rfl <;> decide

theorem takeWhile_inRun (digits : ∀ c ∈ run, c.isDigit) (further : Further rest) (percent : Bool) :
    (run ++ (rest ++ percentSign percent)).takeWhile Word.inRun = run :=
  takeWhile_run (fun c member => inRun_of_isDigit (digits c member)) (further.stops percent)

theorem groupsLength_further (further : Further rest) (percent : Bool) :
    Word.groupsLength (rest ++ percentSign percent) = rest.length := by
  induction further with
  | none => cases percent <;> simp [percentSign, Word.groupsLength]
  | @run sign run rest separates digits any further ih =>
    have some : 0 < run.length := List.length_pos_iff.mpr any
    have separator : (sign == '.' || sign == ',') = true := separates
    rw [List.cons_append, List.append_assoc, Word.groupsLength, takeWhile_inRun digits further,
      List.drop_left, ih]
    simp [separator, some]
    omega

theorem runLength_further (digits : ∀ c ∈ run, c.isDigit) (further : Further rest)
    (percent : Bool) :
    Word.runLength (run ++ (rest ++ percentSign percent)) =
      (run ++ (rest ++ percentSign percent)).length := by
  have left : (run ++ (rest ++ percentSign percent)).drop (run.length + rest.length) =
      percentSign percent := by
    rw [← List.append_assoc, ← List.length_append, List.drop_left]
  rw [Word.runLength, takeWhile_inRun digits further, List.drop_left,
    groupsLength_further further, left]
  cases percent <;> simp [percentSign, Nat.add_assoc]

theorem wordLength_of_isDigit (digit : c.isDigit) :
    Word.wordLength c rest = Word.runLength (c :: rest) := by
  have notLetter : c.isAlpha = false := by
    cases letter : c.isAlpha with
    | false => rfl
    | true =>
      rw [not_isDigit_of_isAlpha letter] at digit
      cases digit
  have noRange : Word.rangeLength? (c :: rest) = none := by
    simp [Word.rangeLength?, Word.cellLength?, notLetter]
  have noComparison : Word.startsComparison (c :: rest) = false := by
    unfold Word.startsComparison
    split
    case h_6 => rfl
    all_goals
      rename_i same
      cases same
      exact absurd digit (by decide)
  rw [Word.wordLength, noRange, noComparison]
  exact if_pos (inRun_of_isDigit digit)

/-- Digits with further runs behind them and a percent sign are one word. -/
theorem split_run (digits : ∀ c ∈ run, c.isDigit) (any : run ≠ []) (further : Further rest)
    (percent : Bool) :
    Word.split (run ++ (rest ++ percentSign percent)) =
      [⟨[], run ++ (rest ++ percentSign percent)⟩] := by
  have length := runLength_further digits further percent
  obtain ⟨c, others, rfl⟩ := List.exists_cons_of_ne_nil any
  have digit := digits c List.mem_cons_self
  have starts := List.dropWhile_cons_of_neg (l := others ++ (rest ++ percentSign percent))
    (Bool.eq_false_iff.mp (not_isBlank_of_isDigit digit))
  have gap := List.takeWhile_cons_of_neg (l := others ++ (rest ++ percentSign percent))
    (Bool.eq_false_iff.mp (not_isBlank_of_isDigit digit))
  rw [List.cons_append] at length ⊢
  rw [Word.split_of_dropWhile starts, gap, wordLength_of_isDigit digit, length, List.length_cons,
    Nat.add_sub_cancel, List.take_length, List.drop_length,
    Word.split_eq_nil (List.forall_mem_nil _)]

theorem isGrouped_of_isDigit (digits : ∀ c ∈ run, c.isDigit) (any : run ≠ []) (fresh : Bool) :
    isGrouped fresh (run ++ rest) = isGrouped false rest := by
  induction run generalizing fresh with
  | nil => exact absurd rfl any
  | cons c run ih =>
    obtain ⟨digit, later⟩ := List.forall_mem_cons.mp digits
    rw [List.cons_append, isGrouped, if_pos digit]
    cases run with
    | nil => rfl
    | cons d run => exact ih later (by simp) false

theorem isGrouped_further (further : Further rest) : isGrouped false rest := by
  induction further with
  | none => rfl
  | @run sign run rest separates digits any further ih =>
    rw [isGrouped, not_isDigit_of_isSeparator separates, separates,
      isGrouped_of_isDigit digits any true, ih]
    rfl

theorem isWritten_run (digits : ∀ c ∈ run, c.isDigit) (further : Further rest) :
    ∀ c ∈ run ++ rest, c.isDigit || isSeparator c := by
  have ofDigits : ∀ {run : List Char}, (∀ c ∈ run, c.isDigit) →
      ∀ c ∈ run, c.isDigit || isSeparator c := by
    intro run digits c member
    rw [digits c member, Bool.true_or]
  have behind : ∀ c ∈ rest, c.isDigit || isSeparator c := by
    induction further with
    | none => exact List.forall_mem_nil _
    | run separates digits _ _ ih =>
      exact List.forall_mem_cons.mpr
        ⟨by simp [separates], List.forall_mem_append.mpr ⟨ofDigits digits, ih⟩⟩
  exact List.forall_mem_append.mpr ⟨ofDigits digits, behind⟩

theorem toNat_lt_of_isNumeralChar (listed : isNumeralChar c) : c.toNat < 128 := by
  simp only [isNumeralChar, isSeparator, Bool.or_eq_true, beq_iff_eq] at listed
  rcases listed with (digit | rfl | rfl) | rfl
  · exact toNat_lt_of_isDigit digit
  all_goals decide

theorem caseless_of_isNumeralChar (listed : isNumeralChar c) :
    c ≠ 'Σ' ∧ Text.lowerChar c = [c] :=
  of_ascii (P := fun c => isNumeralChar c → c ≠ 'Σ' ∧ Text.lowerChar c = [c]) (by decide +kernel)
    (toNat_lt_of_isNumeralChar listed) listed

/-- Nothing is composed or lowered in a number with a percent sign. -/
theorem lower_compose_run (written : ∀ c ∈ run, c.isDigit || isSeparator c) (percent : Bool) :
    Text.lower (Text.compose (run ++ percentSign percent)) = run ++ percentSign percent := by
  have listed : ∀ c ∈ run ++ percentSign percent, isNumeralChar c := by
    refine List.forall_mem_append.mpr ⟨fun c member => ?_, ?_⟩
    · rw [isNumeralChar, written c member, Bool.true_or]
    · cases percent <;> decide
  rw [Text.compose_of_ascii fun c member => toNat_lt_of_isNumeralChar (listed c member),
    Text.lower_of_caseless fun c member => caseless_of_isNumeralChar (listed c member)]

theorem ofName?_of_isDigit (digit : c.isDigit) : ofName? (String.ofList (c :: rest)) = none := by
  have letters : ∀ entry ∈ names, entry.1.toList.head?.all fun c => !c.isDigit := by decide
  refine List.lookup_eq_none_iff.mpr fun entry listed => bne_iff_ne.mpr ?_
  intro same
  have starts := letters entry listed
  rw [← same, String.toList_ofList, List.head?_cons, Option.all_some, digit] at starts
  cases starts

section

variable (digits : ∀ c ∈ run, c.isDigit) (any : run ≠ []) (further : Further rest)
  {value : Float} (read : read? (run ++ rest) = some value) (percent : Bool)

include digits any further read

theorem literal?_run :
    literal? (run ++ (rest ++ percentSign percent)) = some ⟨value, percent⟩ := by
  have stops : ∀ c ∈ (percentSign percent).head?, (c.isDigit || isSeparator c) = false := by
    intro c head
    rw [eq_of_mem_head?_percentSign head]
    rfl
  have grouped : isGrouped true (run ++ rest) = true :=
    (isGrouped_of_isDigit digits any true).trans (isGrouped_further further)
  rw [← List.append_assoc]
  unfold literal?
  dsimp only
  rw [takeWhile_run (isWritten_run digits further) stops,
    dropWhile_run (isWritten_run digits further) stops, if_pos grouped, read]
  cases percent <;> rfl

/-- A number with a percent sign is a word with the value of the number. -/
theorem ofWord?_run :
    ofWord? (run ++ (rest ++ percentSign percent)) = some ⟨value, percent⟩ := by
  have same := lower_compose_run (isWritten_run digits further) percent
  have literal := literal?_run digits any further read percent
  obtain ⟨c, others, rfl⟩ := List.exists_cons_of_ne_nil any
  rw [List.append_assoc] at same
  unfold ofWord?
  dsimp only
  rw [same, List.cons_append, ofName?_of_isDigit (digits c List.mem_cons_self)]
  exact literal

/-- A request that consists of a number with a percent sign is that number. -/
theorem phrases_run :
    (Request.ofText (String.ofList (run ++ (rest ++ percentSign percent)))).phrases =
      [{ meaning := .number ⟨value, percent⟩
         text := String.ofList (run ++ (rest ++ percentSign percent))
         folded := Text.fold (String.ofList (run ++ (rest ++ percentSign percent)))
         position := 0 }] := by
  have meaning : ∀ folded, Piece.meaningOf (run ++ (rest ++ percentSign percent)) folded =
      .number ⟨value, percent⟩ := by
    intro folded
    rw [Piece.meaningOf, ofWord?_run digits any further read]
    rfl
  rw [Request.ofText, String.toList_ofList, split_run digits any further, List.map_singleton,
    Piece.ofWord, meaning]
  rfl

end

namespace Writing

variable (writing : Writing)

theorem isDigit_first : ∀ c ∈ writing.first, c.isDigit :=
  writing.isDigit _ List.mem_cons_self

theorem isDigit_fraction : ∀ c ∈ writing.fraction, c.isDigit :=
  writing.isDigit _ (List.mem_cons_of_mem _ List.mem_cons_self)

theorem isDigit_groups : ∀ group ∈ writing.groups, ∀ c ∈ group, c.isDigit := fun group member =>
  writing.isDigit group (List.mem_cons_of_mem _ (List.mem_cons_of_mem _ member))

theorem isDigit_digits : ∀ c ∈ writing.digits, c.isDigit := by
  refine List.forall_mem_append.mpr ⟨writing.isDigit_first, fun c member => ?_⟩
  obtain ⟨group, listed, inGroup⟩ := List.mem_flatten.mp member
  exact writing.isDigit_groups group listed c inGroup

theorem digits_ne_nil : writing.digits ≠ [] := by simp [digits, writing.anyDigit]

theorem not_isDigit_sign : writing.sign.isDigit = false :=
  not_isDigit_of_isSeparator writing.separates

theorem otherSign_not_mem_grouped : ∀ c ∈ writing.grouped, c ≠ otherSign writing.sign := by
  have apart := not_isDigit_of_isSeparator (isSeparator_otherSign writing.sign)
  refine List.forall_mem_append.mpr ⟨fun c member => ?_, fun c member => ?_⟩
  · exact Amount.ne_of_isDigit apart (writing.isDigit_first c member)
  · obtain ⟨group, listed, inGroup⟩ := List.mem_flatMap.mp member
    rcases List.mem_cons.mp inGroup with rfl | digit
    · exact (otherSign_ne writing.separates).symm
    · exact Amount.ne_of_isDigit apart (writing.isDigit_groups group listed c digit)

theorem without_grouped : without writing.sign writing.grouped = writing.digits := by
  rw [without, grouped, List.filter_append,
    Amount.filter_flatMap_cons writing.not_isDigit_sign writing.isDigit_groups, digits,
    Amount.filter_of_ne fun c member =>
      Amount.ne_of_isDigit writing.not_isDigit_sign (writing.isDigit_first c member)]

/-- Without a fraction the sign groups the digits, if it stands anywhere. -/
theorem plain_grouped : plain writing.grouped = writing.digits := by
  rcases List.eq_nil_or_concat writing.groups with none | ⟨front, last, same⟩
  · have whole : writing.grouped = writing.first := by simp [grouped, none]
    rw [whole, plain_of_isDigit writing.isDigit_first, digits, none, List.flatten_nil,
      List.append_nil]
  · have ends : writing.grouped =
        (writing.first ++ front.flatMap (writing.sign :: ·)) ++ writing.sign :: last := by
      simp [grouped, same]
    have member : last ∈ writing.groups := by simp [same]
    have three := writing.length_eq last member
    have noOther : writing.grouped.contains (otherSign writing.sign) = false := by
      rw [List.contains_eq_mem, decide_eq_false_iff_not]
      exact fun inText => writing.otherSign_not_mem_grouped _ inText rfl
    rw [← writing.without_grouped]
    rw [ends] at noOther ⊢
    rw [plain_of_last writing.separates (writing.isDigit_groups last member), noOther,
      if_neg Bool.false_ne_true, if_pos (by simp [three])]

/-- The last sign starts the fraction. -/
theorem plain_fraction :
    plain (writing.grouped ++ otherSign writing.sign :: writing.fraction) =
      writing.digits ++ '.' :: writing.fraction := by
  have separates := isSeparator_otherSign writing.sign
  have apart := writing.otherSign_not_mem_grouped
  have noSign : ∀ c ∈ otherSign writing.sign :: writing.fraction, c ≠ writing.sign :=
    List.forall_mem_cons.mpr ⟨otherSign_ne writing.separates, fun c member =>
      Amount.ne_of_isDigit writing.not_isDigit_sign (writing.isDigit_fraction c member)⟩
  have left : without writing.sign
      (writing.grouped ++ otherSign writing.sign :: writing.fraction) =
        writing.digits ++ otherSign writing.sign :: writing.fraction := by
    rw [without, List.filter_append, ← without, without_grouped, Amount.filter_of_ne noSign]
  have point : pointed (otherSign writing.sign)
      (writing.digits ++ otherSign writing.sign :: writing.fraction) =
        writing.digits ++ '.' :: writing.fraction := by
    have noDigit := not_isDigit_of_isSeparator separates
    have front := pointed_of_ne fun c member =>
      Amount.ne_of_isDigit noDigit (writing.isDigit_digits c member)
    have behind := pointed_of_ne fun c member =>
      Amount.ne_of_isDigit noDigit (writing.isDigit_fraction c member)
    rw [pointed, List.map_append, ← pointed, front, List.map_cons, ← pointed, behind]
    simp
  rw [plain_of_last separates writing.isDigit_fraction, otherSign_otherSign writing.separates, left,
    point]
  -- Without the sign there are no further groups, so the fraction does not have three digits.
  cases found : (writing.grouped ++ otherSign writing.sign :: writing.fraction).contains
    writing.sign with
  | true => rfl
  | false =>
    have none : writing.groups = [] := by
      by_contra some
      obtain ⟨group, rest, same⟩ := List.exists_cons_of_ne_nil some
      simp [grouped, same] at found
    have whole : writing.grouped = writing.digits := by simp [grouped, digits, none]
    have once : (writing.grouped ++ otherSign writing.sign :: writing.fraction).count
        (otherSign writing.sign) = 1 := by
      rw [List.count_append, List.count_cons_self,
        List.count_eq_zero.mpr fun member => apart _ member rfl,
        Amount.count_of_isDigit (not_isDigit_of_isSeparator separates) writing.isDigit_fraction]
    have notThree := writing.fraction_length none
    rw [once, if_neg Bool.false_ne_true, if_neg (by simpa using notThree), whole, point]

theorem plain_text :
    plain writing.text = writing.digits ++ fractionBehind '.' writing.fraction := by
  unfold text fractionBehind
  split
  · rw [List.append_nil, List.append_nil, plain_grouped]
  · exact writing.plain_fraction

theorem read?_text : read? writing.text = some writing.value := by
  have shape : Token.Fraction (fractionBehind '.' writing.fraction) := by
    unfold fractionBehind
    split
    · exact .none
    · exact .point writing.isDigit_fraction
  have fraction : (fractionBehind '.' writing.fraction).tail = writing.fraction := by
    unfold fractionBehind
    split
    · rename_i none
      exact (List.isEmpty_iff.mp none).symm
    · rfl
  have decimal := @Amount.decimal_read?_fraction false _ _ writing.isDigit_digits shape
    (by simp [writing.digits_ne_nil])
  rw [fraction] at decimal
  rw [read?, plain_text]
  exact decimal

theorem exists_further : ∃ rest, writing.text = writing.first ++ rest ∧ Further rest := by
  have fraction : Further (fractionBehind (otherSign writing.sign) writing.fraction) := by
    unfold fractionBehind
    split
    · exact .none
    · rename_i any
      have run := Further.run (isSeparator_otherSign writing.sign) writing.isDigit_fraction
        (by simpa using any) .none
      rwa [List.append_nil] at run
  have groups : ∀ listed : List (List Char), (∀ group ∈ listed, group ∈ writing.groups) →
      Further (listed.flatMap (writing.sign :: ·) ++
        fractionBehind (otherSign writing.sign) writing.fraction) := by
    intro listed within
    induction listed with
    | nil => exact fraction
    | cons group listed ih =>
      obtain ⟨member, later⟩ := List.forall_mem_cons.mp within
      have some : group ≠ [] := by
        rintro rfl
        exact absurd (writing.length_eq _ member) (by decide)
      rw [List.flatMap_cons, List.cons_append, List.cons_append, List.append_assoc]
      exact .run writing.separates (writing.isDigit_groups group member) some (ih later)
  exact ⟨_, List.append_assoc _ _ _, groups writing.groups fun _ member => member⟩

end Writing

/-- A number is read as its digits in front of a point and its fraction behind it, whichever sign
groups the digits. As a request it is one phrase, with or without a percent sign. -/
theorem read?_written (writing : Writing) :
    read? writing.text = some writing.value ∧
      ∀ percent, (Request.ofText (String.ofList (writing.text ++ percentSign percent))).phrases =
        [{ meaning := .number ⟨writing.value, percent⟩
           text := String.ofList (writing.text ++ percentSign percent)
           folded := Text.fold (String.ofList (writing.text ++ percentSign percent))
           position := 0 }] := by
  have read := writing.read?_text
  refine ⟨read, fun percent => ?_⟩
  obtain ⟨rest, same, further⟩ := writing.exists_further
  rw [same] at read ⊢
  rw [List.append_assoc]
  exact phrases_run writing.isDigit_first writing.anyDigit further read percent

end

/-- A million and a quarter and a half, with points between the groups. -/
theorem read?_written_million :
    read? "1.250.000,5".toList = some 1250000.5 ∧
      (Request.ofText "1.250.000,5%").phrases.map Phrase.meaning =
        [.number ⟨1250000.5, true⟩] := by
  let writing : Writing :=
    { first := ['1']
      groups := [['2', '5', '0'], ['0', '0', '0']]
      fraction := ['5']
      sign := '.'
      isDigit := by decide
      anyDigit := by decide
      length_eq := by decide
      fraction_length := by decide
      separates := rfl }
  have size : writing.value = 1250000.5 := by decide
  obtain ⟨read, phrases⟩ := read?_written writing
  have percent := congrArg (List.map Phrase.meaning) (phrases true)
  rw [size] at read percent
  exact ⟨read, percent⟩

end Numeral

end PhraseSheet
