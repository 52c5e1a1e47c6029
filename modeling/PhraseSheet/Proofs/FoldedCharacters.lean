import Mathlib.Data.List.Basic
import Mathlib.Data.Nat.Bitwise
import PhraseSheet.Proofs.Blankness

/-! The characters of folded texts. What is left of a character when it is decomposed, its marks are
dropped and the rest is lowered are characters that all this leaves as they are. The tables are
compared as sets of codes. -/

namespace PhraseSheet.Text

/-- The set of the codes, as the bits of a number. -/
def codeSet (codes : List Nat) : Nat := codes.foldr (fun code set => 1 <<< code ||| set) 0

def CodeRanges.set (ranges : CodeRanges) : Nat :=
  ranges.foldr (fun range set => (2 ^ (range.2 + 1 - range.1) - 1) <<< range.1 ||| set) 0

theorem testBit_codeSet {codes : List Nat} {code : Nat} :
    (codeSet codes).testBit code ↔ code ∈ codes := by
  induction codes with
  | nil => simp [codeSet]
  | cons first rest ih =>
    have bit : (1 <<< first).testBit code ↔ code = first := by
      rw [Nat.one_shiftLeft, Nat.testBit_two_pow, decide_eq_true_iff, eq_comm]
    rw [codeSet, List.foldr_cons, ← codeSet, Nat.testBit_or, Bool.or_eq_true_iff, ih, bit,
      List.mem_cons]

theorem CodeRanges.testBit_set {ranges : CodeRanges} {code : Nat} :
    ranges.set.testBit code ↔ ∃ range ∈ ranges, range.1 ≤ code ∧ code ≤ range.2 := by
  induction ranges with
  | nil => simp [set]
  | cons first rest ih =>
    have bits : ((2 ^ (first.2 + 1 - first.1) - 1) <<< first.1).testBit code ↔
        first.1 ≤ code ∧ code ≤ first.2 := by
      rw [Nat.testBit_shiftLeft, Nat.testBit_two_pow_sub_one]
      simp only [ge_iff_le, Bool.and_eq_true, decide_eq_true_eq]
      omega
    rw [set, List.foldr_cons, ← set, Nat.testBit_or, Bool.or_eq_true_iff, ih, bits]
    simp only [List.mem_cons, or_and_right, exists_or, exists_eq_left]

theorem CodeRanges.lt_of_ascending {first last : Nat} {rest : CodeRanges}
    (ascends : CodeRanges.ascending ((first, last) :: rest)) :
    first ≤ last ∧ CodeRanges.ascending rest ∧ ∀ range ∈ rest, last < range.1 := by
  induction rest generalizing first last with
  | nil => simpa [ascending] using ascends
  | cons range rest ih =>
    obtain ⟨next, stop⟩ := range
    simp only [ascending, Bool.and_eq_true, decide_eq_true_eq] at ascends
    obtain ⟨⟨le, lt⟩, later⟩ := ascends
    obtain ⟨nextLe, _, beyond⟩ := ih later
    refine ⟨le, later, List.forall_mem_cons.mpr ⟨lt, fun range member => ?_⟩⟩
    exact Nat.lt_trans lt (Nat.lt_of_le_of_lt nextLe (beyond range member))

/-- Ascending ranges cover just the codes within them. -/
theorem CodeRanges.covers_iff {ranges : CodeRanges} (ascends : ranges.ascending) {code : Nat} :
    ranges.covers code ↔ ranges.set.testBit code := by
  rw [testBit_set]
  refine ⟨within_of_covers, ?_⟩
  rintro ⟨range, member, low, high⟩
  induction ranges with
  | nil => cases member
  | cons first rest ih =>
    obtain ⟨le, later, beyond⟩ := lt_of_ascending ascends
    rw [covers]
    rcases List.mem_cons.mp member with rfl | member
    · rw [if_neg (by omega), decide_eq_true high, Bool.true_or]
    · have reached := beyond range member
      rw [if_neg (by omega), ih later member, Bool.or_true]

theorem not_testBit_of_land {one other code : Nat} (apart : one &&& other = 0)
    (member : one.testBit code) : other.testBit code = false := by
  have both := Nat.testBit_and one other code
  rw [apart, Nat.zero_testBit, member, Bool.true_and] at both
  exact both.symm

private theorem mem_of_lookup {α β : Type} [BEq α] [LawfulBEq α] {entries : List (α × β)} {key : α}
    {value : β} (found : entries.lookup key = some value) : (key, value) ∈ entries := by
  obtain ⟨before, after, same, _⟩ := List.lookup_eq_some_iff.mp found
  simp [same]

private theorem mem_keys_iff {α β : Type} [BEq α] [LawfulBEq α] {entries : List (α × β)} {key : α} :
    key ∈ entries.map Prod.fst ↔ entries.lookup key ≠ none := by
  rw [Ne, List.lookup_eq_none_iff, List.mem_map]
  constructor
  · rintro ⟨entry, member, rfl⟩ absent
    exact absurd (absent entry member) (by simp)
  · intro found
    by_contra absent
    refine found fun entry member => bne_iff_ne.mpr fun same => absent ⟨entry, member, same.symm⟩

/-- The codes of the characters that have a decomposition. -/
def composed : Nat :=
  codeSet (composites.map Prod.fst) ||| codeSet (singletons.map Prod.fst) |||
    CodeRanges.set [(0xAC00, 0xD7A3)]

/-- The codes of the characters that decompositions consist of. -/
def components : Nat :=
  codeSet (composites.flatMap fun entry => entry.2.map fun code => (Char.ofNat code).toNat) |||
    codeSet (singletons.map fun entry => (Char.ofNat entry.2).toNat) |||
      CodeRanges.set [(0x1100, 0x11C2)]

/-- The codes of the marks that folding drops. -/
def diacritics : Nat := CodeRanges.set marks ||| CodeRanges.set laterMarks

/-- The codes of the characters with a class. -/
def ranked : Nat := CodeRanges.set (combiningRanges.map fun entry => (entry.1, entry.2.1))

/-- The codes of a run, each with that of its lower-case form. -/
def CaseRun.pairs (run : CaseRun) : List (Nat × Nat) :=
  (List.range ((run.last - run.first) / run.step + 1)).map fun place =>
    (run.first + run.step * place, (run.first + run.step * place + run.shift).toNat)

/-- The codes of the characters with a single lower-case form, each with that of the form. -/
def lowerPairs : List (Nat × Nat) := lowerRuns.flatMap CaseRun.pairs

/-- The codes of the characters that folding changes or drops. -/
def unsettled : Nat :=
  composed ||| diacritics ||| codeSet (lowerPairs.map Prod.fst) |||
    codeSet [0x0110, 0x0111, 0x0130]

/-- The codes of the lower-case forms of characters that are no capital đ and have no
decomposition. -/
def lowerForms : Nat :=
  codeSet ((lowerPairs.filter fun pair => !composed.testBit pair.1 && pair.1 != 0x0110).map
    fun pair => (Char.ofNat pair.2).toNat)

/-- What folding relies on in the tables. -/
structure TablesAgree : Prop where
  /-- No component has a decomposition of its own. -/
  components : components &&& composed = 0
  /-- No character below the letters with accents has one. -/
  small : (2 ^ 0xC0 - 1) &&& composed = 0
  marks : CodeRanges.ascending marks
  laterMarks : CodeRanges.ascending laterMarks
  /-- Every character with a class is a mark. -/
  ranked : ranked ||| diacritics = diacritics
  /-- Folding leaves the lower-case forms as they are. -/
  lowerForms : lowerForms &&& unsettled = 0

theorem tablesAgree : TablesAgree := by constructor <;> decide +kernel

theorem testBit_composed {code : Nat} : composed.testBit code ↔
    composites.lookup code ≠ none ∨ singletons.lookup code ≠ none ∨
      0xAC00 ≤ code ∧ code ≤ 0xD7A3 := by
  simp only [composed, Nat.testBit_or, Bool.or_eq_true_iff, testBit_codeSet, mem_keys_iff,
    CodeRanges.testBit_set, List.mem_singleton, exists_eq_left, or_assoc]

theorem le_of_testBit_composed {code : Nat} (member : composed.testBit code) : 0xC0 ≤ code := by
  by_contra low
  have ascii : (2 ^ 0xC0 - 1).testBit code := by
    rw [Nat.testBit_two_pow_sub_one]
    exact decide_eq_true (Nat.lt_of_not_le low)
  rw [not_testBit_of_land tablesAgree.small ascii] at member
  cases member

theorem testBit_components_syllable {place : Nat} (syllable : place ≤ 0xD7A3 - 0xAC00) :
    ∀ code ∈ syllableParts place, components.testBit (Char.ofNat code).toNat := by
  intro code part
  have bounds : 0x1100 ≤ code ∧ code ≤ 0x11C2 := by
    unfold syllableParts at part
    dsimp only [vowelCount, trailCount] at part
    split at part <;> simp only [List.mem_cons, List.not_mem_nil, or_false] at part <;> omega
  have valid : code.isValidChar := .inl (by omega)
  have same : (Char.ofNat code).toNat = code := by
    rw [Char.ofNat, dif_pos valid]
    exact UInt32.toNat_ofNatLT
  rw [same, components, Nat.testBit_or, Bool.or_eq_true_iff, CodeRanges.testBit_set]
  exact .inr ⟨_, List.mem_cons_self, bounds⟩

theorem decomposeChar_of_not_composed {c : Char} (simple : composed.testBit c.toNat = false) :
    decomposeChar c = [c] := by
  have absent := mt testBit_composed.mpr (Bool.eq_false_iff.mp simple)
  simp only [not_or, not_not] at absent
  obtain ⟨noComposite, noSingleton, noSyllable⟩ := absent
  unfold decomposeChar
  dsimp only
  rw [noComposite, noSingleton, if_neg (c := _ = true) (by simpa using noSyllable), ite_self]

theorem components_of_composed {c : Char} (member : composed.testBit c.toNat) :
    ∀ d ∈ decomposeChar c, components.testBit d.toNat := by
  have high := le_of_testBit_composed member
  unfold decomposeChar
  dsimp only
  rw [if_neg (by omega)]
  split
  · rename_i syllable
    obtain ⟨_, last⟩ := Bool.and_eq_true_iff.mp syllable
    have below : c.toNat ≤ 0xD7A3 := of_decide_eq_true last
    rw [List.forall_mem_map]
    exact testBit_components_syllable (by omega)
  · rename_i noSyllable
    cases composite : composites.lookup c.toNat with
    | some codes =>
      intro d part
      obtain ⟨code, inCodes, rfl⟩ := List.mem_map.mp part
      have listed : (Char.ofNat code).toNat ∈ composites.flatMap fun entry =>
          entry.2.map fun code => (Char.ofNat code).toNat :=
        List.mem_flatMap.mpr ⟨_, mem_of_lookup composite, List.mem_map.mpr ⟨code, inCodes, rfl⟩⟩
      simp only [components, Nat.testBit_or, testBit_codeSet.mpr listed, Bool.true_or]
    | none =>
      cases singleton : singletons.lookup c.toNat with
      | some other =>
        intro d part
        have listed : (Char.ofNat other).toNat ∈ singletons.map fun entry =>
            (Char.ofNat entry.2).toNat :=
          List.mem_map.mpr ⟨_, mem_of_lookup singleton, rfl⟩
        rw [List.mem_singleton.mp part]
        simp only [components, Nat.testBit_or, testBit_codeSet.mpr listed, Bool.true_or,
          Bool.or_true]
      | none =>
        rcases testBit_composed.mp member with found | found | syllable
        · exact absurd composite found
        · exact absurd singleton found
        · exact absurd (by simpa using syllable) noSyllable

theorem not_composed_of_decomposeChar {c : Char} (same : decomposeChar c = [c]) :
    composed.testBit c.toNat = false := by
  cases member : composed.testBit c.toNat with
  | false => rfl
  | true =>
    have component := components_of_composed member c (by simp [same])
    rw [not_testBit_of_land tablesAgree.components component] at member
    cases member

theorem decomposeChar_part {c d : Char} (part : d ∈ decomposeChar c) : decomposeChar d = [d] := by
  cases member : composed.testBit c.toNat with
  | false =>
    have same := decomposeChar_of_not_composed member
    rw [same, List.mem_singleton] at part
    rw [part, same]
  | true =>
    exact decomposeChar_of_not_composed
      (not_testBit_of_land tablesAgree.components (components_of_composed member d part))

/-- Characters without parts and classes stay as they are and where they are. -/
theorem decompose_of_simple {text : List Char}
    (simple : ∀ c ∈ text, decomposeChar c = [c] ∧ combiningClass c = 0) :
    decompose text = text := by
  have parts : text.flatMap decomposeChar = text := by
    rw [List.flatMap_congr fun c member => (simple c member).1, List.flatMap_singleton']
  have placed : ∀ before, text.foldl (fun done c => place c done) before =
      text.reverse ++ before := by
    clear parts
    induction text with
    | nil => simp
    | cons c rest ih =>
      intro before
      obtain ⟨⟨_, starter⟩, later⟩ := List.forall_mem_cons.mp simple
      have first : place c before = c :: before := by
        cases before <;> simp [place, starter]
      rw [List.foldl_cons, first, ih later]
      simp
  rw [decompose, parts, placed, List.append_nil, List.reverse_reverse]

theorem testBit_diacritics {c : Char} : diacritics.testBit c.toNat ↔ isDiacritic c := by
  rw [diacritics, Nat.testBit_or, Bool.or_eq_true_iff, isDiacritic, isMark, Bool.or_eq_true_iff,
    CodeRanges.covers_iff tablesAgree.marks, CodeRanges.covers_iff tablesAgree.laterMarks]

theorem combiningClass_eq_zero {c : Char} (unmarked : isDiacritic c = false) :
    combiningClass c = 0 := by
  unfold combiningClass
  split
  · rename_i first last rank found
    have inside := List.find?_some found
    simp only [Bool.and_eq_true, decide_eq_true_eq] at inside
    have member : ranked.testBit c.toNat :=
      CodeRanges.testBit_set.mpr
        ⟨_, List.mem_map_of_mem (List.mem_of_find?_eq_some found), inside⟩
    have diacritic : diacritics.testBit c.toNat := by
      rw [← tablesAgree.ranked, Nat.testBit_or, member, Bool.true_or]
    rw [testBit_diacritics.mp diacritic] at unmarked
    cases unmarked
  · rfl

theorem CaseRun.mem_pairs {run : CaseRun} {code lower : Nat} (mapped : run.map? code = some lower) :
    (code, lower) ∈ run.pairs := by
  unfold CaseRun.map? at mapped
  split at mapped
  · rename_i inside
    simp only [Bool.and_eq_true, decide_eq_true_eq, beq_iff_eq] at inside
    obtain ⟨⟨low, high⟩, whole⟩ := inside
    have place := Nat.div_add_mod (code - run.first) run.step
    have within : (code - run.first) / run.step ≤ (run.last - run.first) / run.step :=
      Nat.div_le_div_right (by omega)
    have same : run.first + run.step * ((code - run.first) / run.step) = code := by omega
    cases mapped
    refine List.mem_map.mpr ⟨(code - run.first) / run.step, List.mem_range.mpr (by omega), ?_⟩
    rw [← Int.natCast_mul, ← Int.natCast_add, same]
  · cases mapped

theorem lowerChar_cases {c : Char} (other : c.toNat ≠ 0x0130) :
    lowerChar c = [c] ∨
      ∃ pair ∈ lowerPairs, pair.1 = c.toNat ∧ lowerChar c = [Char.ofNat pair.2] := by
  have noExpansion : lowerExpansions.lookup c.toNat = none := by
    simp [lowerExpansions, other]
  rw [lowerChar, mapCase, noExpansion]
  cases found : lowerRuns.findSome? (·.map? c.toNat) with
  | none => exact .inl rfl
  | some lower =>
    obtain ⟨run, listed, mapped⟩ := List.exists_of_findSome?_eq_some found
    refine .inr ⟨(c.toNat, lower), ?_, rfl, rfl⟩
    exact List.mem_flatMap.mpr ⟨run, listed, CaseRun.mem_pairs mapped⟩

theorem lowerChar_of_not_mem {c : Char} (caseless : c.toNat ∉ lowerPairs.map Prod.fst)
    (other : c.toNat ≠ 0x0130) : lowerChar c = [c] := by
  rcases lowerChar_cases other with same | ⟨pair, listed, same, _⟩
  · exact same
  · exact absurd (same ▸ List.mem_map_of_mem listed) caseless

theorem testBit_lowerForms {pair : Nat × Nat} (listed : pair ∈ lowerPairs)
    (simple : composed.testBit pair.1 = false) (other : pair.1 ≠ 0x0110) :
    lowerForms.testBit (Char.ofNat pair.2).toNat := by
  have kept : (!composed.testBit pair.1 && pair.1 != 0x0110) = true := by
    rw [simple]
    simpa using other
  exact testBit_codeSet.mpr
    (List.mem_map.mpr ⟨pair, List.mem_filter.mpr ⟨listed, kept⟩, rfl⟩)

/-- A character that folding leaves as it is. -/
structure IsFolded (c : Char) : Prop where
  decompose : decomposeChar c = [c]
  unmarked : isDiacritic c = false
  plain : plainLetter c = c
  lower : lowerChar c = [c]

theorem isFolded_of_ascii {c : Char} (ascii : c.toNat < 128) (lower : lowerChar c = [c]) :
    IsFolded c where
  decompose := if_pos (Nat.lt_trans ascii (by decide))
  unmarked := of_ascii (P := fun c => isDiacritic c = false) (by decide) ascii
  plain := of_ascii (P := fun c => plainLetter c = c) (by decide) ascii
  lower := lower

theorem isFolded_of_settled {c : Char} (settled : unsettled.testBit c.toNat = false) :
    IsFolded c := by
  simp only [unsettled, Nat.testBit_or, Bool.or_eq_false_iff] at settled
  obtain ⟨⟨⟨simple, unmarked⟩, caseless⟩, apart⟩ := settled
  have noPair := mt testBit_codeSet.mpr (Bool.eq_false_iff.mp caseless)
  have others := mt testBit_codeSet.mpr (Bool.eq_false_iff.mp apart)
  simp only [List.mem_cons, List.not_mem_nil, or_false, not_or] at others
  obtain ⟨noCapital, noSmall, noDotted⟩ := others
  refine ⟨decomposeChar_of_not_composed simple, ?_, ?_, lowerChar_of_not_mem noPair noDotted⟩
  · exact Bool.eq_false_iff.mpr (mt testBit_diacritics.mpr (Bool.eq_false_iff.mp unmarked))
  · rw [plainLetter, if_neg]
    rw [Bool.or_eq_true, beq_iff_eq, beq_iff_eq, not_or]
    constructor
    · rintro rfl
      exact noSmall rfl
    · rintro rfl
      exact noCapital rfl

/-- The lower-case form of a character without a decomposition that is no mark is left as it is. -/
theorem isFolded_lowerChar {c : Char} (simple : decomposeChar c = [c])
    (unmarked : isDiacritic c = false) : ∀ d ∈ lowerChar (plainLetter c), IsFolded d := by
  have noDotted : c.toNat ≠ 0x0130 := by
    intro same
    have dotted : composed.testBit 0x0130 := testBit_composed.mpr (.inl (by decide))
    rw [← same, not_composed_of_decomposeChar simple] at dotted
    cases dotted
  by_cases stroke : c = 'đ' ∨ c = 'Đ'
  · have folded : IsFolded 'd' := isFolded_of_ascii (by decide) (by decide)
    have plain : plainLetter c = 'd' := by rcases stroke with rfl | rfl <;> rfl
    rw [plain, folded.lower]
    simpa using folded
  · have plain : plainLetter c = c := by
      rw [not_or] at stroke
      simp [plainLetter, stroke]
    rw [plain]
    rcases lowerChar_cases noDotted with same | ⟨pair, listed, same, lower⟩
    · rw [same]
      simpa using IsFolded.mk simple unmarked plain same
    · have noCapital : c.toNat ≠ 0x0110 := fun capital =>
        stroke (.inr (by rw [← Char.ofNat_toNat c, capital]))
      have form := testBit_lowerForms listed (same ▸ not_composed_of_decomposeChar simple)
        (same ▸ noCapital)
      rw [lower]
      simpa using isFolded_of_settled (not_testBit_of_land tablesAgree.lowerForms form)

end PhraseSheet.Text
