import PhraseSheet.Intent.Detection

/-! Confidences of patterns. There are few of them and they are ordered like their bits, so the
surest pattern of a request is the one whose intent heads the list of candidates. -/

namespace PhraseSheet

namespace Pattern

/-- A confidence that one or two cues give. -/
def IsGrade (confidence : Float) : Prop :=
  ∃ cues ∈ [1, 2], ∃ isSupported namesField,
    confidence? cues isSupported namesField = some confidence

theorem length_cues {pattern : Pattern} (listed : pattern ∈ catalog) : pattern.cues.length ≤ 2 := by
  have bounded : ∀ pattern ∈ catalog, pattern.cues.length ≤ 2 := by decide
  exact bounded pattern listed

theorem isGrade_of_score? {pattern : Pattern} {request : Request} {confidence : Float}
    (listed : pattern ∈ catalog) (scored : pattern.score? request = some confidence) :
    IsGrade confidence := by
  have bounded : pattern.cueCount request ≤ 2 := Nat.le_trans List.countP_le_length (length_cues listed)
  refine ⟨pattern.cueCount request, ?_, _, _, scored⟩
  cases counted : pattern.cueCount request with
  | zero => simp [score?, counted, confidence?] at scored
  | succ more =>
    simp only [List.mem_cons, List.not_mem_nil, or_false]
    omega

/-- Grades are never zero, and one is below another if its bits are. -/
theorem IsGrade.lt_iff {one other : Float} (grade : IsGrade one) (otherGrade : IsGrade other) :
    one < other ↔ one.toBits.toNat < other.toBits.toNat := by
  have ordered : ∀ cues ∈ [1, 2], ∀ isSupported namesField,
      ∀ more ∈ [1, 2], ∀ moreSupported moreNames,
      ∀ low ∈ confidence? cues isSupported namesField,
      ∀ high ∈ confidence? more moreSupported moreNames,
        (low < high ↔ low.toBits.toNat < high.toBits.toNat) := by
    decide +kernel
  obtain ⟨cues, bound, _, _, given⟩ := grade
  obtain ⟨more, moreBound, _, _, moreGiven⟩ := otherGrade
  exact ordered cues bound _ _ more moreBound _ _ one given other moreGiven

/-- A single cue makes a pattern sure enough to be followed and to be listed. -/
theorem IsGrade.counts {confidence : Float} (grade : IsGrade confidence) :
    Intent.leastConfidence ≤ confidence ∧ ¬confidence < Intent.leastConfidence ∧
      Intent.listedAbove < confidence := by
  have high : ∀ cues ∈ [1, 2], ∀ isSupported namesField,
      ∀ given ∈ confidence? cues isSupported namesField,
        Intent.leastConfidence ≤ given ∧ ¬given < Intent.leastConfidence ∧
          Intent.listedAbove < given := by
    decide +kernel
  obtain ⟨cues, bound, _, _, given⟩ := grade
  exact high cues bound _ _ confidence given

end Pattern

namespace Intent

open Pattern

theorem mem_insertLast {intent other : Intent} {sorted : List Intent} :
    other ∈ insertLast intent sorted ↔ other = intent ∨ other ∈ sorted := by
  induction sorted with
  | nil => simp [insertLast]
  | cons last earlier ih =>
    rw [insertLast]
    split
    · rw [List.mem_cons, ih, List.mem_cons]
      exact or_left_comm
    · simp

theorem mem_sortByConfidence {intent : Intent} {intents : List Intent} :
    intent ∈ sortByConfidence intents ↔ intent ∈ intents := by
  have inserted : ∀ sorted : List Intent,
      intent ∈ intents.foldl (fun sorted next => insertLast next sorted) sorted ↔
        intent ∈ sorted ∨ intent ∈ intents := by
    induction intents with
    | nil => simp
    | cons first rest ih =>
      intro sorted
      rw [List.foldl_cons, ih, mem_insertLast, List.mem_cons]
      constructor
      · rintro ((same | old) | later)
        · exact .inr (.inl same)
        · exact .inl old
        · exact .inr (.inr later)
      · rintro (old | same | later)
        · exact .inl (.inr old)
        · exact .inl (.inl same)
        · exact .inr later
  rw [sortByConfidence, List.mem_reverse, inserted]
  simp

/-- An intent comes to the front only if it is surer than all others. -/
theorem getLast?_insertLast (intent : Intent) (sorted : List Intent) :
    (insertLast intent sorted).getLast? =
      if ∀ other ∈ sorted, other.confidence < intent.confidence then some intent
      else sorted.getLast? := by
  induction sorted with
  | nil => simp [insertLast]
  | cons last earlier ih =>
    rw [insertLast]
    split
    · rename_i less
      have any : insertLast intent earlier ≠ [] := by
        intro none
        have member : intent ∈ insertLast intent earlier := mem_insertLast.mpr (.inl rfl)
        simp [none] at member
      rw [List.getLast?_cons_of_ne_nil any, ih]
      simp only [List.forall_mem_cons, less, true_and]
      split
      · rfl
      · rename_i notAll
        have more : earlier ≠ [] := by
          rintro rfl
          simp at notAll
        rw [List.getLast?_cons_of_ne_nil more]
    · rename_i notLess
      rw [if_neg fun all => notLess (all last List.mem_cons_self)]
      rw [List.getLast?_cons_of_ne_nil (by simp)]

@[simp] theorem confidence_ofPattern (request : Request) (pattern : Pattern) (confidence : Float) :
    (ofPattern request pattern confidence).confidence = confidence :=
  rfl

/-- What the patterns read so far make the surest is what stands last among their intents. -/
structure Leads (request : Request) (best? : Option (Pattern × Float)) (sorted : List Intent) :
    Prop where
  last : sorted.getLast? = best?.map fun best => ofPattern request best.1 best.2
  graded : ∀ intent ∈ sorted, IsGrade intent.confidence
  scored : ∀ best ∈ best?, best.1 ∈ Pattern.catalog ∧ best.1.score? request = some best.2
  topmost : ∀ best ∈ best?, ∀ intent ∈ sorted, ¬best.2 < intent.confidence

section

variable {request : Request} {pattern : Pattern} {confidence : Float} {sorted : List Intent}

theorem isGrade_of_mem_insertLast (graded : ∀ intent ∈ sorted, IsGrade intent.confidence)
    (grade : IsGrade confidence) :
    ∀ intent ∈ insertLast (ofPattern request pattern confidence) sorted,
      IsGrade intent.confidence := by
  intro intent member
  rcases mem_insertLast.mp member with rfl | old
  · rwa [confidence_ofPattern]
  · exact graded intent old

/-- A surer pattern takes the lead. -/
theorem leads_of_surer (graded : ∀ intent ∈ sorted, IsGrade intent.confidence)
    (listed : pattern ∈ Pattern.catalog) (scored : pattern.score? request = some confidence)
    (surer : ∀ intent ∈ sorted, intent.confidence < confidence) :
    Leads request (some (pattern, confidence))
      (insertLast (ofPattern request pattern confidence) sorted) where
  last := by
    rw [getLast?_insertLast, if_pos (by simpa using surer)]
    rfl
  graded := isGrade_of_mem_insertLast graded (isGrade_of_score? listed scored)
  scored := by
    rintro best ⟨⟩
    exact ⟨listed, scored⟩
  topmost := by
    have grade := isGrade_of_score? listed scored
    rintro best ⟨⟩ intent member
    rcases mem_insertLast.mp member with rfl | old
    · rw [confidence_ofPattern, grade.lt_iff grade]
      exact Nat.lt_irrefl _
    · have below := surer intent old
      rw [(graded intent old).lt_iff grade] at below
      rw [grade.lt_iff (graded intent old)]
      exact Nat.lt_asymm below

theorem Leads.keep {best : Pattern × Float} (leads : Leads request (some best) sorted)
    (grade : IsGrade confidence) (notSurer : ¬best.2 < confidence) :
    Leads request (some best) (insertLast (ofPattern request pattern confidence) sorted) where
  last := by
    have last : sorted.getLast? = some (ofPattern request best.1 best.2) := leads.last
    have stands := List.mem_of_getLast? last
    rw [getLast?_insertLast, if_neg]
    · exact leads.last
    · intro all
      have less := all _ stands
      rw [confidence_ofPattern, confidence_ofPattern] at less
      exact notSurer less
  graded := isGrade_of_mem_insertLast leads.graded grade
  scored := leads.scored
  topmost := by
    intro same is intent member
    rw [← Option.mem_some.mp is]
    rcases mem_insertLast.mp member with rfl | old
    · rwa [confidence_ofPattern]
    · exact leads.topmost best rfl intent old

theorem Leads.step {best? : Option (Pattern × Float)} (leads : Leads request best? sorted)
    (listed : pattern ∈ Pattern.catalog) (scored : pattern.score? request = some confidence) :
    Leads request (surer best? pattern confidence)
      (insertLast (ofPattern request pattern confidence) sorted) := by
  cases best? with
  | none =>
    have empty : sorted = [] := by simpa using leads.last
    subst empty
    exact leads_of_surer (by simp) listed scored (by simp)
  | some best =>
    have topmost := leads.topmost best rfl
    obtain ⟨topListed, topScored⟩ := leads.scored best rfl
    have topGrade := isGrade_of_score? topListed topScored
    have grade := isGrade_of_score? listed scored
    by_cases less : best.2 < confidence
    · rw [surer, if_pos less]
      refine leads_of_surer leads.graded listed scored ?_
      intro intent member
      have notAbove := topmost intent member
      have graded := leads.graded intent member
      rw [topGrade.lt_iff graded] at notAbove
      rw [topGrade.lt_iff grade] at less
      rw [graded.lt_iff grade]
      omega
    · rw [surer, if_neg less]
      exact leads.keep grade less

end

/-- The surer one of the best pattern so far and the next, if that has a cue. -/
def pick (request : Request) (best? : Option (Pattern × Float)) (pattern : Pattern) :
    Option (Pattern × Float) :=
  match pattern.score? request with
  | some confidence => surer best? pattern confidence
  | none => best?

/-- The intent of a pattern if it is sure enough to be listed. -/
def candidate? (request : Request) (pattern : Pattern) : Option Intent :=
  match pattern.score? request with
  | some confidence =>
    if listedAbove < confidence then some (ofPattern request pattern confidence) else none
  | none => none

/-- The fold that picks the surest pattern and the fold that sorts the candidates keep in step. -/
theorem Leads.run {request : Request} {best? : Option (Pattern × Float)} {sorted : List Intent}
    (leads : Leads request best? sorted) {patterns : List Pattern}
    (listed : ∀ pattern ∈ patterns, pattern ∈ Pattern.catalog) :
    Leads request (patterns.foldl (pick request) best?)
      ((patterns.filterMap (candidate? request)).foldl (fun sorted intent => insertLast intent sorted)
        sorted) := by
  induction patterns generalizing best? sorted with
  | nil => exact leads
  | cons pattern rest ih =>
    obtain ⟨first, others⟩ := List.forall_mem_cons.mp listed
    rw [List.foldl_cons, List.filterMap_cons]
    cases scored : pattern.score? request with
    | none =>
      simp only [pick, candidate?, scored]
      exact ih leads others
    | some confidence =>
      have counts := (isGrade_of_score? first scored).counts.2.2
      simp only [pick, candidate?, scored, if_pos counts]
      exact ih (leads.step first scored) others

theorem leads_surest (request : Request) :
    Leads request (surest? request) (candidates request).reverse := by
  have nothing : Leads request none [] := ⟨rfl, by simp, by simp, by simp⟩
  rw [candidates, sortByConfidence, List.reverse_reverse]
  exact nothing.run fun _ member => member

/-- The intent of the surest pattern heads the candidates. -/
theorem head?_candidates (request : Request) :
    (candidates request).head? =
      (surest? request).map fun best => ofPattern request best.1 best.2 := by
  rw [← List.getLast?_reverse]
  exact (leads_surest request).last

theorem score?_of_surest? {request : Request} {pattern : Pattern} {confidence : Float}
    (surest : surest? request = some (pattern, confidence)) :
    pattern ∈ Pattern.catalog ∧ pattern.score? request = some confidence :=
  (leads_surest request).scored (pattern, confidence) surest

theorem exists_of_mem_candidates {request : Request} {intent : Intent}
    (candidate : intent ∈ candidates request) :
    ∃ pattern ∈ Pattern.catalog, ∃ confidence, intent = ofPattern request pattern confidence := by
  obtain ⟨pattern, listed, found⟩ := List.mem_filterMap.mp (mem_sortByConfidence.mp candidate)
  refine ⟨pattern, listed, ?_⟩
  split at found
  · split at found
    · cases found
      exact ⟨_, rfl⟩
    · cases found
  · cases found

end Intent

end PhraseSheet
