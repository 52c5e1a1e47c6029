import PhraseSheet.Proofs.Agreement

namespace PhraseSheet

namespace Pattern

/-- A cue of the pattern appears in the text of the request or in its folded form. -/
def hasCue (pattern : Pattern) (request : Request) : Bool :=
  pattern.cues.any fun cue =>
    cue.appearsIn request.text.toList || cue.appearsIn request.folded.toList

def confidence (pattern : Pattern) (request : Request) : Float :=
  (pattern.score? request).getD 0

theorem score?_eq (pattern : Pattern) (request : Request) :
    pattern.score? request =
      if pattern.hasCue request then some (pattern.confidence request) else none := by
  by_cases cue : pattern.hasCue request
  · have counted : pattern.cueCount request ≠ 0 := by
      rw [cueCount, ← Nat.pos_iff_ne_zero, List.countP_pos_iff]
      exact List.any_eq_true.mp cue
    rw [if_pos cue, confidence, score?, confidence?, if_neg counted]
    rfl
  · have uncounted : pattern.cueCount request = 0 := by
      rw [cueCount, List.countP_eq_zero]
      exact fun one member appears => cue (List.any_eq_true.mpr ⟨one, member, appears⟩)
    rw [if_neg cue, score?, confidence?, if_pos uncounted]

theorem IsGrade.eq_of_not_lt {one other : Float} (grade : IsGrade one) (otherGrade : IsGrade other)
    (notBelow : ¬one < other) (notAbove : ¬other < one) : one = other := by
  have compared : ∀ cues ∈ [1, 2], ∀ isSupported namesField,
      ∀ more ∈ [1, 2], ∀ moreSupported moreNames,
      ∀ low ∈ confidence? cues isSupported namesField,
      ∀ high ∈ confidence? more moreSupported moreNames,
        ¬low < high → ¬high < low → low = high := by
    decide +kernel
  obtain ⟨cues, bound, _, _, given⟩ := grade
  obtain ⟨more, moreBound, _, _, moreGiven⟩ := otherGrade
  exact compared cues bound _ _ more moreBound _ _ one given other moreGiven notBelow notAbove

end Pattern

namespace Intent

open Pattern

/-- The intents of all patterns with a cue in the request, in the order of the catalog. -/
def followed (request : Request) : List Intent :=
  (Pattern.catalog.filter (·.hasCue request)).map fun pattern =>
    ofPattern request pattern (pattern.confidence request)

/-- The one intent is surer than the other, or as sure and in front of it in the list. -/
def Outranks (listed : List Intent) (one other : Intent) : Prop :=
  other.confidence < one.confidence ∨
    one.confidence = other.confidence ∧ [one, other].Sublist listed

theorem insertLast_perm (intent : Intent) (sorted : List Intent) :
    (insertLast intent sorted).Perm (intent :: sorted) := by
  induction sorted with
  | nil => exact .refl _
  | cons last earlier ih =>
    rw [insertLast]
    split
    · exact (ih.cons last).trans (.swap intent last earlier)
    · exact .refl _

/-- The list, which starts with its last item, ranks the intents seen so far. -/
structure Ranks (seen sorted : List Intent) : Prop where
  same : sorted.Perm seen
  graded : ∀ intent ∈ seen, IsGrade intent.confidence
  ranked : sorted.Pairwise fun later earlier => Outranks seen earlier later

section

variable {intent : Intent} {seen sorted : List Intent}

theorem Outranks.widen {one other : Intent} (outranks : Outranks seen one other)
    (more : List Intent) : Outranks (seen ++ more) one other :=
  outranks.imp_right fun ⟨same, listed⟩ => ⟨same, listed.trans (List.sublist_append_left seen more)⟩

/-- An intent that is not less sure than the next one outranks it. -/
theorem outranks_next {earlier : Intent} (grade : IsGrade intent.confidence)
    (earlierGrade : IsGrade earlier.confidence) (before : earlier ∈ seen)
    (notLess : ¬earlier.confidence < intent.confidence) :
    Outranks (seen ++ [intent]) earlier intent := by
  by_cases surer : intent.confidence < earlier.confidence
  · exact .inl surer
  · refine .inr ⟨earlierGrade.eq_of_not_lt grade notLess surer, ?_⟩
    exact (List.singleton_sublist.mpr before).append (.refl [intent])

/-- All that stand in front of an intent which is not less sure than the next are not so either. -/
theorem notLess_of_outranks {last earlier : Intent} (grade : IsGrade intent.confidence)
    (lastGrade : IsGrade last.confidence) (earlierGrade : IsGrade earlier.confidence)
    (outranks : Outranks seen earlier last) (notLess : ¬last.confidence < intent.confidence) :
    ¬earlier.confidence < intent.confidence := by
  rcases outranks with surer | ⟨same, _⟩
  · rw [lastGrade.lt_iff earlierGrade] at surer
    rw [lastGrade.lt_iff grade] at notLess
    rw [earlierGrade.lt_iff grade]
    omega
  · rwa [same]

theorem pairwise_insertLast (grade : IsGrade intent.confidence)
    (graded : ∀ other ∈ seen, IsGrade other.confidence) (inside : ∀ other ∈ sorted, other ∈ seen)
    (ranked : sorted.Pairwise fun later earlier => Outranks seen earlier later) :
    (insertLast intent sorted).Pairwise fun later earlier =>
      Outranks (seen ++ [intent]) earlier later := by
  induction sorted with
  | nil => exact List.pairwise_singleton _ _
  | cons last earlier ih =>
    obtain ⟨lastInside, earlierInside⟩ := List.forall_mem_cons.mp inside
    obtain ⟨first, others⟩ := List.pairwise_cons.mp ranked
    rw [insertLast]
    split
    · rename_i less
      -- the last one stays behind the intent, which goes further to the front
      refine List.pairwise_cons.mpr ⟨?_, ih earlierInside others⟩
      intro other member
      rcases mem_insertLast.mp member with rfl | old
      · exact .inl less
      · exact (first other old).widen [intent]
    · rename_i notLess
      -- the intent stands last, so it has to be outranked by all
      refine List.pairwise_cons.mpr ⟨?_, ranked.imp fun outranks => outranks.widen [intent]⟩
      intro other member
      have present := inside other member
      refine outranks_next grade (graded other present) present ?_
      rcases List.mem_cons.mp member with rfl | old
      · exact notLess
      · exact notLess_of_outranks grade (graded last lastInside) (graded other present)
          (first other old) notLess

theorem Ranks.step (ranks : Ranks seen sorted) (grade : IsGrade intent.confidence) :
    Ranks (seen ++ [intent]) (insertLast intent sorted) where
  same := by
    have front := (insertLast_perm intent sorted).trans (ranks.same.cons intent)
    exact front.trans (List.perm_append_singleton intent seen).symm
  graded := by
    intro other member
    rcases List.mem_append.mp member with old | new
    · exact ranks.graded other old
    · rwa [List.mem_singleton.mp new]
  ranked := pairwise_insertLast grade ranks.graded (fun _ => ranks.same.mem_iff.mp) ranks.ranked

theorem Ranks.run (ranks : Ranks seen sorted) {intents : List Intent}
    (graded : ∀ intent ∈ intents, IsGrade intent.confidence) :
    Ranks (seen ++ intents)
      (intents.foldl (fun sorted intent => insertLast intent sorted) sorted) := by
  induction intents generalizing seen sorted with
  | nil => rwa [List.append_nil]
  | cons intent rest ih =>
    obtain ⟨grade, others⟩ := List.forall_mem_cons.mp graded
    rw [List.foldl_cons, List.append_cons]
    exact ih (ranks.step grade) others

end

section

variable (request : Request)

theorem isGrade_of_mem_followed : ∀ intent ∈ followed request, IsGrade intent.confidence := by
  intro intent member
  obtain ⟨pattern, found, rfl⟩ := List.mem_map.mp member
  obtain ⟨listed, cue⟩ := List.mem_filter.mp found
  exact isGrade_of_score? listed ((score?_eq pattern request).trans (if_pos cue))

/-- Every pattern with a cue is sure enough to be listed. -/
theorem candidate?_eq {pattern : Pattern} (listed : pattern ∈ Pattern.catalog) :
    candidate? request pattern =
      if pattern.hasCue request then some (ofPattern request pattern (pattern.confidence request))
      else none := by
  have scored := score?_eq pattern request
  unfold candidate?
  split at scored
  · rename_i cue
    have counts := (isGrade_of_score? listed scored).counts.2.2
    rw [scored, if_pos cue]
    exact if_pos counts
  · rename_i noCue
    rw [scored, if_neg noCue]

theorem filterMap_candidate? {patterns : List Pattern}
    (listed : ∀ pattern ∈ patterns, pattern ∈ Pattern.catalog) :
    patterns.filterMap (candidate? request) =
      (patterns.filter (·.hasCue request)).map fun pattern =>
        ofPattern request pattern (pattern.confidence request) := by
  induction patterns with
  | nil => rfl
  | cons pattern rest ih =>
    obtain ⟨first, others⟩ := List.forall_mem_cons.mp listed
    rw [List.filterMap_cons, candidate?_eq request first, ih others, List.filter_cons]
    by_cases cue : pattern.hasCue request <;> simp [cue]

theorem ranks_candidates : Ranks (followed request) (candidates request).reverse := by
  have nothing : Ranks [] [] := ⟨.refl _, by simp, .nil⟩
  have run := nothing.run (isGrade_of_mem_followed request)
  have entries : Pattern.catalog.filterMap (candidate? request) = followed request :=
    filterMap_candidate? request fun _ member => member
  rw [List.nil_append, ← entries] at run
  rw [candidates, sortByConfidence, List.reverse_reverse, ← entries]
  exact run

theorem candidates_perm : (candidates request).Perm (followed request) :=
  (List.reverse_perm _).symm.trans (ranks_candidates request).same

theorem pairwise_candidates : (candidates request).Pairwise (Outranks (followed request)) :=
  List.pairwise_reverse.mp (ranks_candidates request).ranked

/-- No two candidates have the same goal. -/
theorem nodup_goals : ((candidates request).map Intent.goal).Nodup := by
  rw [((candidates_perm request).map Intent.goal).nodup_iff, followed, List.map_map]
  have distinct : (Pattern.catalog.map Pattern.goal).Nodup := by decide
  exact distinct.sublist (List.filter_sublist.map Pattern.goal)

theorem detect_first {first : Intent} (head : (candidates request).head? = some first) :
    detect request = first := by
  rw [head?_candidates] at head
  rcases detect_cases request with ⟨_, _, _, _, surest, found⟩ | ⟨surest, _⟩
  · rw [surest] at head
    rw [found]
    exact Option.some.inj head
  · rw [surest] at head
    cases head

end

/-- Without candidates the text has an own formula or is not understood. -/
theorem goal_detect_alone {text : String} (alone : candidates (Request.ofText text) = []) :
    (detect (Request.ofText text)).goal = .custom ∨
      (detect (Request.ofText text)).goal = .unknown := by
  have head := head?_candidates (Request.ofText text)
  rcases detect_cases (Request.ofText text) with ⟨_, _, _, _, surest, _⟩ | ⟨_, found⟩
  · rw [alone, surest] at head
    cases head
  · rw [found]
    rcases ofOperation_cases text with ⟨_, goal, _⟩ | ⟨goal, _⟩
    · exact .inl goal
    · exact .inr goal

end Intent

/-- The alternatives to the first candidate are the others. -/
theorem Conversion.alternativesTo_first {request : Request} {first : Intent} {others : List Intent}
    (ranking : Intent.candidates request = first :: others) :
    alternativesTo first request = others := by
  have distinct := Intent.nodup_goals request
  rw [ranking, List.map_cons, List.nodup_cons] at distinct
  rw [alternativesTo, ranking, List.filter_cons_of_neg (by simp), List.filter_eq_self]
  intro other member
  rw [decide_eq_true_eq]
  intro same
  exact distinct.1 (List.mem_map.mpr ⟨other, member, same⟩)

theorem Conversion.alternatives_ofText (options : ConversionOptions) (text : String) :
    (ofText options text).alternatives =
      (alternativesTo (Intent.detect (Request.ofText text)) (Request.ofText text)).take
        options.alternatives := by
  unfold ofText
  dsimp only
  split <;> rfl

/-- The candidates of a text are the intents of all patterns with a cue, each once, from the surest
on and equally sure ones in the order of the catalog, all of them above a tenth. The first is the
one that is detected and the others are the alternatives to it; without candidates the text has an
own formula or is not understood. -/
theorem Intent.ranking_agrees (text : String) :
    let request := Request.ofText text
    (candidates request).Perm (followed request) ∧
    (candidates request).Pairwise (Outranks (followed request)) ∧
    (∀ intent ∈ candidates request, 0.1 < intent.confidence) ∧
    (∀ first others, candidates request = first :: others →
      detect request = first ∧
      ∀ options : ConversionOptions,
        (Conversion.ofText options text).alternatives = others.take options.alternatives) ∧
    (candidates request = [] →
      (detect request).goal = .custom ∨ (detect request).goal = .unknown) := by
  intro request
  refine ⟨candidates_perm request, pairwise_candidates request, ?_, ?_, goal_detect_alone⟩
  · intro intent candidate
    have member := (candidates_perm request).mem_iff.mp candidate
    exact (isGrade_of_mem_followed request intent member).counts.2.2
  · intro first others ranking
    have detected : detect request = first := detect_first request (by simp [ranking])
    refine ⟨detected, fun options => ?_⟩
    rw [Conversion.alternatives_ofText, detected, Conversion.alternativesTo_first ranking]

end PhraseSheet
