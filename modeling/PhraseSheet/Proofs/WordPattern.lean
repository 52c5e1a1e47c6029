import PhraseSheet.Proofs.Blankness
import PhraseSheet.Proofs.Characters
import PhraseSheet.Request.Words

/-! The pattern of words. A request is cut where the pattern matches, each time in the first way that
its alternatives and repetitions allow, and what no match starts with is skipped. These matches are
the words, so only white space is skipped. -/

namespace PhraseSheet

/-- Patterns of texts. Their ways to match are tried in order: alternatives from the left, and
repetitions with more rounds before fewer. -/
inductive TextPattern where
  | nothing
  | one (accepts : Char → Bool)
  | both (first second : TextPattern)
  | either (first second : TextPattern)
  | many (inner : TextPattern)

namespace TextPattern

def oneOrMore (inner : TextPattern) : TextPattern := .both inner (.many inner)

def exactly (c : Char) : TextPattern := .one (· == c)

/-- What so many rounds at most may leave behind, more rounds first. -/
def rounds (inner : List Char → List (List Char)) : Nat → List Char → List (List Char)
  | 0, text => [text]
  | count + 1, text => (inner text).flatMap (rounds inner count) ++ [text]

/-- What the ways to match the start of a text leave behind, in the order in which they are tried. A
round takes a character or more, so that a text has as many rounds as characters at most. -/
def leftovers : TextPattern → List Char → List (List Char)
  | .nothing, text => [text]
  | .one _, [] => []
  | .one accepts, c :: rest => if accepts c then [rest] else []
  | .both first second, text => (leftovers first text).flatMap (leftovers second)
  | .either first second, text => leftovers first text ++ leftovers second text
  | .many inner, text => rounds (leftovers inner) text.length text

/-- What the first way to match leaves behind. -/
def first? (pattern : TextPattern) (text : List Char) : Option (List Char) :=
  (pattern.leftovers text).head?

/-- The matches in a text from the left, behind characters that were skipped. A match of no character
counts as none. -/
def matchesBehind (pattern : TextPattern) (skipped : List Char) : List Char → List Word
  | [] => []
  | c :: rest =>
    match pattern.first? (c :: rest) with
    | some left =>
      if _shorter : left.length ≤ rest.length then
        ⟨skipped, (c :: rest).take (rest.length + 1 - left.length)⟩ :: matchesBehind pattern [] left
      else matchesBehind pattern (skipped ++ [c]) rest
    | none => matchesBehind pattern (skipped ++ [c]) rest
termination_by text => text.length

section

variable {pattern second : TextPattern} {inside : Char → Bool} {text : List Char}

theorem first?_either :
    (either pattern second).first? text = (pattern.first? text).or (second.first? text) := by
  simp [first?, leftovers]

/-- A part that matches everywhere takes what the first way through the part before it leaves. -/
theorem first?_both (total : ∀ left, second.leftovers left ≠ []) :
    (both pattern second).first? text = (pattern.first? text).bind second.first? := by
  unfold first?
  rw [leftovers, List.head?_flatMap]
  cases pattern.leftovers text with
  | nil => rfl
  | cons left others =>
    obtain ⟨start, more, found⟩ := List.exists_cons_of_ne_nil (total left)
    simp [found]

theorem rounds_ne_nil (inner : List Char → List (List Char)) (count : Nat) (text : List Char) :
    rounds inner count text ≠ [] := by
  cases count <;> simp [rounds]

theorem leftovers_many_ne_nil (text : List Char) : (many pattern).leftovers text ≠ [] :=
  rounds_ne_nil _ _ _

/-- A run is taken whole in front of what cannot start inside it. -/
private theorem rounds_one {next : List Char → List (List Char)}
    (never : ∀ c rest, inside c → next (c :: rest) = []) {count : Nat}
    (enough : text.length ≤ count) :
    (rounds (one inside).leftovers count text).flatMap next = next (text.dropWhile inside) := by
  induction text generalizing count with
  | nil => cases count <;> simp [rounds, leftovers]
  | cons c rest ih =>
    cases count with
    | zero => simp at enough
    | succ count =>
      cases accepted : inside c with
      | false => simp [rounds, leftovers, accepted]
      | true =>
        have fits : rest.length ≤ count := by simpa using enough
        have shorter := ih fits
        simp [rounds, leftovers, accepted, List.flatMap_append, shorter, never c rest accepted]

theorem leftovers_run (never : ∀ c rest, inside c → second.leftovers (c :: rest) = []) :
    (both (oneOrMore (one inside)) second).leftovers text =
      if text.head?.any inside then second.leftovers (text.dropWhile inside) else [] := by
  cases text with
  | nil => simp [oneOrMore, leftovers]
  | cons c rest =>
    cases accepted : inside c with
    | false => simp [oneOrMore, leftovers, accepted]
    | true => simp [oneOrMore, leftovers, accepted, rounds_one never]

theorem first?_run :
    (oneOrMore (one inside)).first? text =
      if text.head?.any inside then some (text.dropWhile inside) else none := by
  have whole : ∀ {count : Nat} {text : List Char}, text.length ≤ count →
      (rounds (one inside).leftovers count text).head? = some (text.dropWhile inside) := by
    intro count text enough
    induction text generalizing count with
    | nil => cases count <;> rfl
    | cons c rest ih =>
      cases count with
      | zero => simp at enough
      | succ count =>
        have fits : rest.length ≤ count := by simpa using enough
        have shorter := ih fits
        cases accepted : inside c <;> simp [rounds, leftovers, accepted, shorter]
  cases text with
  | nil => rfl
  | cons c rest =>
    cases accepted : inside c <;> simp [oneOrMore, first?, leftovers, accepted, whole]

/-- The first way through a repetition takes a round where it can, and goes on behind it. -/
theorem head?_rounds (inner : List Char → List (List Char)) (count : Nat) (text : List Char) :
    (rounds inner (count + 1) text).head? =
      match (inner text).head? with
      | some left => (rounds inner count left).head?
      | none => some text := by
  cases taken : inner text with
  | nil => simp [rounds, taken]
  | cons left others =>
    obtain ⟨start, more, found⟩ := List.exists_cons_of_ne_nil (rounds_ne_nil inner count left)
    simp [rounds, taken, found]

end

end TextPattern

namespace Word

open TextPattern

/-- Letters and digits, a colon, letters and digits; all of them in ASCII. -/
def rangePattern : TextPattern :=
  both (oneOrMore (one Char.isAlpha)) <| both (oneOrMore (one Char.isDigit)) <| both (exactly ':') <|
    both (oneOrMore (one Char.isAlpha)) (oneOrMore (one Char.isDigit))

/-- A point or comma and a run behind it. -/
def groupPattern : TextPattern := both (one fun c => c == '.' || c == ',') (oneOrMore (one inRun))

/-- A run with further runs behind points and commas, and a percent sign where one follows. -/
def runPattern : TextPattern :=
  both (oneOrMore (one inRun)) <| both (many groupPattern) (either (exactly '%') nothing)

/-- A character that is neither white space nor written together with others. -/
def symbolPattern : TextPattern := one fun c => !Text.isBlank c && !inRun c

/-- A comparison sign of two characters. -/
def comparisonPattern : TextPattern :=
  either (both (exactly '>') (exactly '=')) <| either (both (exactly '<') (exactly '=')) <|
    either (both (exactly '<') (exactly '>')) <| either (both (exactly '!') (exactly '=')) <|
      both (exactly '=') (exactly '=')

/-- The words, the sorts that are tried earlier first. -/
def pattern : TextPattern :=
  either rangePattern <| either comparisonPattern <| either runPattern symbolPattern

section

variable {inside : Char → Bool} {text : List Char}

private theorem isEmpty_takeWhile : (text.takeWhile inside).isEmpty = !text.head?.any inside := by
  cases text with
  | nil => rfl
  | cons c rest => cases accepted : inside c <;> simp [accepted]

private theorem drop_takeWhiles {next : Char → Bool} :
    text.drop ((text.takeWhile inside).length +
      ((text.dropWhile inside).takeWhile next).length) = (text.dropWhile inside).dropWhile next := by
  rw [← List.drop_drop, drop_takeWhile, drop_takeWhile]

/-- Letters and digits are taken whole in front of what no digit starts. -/
private theorem leftovers_cell {next : TextPattern}
    (never : ∀ c rest, c.isDigit → next.leftovers (c :: rest) = []) :
    (both (oneOrMore (one Char.isAlpha)) (both (oneOrMore (one Char.isDigit)) next)).leftovers text =
      match cellLength? text with
      | some length => next.leftovers (text.drop length)
      | none => [] := by
  have digits : ∀ c rest, c.isAlpha →
      (both (oneOrMore (one Char.isDigit)) next).leftovers (c :: rest) = [] := by
    intro c rest letter
    rw [leftovers_run never]
    simp [not_isDigit_of_isAlpha letter]
  rw [leftovers_run digits, leftovers_run never, cellLength?]
  simp only [isEmpty_takeWhile, ← drop_takeWhiles]
  cases text.head?.any Char.isAlpha <;>
    cases (text.dropWhile Char.isAlpha).head?.any Char.isDigit <;> simp

private theorem first?_cell :
    (both (oneOrMore (one Char.isAlpha)) (oneOrMore (one Char.isDigit))).first? text =
      (cellLength? text).map text.drop := by
  have digits : ∀ c rest, c.isAlpha → (oneOrMore (one Char.isDigit)).leftovers (c :: rest) = [] := by
    intro c rest letter
    simp [oneOrMore, leftovers, not_isDigit_of_isAlpha letter]
  rw [first?, leftovers_run digits, cellLength?]
  have run := @first?_run Char.isDigit (text.dropWhile Char.isAlpha)
  rw [first?] at run
  simp only [isEmpty_takeWhile]
  cases text.head?.any Char.isAlpha with
  | false => simp
  | true =>
    rw [if_pos rfl, run]
    cases (text.dropWhile Char.isAlpha).head?.any Char.isDigit <;> simp [drop_takeWhiles]

theorem first?_range : rangePattern.first? text = (rangeLength? text).map text.drop := by
  have never : ∀ c rest, c.isDigit → (both (exactly ':')
      (both (oneOrMore (one Char.isAlpha)) (oneOrMore (one Char.isDigit)))).leftovers (c :: rest) = [] := by
    intro c rest digit
    have other : c ≠ ':' := by rintro rfl; exact absurd digit (by decide)
    simp [exactly, leftovers, other]
  rw [first?, rangePattern, leftovers_cell never, rangeLength?]
  cases cellLength? text with
  | none => rfl
  | some size =>
    simp only [Option.bind_eq_bind, Option.bind_some]
    split
    · rename_i rest starts
      have behind : (text.drop size).drop 1 = rest := by rw [starts]; rfl
      have cell := @first?_cell rest
      rw [first?] at cell
      rw [starts]
      simp only [exactly, leftovers, beq_self_eq_true, if_pos, List.flatMap_singleton]
      rw [← leftovers, cell]
      cases cellLength? rest with
      | none => rfl
      | some other =>
        rw [List.drop_drop] at behind
        simp [← behind, List.drop_drop]
    · rename_i other
      cases starts : text.drop size with
      | nil => rfl
      | cons c rest =>
        have apart : c ≠ ':' := by rintro rfl; exact other rest starts
        simp [exactly, leftovers, apart]

private theorem first?_group : groupPattern.first? text =
    match text with
    | [] => none
    | c :: rest =>
      if (c == '.' || c == ',') && rest.head?.any inRun then some (rest.dropWhile inRun)
      else none := by
  cases text with
  | nil => rfl
  | cons c rest =>
    have run := @first?_run inRun rest
    rw [first?] at run
    cases sign : c == '.' || c == ',' <;> simp [groupPattern, first?, leftovers, sign, run]

/-- As many groups as there are follow each other. -/
private theorem head?_rounds_group {count : Nat} (enough : text.length ≤ count) :
    (rounds groupPattern.leftovers count text).head? = some (text.drop (groupsLength text)) := by
  induction count generalizing text with
  | zero =>
    rw [List.length_eq_zero_iff.mp (Nat.le_zero.mp enough)]
    simp [rounds, groupsLength]
  | succ count ih =>
    rw [head?_rounds, ← first?, first?_group]
    cases text with
    | nil => simp [groupsLength]
    | cons c rest =>
      have filled : rest.head?.any inRun = decide (0 < (rest.takeWhile inRun).length) := by
        have sides : (rest.takeWhile inRun).isEmpty = !rest.head?.any inRun := isEmpty_takeWhile
        cases taken : rest.takeWhile inRun <;> simp_all
      have fits : (rest.drop (rest.takeWhile inRun).length).length ≤ count := by
        simp only [List.length_cons] at enough
        simp only [List.length_drop]
        omega
      rw [groupsLength]
      simp only [filled]
      by_cases more : ((c == '.' || c == ',') && decide (0 < (rest.takeWhile inRun).length)) = true
      · simp only [if_pos more, ← drop_takeWhile, ih fits, List.drop_drop]
        rw [Nat.add_assoc, Nat.add_comm 1, List.drop_succ_cons]
      · simp only [if_neg more, List.drop_zero]

private theorem first?_percent : (either (exactly '%') nothing).first? text =
    some (if text.head? == some '%' then text.drop 1 else text) := by
  cases text with
  | nil => rfl
  | cons c rest =>
    cases sign : c == '%' <;> simp [first?, exactly, leftovers, sign]

theorem first?_runs : runPattern.first? text =
    if text.head?.any inRun then some (text.drop (runLength text)) else none := by
  have percent : ∀ left, (either (exactly '%') nothing).leftovers left ≠ [] := by
    simp [leftovers]
  have groups : ∀ left,
      (both (many groupPattern) (either (exactly '%') nothing)).leftovers left ≠ [] := by
    intro left
    obtain ⟨start, more, found⟩ := List.exists_cons_of_ne_nil
      (@leftovers_many_ne_nil groupPattern left)
    rw [leftovers, found, List.flatMap_cons]
    exact fun none_left => percent start (List.append_eq_nil_iff.mp none_left).1
  have repeated : ∀ left, (many groupPattern).first? left = some (left.drop (groupsLength left)) :=
    fun left => head?_rounds_group (Nat.le_refl _)
  rw [runPattern, first?_both groups, first?_run]
  cases text.head?.any inRun with
  | false => rfl
  | true =>
    rw [if_pos rfl, if_pos rfl, Option.bind_some, first?_both percent, repeated, Option.bind_some,
      first?_percent, ← drop_takeWhile, List.drop_drop, runLength]
    simp only [List.drop_drop]
    split <;> rfl

private theorem first?_pair (one other : Char) : (both (exactly one) (exactly other)).first? text =
    if text.take 2 = [one, other] then some (text.drop 2) else none := by
  rcases text with _ | ⟨c, _ | ⟨d, rest⟩⟩
  · rfl
  · by_cases first : c = one <;> simp [first?, exactly, leftovers, first]
  · by_cases first : c = one <;> by_cases second : d = other <;>
      simp [first?, exactly, leftovers, first, second]

private theorem first?_comparison : comparisonPattern.first? text =
    if startsComparison text then some (text.drop 2) else none := by
  simp only [comparisonPattern, first?_either, first?_pair]
  fun_cases startsComparison text with
  | case6 _ notMore notLess notOther notUnequal notEqual =>
    have apart : ∀ {one other : Char}, (∀ tail, text = one :: other :: tail → False) →
        text.take 2 ≠ [one, other] := by
      intro one other never starts
      refine never (text.drop 2) ?_
      simpa [starts] using (List.take_append_drop 2 text).symm
    simp [apart notMore, apart notLess, apart notOther, apart notUnequal, apart notEqual]
  | _ => simp

private theorem not_inRun_of_isBlank {c : Char} (blank : Text.isBlank c) : inRun c = false :=
  of_isBlank (P := fun c => inRun c = false) (by decide +kernel) blank

private theorem cellLength?_of_isBlank {c : Char} {rest : List Char} (blank : Text.isBlank c) :
    cellLength? (c :: rest) = none := by
  have other : c.isAlpha = false :=
    of_isBlank (P := fun c => c.isAlpha = false) (by decide) blank
  simp [cellLength?, other]

private theorem not_startsComparison_of_isBlank {c : Char} {rest : List Char}
    (blank : Text.isBlank c) : startsComparison (c :: rest) = false := by
  have other : c ≠ '>' ∧ c ≠ '<' ∧ c ≠ '!' ∧ c ≠ '=' :=
    of_isBlank (P := fun c => c ≠ '>' ∧ c ≠ '<' ∧ c ≠ '!' ∧ c ≠ '=') (by decide) blank
  unfold startsComparison
  split <;> simp_all

/-- White space starts no word, and what else starts a word is taken as far as the word goes. -/
theorem first?_pattern (c : Char) (rest : List Char) : pattern.first? (c :: rest) =
    if Text.isBlank c then none else some ((c :: rest).drop (wordLength c rest)) := by
  have symbol : symbolPattern.first? (c :: rest) =
      if !Text.isBlank c && !inRun c then some rest else none := by
    simp only [symbolPattern, first?, leftovers]
    split <;> rfl
  simp only [pattern, first?_either, first?_range, first?_comparison, first?_runs, symbol,
    List.head?_cons, Option.any_some, wordLength]
  cases blank : Text.isBlank c with
  | true =>
    simp [rangeLength?, cellLength?_of_isBlank blank, not_startsComparison_of_isBlank blank,
      not_inRun_of_isBlank blank]
  | false =>
    cases rangeLength? (c :: rest) with
    | some length => rfl
    | none =>
      cases startsComparison (c :: rest) with
      | true => rfl
      | false => by_cases run : inRun c <;> simp [run]

theorem wordLength_pos (c : Char) (rest : List Char) : 0 < wordLength c rest := by
  rw [wordLength]
  split
  · rename_i length found
    rw [rangeLength?] at found
    obtain ⟨one, _, found⟩ := Option.bind_eq_some_iff.mp found
    split at found
    · obtain ⟨other, _, same⟩ := Option.bind_eq_some_iff.mp found
      cases same
      omega
    · cases found
  · split
    · omega
    · split
      · rename_i run
        rw [runLength]
        simp only [List.takeWhile_cons, run, if_true, List.length_cons]
        split <;> omega
      · omega

theorem split_of_dropWhile {c : Char} {rest : List Char}
    (starts : text.dropWhile Text.isBlank = c :: rest) :
    split text = ⟨text.takeWhile Text.isBlank, c :: rest.take (wordLength c rest - 1)⟩ ::
      split (rest.drop (wordLength c rest - 1)) := by
  rw [split]
  split
  · simp_all
  · rename_i other
    rw [starts] at other
    cases other
    rfl

private theorem split_of_isBlank {c : Char} {rest : List Char} (blank : Text.isBlank c) :
    split (c :: rest) =
      match split rest with
      | [] => []
      | first :: others => ⟨c :: first.gap, first.chars⟩ :: others := by
  have same : (c :: rest).dropWhile Text.isBlank = rest.dropWhile Text.isBlank := by simp [blank]
  cases starts : rest.dropWhile Text.isBlank with
  | nil => rw [split_eq_nil (List.dropWhile_eq_nil_iff.mp starts),
      split_eq_nil (List.dropWhile_eq_nil_iff.mp (same.trans starts))]
  | cons d others =>
    rw [split_of_dropWhile starts, split_of_dropWhile (same.trans starts)]
    simp [blank]

private theorem drop_wordLength (c : Char) (rest : List Char) :
    (c :: rest).drop (wordLength c rest) = rest.drop (wordLength c rest - 1) := by
  have positive := wordLength_pos c rest
  conv => lhs; arg 1; rw [← Nat.sub_add_cancel positive]
  exact List.drop_succ_cons

private theorem take_of_drop (c : Char) (rest : List Char) (more : Nat) :
    (c :: rest).take (rest.length + 1 - (rest.drop more).length) = c :: rest.take more := by
  have size : rest.length + 1 - (rest.drop more).length = min more rest.length + 1 := by
    rw [List.length_drop]
    omega
  rw [size, List.take_succ_cons, ← List.take_eq_take_min]

/-- Requests are cut where the pattern of words matches, and what is skipped stands in front of the
next word. -/
theorem matchesBehind_eq (skipped : List Char) (text : List Char) :
    pattern.matchesBehind skipped text =
      match split text with
      | [] => []
      | first :: rest => ⟨skipped ++ first.gap, first.chars⟩ :: rest := by
  fun_induction matchesBehind pattern skipped text with
  | case1 skipped => rw [split_eq_nil (List.forall_mem_nil _)]
  | case2 skipped c rest left found shorter ih =>
    cases blank : Text.isBlank c with
    | true => simp [first?_pattern, blank] at found
    | false =>
      have behind : rest.drop (wordLength c rest - 1) = left := by
        simpa [first?_pattern, blank, drop_wordLength] using found
      have starts : (c :: rest).dropWhile Text.isBlank = c :: rest := by simp [blank]
      rw [split_of_dropWhile starts, ih, behind, ← behind, take_of_drop]
      cases split (rest.drop (wordLength c rest - 1)) <;> simp [blank]
  | case3 skipped c rest left found longer ih =>
    cases blank : Text.isBlank c with
    | true => simp [first?_pattern, blank] at found
    | false =>
      have behind : rest.drop (wordLength c rest - 1) = left := by
        simpa [first?_pattern, blank, drop_wordLength] using found
      refine absurd ?_ longer
      rw [← behind, List.length_drop]
      omega
  | case4 skipped c rest found ih =>
    cases blank : Text.isBlank c with
    | true =>
      rw [ih, split_of_isBlank blank]
      cases split rest <;> simp
    | false => simp [first?_pattern, blank] at found

theorem split_eq_matchesBehind (text : List Char) : split text = pattern.matchesBehind [] text := by
  rw [matchesBehind_eq]
  cases split text <;> simp

end

end Word

end PhraseSheet
