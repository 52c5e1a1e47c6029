namespace PhraseSheet.Text

/-- Closed ranges of code points, ascending and apart. -/
abbrev CodeRanges := List (Nat × Nat)

/-- The search stops at the first range that starts beyond the code point. -/
def CodeRanges.covers : CodeRanges → Nat → Bool
  | [], _ => false
  | (first, last) :: rest, code =>
    if code < first then false else decide (code ≤ last) || covers rest code

/-- Every range is inhabited and the next one starts beyond it. -/
def CodeRanges.ascending : CodeRanges → Bool
  | [] => true
  | [(first, last)] => decide (first ≤ last)
  | (first, last) :: (next, stop) :: rest =>
    decide (first ≤ last) && decide (last < next) && ascending ((next, stop) :: rest)

end PhraseSheet.Text
