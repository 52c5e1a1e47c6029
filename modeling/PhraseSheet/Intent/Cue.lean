import PhraseSheet.Request.Words
import PhraseSheet.Text.Blank
import PhraseSheet.Text.Class

/-! Cues: what in a text hints at a goal. Cues look for phrases as whole words and for a few kinds
of signs. -/

namespace PhraseSheet

/-- A hint that a text may contain. -/
inductive Cue where
  | anyOf (phrases : List String)
  /-- A phrase of each list, on one line, in either order. -/
  | together (left right : List String)
  /-- A range of cells in lower case. -/
  | range
  /-- A number with a percent sign. -/
  | percentage
  /-- A sign of which comparisons are made. -/
  | comparisonSign
  | either (left right : Cue)

namespace Cue

/-- No word goes on from the text in front of the place, which ends with the given character. -/
def startsHere (before : Option Char) : Bool := !before.any Text.isWordChar

/-- No word goes on into the text behind the place. -/
def endsHere (after : List Char) : Bool := !after.head?.any Text.isWordChar

/-- What follows each place where the phrase stands as whole words, in a text with the given
character in front of it. -/
def behind (phrase : List Char) (before : Option Char) : List Char → List (List Char)
  | [] => []
  | c :: rest =>
    let later := behind phrase (some c) rest
    match phrase.isPrefixOf? (c :: rest) with
    | some after => if startsHere before && endsHere after then after :: later else later
    | none => later

/-- What follows each place where one of the phrases stands. -/
def behindAny (phrases : List String) (before : Option Char) (text : List Char) :
    List (List Char) :=
  phrases.flatMap fun phrase => behind phrase.toList before text

/-- A phrase of the second list stands behind one of the first, on the same line. -/
def inOrder (first second : List String) (text : List Char) : Bool :=
  first.any fun phrase => (behind phrase.toList none text).any fun after =>
    !(behindAny second phrase.toList.getLast? (after.takeWhile (· != '\n'))).isEmpty

/-- A range of cells, written in lower case and apart from other words, stands in a text with the
given character in front of it. -/
def hasRange (before : Option Char) : List Char → Bool
  | [] => false
  | c :: rest =>
    (match Word.rangeLength? (c :: rest) with
      | some length =>
        startsHere before && endsHere ((c :: rest).drop length) &&
          !((c :: rest).take length).any Char.isUpper
      | none => false) || hasRange (some c) rest

/-- A digit stands in front of a percent sign, with at most white space between them. -/
def hasPercentage : List Char → Bool
  | [] => false
  | c :: rest =>
    (c.isDigit && (Text.trimStart rest).head? == some '%') || hasPercentage rest

def appearsIn (text : List Char) : Cue → Bool
  | .anyOf phrases => !(behindAny phrases none text).isEmpty
  | .together left right => inOrder left right text || inOrder right left text
  | .range => hasRange none text
  | .percentage => hasPercentage text
  | .comparisonSign => text.any fun c => c == '<' || c == '>' || c == '='
  | .either left right => appearsIn text left || appearsIn text right

end Cue

end PhraseSheet
