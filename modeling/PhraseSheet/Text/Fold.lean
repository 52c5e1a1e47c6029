import PhraseSheet.Text.Blank
import PhraseSheet.Text.Canonical
import PhraseSheet.Text.Case
import PhraseSheet.Text.Class

/-! Folded text: without diacritics, in lower case, with single spaces. Dictionary keys are folded,
so that all spellings of a Vietnamese word meet at one key. -/

namespace PhraseSheet.Text

/-- The letter đ has no decomposition, so folding replaces it itself. -/
def plainLetter (c : Char) : Char := if c == 'đ' || c == 'Đ' then 'd' else c

/-- The characters of a text without marks, in lower case. -/
def foldChars (text : List Char) : List Char :=
  (((decompose text).filter fun c => !isDiacritic c).map plainLetter).flatMap lowerChar

/-- The folded form of the text: no marks, `d` for `đ`, lower case, single spaces between words. -/
def fold (text : String) : String := String.ofList (collapse (foldChars text.toList))

/-- The folded form reduced to its letters and digits. -/
def foldedKey (text : String) : String :=
  String.ofList ((fold text).toList.filter isAlphanumeric)

end PhraseSheet.Text
