import PhraseSheet.Text.Age
import PhraseSheet.Text.Alphabet
import PhraseSheet.Text.Ignorable
import PhraseSheet.Text.Letters
import PhraseSheet.Text.Marks
import PhraseSheet.Text.Numerals
import PhraseSheet.Text.Symbols

namespace PhraseSheet.Text

def isLetter (c : Char) : Bool := letters.covers c.toNat

def isMark (c : Char) : Bool := marks.covers c.toNat

/-- The marks that folding drops, those of later editions among them. -/
def isDiacritic (c : Char) : Bool := isMark c || laterMarks.covers c.toNat

/-- Digits of every script, and fractions, circled digits, Roman numerals and the like. -/
def isNumeral (c : Char) : Bool :=
  decimalDigits.covers c.toNat || letterNumerals.covers c.toNat || otherNumerals.covers c.toNat

def isAlphabetic (c : Char) : Bool :=
  letters.covers c.toNat || letterNumerals.covers c.toNat || vowelSigns.covers c.toNat

def isAlphanumeric (c : Char) : Bool := isAlphabetic c || isNumeral c

/-- The characters that a word may hold where word boundaries are looked for: alphabetic characters,
marks, decimal digits, connecting punctuation and the two joiners, but no recent ones. -/
def isWordChar (c : Char) : Bool :=
  !isRecent c &&
    (isAlphabetic c || isMark c || decimalDigits.covers c.toNat || connectors.covers c.toNat ||
      c == '\u200C' || c == '\u200D')

/-- Characters with a visible form, and the space. Some letters, such as the fillers of Hangul, have
none. -/
def isPrintable (c : Char) : Bool :=
  c == ' ' ||
    !ignorables.covers c.toNat &&
      (isLetter c || isMark c || isNumeral c || symbols.covers c.toNat)

/-- The character is drawn on the one before it. The halfwidth sound marks of kana extend it as well,
but they are letters and stand beside it. -/
def isExtender (c : Char) : Bool := extenders.covers c.toNat && !isLetter c

end PhraseSheet.Text
