namespace PhraseSheet.Text

private def spaces (count : Nat) : String := String.ofList (List.replicate count ' ')

/-- The text with spaces behind it up to a width; a longer text stays as it is. -/
def padEnd (width : Nat) (text : String) : String := text ++ spaces (width - text.length)

/-- The text with spaces in front of it up to a width; a longer text stays as it is. -/
def padStart (width : Nat) (text : String) : String := spaces (width - text.length) ++ text

end PhraseSheet.Text
