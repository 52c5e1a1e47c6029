import PhraseSheet.Command.Assignment
import PhraseSheet.Command.Basic
import PhraseSheet.Conversion.Document
import PhraseSheet.Request.Description
import PhraseSheet.Row.Document
import PhraseSheet.Text.Padded

namespace PhraseSheet

/-- The answer to a command. -/
structure Reply where
  code : Nat
  /-- The text for the standard output, given the time that the answer took, in milliseconds. -/
  output : Float → String
  errors : String
  /-- A path, and the text to be written there. -/
  file? : Option (String × String)

namespace Reply

def lines (texts : List String) : String := String.join (texts.map (· ++ "\n"))

def success (texts : List String) : Reply := ⟨0, fun _ => lines texts, "", none⟩

/-- A failure behind lines of output. -/
def failure (message : String) (texts : List String) : Reply :=
  ⟨1, fun _ => lines texts, "Error: " ++ message ++ "\n", none⟩

/-- Goes on with a result, or ends with the wording of the error. -/
def proceed {ε α : Type} (message : ε → String) (result : Except ε α) (next : α → Reply) : Reply :=
  match result with
  | .ok value => next value
  | .error error => failure (message error) []

private def intentLine (label : String) (intent : Intent) : String :=
  label ++ ": " ++ intent.goal.name ++ " (" ++ Decimal.fixed 2 intent.confidence ++ ")"

private def draftLines (draft : Draft) : List String :=
  (if draft.description.isEmpty then [] else ["Description: " ++ draft.description]) ++
    draft.warnings.map ("Warning: " ++ ·)

private def outcomeLine (outcome : Except ParseError Value) : String :=
  match outcome with
  | .ok value => "Result: " ++ value.display
  | .error error => "Result: " ++ (FormulaError.parse error.reason).message

private def alternativeLine (intent : Intent) : String :=
  intentLine "Alternative" intent ++ " " ++ intent.formula?.getD ""

def conversionLines (conversion : Conversion) : List String :=
  [intentLine "Intent" conversion.intent, "Formula: " ++ conversion.formula?.getD "-"] ++
    (conversion.draft?.map draftLines).getD [] ++
    (conversion.outcome?.map outcomeLine).toList ++ conversion.alternatives.map alternativeLine

/-- The report of a conversion. As a document it counts as success whatever it says. -/
def ofConversion (asJson : Bool) (conversion : Conversion) : Reply :=
  if asJson then ⟨0, fun elapsed => lines [(conversion.toJson elapsed).pretty], "", none⟩
  else if conversion.succeeded then success (conversionLines conversion)
  else failure (conversion.error?.getD "Conversion failed") (conversionLines conversion)

private def suggestionLine (suggestion : Suggestion) : String :=
  Text.padEnd 45 suggestion.formula ++ " " ++ Decimal.fixed 2 suggestion.confidence ++ "  " ++
    suggestion.description

private def recipeLines (recipe : Recipe) : List String :=
  [recipe.goal.name, "  " ++ recipe.template.text, "  " ++ recipe.description] ++
    if recipe.required.isEmpty then []
    else ["  Fields: " ++ ", ".intercalate (recipe.required.map Field.name)]

private def phraseLine (phrase : Phrase) : String :=
  Text.padStart 4 (Nat.repr phrase.position) ++ "  " ++
    Text.padEnd 12 phrase.meaning.title ++ " " ++ Text.padEnd 20 phrase.text ++ " " ++
    phrase.meaning.describe

/-- The answer with resolved rows, as output or as a file. -/
def ofRows (output? : Option String) (rows : List Row) : Reply :=
  let text := (Json.list (rows.map Row.toJson)).pretty
  match output? with
  | none => success [text]
  | some path =>
    ⟨0, fun _ => "", "Wrote " ++ Nat.repr rows.length ++ " rows to '" ++ path ++ "'\n",
      some (path, text)⟩

/-- The failure to read what the command reads. -/
def unreadable (input? : Option String) : Reply :=
  failure (match input? with
    | some path => "Failed to read '" ++ path ++ "'"
    | none => "Failed to read stdin") []

private def usage : List String :=
  ["Usage: phrasesheet [-v] COMMAND",
   "  convert TEXT [-x NAME=VALUE] [--min-confidence NUMBER] [--alternatives COUNT] [--json]",
   "  suggest [TEXT] [-l COUNT]",
   "  templates [--json]",
   "  eval FORMULA [-x NAME=VALUE]",
   "  rows [INPUT] [-o OUTPUT] [-x NAME=VALUE]",
   "  tokenize TEXT"]

def ofUsageError (error : UsageError) : Reply :=
  ⟨2, fun _ => "", "Error: " ++ error.message ++ "\n" ++ lines usage, none⟩

/-- The answer to a command, given the text that it reads if it could be read. -/
def ofCommand (read? : Option String) : Command → Reply
  | .convert text assignments leastConfidence alternatives asJson =>
    let convert (sample? : Option Context) :=
      ofConversion asJson (Conversion.ofText
        { leastConfidence := leastConfidence
          alternatives := alternatives
          knowledge := {}
          sample? := sample? } text)
    if assignments.isEmpty then convert none
    else proceed AssignmentError.message (Context.ofAssignments assignments) fun sample =>
      convert (some sample)
  | .suggest text limit =>
    match Suggestion.ofText limit text with
    | [] => ⟨0, fun _ => "", "No suggestions\n", none⟩
    | suggestions => success (suggestions.map suggestionLine)
  | .templates asJson =>
    if asJson then success [(Json.list (Recipe.catalog.map Recipe.toJson)).pretty]
    else success (Recipe.catalog.flatMap recipeLines)
  | .evaluate formula assignments =>
    proceed AssignmentError.message (Context.ofAssignments assignments) fun context =>
      proceed (fun _ => "Failed to parse '" ++ formula ++ "'") (Expr.parse formula) fun expr =>
        success [(expr.evaluate context).display]
  | .rows input? output? assignments =>
    match read? with
    | none => unreadable input?
    | some text =>
      proceed RowsError.message (Row.readAll text) fun rows =>
        proceed AssignmentError.message (Context.ofAssignments assignments) fun extra =>
          ofRows output? (Row.resolveAll extra rows)
  | .tokenize text =>
    let request := Request.ofText text
    success (("Normalized: " ++ request.folded) :: request.phrases.map phraseLine)
  | .help => success usage

end Reply

end PhraseSheet
