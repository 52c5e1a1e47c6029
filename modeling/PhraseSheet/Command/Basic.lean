import PhraseSheet.Command.Arguments
import PhraseSheet.Decimal.Read

namespace PhraseSheet

inductive Command where
  /-- Converts a text, with values to try the formula on. -/
  | convert (text : String) (assignments : List String) (leastConfidence : Float)
      (alternatives : Nat) (asJson : Bool)
  | suggest (text : String) (limit : Nat)
  | templates (asJson : Bool)
  | evaluate (formula : String) (assignments : List String)
  /-- Resolves rows from a file or the standard input, to a file or the standard output. -/
  | rows (input? output? : Option String) (assignments : List String)
  | tokenize (text : String)
  | help

namespace OptionForm

def verbose : OptionForm := ⟨"verbose", some 'v', false, false⟩

def help : OptionForm := ⟨"help", some 'h', false, true⟩

def assignment : OptionForm := ⟨"with", some 'x', true, true⟩

def asJson : OptionForm := ⟨"json", none, false, false⟩

def leastConfidence : OptionForm := ⟨"min-confidence", none, true, false⟩

def alternatives : OptionForm := ⟨"alternatives", none, true, false⟩

def limit : OptionForm := ⟨"limit", some 'l', true, false⟩

def output : OptionForm := ⟨"output", some 'o', true, false⟩

end OptionForm

namespace Command

/-- A count of up to 64 bits, with an optional plus sign. -/
def readCount? (text : String) : Option Nat :=
  let digits := match text.toList with
    | '+' :: rest => rest
    | all => all
  (Decimal.number? digits).filter fun count => decide (count < Nat.pow 2 64)

def readPath? (text : String) : Option String := if text.isEmpty then none else some text

/-- The command of the given name and arguments. -/
def ofArguments (name : String) (rest : List String) : Except UsageError Command := do
  let read (own : List OptionForm) (command : Arguments → Except UsageError Command) := do
    let arguments ← Arguments.read (OptionForm.verbose :: OptionForm.help :: own) rest
    if arguments.has OptionForm.help.name then pure Command.help else command arguments
  match name with
  | "convert" =>
    read [.assignment, .leastConfidence, .alternatives, .asJson] fun arguments => do
      let text ← arguments.onlyText
      let least ← arguments.valueOr OptionForm.leastConfidence.name Decimal.ofText? 0.3
      let others ← arguments.valueOr OptionForm.alternatives.name readCount? 3
      pure (.convert text (arguments.values OptionForm.assignment.name) least others
        (arguments.has OptionForm.asJson.name))
  | "suggest" =>
    read [.limit] fun arguments => do
      let text? ← arguments.textIfAny
      let count ← arguments.valueOr OptionForm.limit.name readCount? 5
      pure (.suggest (text?.getD "") count)
  | "templates" =>
    read [.asJson] fun arguments => do
      arguments.noText
      pure (.templates (arguments.has OptionForm.asJson.name))
  | "eval" =>
    read [.assignment] fun arguments => do
      let formula ← arguments.onlyText
      pure (.evaluate formula (arguments.values OptionForm.assignment.name))
  | "rows" =>
    read [.assignment, .output] fun arguments => do
      let input? ← arguments.textIfAny
      if input? = some "" then throw (.badValue "input" "")
      let output? ← arguments.valueOr OptionForm.output.name
        (fun text => (readPath? text).map some) none
      pure (.rows input? output? (arguments.values OptionForm.assignment.name))
  | "tokenize" =>
    read [] fun arguments => do
      let text ← arguments.onlyText
      pure (.tokenize text)
  | _ => throw (.unknownCommand name)

def read (isVerbose : Bool) : List String → Except UsageError Command
  | [] => .error .noCommand
  | first :: rest =>
    if first = "-v" ∨ first = "--verbose" then
      if isVerbose then .error (.repeatedOption "verbose") else read true rest
    else if first = "-h" ∨ first = "--help" ∨ first = "help" then .ok .help
    else if Arguments.isOption first.toList then .error (.unknownOption first)
    else ofArguments first rest

def ofLine (arguments : List String) : Except UsageError Command := read false arguments

/-- What the command reads: a file, the standard input, or nothing. -/
inductive Source where
  | nothing
  | standardInput
  | file (path : String)
deriving DecidableEq

def source : Command → Source
  | .rows none _ _ => .standardInput
  | .rows (some path) _ _ => .file path
  | .convert .. | .suggest .. | .templates _ | .evaluate .. | .tokenize _ | .help => .nothing

end Command

end PhraseSheet
