namespace PhraseSheet

/-- An option that a command takes. -/
structure OptionForm where
  name : String
  letter? : Option Char
  hasValue : Bool
  /-- The option may come several times. -/
  repeats : Bool

/-- Arguments that were told apart. -/
structure Arguments where
  /-- The names of the options with their values, which are empty for options without one. -/
  options : List (String × String)
  texts : List String

/-- Why a command line is not understood. -/
inductive UsageError where
  | noCommand
  | unknownCommand (name : String)
  | unknownOption (argument : String)
  | missingValue (option : String)
  | needlessValue (option : String)
  | repeatedOption (option : String)
  | badValue (option value : String)
  | missingText
  | needlessText (text : String)
deriving DecidableEq

namespace UsageError

def message : UsageError → String
  | .noCommand => "a command is missing"
  | .unknownCommand name => "unknown command '" ++ name ++ "'"
  | .unknownOption argument => "unknown option '" ++ argument ++ "'"
  | .missingValue option => "option '" ++ option ++ "' needs a value"
  | .needlessValue option => "option '" ++ option ++ "' takes no value"
  | .repeatedOption option => "option '" ++ option ++ "' is given twice"
  | .badValue option value => "'" ++ value ++ "' is no value for '" ++ option ++ "'"
  | .missingText => "an argument is missing"
  | .needlessText text => "unexpected argument '" ++ text ++ "'"

end UsageError

namespace Arguments

/-- An option with its value, which is absent if the next argument is to give it. -/
abbrev Given := OptionForm × Option String

/-- A text with a dash in front; the dash alone is an ordinary text. -/
def isOption : List Char → Bool
  | '-' :: _ :: _ => true
  | _ => false

/-- Reads an option given by name, whose value may stand behind an equals sign. -/
def readName (forms : List OptionForm) (argument : List Char) : Except UsageError Given :=
  let name := String.ofList (argument.takeWhile (· != '='))
  let value? := match argument.dropWhile (· != '=') with
    | [] => none
    | _ :: value => some (String.ofList value)
  match forms.find? (·.name == name) with
  | none => .error (.unknownOption name)
  | some form =>
    if form.hasValue then .ok (form, value?)
    else if value?.isSome then .error (.needlessValue name)
    else .ok (form, some "")

/-- Reads options given by letters. What stands behind the letter of an option with a value is the
value, with or without an equals sign between them. -/
def readLetters (forms : List OptionForm) : List Char → Except UsageError (List Given)
  | [] => .ok []
  | letter :: rest =>
    match forms.find? (·.letter? == some letter) with
    | none => .error (.unknownOption (String.singleton letter))
    | some form =>
      if form.hasValue then
        match rest with
        | [] => .ok [(form, none)]
        | '=' :: value => .ok [(form, some (String.ofList value))]
        | value => .ok [(form, some (String.ofList value))]
      else do
        let others ← readLetters forms rest
        pure ((form, some "") :: others)

/-- Reads the options of one argument. -/
def readOptions (forms : List OptionForm) : List Char → Except UsageError (List Given)
  | '-' :: '-' :: name => (readName forms name).map fun given => [given]
  | '-' :: letters => readLetters forms letters
  | _ => .ok []

def withOptions (given : List Given) (awaited : String) (arguments : Arguments) : Arguments :=
  { arguments with
    options := given.map (fun (form, value?) => (form.name, value?.getD awaited)) ++
      arguments.options }

/-- The name of the last option if it still awaits its value. -/
def awaiting? (given : List Given) : Option String :=
  match given.getLast? with
  | some (form, none) => some form.name
  | _ => none

/-- Tells options and texts apart. Behind two dashes all arguments are texts. -/
def sort (forms : List OptionForm) : List String → Except UsageError Arguments
  | [] => .ok ⟨[], []⟩
  | argument :: rest =>
    if argument = "--" then .ok ⟨[], rest⟩
    else if isOption argument.toList then do
      let given ← readOptions forms argument.toList
      match awaiting? given with
      | none => (sort forms rest).map (withOptions given "")
      | some name =>
        match rest with
        | [] => .error (.missingValue name)
        | value :: others =>
          if isOption value.toList then .error (.missingValue name)
          else (sort forms others).map (withOptions given value)
    else (sort forms rest).map fun arguments =>
      { arguments with texts := argument :: arguments.texts }

def values (arguments : Arguments) (name : String) : List String :=
  (arguments.options.filter fun given => given.1 == name).map Prod.snd

def has (arguments : Arguments) (name : String) : Bool := !(arguments.values name).isEmpty

/-- The arguments, unless an option that does not repeat is given twice. -/
def once (forms : List OptionForm) (arguments : Arguments) : Except UsageError Arguments :=
  match forms.find? fun form => !form.repeats && decide (1 < (arguments.values form.name).length)
  with
  | some form => .error (.repeatedOption form.name)
  | none => .ok arguments

/-- Reads the arguments of a command with the given options. -/
def read (forms : List OptionForm) (arguments : List String) : Except UsageError Arguments := do
  let sorted ← sort forms arguments
  sorted.once forms

/-- The value of an option, read from its text; the fallback counts if the option is not given. -/
def valueOr {α : Type} (arguments : Arguments) (name : String) (read? : String → Option α)
    (fallback : α) : Except UsageError α :=
  match arguments.values name with
  | [] => .ok fallback
  | text :: _ =>
    match read? text with
    | some value => .ok value
    | none => .error (.badValue name text)

def onlyText (arguments : Arguments) : Except UsageError String :=
  match arguments.texts with
  | [] => .error .missingText
  | [text] => .ok text
  | _ :: text :: _ => .error (.needlessText text)

def textIfAny (arguments : Arguments) : Except UsageError (Option String) :=
  match arguments.texts with
  | [] => .ok none
  | [text] => .ok (some text)
  | _ :: text :: _ => .error (.needlessText text)

def noText (arguments : Arguments) : Except UsageError Unit :=
  match arguments.texts with
  | [] => .ok ()
  | text :: _ => .error (.needlessText text)

end Arguments

end PhraseSheet
