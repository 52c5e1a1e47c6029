import PhraseSheet.Formula.Error
import PhraseSheet.Sheet.Labelled
import PhraseSheet.Sheet.Value

namespace PhraseSheet

/-- A function on evaluated arguments, with the least and the greatest number of them. -/
structure Function where
  name : String
  least : Nat
  most : Option Nat
  apply : List Value → Except FormulaError Value

namespace Function

def accepts (function : Function) (count : Nat) : Bool :=
  decide (function.least ≤ count) && function.most.all fun most => decide (count ≤ most)

/-- The arguments with the cells of arrays in place of the arrays, row by row. Arrays inside arrays
stay as they are. -/
def scalars (arguments : List Value) : List Value :=
  arguments.flatMap fun argument =>
    match argument with
    | .array rows => rows.flatten
    | scalar => [scalar]

/-- The numbers among the values, or the first error. Texts, truth values, empty values and arrays
do not count. -/
def numbers : List Value → Except CellError (List Float)
  | [] => .ok []
  | .number x :: rest => (numbers rest).map (x :: ·)
  | .error cause :: _ => .error cause
  | _ :: rest => numbers rest

def settled : Except CellError Value → Value
  | .ok value => value
  | .error cause => .error cause

def total (terms : List Float) : Float := terms.foldl (· + ·) (-0.0)

/-- The lesser number, the second of two equal ones; an undefined number gives way. -/
def lesser (x y : Float) : Float := if x < y || y.isNaN then x else y

/-- The greater number, the second of two equal ones; an undefined number gives way. -/
def greater (x y : Float) : Float := if y < x || y.isNaN then x else y

/-- The numbers combined from the left; zero if there are none. -/
def combined (combine : Float → Float → Float) : List Float → Float
  | [] => 0
  | x :: rest => rest.foldl combine x

def sum (arguments : List Value) : Value :=
  settled ((numbers (scalars arguments)).map fun terms => .number (total terms))

/-- Of no numbers at all there is no average. -/
def average (arguments : List Value) : Value :=
  settled ((numbers (scalars arguments)).map fun terms =>
    if terms.isEmpty then .error .divisionByZero
    else .number (total terms / Float.ofNat terms.length))

def minimum (arguments : List Value) : Value :=
  settled ((numbers (scalars arguments)).map fun terms => .number (combined lesser terms))

def maximum (arguments : List Value) : Value :=
  settled ((numbers (scalars arguments)).map fun terms => .number (combined greater terms))

/-- How many of the values are numbers; errors do not count. -/
def count (arguments : List Value) : Value :=
  let counted := (scalars arguments).filter fun value =>
    match value with
    | .number _ => true
    | _ => false
  .number (Float.ofNat counted.length)

/-- The argument as a number; zero if it is missing or empty. -/
def numberArgument : Option Value → Except CellError Float
  | none | some .empty => .ok 0
  | some (.error cause) => .error cause
  | some value =>
    match value.asNumber? with
    | some x => .ok x
    | none => .error .wrongType

def absolute (arguments : List Value) : Value :=
  settled ((numberArgument arguments[0]?).map fun x => .number x.abs)

/-- Powers by squaring: the result is the accumulated factor times the power of the base. -/
def powerBySquaring (base factor : Float) (exponent : Nat) : Float :=
  let grown := if exponent % 2 = 1 then factor * base else factor
  if exponent / 2 = 0 then grown else powerBySquaring (base * base) grown (exponent / 2)
termination_by exponent
decreasing_by omega

/-- A power of ten; a negative one is the reciprocal of a positive one. -/
def powerOfTen (exponent : Int) : Float :=
  let size := powerBySquaring 10 1 exponent.natAbs
  if exponent < 0 then 1 / size else size

/-- Half of a unit is added away from zero and the rest cut off. -/
def roundedHalfAway (x : Float) : Float :=
  if 0 ≤ x then (x + 0.5).floor else (x - 0.5).ceil

/-- The most decimal places, or places before the point, that a number is rounded to. -/
def placesLimit : Nat := 308

/-- The number rounded to so many places; a number with fewer digits than that stays as it is. -/
def rounded (x : Float) (places : Int) : Value :=
  let factor := powerOfTen places
  let scaled := x * factor
  if !scaled.isFinite then .number x
  else
    let result := roundedHalfAway scaled / factor
    if result.isFinite then .number result else .error .badNumber

def round (arguments : List Value) : Value :=
  settled do
    let x ← numberArgument arguments[0]?
    let places ← numberArgument arguments[1]?
    pure (rounded x (Decimal.truncated placesLimit places))

/-- Chooses by a condition; without a third argument the choice for a false one is false. -/
def choice : List Value → Except FormulaError Value
  | condition :: chosen :: others =>
    .ok <| match condition with
      | .error cause => .error cause
      | other =>
        match other.asBool? with
        | some true => chosen
        | some false => others.head?.getD (.boolean false)
        | none => .error .wrongType
  | _ => .error (.argument "IF requires at least 2 arguments")

/-- The first value that is an error or decides; texts, empty values and arrays do not count. -/
def decided (deciding : Bool) : List Value → Value
  | [] => .boolean (!deciding)
  | .error cause :: _ => .error cause
  | .boolean truth :: rest =>
    if truth == deciding then .boolean deciding else decided deciding rest
  | .number x :: rest =>
    if (x != 0) == deciding then .boolean deciding else decided deciding rest
  | _ :: rest => decided deciding rest

def all (arguments : List Value) : Value := decided false (scalars arguments)

def any (arguments : List Value) : Value := decided true (scalars arguments)

def not (arguments : List Value) : Value :=
  match arguments with
  | [] => .error .wrongType
  | .error cause :: _ => .error cause
  | value :: _ =>
    match value.asBool? with
    | some truth => .boolean (!truth)
    | none => .error .wrongType

/-- The first argument unless it is an error, else the second. -/
def withFallback : List Value → Except FormulaError Value
  | [] => .error (.argument "IFERROR requires 2 arguments")
  | .error _ :: others => .ok (others.head?.getD .empty)
  | value :: _ => .ok value

/-- Whether a looked-up value and a key are the same: texts in any letter case, a number and a text
that spells it. -/
def sameKey : Value → Value → Bool
  | .number x, .number y => x == y
  | .boolean left, .boolean right => left == right
  | .text left, .text right => Text.lowered left == Text.lowered right
  | .number x, .text content | .text content, .number x =>
    (Decimal.read? (Text.trim content.toList)).any (· == x)
  | .empty, .empty => true
  | _, _ => false

/-- The greatest column number that is told apart. -/
def columnNumberLimit : Nat := 9223372036854775807

/-- The value in the given column, counted from one, of the first row whose first cell is the key.
The width of the table is that of its first row. -/
def lookUpRow (key : Value) (rows : List (List Value)) (column : Int) : Value :=
  let width := rows.head?.elim 0 List.length
  if width = 0 then .error .notAvailable
  else if column < 1 then .error .wrongType
  else if width < column then .error .badReference
  else
    match rows.find? fun row => row.head?.any (sameKey key) with
    | some row => row[(column - 1).toNat]?.getD .empty
    | none => .error .notAvailable

/-- Looks a key up in the first column of a table. A fourth argument is allowed and ignored; any
argument that is an error is the result. -/
def lookUp (arguments : List Value) : Value :=
  match arguments.findSome? Value.error? with
  | some cause => .error cause
  | none =>
    match arguments with
    | .array _ :: _ :: _ :: _ => .error .wrongType
    | key :: .array rows :: column :: _ =>
      let number := match column.asNumber? with
        | some x => Decimal.truncated columnNumberLimit x
        | none => 0
      lookUpRow key rows number
    | _ => .error .wrongType

def unfailing (apply : List Value → Value) : List Value → Except FormulaError Value :=
  fun arguments => .ok (apply arguments)

def builtins : List Function :=
  [⟨"SUM", 1, none, unfailing sum⟩,
   ⟨"AVERAGE", 1, none, unfailing average⟩,
   ⟨"MIN", 1, none, unfailing minimum⟩,
   ⟨"MAX", 1, none, unfailing maximum⟩,
   ⟨"COUNT", 1, none, unfailing count⟩,
   ⟨"ABS", 1, some 1, unfailing absolute⟩,
   ⟨"ROUND", 1, some 2, unfailing round⟩,
   ⟨"IF", 2, some 3, choice⟩,
   ⟨"AND", 1, none, unfailing all⟩,
   ⟨"OR", 1, none, unfailing any⟩,
   ⟨"NOT", 1, some 1, unfailing not⟩,
   ⟨"IFERROR", 2, some 2, withFallback⟩,
   ⟨"VLOOKUP", 3, some 4, unfailing lookUp⟩]

end Function

/-- Functions under their names in upper case. -/
abbrev Registry := Labelled Function

namespace Registry

/-- Adds a function, in place of one with the same name in another letter case. -/
def register (registry : Registry) (function : Function) : Registry :=
  registry.put (Text.uppered function.name) function

/-- The function with the name, in any letter case. -/
def function? (registry : Registry) (name : String) : Option Function :=
  registry.find? (Text.uppered name)

def standard : Registry := Function.builtins.foldl register .empty

end Registry

end PhraseSheet
