import PhraseSheet.Json.Basic
import PhraseSheet.Reading.Remainder

namespace PhraseSheet.Json

/-- The deepest nesting of lists and records that is read. -/
def nestingLimit : Nat := 127

/-- The greatest significand that is kept while a number is read. -/
def significandLimit : Nat := 18446744073709551615

/-- The greatest power of ten with a binary value. -/
def powerLimit : Nat := 308

/-- Numbers whose written exponent is greater are out of range, or zero. -/
def exponentLimit : Nat := 2147483647

def isSpace (c : Char) : Bool := c == ' ' || c == '\n' || c == '\t' || c == '\r'

/-- What is left behind space. -/
def skipSpace (input : List Char) : Leftover input := Leftover.dropping isSpace input

/-- One or more digits. -/
def readDigits? : (input : List Char) → Option (List Char × Remainder input)
  | [] => none
  | c :: rest =>
    if c.isDigit then
      some (c :: rest.takeWhile Char.isDigit,
        (Remainder.tail c rest).upTo (Leftover.dropping Char.isDigit rest))
    else none

/-- Significant digits with the power of ten they are scaled by. -/
structure Scaled where
  significand : Nat
  power : Int
  /-- A digit was dropped because the significand would have outgrown its limit. -/
  full : Bool

/-- Adds a digit before the point; a dropped one still counts as a power of ten. -/
def Scaled.addWhole (number : Scaled) (c : Char) : Scaled :=
  let grown := number.significand * 10 + Decimal.digitValue c
  if number.full || grown > significandLimit then
    { number with power := number.power + 1, full := true }
  else { number with significand := grown }

/-- Adds a digit behind the point; from the first dropped one on, all are dropped. -/
def Scaled.addFraction (number : Scaled) (c : Char) : Scaled :=
  let grown := number.significand * 10 + Decimal.digitValue c
  if number.full || grown > significandLimit then { number with full := true }
  else { number with significand := grown, power := number.power - 1 }

/-- Multiplies or divides once by a power of ten, after steps of the greatest one where the number
is smaller still. A number that grows beyond every binary value is out of range. -/
def scale? (x : Float) (power : Int) : Option Float :=
  if power.natAbs ≤ powerLimit then
    let factor := Decimal.nearest ⟨1, power.natAbs⟩
    if power < 0 then some (x / factor)
    else if (x * factor).isInf then none
    else some (x * factor)
  else if x == 0 then some x
  else if 0 ≤ power then none
  else scale? (x / Decimal.nearest ⟨1, powerLimit⟩) (power + powerLimit)
termination_by power.natAbs
decreasing_by simp only [powerLimit] at *; omega

/-- The value of a scaled number behind an optional sign. -/
def Scaled.value? (number : Scaled) (negative : Bool) (exponent : Int) : Option Float :=
  let magnitude :=
    if exponent.natAbs > exponentLimit then
      if number.significand ≠ 0 && 0 < exponent then none else some 0
    else scale? (Decimal.nearest ⟨number.significand, 0⟩) (number.power + exponent)
  magnitude.map fun x => if negative then -x else x

/-- A whole number is kept exactly if it fits 64 bits with or without a sign. -/
def wholeNumber (negative : Bool) (significand : Nat) : JsonNumber :=
  if !negative then .whole significand
  else if significand = 0 || significand > 9223372036854775808 then
    .real (-Decimal.nearest ⟨significand, 0⟩)
  else .whole (-(significand : Int))

/-- The digits behind a point, if there is a point. -/
def readFraction? : (input : List Char) → Option (List Char × Leftover input)
  | '.' :: rest =>
    (readDigits? rest).map fun (digits, after) =>
      (digits, ((Remainder.tail '.' rest).beyond after).toLeftover)
  | input => some ([], .whole input)

/-- Whether a sign stands in front, and what follows it. -/
def readSign : (input : List Char) → Bool × Leftover input
  | '+' :: rest => (false, (Remainder.tail '+' rest).toLeftover)
  | '-' :: rest => (true, (Remainder.tail '-' rest).toLeftover)
  | input => (false, .whole input)

/-- The whole number behind an exponent mark, if there is a mark. -/
def readPower? : (input : List Char) → Option (Option Int × Leftover input)
  | [] => some (none, .whole [])
  | mark :: rest =>
    if mark == 'e' || mark == 'E' then
      let (negative, unsigned) := readSign rest
      (readDigits? unsigned.val).map fun (digits, after) =>
        let size : Int := Decimal.digitsNumber digits
        (some (if negative then -size else size),
          ((Remainder.tail mark rest).beyond (.within unsigned after)).toLeftover)
    else some (none, .whole (mark :: rest))

/-- A number without its sign. -/
def readUnsigned? (negative : Bool) (input : List Char) :
    Option (JsonNumber × Remainder input) := do
  let (whole, afterWhole) ← readDigits? input
  if whole.head? == some '0' && whole.length > 1 then failure
  let (fraction, afterFraction) ← readFraction? afterWhole.val
  let (power, rest) ← readPower? afterFraction.val
  let after := (afterWhole.upTo afterFraction).upTo rest
  let number := whole.foldl Scaled.addWhole ⟨0, 0, false⟩
  if fraction.isEmpty && power.isNone && !number.full then
    pure (wholeNumber negative number.significand, after)
  else
    let number := fraction.foldl Scaled.addFraction { number with full := false }
    let value ← number.value? negative (power.getD 0)
    pure (.real value, after)

def readNumber? : (input : List Char) → Option (JsonNumber × Remainder input)
  | '-' :: rest =>
    (readUnsigned? true rest).map fun (value, after) =>
      (value, (Remainder.tail '-' rest).beyond after)
  | input => readUnsigned? false input

def hexValue? (c : Char) : Option Nat :=
  if c.isDigit then some (c.toNat - '0'.toNat)
  else if 'a' ≤ c && c ≤ 'f' then some (c.toNat - 'a'.toNat + 10)
  else if 'A' ≤ c && c ≤ 'F' then some (c.toNat - 'A'.toNat + 10)
  else none

def unit? (a b c d : Char) : Option Nat := do
  pure ((← hexValue? a) * 4096 + (← hexValue? b) * 256 + (← hexValue? c) * 16 + (← hexValue? d))

/-- The character that a letter stands for behind a backslash. -/
def unescaped? : Char → Option Char
  | '"' => some '"'
  | '\\' => some '\\'
  | '/' => some '/'
  | 'b' => some '\x08'
  | 'f' => some '\x0c'
  | 'n' => some '\n'
  | 'r' => some '\r'
  | 't' => some '\t'
  | _ => none

/-- Reads a text up to its closing quote. `high` is the first unit of a pair whose second unit must
come next. -/
def readText? (high : Option Nat) : (input : List Char) → Option (List Char × Remainder input)
  | '\\' :: 'u' :: a :: b :: c :: d :: rest =>
    match unit? a b c d, high with
    | none, _ => none
    | some unit, none =>
      if 0xD800 ≤ unit && unit < 0xDC00 then
        (readText? (some unit) rest).map fun (content, after) => (content, shortened after)
      else if 0xDC00 ≤ unit && unit < 0xE000 then none
      else (readText? none rest).map fun (content, after) =>
        (Char.ofNat unit :: content, shortened after)
    | some unit, some first =>
      if 0xDC00 ≤ unit && unit < 0xE000 then
        let code := 0x10000 + (first - 0xD800) * 0x400 + (unit - 0xDC00)
        (readText? none rest).map fun (content, after) =>
          (Char.ofNat code :: content, shortened after)
      else none
  | '\\' :: c :: rest =>
    match unescaped? c, high with
    | some plain, none => (readText? none rest).map fun (content, after) =>
        (plain :: content,
          ⟨after.val, by have := after.property; simp only [List.length_cons]; omega⟩)
    | _, _ => none
  | c :: rest =>
    if high.isSome || c.toNat < 0x20 then none
    else if c == '"' then some ([], Remainder.tail c rest)
    else (readText? none rest).map fun (content, after) =>
      (c :: content, (Remainder.tail c rest).beyond after)
  | [] => none
where
  shortened {u v a b c d : Char} {rest : List Char} (after : Remainder rest) :
      Remainder (u :: v :: a :: b :: c :: d :: rest) :=
    ⟨after.val, by have := after.property; simp only [List.length_cons]; omega⟩

abbrev PartReader := (input : List Char) → Option (Json × Remainder input)

/-- What is left behind space and one character that must come next. -/
def expect? (mark : Char) (input : List Char) : Option (Remainder input) :=
  let skipped := skipSpace input
  match starts : skipped.val with
  | [] => none
  | c :: rest =>
    if c == mark then
      some ⟨rest, by
        have := skipped.property; rw [starts, List.length_cons] at this; omega⟩
    else none

/-- The items of a list from the next one on, with the closing bracket. -/
def readItems? (readItem? : PartReader) (input : List Char) :
    Option (List Json × Remainder input) :=
  match readItem? input with
  | none => none
  | some (item, after) =>
    match expect? ',' after.val with
    | some inner =>
      let rest := after.beyond inner
      match readItems? readItem? rest.val with
      | none => none
      | some (items, last) => some (item :: items, rest.beyond last)
    | none => (expect? ']' after.val).map fun last => ([item], after.beyond last)
termination_by input.length
decreasing_by exact rest.property

/-- The name of a member, with the colon behind it. -/
def readName? (input : List Char) : Option (String × Remainder input) := do
  let opened ← expect? '"' input
  let (name, inner) ← readText? none opened.val
  let closed := opened.beyond inner
  let last ← expect? ':' closed.val
  pure (String.ofList name, closed.beyond last)

/-- The members of a record from the next one on, with the closing brace. -/
def readMembers? (readValue? : PartReader) (input : List Char) :
    Option (List (String × Json) × Remainder input) :=
  match readName? input with
  | none => none
  | some (name, afterName) =>
    match readValue? afterName.val with
    | none => none
    | some (value, inner) =>
      let after := afterName.beyond inner
      match expect? ',' after.val with
      | some inner =>
        let rest := after.beyond inner
        match readMembers? readValue? rest.val with
        | none => none
        | some (members, last) => some ((name, value) :: members, rest.beyond last)
      | none => (expect? '\x7d' after.val).map fun last => ([(name, value)], after.beyond last)
termination_by input.length
decreasing_by exact rest.property

/-- The rest of a list behind its opening bracket. -/
def readList? (readItem? : PartReader) (input : List Char) : Option (Json × Remainder input) :=
  match expect? ']' input with
  | some after => some (.list [], after)
  | none => (readItems? readItem? input).map fun (items, after) => (.list items, after)

/-- The rest of a record behind its opening brace. -/
def readRecord? (readValue? : PartReader) (input : List Char) :
    Option (Json × Remainder input) :=
  match expect? '\x7d' input with
  | some after => some (.record [], after)
  | none => (readMembers? readValue? input).map fun (members, after) => (.record members, after)

/-- One of the words that stand for a value. -/
def readWord? : (input : List Char) → Option (Json × Remainder input)
  | 'n' :: 'u' :: 'l' :: 'l' :: rest => some (.null, ⟨rest, by simp only [List.length_cons]; omega⟩)
  | 't' :: 'r' :: 'u' :: 'e' :: rest =>
    some (.bool true, ⟨rest, by simp only [List.length_cons]; omega⟩)
  | 'f' :: 'a' :: 'l' :: 's' :: 'e' :: rest =>
    some (.bool false, ⟨rest, by simp only [List.length_cons]; omega⟩)
  | _ => none

/-- A part of a document, given the reader of the parts inside it if it may have some. -/
def readPart? (readInner? : Option PartReader) : PartReader
  | [] => none
  | c :: rest =>
    let first := Remainder.tail c rest
    if c == '"' then
      (readText? none rest).map fun (content, after) =>
        (.text (String.ofList content), first.beyond after)
    else if c == '[' then do
      let readItem? ← readInner?
      let (items, after) ← readList? readItem? rest
      pure (items, first.beyond after)
    else if c == '\x7b' then do
      let readValue? ← readInner?
      let (members, after) ← readRecord? readValue? rest
      pure (members, first.beyond after)
    else
      match readWord? (c :: rest) with
      | some word => some word
      | none => (readNumber? (c :: rest)).map fun (value, after) => (.number value, after)

/-- A part of a document, behind any space, with lists and records at most `depth` deep. -/
def readValue? (depth : Nat) (input : List Char) : Option (Json × Remainder input) :=
  let readInner? := match depth with
    | 0 => none
    | inner + 1 => some (readValue? inner)
  let skipped := skipSpace input
  (readPart? readInner? skipped.val).map fun (value, after) => (value, .within skipped after)

/-- Reads a whole document, the members of its records as they are written. -/
def readWritten? (text : String) : Option Json :=
  match readValue? nestingLimit text.toList with
  | none => none
  | some (document, after) => if after.val.all isSpace then some document else none

/-- Reads a whole document. The order in which members are written is lost. -/
def read? (text : String) : Option Json := (readWritten? text).map sorted

end PhraseSheet.Json
