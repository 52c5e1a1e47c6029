import Mathlib.Data.List.TakeWhile
import PhraseSheet.Proofs.Grammar
import PhraseSheet.Proofs.Spelling
import PhraseSheet.Proofs.WrittenTokens

namespace PhraseSheet

open Grammar

namespace Token

/-- Every token may stand in a formula, and no operand stands directly behind another. -/
def Settled : List Token → Prop
  | [] => True
  | token :: rest =>
    token.isPart ∧ (token.isAtom → ∀ next ∈ rest.head?, next.isAtom = false) ∧ Settled rest

theorem Settled.single {token : Token} (part : token.isPart) : Settled [token] :=
  ⟨part, by simp, trivial⟩

theorem Settled.cons {token : Token} {rest : List Token} (part : token.isPart)
    (sign : token.isAtom = false) (settled : Settled rest) : Settled (token :: rest) :=
  ⟨part, by simp [sign], settled⟩

theorem Settled.join {before after : List Token} {sign : Token} (settled : Settled before)
    (part : sign.isPart) (apart : sign.isAtom = false) (others : Settled after) :
    Settled (before ++ sign :: after) := by
  induction before with
  | nil => exact others.cons part apart
  | cons token rest ih =>
    obtain ⟨first, next, later⟩ := settled
    refine ⟨first, ?_, ih later⟩
    intro atom
    cases rest with
    | nil =>
      rintro _ ⟨⟩
      exact apart
    | cons second others => exact next atom

theorem Settled.closed {tokens : List Token} {sign : Token} (settled : Settled tokens)
    (part : sign.isPart) (apart : sign.isAtom = false) : Settled (tokens ++ [sign]) :=
  settled.join part apart trivial

theorem Settled.called {rest : List Token} (settled : Settled rest) (function : String) :
    Settled (.identifier function :: .leftParen :: rest) := by
  refine ⟨rfl, ?_, settled.cons rfl rfl⟩
  rintro - _ ⟨⟩
  rfl

theorem Settled.percents {tokens : List Token} (settled : Settled tokens) (count : Nat) :
    Settled (tokens ++ List.replicate count .percent) := by
  have signs : Settled (List.replicate count .percent) := by
    induction count with
    | zero => trivial
    | succ count ih => exact ih.cons rfl rfl
  cases count with
  | zero => simpa using settled
  | succ count => exact settled.join rfl rfl signs.2.2

end Token

namespace Grammar

open Token

theorem Writes.sign {chain : Chain} {token : Token} {op : Operator} (writes : Writes chain token op) :
    token.isPart ∧ token.isAtom = false := by
  cases writes <;> exact ⟨rfl, rfl⟩

mutual

/-- What tokens derive has a sign between any two operands. -/
theorem Derives.settled : Derives category tokens tree need → Settled tokens
  | .part only => only.settled
  | .chain left sign right => left.settled.join sign.sign.1 sign.sign.2 right.settled
  | .base only => only.settled
  | .power base exponent => base.settled.join rfl rfl exponent.settled
  | .negated inner => inner.settled.cons rfl rfl
  | .signed inner => inner.settled.cons rfl rfl
  | .percents count inner => inner.settled.percents count
  | .single only => only.settled
  | .corners left right => left.settled.join rfl rfl right.settled
  | .span left right _ => left.settled.join rfl rfl right.settled
  | .number _ => .single rfl
  | .text _ => .single rfl
  | .boolean _ => .single rfl
  | .error _ => .single rfl
  | .cell _ => .single rfl
  | .name _ => .single rfl
  | .emptyCall function => (Settled.single rfl).called function
  | .call function arguments => (arguments.settled.closed rfl rfl).called function
  | .group inner => (inner.settled.closed rfl rfl).cons rfl rfl
  | .emptyTable => (Settled.single rfl).cons rfl rfl
  | .table rows => (rows.settled.closed rfl rfl).cons rfl rfl

theorem Lists.settled : Lists tokens trees need → Settled tokens
  | .last only => only.settled
  | .more first others => first.settled.join rfl rfl others.settled

theorem Stacks.settled : Stacks tokens rows need → Settled tokens
  | .last only => only.settled
  | .more first below => first.settled.join rfl rfl below.settled

end

theorem settled_of_parse {formula : String} {tree : Expr} (accepted : Expr.parse formula = .ok tree) :
    Settled (Token.scan (Expr.formulaBody formula)) ∧
      Token.scan (Expr.formulaBody formula) ≠ [] := by
  obtain ⟨need, derived, _⟩ := ofTokens_eq_ok_iff.mp (parse_ok_iff_ofTokens.mp accepted)
  obtain ⟨first, others, starts, _⟩ := derived.head
  exact ⟨derived.settled, by simp [starts]⟩

end Grammar

/-- A token, the characters that write it and the white space in front of them. -/
structure Lexeme where
  gap : List Char
  chars : List Char
  token : Token
  /-- An opening parenthesis comes next, so that a name is that of a function. -/
  called : Bool

namespace Lexeme

/-- The lexemes of a text: its tokens as they are scanned one after the other. -/
def split (text : List Char) : List Lexeme :=
  match _found : Leftover.dropping Text.isBlank text with
  | ⟨[], _⟩ => []
  | ⟨c :: rest, _⟩ =>
    let (token, after) := Token.scanFrom c rest
    let chars := (c :: rest).take ((c :: rest).length - after.val.length)
    ⟨text.takeWhile Text.isBlank, chars, token, Token.beforeParen after.val⟩ :: split after.val
termination_by text.length
decreasing_by
  rename_i bound
  exact Nat.lt_of_lt_of_le after.property bound

def textOf (lexemes : List Lexeme) : List Char :=
  lexemes.flatMap fun lexeme => lexeme.gap ++ lexeme.chars

theorem map_token_split (text : List Char) : (split text).map token = Token.scan text := by
  fun_induction split text with
  | case1 text bound found =>
    exact (Token.scan_nil_of_dropWhile (congrArg Subtype.val found)).symm
  | case2 text c rest bound found token after scanned chars ih =>
    rw [List.map_cons, ih, Token.scan_of_dropWhile (congrArg Subtype.val found), scanned]

/-- Each lexeme is written in front of the text of those behind it, and of the trail. -/
inductive Joined (trail : List Char) : List Lexeme → Prop where
  | nil : Joined trail []
  | cons (blank : ∀ c ∈ lexeme.gap, Text.isBlank c)
      (written : Token.Written lexeme.chars lexeme.token (textOf lexemes ++ trail))
      (called : lexeme.called = Token.beforeParen (textOf lexemes ++ trail))
      (joined : Joined trail lexemes) : Joined trail (lexeme :: lexemes)

theorem textOf_cons (lexeme : Lexeme) (lexemes : List Lexeme) :
    textOf (lexeme :: lexemes) = lexeme.gap ++ (lexeme.chars ++ textOf lexemes) := by
  simp [textOf]

/-- A token that is no operand keeps a name or a number in front of it from going on. -/
theorem apart_of_scan {after : List Char} (settled : Token.Settled (Token.scan after))
    (sign : ∀ next ∈ (Token.scan after).head?, next.isAtom = false) : Token.Apart after := by
  intro c first
  obtain ⟨rest, rfl⟩ := List.head?_eq_some_iff.mp first
  cases blank : Text.isBlank c with
  | true => exact Token.not_continuesName_of_isBlank blank
  | false =>
    rw [Token.scan_cons blank] at settled sign
    have notAtom := sign _ rfl
    obtain ⟨chars, starts, written⟩ := Token.written_of_scanFrom settled.1 (by simp [notAtom])
    obtain ⟨d, others, rfl, stops⟩ := written.head notAtom
    rw [List.cons_append] at starts
    rw [(List.cons.inj starts).1]
    exact stops

/-- The lexemes of a text whose tokens are settled write the text up to white space at its end. -/
theorem joined_split (text : List Char) (settled : Token.Settled (Token.scan text)) :
    ∃ trail, (∀ c ∈ trail, Text.isBlank c) ∧ text = textOf (split text) ++ trail ∧
      Joined trail (split text) := by
  fun_induction split text with
  | case1 text bound found =>
    have none : text.dropWhile Text.isBlank = [] := congrArg Subtype.val found
    exact ⟨text, List.dropWhile_eq_nil_iff.mp none, rfl, .nil⟩
  | case2 text c rest bound found token after scanned chars ih =>
    have starts : text.dropWhile Text.isBlank = c :: rest := congrArg Subtype.val found
    rw [Token.scan_of_dropWhile starts, scanned] at settled
    obtain ⟨part, next, later⟩ := settled
    obtain ⟨trail, blank, same, joined⟩ := ih later
    have apart : token.isAtom → Token.Apart after.val := fun atom => apart_of_scan later (next atom)
    have found := @Token.written_of_scanFrom c rest
    rw [scanned] at found
    obtain ⟨written, split, writes⟩ := found part apart
    have taken : chars = written := by
      simp only [chars, split]
      simp
    have front : text = text.takeWhile Text.isBlank ++ (written ++ after.val) := by
      rw [← split, ← starts, List.takeWhile_append_dropWhile]
    refine ⟨trail, blank, ?_, ?_⟩
    · rw [textOf_cons, taken, List.append_assoc, List.append_assoc, ← same]
      exact front
    · have gapBlank : ∀ c ∈ text.takeWhile Text.isBlank, Text.isBlank c :=
        List.all_eq_true.mp List.all_takeWhile
      refine .cons gapBlank ?_ ?_ joined
      · rw [← same, taken]
        exact writes
      · rw [← same]

theorem scan_gap {gap : List Char} (blank : ∀ c ∈ gap, Text.isBlank c) (rest : List Char) :
    Token.scan (gap ++ rest) = Token.scan rest := by
  induction gap with
  | nil => rfl
  | cons c gap ih =>
    rw [List.cons_append, Token.scan_blank (blank c List.mem_cons_self)]
    exact ih fun d member => blank d (List.mem_cons_of_mem _ member)

/-- Joined lexemes are scanned as their tokens, in front of those of the trail. -/
theorem Joined.scan_append {trail : List Char} {lexemes : List Lexeme}
    (joined : Joined trail lexemes) :
    Token.scan (textOf lexemes ++ trail) = lexemes.map token ++ Token.scan trail := by
  induction joined with
  | nil => rfl
  | cons gapBlank written _ _ ih =>
    rw [textOf_cons, List.append_assoc, scan_gap gapBlank, List.append_assoc, written.scan, ih]
    rfl

theorem Joined.scan {trail : List Char} {lexemes : List Lexeme} (joined : Joined trail lexemes)
    (blank : ∀ c ∈ trail, Text.isBlank c) :
    Token.scan (textOf lexemes ++ trail) = lexemes.map token := by
  have nothing := scan_gap blank []
  rw [List.append_nil, Token.scan_nil] at nothing
  rw [joined.scan_append, nothing, List.append_nil]

end Lexeme

end PhraseSheet
