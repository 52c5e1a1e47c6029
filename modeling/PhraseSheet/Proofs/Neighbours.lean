import Mathlib.Data.List.Chain
import PhraseSheet.Proofs.Lexemes

/-! How the tokens of an expression stand together. What awaits an operand has one behind it, the
expression starts with one and ends with none awaited, and its parentheses close each other. -/

namespace PhraseSheet

open Grammar

namespace Token

/-- An operand comes behind the token. -/
def awaits : Token → Bool
  | .comparison _ | .plus | .minus | .star | .slash | .caret | .ampersand | .colon | .comma
  | .semicolon => true
  | _ => false

/-- An operand starts with the token. -/
def leads : Token → Bool
  | .number _ | .text _ | .boolean _ | .error _ | .identifier _ | .cell _ | .plus | .minus
  | .leftParen | .leftBrace => true
  | _ => false

/-- With so many parentheses open in front of them, the tokens close these and their own and no
others. -/
def isBalanced (depth : Nat) : List Token → Bool
  | [] => depth == 0
  | .leftParen :: rest => isBalanced (depth + 1) rest
  | .rightParen :: rest => 0 < depth && isBalanced (depth - 1) rest
  | _ :: rest => isBalanced depth rest

def isUncounted : Token → Bool
  | .leftParen | .rightParen => false
  | _ => true

theorem isBalanced_uncounted {token : Token} (uncounted : token.isUncounted) (depth : Nat)
    (rest : List Token) : isBalanced depth (token :: rest) = isBalanced depth rest := by
  cases token <;> first | rfl | cases uncounted

theorem isUncounted_of_isAtom {token : Token} (atom : token.isAtom) : token.isUncounted := by
  cases token <;> first | rfl | cases atom

/-- The tokens may be those of an expression. -/
structure Formed (tokens : List Token) : Prop where
  starts : ∃ first ∈ tokens.head?, first.leads
  ends : ∃ last ∈ tokens.getLast?, last.awaits = false
  apart : tokens.IsChain fun one other => one.awaits → other.leads
  closed : ∀ depth rest, isBalanced depth (tokens ++ rest) = isBalanced depth rest

namespace Formed

variable {tokens others : List Token} {token : Token}

theorem leads (formed : Formed tokens) : ∀ first ∈ tokens.head?, first.leads := by
  obtain ⟨first, found, leads⟩ := formed.starts
  intro other isOther
  cases found.symm.trans isOther
  exact leads

theorem free (formed : Formed tokens) : ∀ last ∈ tokens.getLast?, last.awaits = false := by
  obtain ⟨last, found, free⟩ := formed.ends
  intro other isOther
  cases found.symm.trans isOther
  exact free

theorem apart_append (formed : Formed tokens)
    (apart : others.IsChain fun one other => one.awaits → other.leads) :
    (tokens ++ others).IsChain fun one other => one.awaits → other.leads := by
  refine List.isChain_append.mpr ⟨formed.apart, apart, ?_⟩
  intro last isLast _ _ awaits
  simp [formed.free last isLast] at awaits

theorem apart_cons (formed : Formed tokens) (token : Token) :
    (token :: tokens).IsChain fun one other => one.awaits → other.leads :=
  List.isChain_cons.mpr ⟨fun next isNext _ => formed.leads next isNext, formed.apart⟩

theorem starts_append (formed : Formed tokens) (others : List Token) :
    ∃ first ∈ (tokens ++ others).head?, first.leads := by
  obtain ⟨first, found, leads⟩ := formed.starts
  exact ⟨first, List.mem_head?_append_of_mem_head? found, leads⟩

theorem ends_cons (formed : Formed tokens) (token : Token) :
    ∃ last ∈ (token :: tokens).getLast?, last.awaits = false := by
  obtain ⟨last, found, free⟩ := formed.ends
  refine ⟨last, ?_, free⟩
  rw [List.getLast?_cons, found]
  rfl

theorem atom (atom : token.isAtom) : Formed [token] where
  starts := ⟨token, rfl, by cases token <;> first | rfl | cases atom⟩
  ends := ⟨token, rfl, by cases token <;> first | rfl | cases atom⟩
  apart := .singleton token
  closed depth rest := isBalanced_uncounted (isUncounted_of_isAtom atom) depth rest

theorem behind (formed : Formed tokens) (leads : token.leads) (uncounted : token.isUncounted) :
    Formed (token :: tokens) where
  starts := ⟨token, rfl, leads⟩
  ends := formed.ends_cons token
  apart := formed.apart_cons token
  closed depth rest := by
    rw [List.cons_append, isBalanced_uncounted uncounted, formed.closed]

/-- Whatever awaits an operand may stand between two of them. -/
theorem join (formed : Formed tokens) (awaits : token.awaits) (right : Formed others) :
    Formed (tokens ++ token :: others) where
  starts := formed.starts_append _
  ends := by
    obtain ⟨last, found, free⟩ := right.ends_cons token
    exact ⟨last, List.mem_getLast?_append_of_mem_getLast? found, free⟩
  apart := formed.apart_append (right.apart_cons token)
  closed depth rest := by
    have uncounted : token.isUncounted := by cases token <;> first | rfl | cases awaits
    rw [List.append_assoc, formed.closed, List.cons_append, isBalanced_uncounted uncounted,
      right.closed]

theorem percent (formed : Formed tokens) : Formed (tokens ++ [.percent]) where
  starts := formed.starts_append _
  ends := ⟨.percent, by simp, rfl⟩
  apart := formed.apart_append (.singleton _)
  closed depth rest := by
    rw [List.append_assoc, formed.closed]
    rfl

theorem percents (formed : Formed tokens) (count : Nat) :
    Formed (tokens ++ List.replicate count .percent) := by
  induction count with
  | zero => simpa using formed
  | succ count ih =>
    rw [List.replicate_succ', ← List.append_assoc]
    exact ih.percent

end Formed

/-- The second token closes what the first one opens. -/
inductive Encloses : Token → Token → Prop where
  | parens : Encloses .leftParen .rightParen
  | braces : Encloses .leftBrace .rightBrace

theorem Encloses.formed {opening closing : Token} {inside : List Token}
    (encloses : Encloses opening closing) (formed : inside = [] ∨ Formed inside) :
    Formed (opening :: (inside ++ [closing])) where
  starts := ⟨opening, rfl, by cases encloses <;> rfl⟩
  ends := by
    refine ⟨closing, ?_, by cases encloses <;> rfl⟩
    rw [← List.cons_append]
    exact List.getLast?_concat
  apart := by
    have openingFree : opening.awaits = false := by cases encloses <;> rfl
    refine List.isChain_cons.mpr ⟨fun next _ awaits => by simp [openingFree] at awaits, ?_⟩
    rcases formed with rfl | formed
    · exact .singleton _
    · exact formed.apart_append (.singleton _)
  closed depth rest := by
    have closed : ∀ depth others, isBalanced depth (inside ++ others) = isBalanced depth others := by
      rcases formed with rfl | formed
      · exact fun _ _ => rfl
      · exact formed.closed
    rw [List.cons_append, List.append_assoc]
    cases encloses with
    | parens =>
      rw [isBalanced, closed]
      simp [isBalanced]
    | braces =>
      rw [isBalanced_uncounted rfl, closed]
      rfl

end Token

namespace Grammar

open Token

theorem Writes.awaits {chain : Chain} {token : Token} {op : Operator}
    (writes : Writes chain token op) : token.awaits := by
  cases writes <;> rfl

mutual

/-- The tokens that derive an expression are formed. -/
theorem Derives.formed : Derives category tokens tree need → Formed tokens
  | .part only => only.formed
  | .chain left sign right => left.formed.join sign.awaits right.formed
  | .base only => only.formed
  | .power base exponent => base.formed.join rfl exponent.formed
  | .negated inner => inner.formed.behind rfl rfl
  | .signed inner => inner.formed.behind rfl rfl
  | .percents count inner => inner.formed.percents count
  | .single only => only.formed
  | .corners left right => left.formed.join rfl right.formed
  | .span left right _ => left.formed.join rfl right.formed
  | .number _ => .atom rfl
  | .text _ => .atom rfl
  | .boolean _ => .atom rfl
  | .error _ => .atom rfl
  | .cell _ => .atom rfl
  | .name _ => .atom rfl
  | .emptyCall _ => (Encloses.parens.formed (.inl rfl)).behind rfl rfl
  | .call _ arguments => (Encloses.parens.formed (.inr arguments.formed)).behind rfl rfl
  | .group inner => Encloses.parens.formed (.inr inner.formed)
  | .emptyTable => Encloses.braces.formed (.inl rfl)
  | .table rows => Encloses.braces.formed (.inr rows.formed)

theorem Lists.formed : Lists tokens trees need → Formed tokens
  | .last only => only.formed
  | .more first others => first.formed.join rfl others.formed

theorem Stacks.formed : Stacks tokens rows need → Formed tokens
  | .last only => only.formed
  | .more first below => first.formed.join rfl below.formed

end

theorem formed_of_parse {formula : String} {tree : Expr} (accepted : Expr.parse formula = .ok tree) :
    Formed (Token.scan (Expr.formulaBody formula)) := by
  obtain ⟨need, derived, _⟩ := ofTokens_eq_ok_iff.mp (parse_ok_iff_ofTokens.mp accepted)
  exact derived.formed

end Grammar

namespace Token

/-- The characters that complete a doubled operator, or a comparison that has started. -/
def joints : List Char := ['*', '/', '=', '>']

theorem Written.head_of_leads {chars after : List Char} {token : Token}
    (written : Written chars token after) (leads : token.leads) :
    ∃ c rest, chars = c :: rest ∧ c ∉ joints := by
  cases written with
  | sign sign =>
    unfold sign? at sign
    split at sign <;> cases sign <;> first | exact ⟨_, [], rfl, by decide⟩ | cases leads
  | less => cases leads
  | greater => cases leads
  | pair => cases leads
  | text content => exact ⟨'"', _, rfl, by decide⟩
  | @number c more _ _ shape starts =>
    refine ⟨c, more, rfl, fun joint => ?_⟩
    have others : ∀ c ∈ joints, c.isDigit = false ∧ c ≠ '.' := by decide
    simp [others c joint] at starts
  | error => exact ⟨'#', _, rfl, by decide⟩
  | @name c more _ _ starts =>
    refine ⟨c, more, rfl, fun joint => ?_⟩
    have others : ∀ c ∈ joints, startsName c = false := by decide
    simp [others c joint] at starts

end Token

namespace Lexeme

theorem joint_visible {c : Char} (joint : c ∈ Token.joints) : Text.isBlank c = false := by
  have each : ∀ c ∈ Token.joints, Text.isBlank c = false := by decide
  exact each c joint

/-- The text of an expression starts with no joint. -/
theorem Joined.head_of_leads {trail : List Char} {lexemes : List Lexeme}
    (joined : Joined trail lexemes) (leads : ∃ first ∈ (lexemes.map token).head?, first.leads)
    (rest : List Char) : ∀ c ∈ (textOf lexemes ++ rest).head?, c ∉ Token.joints := by
  cases joined with
  | nil =>
    obtain ⟨first, found, _⟩ := leads
    cases found
  | @cons others lexeme blank written =>
    obtain ⟨_, ⟨⟩, leads⟩ := leads
    obtain ⟨d, more, spelled, apart⟩ := written.head_of_leads leads
    intro c first
    rw [textOf_cons, List.append_assoc, spelled] at first
    cases gap : lexeme.gap with
    | nil =>
      rw [gap] at first
      cases first
      exact apart
    | cons e gapRest =>
      rw [gap] at first
      cases first
      intro joint
      have isBlank := blank c (by simp [gap])
      simp [joint_visible joint] at isBlank

end Lexeme

end PhraseSheet
