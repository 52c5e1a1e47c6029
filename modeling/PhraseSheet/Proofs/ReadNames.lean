import PhraseSheet.Proofs.Renaming

namespace PhraseSheet

open Grammar

namespace Token

/-- The token makes a function of a name in front of it. -/
def opens : Token → Bool
  | .leftParen => true
  | _ => false

/-- The token in front of the others is a name that is not that of a function, or a cell. -/
def isRead (token : Token) (others : List Token) : Bool :=
  match token with
  | .identifier _ => !others.head?.any opens
  | .cell _ => true
  | _ => false

/-- The names and cells among tokens that are read. -/
def reading : List Token → List Token
  | [] => []
  | token :: rest => if isRead token rest then token :: reading rest else reading rest

section

variable {sign : Token}

theorem not_isRead (apart : sign.isAtom = false) (others : List Token) :
    isRead sign others = false := by
  cases sign <;> first | rfl | cases apart

theorem reading_sign (apart : sign.isAtom = false) (tokens : List Token) :
    reading (sign :: tokens) = reading tokens := by
  rw [reading, not_isRead apart]
  rfl

theorem isRead_append (separate : sign.opens = false) (token : Token) (before after : List Token) :
    isRead token (before ++ sign :: after) = isRead token before := by
  cases before with
  | nil => cases token <;> simp [isRead, separate]
  | cons next rest => cases token <;> rfl

/-- What is read on both sides of a sign is read around it. -/
theorem reading_append (apart : sign.isAtom = false) (separate : sign.opens = false)
    (before after : List Token) :
    reading (before ++ sign :: after) = reading before ++ reading after := by
  induction before with
  | nil => exact reading_sign apart after
  | cons token rest ih =>
    rw [List.cons_append, reading, reading, isRead_append separate, ih]
    split <;> rfl

theorem reading_concat (apart : sign.isAtom = false) (separate : sign.opens = false)
    (tokens : List Token) : reading (tokens ++ [sign]) = reading tokens := by
  rw [reading_append apart separate, reading, List.append_nil]

end

theorem reading_percents (tokens : List Token) (count : Nat) :
    reading (tokens ++ List.replicate count .percent) = reading tokens := by
  induction count generalizing tokens with
  | zero => rw [List.replicate_zero, List.append_nil]
  | succ count ih =>
    rw [List.replicate_succ, List.append_cons, ih, reading_concat rfl rfl]

theorem reading_call (function : String) (tokens : List Token) :
    reading (.identifier function :: .leftParen :: tokens) = reading tokens := by
  rw [reading, ← @reading_sign .leftParen rfl tokens]
  rfl

end Token

namespace Expr

mutual

/-- The expression reads these names and cells, in this order. -/
inductive Reads : Expr → List Token → Prop where
  | number (x : Float) : Reads (.number x) []
  | text (content : String) : Reads (.text content) []
  | boolean (truth : Bool) : Reads (.boolean truth) []
  | error (cause : CellError) : Reads (.error cause) []
  | cell (address : Address) : Reads (.cell address) [.cell address]
  | name (label : String) : Reads (.name label) [.identifier label]
  /-- The corners of a range are read in the order in which they are written. -/
  | range (one other : Address) : Reads (.range (.spanning one other)) [.cell one, .cell other]
  | binary (op : Operator) (left : Reads leftTree before) (right : Reads rightTree after) :
      Reads (.binary op leftTree rightTree) (before ++ after)
  | span (left : Reads leftTree before) (right : Reads rightTree after) :
      Reads (.span leftTree rightTree) (before ++ after)
  | unary (sign : Sign) (operand : Reads tree tokens) : Reads (.unary sign tree) tokens
  | call (function : String) (arguments : ReadsEach trees tokens) :
      Reads (.call function trees) tokens
  | array (rows : ReadsRows rowTrees tokens) : Reads (.array rowTrees) tokens

/-- The expressions read these names and cells, one expression after the other. -/
inductive ReadsEach : List Expr → List Token → Prop where
  | nil : ReadsEach [] []
  | cons (first : Reads tree before) (others : ReadsEach trees after) :
      ReadsEach (tree :: trees) (before ++ after)

inductive ReadsRows : List (List Expr) → List Token → Prop where
  | nil : ReadsRows [] []
  | cons (first : ReadsEach row before) (others : ReadsRows rows after) :
      ReadsRows (row :: rows) (before ++ after)

end

theorem Reads.eq_of_cell {address : Address} {tokens : List Token}
    (reads : Reads (.cell address) tokens) : tokens = [.cell address] := by
  cases reads with
  | cell => rfl

theorem Reads.percents {tree : Expr} {tokens : List Token} (reads : Reads tree tokens) (count : Nat) :
    Reads (underPercents count tree) tokens := by
  induction count generalizing tree with
  | zero => exact reads
  | succ count ih => exact ih (reads.unary .percent)

end Expr

namespace Grammar

open Token PhraseSheet.Expr

theorem Writes.separate {chain : Chain} {token : Token} {op : Operator}
    (writes : Writes chain token op) : token.opens = false := by
  cases writes <;> rfl

mutual

/-- An expression reads what is read among the tokens that write it. -/
theorem Derives.reads : Derives category tokens tree need → Reads tree (reading tokens)
  | .part only => only.reads
  | .chain left sign right => by
    rw [reading_append sign.sign.2 sign.separate]
    exact left.reads.binary _ right.reads
  | .base only => only.reads
  | .power base exponent => by
    rw [reading_append rfl rfl]
    exact base.reads.binary _ exponent.reads
  | .negated inner => inner.reads.unary _
  | .signed inner => inner.reads
  | .percents count inner => by
    rw [reading_percents]
    exact inner.reads.percents count
  | .single only => only.reads
  | .corners left right => by
    rw [reading_append rfl rfl, left.reads.eq_of_cell, right.reads.eq_of_cell]
    exact .range _ _
  | .span left right _ => by
    rw [reading_append rfl rfl]
    exact left.reads.span right.reads
  | .number x => .number x
  | .text content => .text content
  | .boolean truth => .boolean truth
  | .error cause => .error cause
  | .cell address => .cell address
  | .name label => .name label
  | .emptyCall function => .call _ .nil
  | .call function arguments => by
    rw [reading_call, reading_concat rfl rfl]
    exact .call _ arguments.reads
  | .group inner => by
    rw [reading_sign rfl, reading_concat rfl rfl]
    exact inner.reads
  | .emptyTable => .array .nil
  | .table rows => by
    rw [reading_sign rfl, reading_concat rfl rfl]
    exact .array rows.reads

theorem Lists.reads : Lists tokens trees need → ReadsEach trees (reading tokens)
  | .last only => by
    rw [← List.append_nil (reading _)]
    exact .cons only.reads .nil
  | .more first others => by
    rw [reading_append rfl rfl]
    exact .cons first.reads others.reads

theorem Stacks.reads : Stacks tokens rows need → ReadsRows rows (reading tokens)
  | .last only => by
    rw [← List.append_nil (reading _)]
    exact .cons only.reads .nil
  | .more first below => by
    rw [reading_append rfl rfl]
    exact .cons first.reads below.reads

end

end Grammar

namespace Token

theorem opens_of_sign {c : Char} {token : Token} (sign : sign? c = some token) :
    (c == '(') = token.opens := by
  unfold sign? at sign
  split at sign <;> cases sign <;> rfl

theorem not_opens_of_isAtom {token : Token} (atom : token.isAtom) : token.opens = false := by
  cases token <;> first | rfl | cases atom

theorem Written.opens {chars after : List Char} {token : Token} (written : Written chars token after) :
    (chars.head? == some '(') = token.opens := by
  cases written with
  | sign sign => exact opens_of_sign sign
  | less => rfl
  | greater => rfl
  | pair op wide =>
    simp only [List.mem_cons, List.not_mem_nil, or_false] at wide
    rcases wide with rfl | rfl | rfl <;> rfl
  | text => rfl
  | number shape starts =>
    refine beq_eq_false_iff_ne.mpr ?_
    rintro ⟨⟩
    cases starts
  | error => rfl
  | name starts goesOn stops reads =>
    rw [← reads, not_opens_of_isAtom (isAtom_nameOf _ _)]
    refine beq_eq_false_iff_ne.mpr ?_
    rintro ⟨⟩
    exact absurd starts (by decide)

end Token

namespace Lexeme

open Token

theorem Joined.beforeParen {trail : List Char} (trailBlank : ∀ c ∈ trail, Text.isBlank c)
    {lexemes : List Lexeme} (joined : Joined trail lexemes) :
    Token.beforeParen (textOf lexemes ++ trail) = (lexemes.map token).head?.any opens := by
  cases joined with
  | nil => exact beforeParen_blank trailBlank
  | @cons rest lexeme blank written called joined =>
    obtain ⟨c, more, spelled, visible⟩ := written.visible
    have opens := written.opens
    rw [spelled, List.head?_cons] at opens
    rw [textOf_cons, List.append_assoc, spelled, List.cons_append, List.cons_append,
      beforeParen_gap blank visible]
    exact opens

/-- The lexemes that are names are the tokens that are read. -/
theorem Joined.reading {trail : List Char} (trailBlank : ∀ c ∈ trail, Text.isBlank c)
    {lexemes : List Lexeme} (joined : Joined trail lexemes) :
    Token.reading (lexemes.map token) = (lexemes.filter isName).map token := by
  induction joined with
  | nil => rfl
  | @cons rest lexeme blank written called joined ih =>
    have same : isRead lexeme.token (rest.map token) = lexeme.isName := by
      have next := called.trans (joined.beforeParen trailBlank)
      unfold isRead isName
      cases lexeme.token with
      | identifier label => exact congrArg not next.symm
      | _ => rfl
    rw [List.map_cons, Token.reading, same, ih, List.filter_cons]
    split <;> rfl

end Lexeme

end PhraseSheet
