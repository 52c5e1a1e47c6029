import PhraseSheet.Proofs.Neighbours
import PhraseSheet.Proofs.Rewriting

/-! White space around operators. The tokens of a formula are the same without it, save where a slash
stands behind an error: there it is taken for a part of the error, and the formula is not read. -/

namespace PhraseSheet

namespace Operator

def token : Operator → Token
  | .arithmetic .add => .plus
  | .arithmetic .subtract => .minus
  | .arithmetic .multiply => .star
  | .arithmetic .divide => .slash
  | .arithmetic .power => .caret
  | .comparison op => .comparison op
  | .join => .ampersand

theorem awaits_token (op : Operator) : op.token.awaits := by
  cases op with
  | arithmetic op => cases op <;> rfl
  | comparison op => rfl
  | join => rfl

/-- The characters that operators start with. -/
def heads : List Char := ['+', '-', '*', '/', '^', '&', '=', '<', '>']

theorem symbol_cons (op : Operator) : ∃ c rest, op.symbol.toList = c :: rest ∧ c ∈ heads ∧
    (c = '/' → op = .arithmetic .divide) := by
  cases op with
  | arithmetic op => cases op <;> exact ⟨_, _, rfl, by decide, by decide⟩
  | comparison op => cases op <;> exact ⟨_, _, rfl, by decide, by decide⟩
  | join => exact ⟨_, _, rfl, by decide, by decide⟩

/-- In front of what starts with no joint, an operator is scanned as its token. -/
theorem scan_symbol (op : Operator) {rest : List Char}
    (apart : ∀ c ∈ rest.head?, c ∉ Token.joints) :
    Token.scan (op.symbol.toList ++ rest) = op.token :: Token.scan rest := by
  have stops : ∀ c ∈ rest.head?, c ≠ '=' ∧ c ≠ '>' := by
    intro c first
    constructor <;> rintro rfl <;> exact apart _ first (by decide)
  cases op with
  | arithmetic op => cases op <;> exact Token.scan_sign rfl rest
  | comparison op => exact Token.scan_comparison op stops
  | join => exact Token.scan_sign rfl rest

end Operator

namespace Token

theorem beforeParen_head {gap : List Char} (blank : ∀ c ∈ gap, Text.isBlank c) {c : Char}
    (head : c ∈ Operator.heads) (rest : List Char) : beforeParen (gap ++ c :: rest) = false := by
  have each : ∀ c ∈ Operator.heads, Text.isBlank c = false ∧ (c == '(') = false := by decide
  rw [Lexeme.beforeParen_gap blank (each c head).1, (each c head).2]

variable {chars after : List Char} {token : Token} {c : Char}

/-- An operator ends the token in front of it, unless it is a slash behind an error. -/
theorem Written.before_head (written : Written chars token after) (free : token.awaits = false)
    (paren : beforeParen after = false) (head : c ∈ Operator.heads)
    (kept : c = '/' → ∀ cause, token ≠ .error cause) (rest : List Char) :
    Written chars token (c :: rest) := by
  have each : ∀ c ∈ Operator.heads,
      continuesName c = false ∧ c ≠ '"' ∧ (c ≠ '/' → isErrorChar c = false) := by
    decide
  obtain ⟨noName, noQuote, noError⟩ := each c head
  have apart : Apart (c :: rest) := by
    rintro _ ⟨⟩
    exact noName
  cases written with
  | sign sign => exact .sign sign
  | less => cases free
  | greater => cases free
  | pair => cases free
  | text content =>
    refine .text content ?_
    rintro _ ⟨⟩
    exact noQuote
  | number shape starts reads => exact .number shape starts reads apart
  | error run stops reads =>
    refine .error run ?_ reads apart
    rintro _ ⟨⟩
    exact noError fun slash => kept slash _ rfl
  | name starts goesOn stops reads =>
    have same := paren.trans (beforeParen_head (List.forall_mem_nil _) head rest).symm
    rw [nameOf_congr same] at reads
    exact .name starts goesOn apart reads

theorem Written.before_gap (written : Written chars token after) (free : token.awaits = false)
    (blank : ∀ c ∈ after, Text.isBlank c) {gap : List Char} (gapBlank : ∀ c ∈ gap, Text.isBlank c)
    (head : c ∈ Operator.heads) (kept : gap = [] → c = '/' → ∀ cause, token ≠ .error cause)
    (rest : List Char) : Written chars token (gap ++ c :: rest) := by
  have paren := Lexeme.beforeParen_blank blank
  cases gap with
  | nil => exact written.before_head free paren head (kept rfl) rest
  | cons d gap =>
    have same := paren.trans (beforeParen_head gapBlank head rest).symm
    refine written.alike (.inr (.inl ⟨fun c first => blank c (List.mem_of_mem_head? first), ?_⟩)) same
    rintro _ ⟨⟩
    exact gapBlank d List.mem_cons_self

end Token

namespace Lexeme

open Token

variable {trail : List Char} {lexemes : List Lexeme}

/-- The text of lexemes starts alike whatever stands behind it. -/
theorem Joined.alike (joined : Joined trail lexemes) (any : lexemes ≠ []) (rest others : List Char) :
    Token.Alike (textOf lexemes ++ rest) (textOf lexemes ++ others) ∧
      Token.beforeParen (textOf lexemes ++ rest) = Token.beforeParen (textOf lexemes ++ others) := by
  cases joined with
  | nil => exact absurd rfl any
  | cons blank written =>
    simp only [textOf_cons, List.append_assoc]
    exact alike_textOf blank written.visible (.inl rfl) _ _

/-- What stands behind lexemes matters to the last one only. -/
theorem Joined.behind (joined : Joined trail lexemes) {others : List Char}
    (fits : ∀ last ∈ lexemes.getLast?, Written last.chars last.token trail →
      Written last.chars last.token others)
    (paren : Token.beforeParen trail = Token.beforeParen others) : Joined others lexemes := by
  induction joined with
  | nil => exact .nil
  | @cons rest lexeme blank written called joined ih =>
    cases rest with
    | nil => exact .cons blank (fits lexeme rfl written) (called.trans paren) .nil
    | cons next more =>
      obtain ⟨alike, same⟩ := joined.alike (List.cons_ne_nil next more) trail others
      exact .cons blank (written.alike alike same) (called.trans same) (ih fits)

end Lexeme

namespace Token

variable {chars after : List Char} {cause : CellError}

theorem Written.error_chars (written : Written chars (.error cause) after) :
    ∃ more, chars = '#' :: more ∧ (∀ c ∈ more, isErrorChar c) ∧
      CellError.ofText? (String.ofList ('#' :: more)) = some cause := by
  cases written with
  | sign sign =>
    unfold sign? at sign
    split at sign <;> cases sign
  | error run stops reads => exact ⟨_, rfl, run, reads⟩
  | name starts goesOn stops reads =>
    unfold nameOf at reads
    dsimp only at reads
    repeat' split at reads
    all_goals cases reads

theorem ofText?_slash {more longer : List Char} (inside : ∀ c ∈ more ++ '/' :: longer, isErrorChar c)
    (reads : CellError.ofText? (String.ofList ('#' :: more)) = some cause) :
    CellError.ofText? (String.ofList ('#' :: (more ++ '/' :: longer))) = none := by
  have texts : ∀ cause ∈ CellError.all, ∀ other ∈ CellError.all,
      ¬ (cause.text.toList ++ ['/']) <+: other.text.toList := by
    decide
  have run : ∀ c ∈ more, isErrorChar c := fun c member => inside c (List.mem_append_left _ member)
  rw [Option.eq_none_iff_forall_ne_some]
  intro other readsLonger
  refine texts cause cause.mem_all other other.mem_all ⟨longer.map Char.toUpper, ?_⟩
  rw [FormulaPart.text_of_ofText? run reads, FormulaPart.text_of_ofText? inside readsLonger]
  simp

/-- A slash behind an error, and whatever goes on with it, makes no token of the error. -/
theorem Written.scan_slash (written : Written chars (.error cause) after) (rest : List Char) :
    ∃ content others, Token.scan (chars ++ '/' :: rest) = .invalid content :: others := by
  obtain ⟨more, rfl, run, reads⟩ := written.error_chars
  obtain ⟨longer, left, rfl, goesOn, stops, _⟩ := exists_run isErrorChar rest
  have inside : ∀ c ∈ more ++ '/' :: longer, isErrorChar c := by
    rw [List.forall_mem_append, List.forall_mem_cons]
    exact ⟨run, rfl, goesOn⟩
  have split : more ++ '/' :: (longer ++ left) = (more ++ '/' :: longer) ++ left := by simp
  rw [List.cons_append, split, scan_cons (by decide), scanFrom_error, takeWhile_run inside stops]
  simp only [taking, List.take_left, List.drop_left]
  rw [errorOf, ofText?_slash inside reads]
  exact ⟨_, _, rfl⟩

def isError : Token → Bool
  | .error _ => true
  | _ => false

theorem isError_iff {token : Token} : token.isError ↔ ∃ cause, token = .error cause := by
  cases token <;> simp [isError]

theorem Settled.isPart {tokens : List Token} (settled : Settled tokens) :
    ∀ token ∈ tokens, token.isPart := by
  induction tokens with
  | nil => exact List.forall_mem_nil _
  | cons token rest ih => exact List.forall_mem_cons.mpr ⟨settled.1, ih settled.2.2⟩

end Token

namespace Lexeme

variable {lexemes : List Lexeme}

/-- With a slash behind an error that ends them, lexemes are no part of a formula. -/
theorem Joined.scan_slash (joined : Joined [] lexemes)
    (last : (lexemes.map token).getLast?.any Token.isError) (rest : List Char) :
    ∃ token ∈ Token.scan (textOf lexemes ++ '/' :: rest), token.isPart = false := by
  induction joined with
  | nil => cases last
  | @cons others lexeme blank written called joined ih =>
    rw [textOf_cons, List.append_assoc, scan_gap blank, List.append_assoc]
    cases others with
    | nil =>
      obtain ⟨cause, isError⟩ : ∃ cause, lexeme.token = .error cause := Token.isError_iff.mp last
      rw [isError] at written
      obtain ⟨content, tokens, scanned⟩ := written.scan_slash rest
      have same : textOf [] ++ '/' :: rest = '/' :: rest := rfl
      rw [same, scanned]
      exact ⟨_, List.mem_cons_self, rfl⟩
    | cons next more =>
      obtain ⟨alike, same⟩ := joined.alike (List.cons_ne_nil next more) [] ('/' :: rest)
      obtain ⟨token, member, noPart⟩ := ih last
      rw [(written.alike alike same).scan]
      exact ⟨token, List.mem_cons_of_mem _ member, noPart⟩

/-- Behind lexemes, an operator is scanned as its token, if no slash stands behind an error. -/
theorem Joined.scan_operator {trail gap rest : List Char} (joined : Joined trail lexemes)
    (blank : ∀ c ∈ trail, Text.isBlank c) (op : Operator) (gapBlank : ∀ c ∈ gap, Text.isBlank c)
    (free : ∀ last ∈ (lexemes.map token).getLast?, last.awaits = false)
    (kept : gap = [] → op = .arithmetic .divide →
      (lexemes.map token).getLast?.any Token.isError = false)
    (apart : ∀ c ∈ rest.head?, c ∉ Token.joints) :
    Token.scan (textOf lexemes ++ (gap ++ (op.symbol.toList ++ rest))) =
      lexemes.map token ++ op.token :: Token.scan rest := by
  obtain ⟨c, more, symbol, head, slash⟩ := op.symbol_cons
  have paren := (beforeParen_blank blank).trans
    (Token.beforeParen_head gapBlank head (more ++ rest)).symm
  have behind : Joined (gap ++ c :: (more ++ rest)) lexemes := by
    refine joined.behind (fun last found written => ?_) paren
    have isLast : (lexemes.map token).getLast? = some last.token := by
      rw [List.getLast?_map, found]
      rfl
    refine written.before_gap (free _ isLast) blank gapBlank head ?_ _
    intro none isSlash cause isError
    have noError := kept none (slash isSlash)
    rw [isLast, isError] at noError
    cases noError
  have scanned := behind.scan_append
  rwa [scan_gap gapBlank, ← List.cons_append, ← symbol, op.scan_symbol apart] at scanned

end Lexeme

namespace Expr

/-- The text of a formula ends with an error, and no white space stands behind it. -/
def EndsInError (formula : String) : Prop :=
  EndsVisibly formula.toList ∧ (Token.scan (formulaBody formula)).getLast?.any Token.isError

end Expr

namespace Lexeme.Layout

open PhraseSheet.Expr

variable {formula other whole : String} {lexemes otherLexemes : List Lexeme}
  {front trail otherFront otherTrail : List Char}

theorem endsVisibly_iff (layout : Layout formula lexemes front trail) :
    EndsVisibly formula.toList ↔ trail = [] := by
  rw [layout.whole]
  constructor
  · intro ends
    by_contra any
    have last : (front ++ (textOf lexemes ++ trail)).getLast? = some (trail.getLast any) := by
      rw [List.getLast?_append, List.getLast?_append, List.getLast?_eq_some_getLast any]
      rfl
    have isBlank := layout.blank _ (List.getLast_mem any)
    simp [ends _ last] at isBlank
  · rintro rfl
    rw [List.append_nil]
    exact layout.endsVisibly.behind layout.any front

/-- The body of a formula with more text behind it, up to white space. -/
theorem formulaBody_append (layout : Layout formula lexemes front trail) {others blanks : List Char}
    (ends : EndsVisibly others) (any : others ≠ []) (blank : ∀ c ∈ blanks, Text.isBlank c)
    (text : whole.toList = formula.toList ++ (others ++ blanks)) :
    formulaBody whole = textOf lexemes ++ (trail ++ others) := by
  have same : (textOf lexemes ++ trail).head? = (textOf lexemes ++ (trail ++ others)).head? := by
    obtain ⟨c, rest, starts⟩ := List.exists_cons_of_ne_nil layout.any
    rw [starts]
    rfl
  have fronts := layout.fronts.alike (.inl same) (by simp [layout.any])
  have behind : EndsVisibly (textOf lexemes ++ (trail ++ others)) :=
    (ends.behind any trail).behind (by simp [any]) _
  have body := formulaBody_of_fronts fronts behind (by simp [any]) blank
  have spelled : front ++ (textOf lexemes ++ (trail ++ others) ++ blanks) = whole.toList := by
    rw [text, layout.whole]
    simp
  rwa [spelled, String.ofList_toList] at body

/-- A formula, an operator with white space or none around it, and another formula are scanned as the
tokens of the first, the operator and the tokens of the other one. -/
theorem scan_operator (layout : Layout formula lexemes front trail)
    (otherLayout : Layout other otherLexemes otherFront otherTrail) (op : Operator)
    (gap otherGap : List Char) (blank : ∀ c ∈ gap, Text.isBlank c)
    (otherBlank : ∀ c ∈ otherGap, Text.isBlank c)
    (free : ∀ last ∈ (lexemes.map token).getLast?, last.awaits = false)
    (kept : trail ++ gap = [] → op = .arithmetic .divide →
      (lexemes.map token).getLast?.any Token.isError = false)
    (apart : ∀ c ∈ (otherGap ++ (otherFront ++ textOf otherLexemes)).head?, c ∉ Token.joints)
    (text : whole.toList =
      formula.toList ++ (gap ++ (op.symbol.toList ++ (otherGap ++ other.toList)))) :
    Token.scan (formulaBody whole) =
      lexemes.map token ++ op.token :: Token.scan (otherFront ++ textOf otherLexemes) := by
  have otherEnds : EndsVisibly (otherGap ++ (otherFront ++ textOf otherLexemes)) :=
    (otherLayout.endsVisibly.behind otherLayout.any _).behind (by simp [otherLayout.any]) _
  have ends : EndsVisibly
      (gap ++ (op.symbol.toList ++ (otherGap ++ (otherFront ++ textOf otherLexemes)))) :=
    (otherEnds.behind (by simp [otherLayout.any]) _).behind (by simp [otherLayout.any]) _
  have spelled : whole.toList = formula.toList ++
      ((gap ++ (op.symbol.toList ++ (otherGap ++ (otherFront ++ textOf otherLexemes)))) ++
        otherTrail) := by
    rw [text, otherLayout.whole]
    simp
  have gaps : ∀ c ∈ trail ++ gap, Text.isBlank c :=
    List.forall_mem_append.mpr ⟨layout.blank, blank⟩
  have scanned := layout.joined.scan_operator layout.blank op gaps free kept apart
  rw [scan_gap otherBlank, List.append_assoc] at scanned
  rw [layout.formulaBody_append ends (by simp [otherLayout.any]) otherLayout.blank spelled, scanned]

theorem isBlank_front (layout : Layout formula lexemes front trail)
    (leads : ∀ first ∈ (Token.scan (front ++ textOf lexemes)).head?, first.leads) :
    ∀ c ∈ front, Text.isBlank c := by
  cases layout.fronts with
  | bare blank => exact blank
  | marked blank =>
    rw [List.append_assoc, scan_gap blank, List.singleton_append, Token.scan_sign rfl] at leads
    exact absurd (leads _ rfl) (by decide)

theorem head_apart (layout : Layout formula lexemes front trail) (blank : ∀ c ∈ front, Text.isBlank c)
    (formed : Token.Formed (lexemes.map token)) :
    ∀ c ∈ (front ++ textOf lexemes).head?, c ∉ Token.joints := by
  intro c first joint
  cases front with
  | nil =>
    have apart := layout.joined.head_of_leads formed.starts []
    rw [List.append_nil] at apart
    exact apart c first joint
  | cons d front =>
    cases first
    have isBlank := blank c List.mem_cons_self
    simp [joint_visible joint] at isBlank

end Lexeme.Layout

namespace Expr

open Lexeme

/-- A slash directly behind an error keeps a formula from being read. -/
theorem parse_slash_ne_ok {first second : String} {left right : Expr}
    (firstRead : parse first = .ok left) (secondRead : parse second = .ok right)
    (ends : EndsInError first) (whole : Expr) : parse (first ++ "/" ++ second) ≠ .ok whole := by
  intro read
  obtain ⟨front, trail, layout⟩ := exists_layout firstRead
  obtain ⟨otherFront, otherTrail, otherLayout⟩ := exists_layout secondRead
  obtain ⟨visibly, isError⟩ := ends
  cases layout.endsVisibly_iff.mp visibly
  have otherEnds : EndsVisibly ('/' :: (otherFront ++ textOf (split (formulaBody second)))) :=
    (otherLayout.endsVisibly.behind otherLayout.any _).cons (by decide)
  have text : (first ++ "/" ++ second).toList = first.toList ++
      (('/' :: (otherFront ++ textOf (split (formulaBody second)))) ++ otherTrail) := by
    simp [otherLayout.whole]
  have body := layout.formulaBody_append otherEnds (by simp) otherLayout.blank text
  rw [← map_token_split] at isError
  obtain ⟨token, member, noPart⟩ := layout.joined.scan_slash isError
    (otherFront ++ textOf (split (formulaBody second)))
  have settled := (Grammar.settled_of_parse read).1
  rw [body, List.nil_append] at settled
  simp [settled.isPart token member] at noPart

/-- Two formulas that are read may be written with an operator between them and no white space, if they
are read with white space around it, unless this puts a slash directly behind an error. -/
theorem parse_unspaced_iff {first second : String} {left right whole : Expr}
    (firstRead : parse first = .ok left) (secondRead : parse second = .ok right) (op : Operator)
    (spaced : parse (first ++ " " ++ op.symbol ++ " " ++ second) = .ok whole) :
    parse (first ++ op.symbol ++ second) = .ok whole ↔
      ¬ (op = .arithmetic .divide ∧ EndsInError first) := by
  obtain ⟨front, trail, layout⟩ := exists_layout firstRead
  obtain ⟨otherFront, otherTrail, otherLayout⟩ := exists_layout secondRead
  have formed := Grammar.formed_of_parse firstRead
  have otherFormed := Grammar.formed_of_parse secondRead
  rw [← map_token_split] at formed otherFormed
  have spacedText : (first ++ " " ++ op.symbol ++ " " ++ second).toList =
      first.toList ++ ([' '] ++ (op.symbol.toList ++ ([' '] ++ second.toList))) := by
    simp
  have spacedScan := layout.scan_operator otherLayout op [' '] [' '] (by decide) (by decide)
    formed.free (by simp) (by rintro _ ⟨⟩; decide) spacedText
  have leads : ∀ first ∈ (Token.scan (otherFront ++ textOf (split (formulaBody second)))).head?,
      first.leads := by
    have apart := (Grammar.formed_of_parse spaced).apart
    rw [spacedScan] at apart
    have next := (List.isChain_cons.mp (List.isChain_append.mp apart).2.1).1
    exact fun first found => next first found op.awaits_token
  have blank := otherLayout.isBlank_front leads
  have text : (first ++ op.symbol ++ second).toList =
      first.toList ++ ([] ++ (op.symbol.toList ++ ([] ++ second.toList))) := by
    simp
  constructor
  · rintro read ⟨rfl, ends⟩
    exact parse_slash_ne_ok firstRead secondRead ends whole read
  · intro kept
    have scanned := layout.scan_operator otherLayout op [] [] (List.forall_mem_nil _)
      (List.forall_mem_nil _) formed.free ?_ (otherLayout.head_apart blank otherFormed) text
    · rw [Grammar.parse_ok_iff_ofTokens] at spaced ⊢
      rw [scanned, ← spacedScan]
      exact spaced
    · intro none isDivide
      rw [List.append_nil] at none
      rw [map_token_split, ← Bool.not_eq_true]
      exact fun isError => kept ⟨isDivide, layout.endsVisibly_iff.mpr none, isError⟩

/-- An error is divided with white space only, while a minus sign may stand behind any operator. -/
theorem parse_unspaced_iff_slash :
    (∃ whole, parse ("#REF!" ++ " " ++ "/" ++ " " ++ "2") = .ok whole ∧
      parse ("#REF!" ++ "/" ++ "2") ≠ .ok whole) ∧
    ∃ whole, parse ("1e5" ++ " " ++ "<" ++ " " ++ "-A1") = .ok whole ∧
      parse ("1e5" ++ "<" ++ "-A1") = .ok whole := by
  have accepts : ∀ formula ∈ ["#REF!", "2", "1e5", "-A1", "#REF!" ++ " " ++ "/" ++ " " ++ "2",
      "1e5" ++ " " ++ "<" ++ " " ++ "-A1"], (parse formula).toOption.isSome := by
    decide +kernel
  simp only [List.forall_mem_cons] at accepts
  obtain ⟨error, two, number, negated, divided, compared, _⟩ := accepts
  obtain ⟨_, error⟩ := exists_of_isSome error
  obtain ⟨_, two⟩ := exists_of_isSome two
  obtain ⟨_, number⟩ := exists_of_isSome number
  obtain ⟨_, negated⟩ := exists_of_isSome negated
  obtain ⟨whole, divided⟩ := exists_of_isSome divided
  obtain ⟨other, compared⟩ := exists_of_isSome compared
  have ends : EndsInError "#REF!" := by
    refine ⟨?_, by decide +kernel⟩
    rintro _ ⟨⟩
    decide
  refine ⟨⟨whole, divided, fun read => ?_⟩, other, compared, ?_⟩
  · exact (parse_unspaced_iff error two (.arithmetic .divide) divided).mp read ⟨rfl, ends⟩
  · refine (parse_unspaced_iff number negated (.comparison .less) compared).mpr ?_
    rintro ⟨isDivide, _⟩
    cases isDivide

end Expr

end PhraseSheet
