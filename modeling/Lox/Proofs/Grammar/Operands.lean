/-
Whatever expression the grammar derives is read, and nothing else is made of it than the tree of the
derivation. A parser that comes to the tokens of a derivation takes just these, provided that what
follows them does not go on with the phrase, as an operator behind an operand would.

The loops of the parsers are followed from the left. For operands with operators between them, and
for callees with what they are called with, the theorem says with which tree the loop goes on, not
how it ends, since a longer phrase may be on its way.
-/

import Lox.Proofs.Grammar.Begins

namespace Lox.Grammar

variable {α β : Type}

/-! ### Steps of parsers -/

theorem Sign.isMark_token {mark : Mark} (sign : Sign mark) : sign.token.isMark mark = true :=
  beq_self_eq_true mark

/-- A sign that is expected is taken. -/
theorem expect_sign {mark : Mark} (sign : Sign mark) (role : String) (rest : List Token)
    (low : Reference) :
    expect mark role ⟨sign.token :: rest, low⟩ = .ok sign.token ⟨rest, low⟩ := by
  have taken : expect mark role ⟨sign.token :: rest, low⟩ =
      (if sign.token.isMark mark then (do advance; return sign.token)
        else throw ⟨sign.token, .missingMark mark role⟩ : Parser Token)
        ⟨sign.token :: rest, low⟩ := rfl
  rw [taken, sign.isMark_token]
  rfl

theorem expectName_name (name : Identifier) (role : String) (rest : List Token)
    (low : Reference) :
    expectName role ⟨name.token :: rest, low⟩ = .ok name ⟨rest, low⟩ := rfl

theorem accept_sign {mark : Mark} (sign : Sign mark) (rest : List Token) (low : Reference) :
    accept mark ⟨sign.token :: rest, low⟩ = .ok true ⟨rest, low⟩ := by
  have taken : accept mark ⟨sign.token :: rest, low⟩ =
      (if sign.token.isMark mark then (do advance; return true) else return false : Parser Bool)
        ⟨sign.token :: rest, low⟩ := rfl
  rw [taken, sign.isMark_token]
  rfl

theorem accept_other {mark : Mark} {rest : List Token} {low : Reference}
    (other : (firstToken rest).isMark mark = false) :
    accept mark ⟨rest, low⟩ = .ok false ⟨rest, low⟩ := by
  have kept : accept mark ⟨rest, low⟩ =
      (if (firstToken rest).isMark mark then (do advance; return true) else return false :
        Parser Bool) ⟨rest, low⟩ := rfl
  rw [kept, other]
  rfl

theorem peek_eq (state : State) : peek state = .ok (firstToken state.rest) state := rfl

theorem nextIs_eq (mark : Mark) (rest : List Token) (low : Reference) :
    nextIs mark ⟨rest, low⟩ = .ok ((firstToken rest).isMark mark) ⟨rest, low⟩ := rfl

theorem recovering_ok {parser : Parser α} {state after : State} {value : α}
    (ended : parser state = .ok value after) : recovering parser state = .ok value after := by
  rw [recovering, ended]

theorem recovering_error {parser : Parser α} {state after : State} {error : SyntaxError}
    (ended : parser state = .error error after) :
    recovering parser state = .error error ⟨synchronize after.rest, after.nextReference⟩ := by
  rw [recovering, ended]

/-! ### What it means to be read -/

/-- The tokens behind a list of declarations: a closing brace or the end. -/
def Closes (rest : List Token) : Prop :=
  ((firstToken rest).isMark .rightBrace || atEnd rest) = true

/-- What the parser of the symbol makes of the tokens of the derivation, at a depth that the tokens
do not exceed. -/
def Derivation.Read : {symbol : Symbol} → Derivation symbol → Prop
  | .program, _ => True
  | .loneExpression, _ => True
  | .declarations, derivation => ∀ depth limit rest low,
    (derivation.write rest).length < depth → (derivation.write rest).length ≤ limit →
    derivation.Regular rest → Closes rest →
    untilBrace (declaration depth) limit ⟨derivation.write rest, low⟩ =
      .ok (derivation.tree low) ⟨rest, low + derivation.drawn⟩
  | .declaration, derivation => ∀ depth rest low, (derivation.write rest).length ≤ depth →
    derivation.Regular rest →
    (nested depth).wholeDeclaration ⟨derivation.write rest, low⟩ =
      .ok (derivation.tree low) ⟨rest, low + derivation.drawn⟩
  | .methods, derivation => ∀ depth limit rest low, (derivation.write rest).length ≤ depth →
    (derivation.write rest).length ≤ limit → derivation.Regular rest → Closes rest →
    untilBrace ((nested depth).namedFunction "method") limit ⟨derivation.write rest, low⟩ =
      .ok (derivation.tree low) ⟨rest, low + derivation.drawn⟩
  | .function, derivation => ∀ depth kind rest low, (derivation.write rest).length ≤ depth →
    derivation.Regular rest →
    (nested depth).namedFunction kind ⟨derivation.write rest, low⟩ =
      .ok (derivation.tree low) ⟨rest, low + derivation.drawn⟩
  | .block, derivation => ∀ depth rest low, (derivation.write rest).length ≤ depth →
    derivation.Regular rest →
    ∃ (opening : Sign .leftBrace) (tail : List Token),
      derivation.write rest = opening.token :: tail ∧
      (nested depth).block ⟨tail, low⟩ =
        .ok (derivation.tree low) ⟨rest, low + derivation.drawn⟩
  | .variable, derivation => ∀ depth rest low, (derivation.write rest).length ≤ depth →
    derivation.Regular rest →
    ∃ (word : Sign .varWord) (tail : List Token), derivation.write rest = word.token :: tail ∧
      (nested depth).variableDeclaration ⟨tail, low⟩ =
        .ok (derivation.tree low) ⟨rest, low + derivation.drawn⟩
  | .statement, derivation => ∀ depth rest low, (derivation.write rest).length ≤ depth →
    derivation.Regular rest →
    (nested depth).wholeStatement ⟨derivation.write rest, low⟩ =
      .ok (derivation.tree low) ⟨rest, low + derivation.drawn⟩
  | .expressionStatement, derivation => ∀ depth rest low,
    (derivation.write rest).length ≤ depth → derivation.Regular rest →
    (nested depth).expressionStatement ⟨derivation.write rest, low⟩ =
      .ok (derivation.tree low) ⟨rest, low + derivation.drawn⟩
  | .loopInitializer, derivation => ∀ depth rest low, (derivation.write rest).length ≤ depth →
    derivation.Regular rest →
    (nested depth).forInitializer ⟨derivation.write rest, low⟩ =
      .ok (derivation.tree low) ⟨rest, low + derivation.drawn⟩
  | .optionalExpression, derivation => ∀ depth mark rest low,
    (derivation.write rest).length ≤ depth → derivation.Regular rest → Ends 1 rest →
    (firstToken rest).isMark mark = true → beginsLikeExpression mark = false →
    (nested depth).expressionUnless mark ⟨derivation.write rest, low⟩ =
      .ok (derivation.tree low) ⟨rest, low + derivation.drawn⟩
  | .expression, derivation => ∀ depth rest low, (derivation.write rest).length ≤ depth →
    derivation.Regular rest → Ends 1 rest →
    (nested depth).wholeExpression ⟨derivation.write rest, low⟩ =
      .ok (derivation.tree low) ⟨rest, low + derivation.drawn⟩
  | .operands (some tier), derivation => ∀ depth rest low,
    (derivation.write rest).length ≤ depth → derivation.Regular rest →
    Ends (level tier.tighter) rest →
    ∃ room, rest.length < room ∧
      (nested depth).operands (some tier) ⟨derivation.write rest, low⟩ =
        leftAssociative.continueFrom ((nested depth).operands tier.tighter) tier.join? room
          (derivation.tree low) ⟨rest, low + derivation.drawn⟩
  | .operands none, derivation => ∀ depth limit rest low,
    (derivation.write rest).length ≤ depth → (derivation.write rest).length ≤ limit →
    derivation.Regular rest → Ends (level none) rest →
    (nested depth).unaryWithin limit ⟨derivation.write rest, low⟩ =
      .ok (derivation.tree low) ⟨rest, low + derivation.drawn⟩
  | .call, derivation => ∀ depth rest low, (derivation.write rest).length ≤ depth →
    derivation.Regular rest →
    ∃ room, rest.length < room ∧
      (nested depth).call ⟨derivation.write rest, low⟩ =
        (nested depth).calls room (derivation.tree low) ⟨rest, low + derivation.drawn⟩
  | .arguments, derivation => ∀ depth room rest low, (derivation.write rest).length < depth →
    (derivation.tree low).length ≤ room → derivation.Regular rest → Ends 1 rest →
    (firstToken rest).isMark .comma = false →
    commaSeparated "arguments" (expression depth) room ⟨derivation.write rest, low⟩ =
      .ok (derivation.tree low) ⟨rest, low + derivation.drawn⟩
  | .primary, derivation => ∀ depth rest low, (derivation.write rest).length ≤ depth →
    derivation.Regular rest →
    (nested depth).primary ⟨derivation.write rest, low⟩ =
      .ok (derivation.tree low) ⟨rest, low + derivation.drawn⟩

namespace Derivation

variable {depth : Nat} {rest : List Token} {low : Reference}

/-! ### Nested phrases -/

theorem Read.nestedExpression {inner : Derivation .expression} (read : inner.Read)
    (short : (inner.write rest).length < depth) (regular : inner.Regular rest)
    (ends : Ends 1 rest) :
    expression depth ⟨inner.write rest, low⟩ = .ok (inner.tree low) ⟨rest, low + inner.drawn⟩ := by
  cases depth with
  | zero => exact absurd short (Nat.not_lt_zero _)
  | succ depth => exact read depth rest low (Nat.le_of_lt_succ short) regular ends

theorem Read.nestedStatement {inner : Derivation .statement} (read : inner.Read)
    (short : (inner.write rest).length < depth) (regular : inner.Regular rest) :
    statement depth ⟨inner.write rest, low⟩ = .ok (inner.tree low) ⟨rest, low + inner.drawn⟩ := by
  cases depth with
  | zero => exact absurd short (Nat.not_lt_zero _)
  | succ depth => exact read depth rest low (Nat.le_of_lt_succ short) regular

theorem Read.nestedDeclaration {inner : Derivation .declaration} (read : inner.Read)
    (short : (inner.write rest).length < depth) (regular : inner.Regular rest) :
    declaration depth ⟨inner.write rest, low⟩ =
      .ok (inner.tree low) ⟨rest, low + inner.drawn⟩ := by
  cases depth with
  | zero => exact absurd short (Nat.not_lt_zero _)
  | succ depth => exact read depth rest low (Nat.le_of_lt_succ short) regular

/-! ### Lists in parentheses -/

theorem parameters_read (parameters : Parameters) (room : Nat) (role : String)
    (enough : parameters.names.length ≤ room)
    (noComma : (firstToken rest).isMark .comma = false) :
    commaSeparated "parameters" (expectName role) room ⟨parameters.write rest, low⟩ =
      .ok parameters.names ⟨rest, low⟩ := by
  induction parameters generalizing room with
  | last name =>
    cases room with
    | zero => exact absurd enough (Nat.not_succ_le_zero _)
    | succ room =>
      refine (bind_ok (expectName_name name role rest low)).trans ?_
      exact bind_ok (accept_other noComma)
  | more name comma others inductionHypothesis =>
    cases room with
    | zero => exact absurd enough (Nat.not_succ_le_zero _)
    | succ room =>
      refine (bind_ok (expectName_name name role _ low)).trans ?_
      refine (bind_ok (accept_sign comma _ low)).trans ?_
      exact bind_ok (inductionHypothesis room (Nat.le_of_succ_le_succ enough))

/-- A list whose entries are read, up to its closing parenthesis. -/
theorem parenthesised_ok {Entry : Type} {entries : String} {entry : Parser Entry}
    {tokens : List Token} {found : List Entry} {high : Reference} (closing : Sign .rightParen)
    (begins : (firstToken tokens).isMark .rightParen = false)
    (read : commaSeparated entries entry maximalEntries ⟨tokens, low⟩ =
      .ok found ⟨closing.token :: rest, high⟩) :
    parenthesised entries entry ⟨tokens, low⟩ = .ok (found, closing.token) ⟨rest, high⟩ := by
  have inside : entriesInside entries entry ⟨tokens, low⟩ =
      .ok found ⟨closing.token :: rest, high⟩ := by
    refine (bind_ok (nextIs_eq .rightParen tokens low)).trans ?_
    rw [begins]
    exact read
  exact (bind_ok inside).trans (bind_ok (expect_sign closing _ rest high))

theorem parenthesised_nothing {Entry : Type} (entries : String) (entry : Parser Entry)
    (closing : Sign .rightParen) (rest : List Token) (low : Reference) :
    parenthesised entries entry ⟨closing.token :: rest, low⟩ =
      .ok ([], closing.token) ⟨rest, low⟩ := by
  have inside : entriesInside entries entry ⟨closing.token :: rest, low⟩ =
      .ok [] ⟨closing.token :: rest, low⟩ := rfl
  exact (bind_ok inside).trans (bind_ok (expect_sign closing _ rest low))

theorem parametersInParentheses (parameters : Option Parameters) (role : String)
    (closing : Sign .rightParen) (enough : (parameterNames parameters).length ≤ 255) :
    parenthesised "parameters" (expectName role)
        ⟨writeParameters (closing.token :: rest) parameters, low⟩ =
      .ok (parameterNames parameters, closing.token) ⟨rest, low⟩ := by
  cases parameters with
  | none => exact parenthesised_nothing _ _ closing rest low
  | some parameters =>
    refine parenthesised_ok closing ?_ (parameters_read parameters _ role enough rfl)
    cases parameters <;> rfl

/-! ### Blocks and functions -/

theorem functionTail_read {body : Derivation .block} (read : body.Read) (kind role : String)
    (name : Option Identifier) (opening : Sign .leftParen) (parameters : Option Parameters)
    (closing : Sign .rightParen) (enough : (parameterNames parameters).length ≤ 255)
    (short : (body.write rest).length ≤ depth) (regular : body.Regular rest) :
    (nested depth).functionTail kind role name
        ⟨opening.token :: writeParameters (closing.token :: body.write rest) parameters, low⟩ =
      .ok (.mk name (parameterNames parameters) (body.tree low)) ⟨rest, low + body.drawn⟩ := by
  obtain ⟨brace, tail, isTail, block⟩ := read depth rest low short regular
  rw [isTail]
  refine (bind_ok (expect_sign opening role _ low)).trans ?_
  refine (bind_ok (parametersInParentheses parameters _ closing enough)).trans ?_
  refine (bind_ok (expect_sign brace _ tail low)).trans ?_
  exact bind_ok block

/-! ### Primary expressions and calls -/

theorem grouping_read {inner : Derivation .expression} (read : inner.Read)
    (opening : Sign .leftParen) (closing : Sign .rightParen) :
    (grouping opening inner closing).Read := by
  intro depth rest low short regular
  have taken : (nested depth).primary ⟨opening.token :: inner.write (closing.token :: rest), low⟩ =
      (do
        let inner ← expression depth
        let _ ← expect .rightParen "after expression"
        return .grouping inner : Parser Expression)
        ⟨inner.write (closing.token :: rest), low⟩ := rfl
  refine taken.trans ((bind_ok (read.nestedExpression short regular Nat.one_pos)).trans ?_)
  exact bind_ok (expect_sign closing _ rest _)

theorem anonymousFunction_read {body : Derivation .block} (read : body.Read)
    (word : Sign .funWord) (opening : Sign .leftParen) (parameters : Option Parameters)
    (closing : Sign .rightParen) :
    (anonymousFunction word opening parameters closing body).Read := by
  intro depth rest low short ⟨enough, regular⟩
  have inside := length_le_writeParameters parameters (closing.token :: body.write rest)
  have fits : (writeParameters (closing.token :: body.write rest) parameters).length + 2 ≤ depth :=
    short
  rw [List.length_cons] at inside
  have tail : (nested depth).functionTail "function" "after 'fun'" none
      ⟨opening.token :: writeParameters (closing.token :: body.write rest) parameters, low⟩ = _ :=
    functionTail_read read _ _ none opening parameters closing enough (by omega) regular
  exact bind_ok tail

theorem superMethod_read (word : Sign .superWord) (dot : Sign .dot) (method : Identifier) :
    (superMethod word dot method).Read := by
  intro depth rest low _ _
  have taken : (nested depth).primary ⟨word.token :: dot.token :: method.token :: rest, low⟩ =
      (do
        let _ ← expect .dot "after 'super'"
        let method ← expectName "superclass method name"
        return .super (← freshReference) word.identifier method : Parser Expression)
        ⟨dot.token :: method.token :: rest, low⟩ := rfl
  exact taken.trans (bind_ok (expect_sign dot _ (method.token :: rest) low))

/-- What does not go on with a callee ends the call. -/
theorem calls_stop {phrases : Phrases} {callee : Expression} (room : Nat)
    (ends : Ends (level none) rest) :
    phrases.calls room callee ⟨rest, low⟩ = .ok callee ⟨rest, low⟩ := by
  have noParen : (firstToken rest).isMark .leftParen = false :=
    ends.not_mark .leftParen fun token kind => by simp [tightness, kind, level]
  have noDot : (firstToken rest).isMark .dot = false :=
    ends.not_mark .dot fun token kind => by simp [tightness, kind, level]
  cases room with
  | zero => rfl
  | succ room =>
    refine (bind_ok (accept_other noParen)).trans ?_
    exact bind_ok (accept_other noDot)

/-- A property name is taken along with what is before it. -/
theorem calls_property {phrases : Phrases} {object : Expression} (room : Nat) (dot : Sign .dot)
    (name : Identifier) :
    phrases.calls (room + 1) object ⟨dot.token :: name.token :: rest, low⟩ =
      phrases.calls room (.get object name) ⟨rest, low⟩ := by
  refine (bind_ok (accept_other rfl)).trans ?_
  refine (bind_ok (accept_sign dot _ low)).trans ?_
  exact bind_ok (expectName_name name _ rest low)

/-- So is a list of arguments. -/
theorem calls_arguments {phrases : Phrases} {callee : Expression} {tokens : List Token}
    {arguments : List Expression} {high : Reference} (room : Nat) (opening : Sign .leftParen)
    (closing : Sign .rightParen)
    (read : parenthesised "arguments" phrases.expression ⟨tokens, low⟩ =
      .ok (arguments, closing.token) ⟨rest, high⟩) :
    phrases.calls (room + 1) callee ⟨opening.token :: tokens, low⟩ =
      phrases.calls room (.call callee closing.line arguments) ⟨rest, high⟩ :=
  (bind_ok (accept_sign opening tokens low)).trans (bind_ok read)

theorem plainPrimary_read {primary : Derivation .primary} (read : primary.Read) :
    (plainPrimary primary).Read := by
  intro depth rest low short regular
  have fits : (primary.write rest).length ≤ depth := short
  rw [length_write] at fits
  exact ⟨depth + 1, by omega, bind_ok (read depth rest low short regular)⟩

/-- There is room for a further token. -/
theorem room_succ {room : Nat} {token : Token} (enough : (token :: rest).length < room) :
    ∃ less, room = less + 1 ∧ rest.length < less :=
  ⟨room - 1, by omega, by rw [List.length_cons] at enough; omega⟩

theorem property_read {object : Derivation .call} (read : object.Read) (dot : Sign .dot)
    (name : Identifier) : (property object dot name).Read := by
  intro depth rest low short regular
  obtain ⟨room, enough, goesOn⟩ := read depth (dot.token :: name.token :: rest) low short regular
  obtain ⟨room, rfl, fits⟩ := room_succ enough
  refine ⟨room, Nat.lt_of_succ_lt fits, goesOn.trans ?_⟩
  exact calls_property room dot name

theorem callWithout_read {callee : Derivation .call} (read : callee.Read)
    (opening : Sign .leftParen) (closing : Sign .rightParen) :
    (callWithout callee opening closing).Read := by
  intro depth rest low short regular
  obtain ⟨room, enough, goesOn⟩ := read depth (opening.token :: closing.token :: rest) low short
    regular
  obtain ⟨room, rfl, fits⟩ := room_succ enough
  refine ⟨room, Nat.lt_of_succ_lt fits, goesOn.trans ?_⟩
  exact calls_arguments room opening closing (parenthesised_nothing _ _ closing rest _)

/-- How many arguments there are does not depend on the references. -/
theorem length_arguments : (arguments : Derivation .arguments) → (low high : Reference) →
    (arguments.tree low).length = (arguments.tree high).length
  | lastArgument _, _, _ => rfl
  | moreArguments _ _ others, _, _ => congrArg (· + 1) (length_arguments others _ _)

theorem callWith_read {callee : Derivation .call} {arguments : Derivation .arguments}
    (read : callee.Read) (readArguments : arguments.Read) (opening : Sign .leftParen)
    (closing : Sign .rightParen) : (callWith callee opening arguments closing).Read := by
  intro depth rest low short ⟨regular, few, regularArguments⟩
  obtain ⟨room, enough, goesOn⟩ := read depth
    (opening.token :: arguments.write (closing.token :: rest)) low short regular
  obtain ⟨room, rfl, _⟩ := room_succ enough
  have fits : (callee.write (opening.token :: arguments.write (closing.token :: rest))).length ≤
      depth := short
  simp only [length_write, List.length_cons] at fits enough
  refine ⟨room, by omega, goesOn.trans ?_⟩
  have begins := arguments.beginsExpression rfl (closing.token :: rest)
  have fits : (arguments.tree (low + callee.drawn)).length ≤ maximalEntries :=
    Nat.le_trans (Nat.le_of_eq (length_arguments arguments _ 0)) few
  have inside := readArguments depth maximalEntries (closing.token :: rest) (low + callee.drawn)
    (by simp only [length_write, List.length_cons]; omega) fits regularArguments Nat.one_pos rfl
  refine (calls_arguments room opening closing (parenthesised_ok closing
    (not_mark_of_beginsExpression begins rfl) inside)).trans ?_
  rw [Nat.add_assoc]
  rfl

theorem lastArgument_read {argument : Derivation .expression} (read : argument.Read) :
    (lastArgument argument).Read := by
  intro depth room rest low short enough regular ends noComma
  cases room with
  | zero => exact absurd enough (Nat.not_succ_le_zero _)
  | succ room =>
    refine (bind_ok (read.nestedExpression short regular ends)).trans ?_
    exact bind_ok (accept_other noComma)

theorem moreArguments_read {argument : Derivation .expression} {others : Derivation .arguments}
    (read : argument.Read) (readOthers : others.Read) (comma : Sign .comma) :
    (moreArguments argument comma others).Read := by
  intro depth room rest low short enough ⟨regular, regularOthers⟩ ends noComma
  cases room with
  | zero => exact absurd enough (Nat.not_succ_le_zero _)
  | succ room =>
    refine (bind_ok (read.nestedExpression short regular Nat.one_pos)).trans ?_
    refine (bind_ok (accept_sign comma _ _)).trans ?_
    have fits : (argument.write (comma.token :: others.write rest)).length < depth := short
    simp only [length_write, List.length_cons] at fits
    have further := readOthers depth room rest (low + argument.drawn)
      (by simp only [length_write]; omega) (Nat.le_of_succ_le_succ enough) regularOthers ends
      noComma
    refine (bind_ok further).trans ?_
    rw [Nat.add_assoc]
    rfl

/-! ### Operators -/

/-- What is no operator of the level ends the operands. -/
theorem continueFrom_stop {operand : Parser Expression}
    {operator? : Token → Option (Expression → Expression → Expression)} {left : Expression}
    (room : Nat) (none : operator? (firstToken rest) = none) :
    leftAssociative.continueFrom operand operator? room left ⟨rest, low⟩ =
      .ok left ⟨rest, low⟩ := by
  cases room with
  | zero => rfl
  | succ room =>
    refine (bind_ok (peek_eq _)).trans ?_
    dsimp only
    rw [none]
    rfl

/-- An operator of the level is taken along with its right operand. -/
theorem continueFrom_join {operand : Parser Expression}
    {operator? : Token → Option (Expression → Expression → Expression)}
    {left right : Expression} {join : Expression → Expression → Expression} {token : Token}
    {after : State} (room : Nat) (isJoin : operator? token = some join)
    (read : operand ⟨rest, low⟩ = .ok right after) :
    leftAssociative.continueFrom operand operator? (room + 1) left ⟨token :: rest, low⟩ =
      leftAssociative.continueFrom operand operator? room (join left right) after := by
  refine (bind_ok (peek_eq _)).trans ?_
  dsimp only [firstToken]
  rw [isJoin]
  exact bind_ok read

/-- Operands of a level that nothing goes on with. -/
theorem Read.operands {tier : Option Tier} {operands : Derivation (.operands tier)}
    (read : operands.Read) (short : (operands.write rest).length ≤ depth)
    (regular : operands.Regular rest) (ends : Ends (level tier) rest) :
    (nested depth).operands tier ⟨operands.write rest, low⟩ =
      .ok (operands.tree low) ⟨rest, low + operands.drawn⟩ := by
  cases tier with
  | none => exact read depth (depth + 1) rest low short (Nat.le_succ_of_le short) regular ends
  | some tier =>
    have looser : level (some tier) ≤ level tier.tighter :=
      level_tighter tier ▸ Nat.le_succ _
    obtain ⟨room, _, goesOn⟩ := read depth rest low short regular (ends.mono looser)
    exact goesOn.trans (continueFrom_stop room ends.join?_none)

theorem soleOperand_read {tier : Tier} {operand : Derivation (.operands tier.tighter)}
    (read : operand.Read) : (soleOperand operand).Read := by
  intro depth rest low short regular ends
  have fits : (operand.write rest).length ≤ depth := short
  rw [length_write] at fits
  refine ⟨depth + 1, by omega, ?_⟩
  rw [Phrases.operands_some]
  exact bind_ok (read.operands short regular ends)

theorem joinedOperands_read {tier : Tier} {left : Derivation (.operands (some tier))}
    {right : Derivation (.operands tier.tighter)} (read : left.Read) (readRight : right.Read)
    (operator : Operator tier) (sign : Sign operator.mark) :
    (joinedOperands left operator sign right).Read := by
  intro depth rest low short ⟨regular, regularRight⟩ ends
  have endsLeft : Ends (level tier.tighter) (sign.token :: right.write rest) := by
    show tightness sign.token < _
    rw [operator.tightness_token, level_tighter]
    exact Nat.lt_succ_self _
  obtain ⟨room, enough, goesOn⟩ := read depth (sign.token :: right.write rest) low short regular
    endsLeft
  obtain ⟨room, rfl, _⟩ := room_succ enough
  have fits : (left.write (sign.token :: right.write rest)).length ≤ depth := short
  simp only [length_write, List.length_cons] at fits enough
  refine ⟨room, by omega, goesOn.trans ?_⟩
  refine (continueFrom_join room (operator.join?_token sign) (readRight.operands
    (by simp only [length_write]; omega) regularRight ends)).trans ?_
  rw [Nat.add_assoc]
  rfl

/-- A call does not begin like an operation. -/
theorem unaryOperator?_call : (call : Derivation .call) → (rest : List Token) →
    Phrases.unaryOperator? (firstToken (call.write rest)) = none
  | plainPrimary primary, _ => by cases primary <;> rfl
  | callWithout callee _ _, _ => unaryOperator?_call callee _
  | callWith callee _ _ _, _ => unaryOperator?_call callee _
  | property object _ _, _ => unaryOperator?_call object _

/-- Without an operator before it a call is read as one. -/
theorem unaryWithin_call {phrases : Phrases} {state : State} (limit : Nat)
    (plain : Phrases.unaryOperator? (firstToken state.rest) = none) :
    phrases.unaryWithin limit state = phrases.call state := by
  cases limit with
  | zero => rfl
  | succ limit =>
    refine (bind_ok (peek_eq state)).trans ?_
    rw [plain]

theorem plainCall_read {call : Derivation .call} (read : call.Read) : (plainCall call).Read := by
  intro depth limit rest low short _ regular ends
  obtain ⟨room, _, goesOn⟩ := read depth rest low short regular
  refine (unaryWithin_call limit (unaryOperator?_call call rest)).trans ?_
  exact goesOn.trans (calls_stop room ends)

theorem unaryOperation_read {operand : Derivation (.operands none)} (read : operand.Read)
    (operator : UnaryOperator) (sign : Sign operator.mark) :
    (unaryOperation operator sign operand).Read := by
  intro depth limit rest low short few regular ends
  cases limit with
  | zero => exact absurd few (Nat.not_succ_le_zero _)
  | succ limit =>
    have inner := read depth limit rest low (Nat.le_of_succ_le short) (Nat.le_of_succ_le_succ few)
      regular ends
    refine (bind_ok (peek_eq _)).trans ?_
    dsimp only [write, firstToken]
    rw [unaryOperator?_token]
    exact bind_ok inner

/-! ### Assignment -/

/-- Where no operator of a level follows, its operands are one operand. -/
theorem operands_of_tighter {phrases : Phrases} {tier : Tier} {state after : State}
    {value : Expression} (read : phrases.operands tier.tighter state = .ok value after)
    (ends : Ends (level (some tier)) after.rest) :
    phrases.operands (some tier) state = .ok value after := by
  rw [Phrases.operands_some]
  exact (bind_ok read).trans (continueFrom_stop _ ends.join?_none)

/-- Without any operators a call is all that is read before an assignment. -/
theorem disjunction_call {phrases : Phrases} {state after : State} {value : Expression}
    (plain : Phrases.unaryOperator? (firstToken state.rest) = none)
    (read : phrases.call state = .ok value after) (ends : Ends 2 after.rest) :
    phrases.disjunction state = .ok value after := by
  have unary : phrases.operands none state = .ok value after :=
    (unaryWithin_call phrases.limit plain).trans read
  have factor : phrases.operands (some .factor) state = .ok value after :=
    operands_of_tighter unary (ends.mono (by decide))
  have term : phrases.operands (some .term) state = .ok value after :=
    operands_of_tighter factor (ends.mono (by decide))
  have comparison : phrases.operands (some .comparison) state = .ok value after :=
    operands_of_tighter term (ends.mono (by decide))
  have equality : phrases.operands (some .equality) state = .ok value after :=
    operands_of_tighter comparison (ends.mono (by decide))
  have conjunction : phrases.operands (some .conjunction) state = .ok value after :=
    operands_of_tighter equality (ends.mono (by decide))
  have disjunction : phrases.operands (some .disjunction) state = .ok value after :=
    operands_of_tighter conjunction ends
  exact disjunction

/-- An equals sign behind a target is followed by the value. -/
theorem wholeExpression_assign {tokens : List Token} {target : Expression}
    {value : Derivation .expression} {middle : Reference} (read : value.Read)
    (equals : Sign .equal)
    (readTarget : (nested depth).disjunction ⟨tokens, low⟩ =
      .ok target ⟨equals.token :: value.write rest, middle⟩)
    (short : (value.write rest).length < depth) (regular : value.Regular rest)
    (ends : Ends 1 rest) :
    (nested depth).wholeExpression ⟨tokens, low⟩ =
      Phrases.assignTo equals.token (value.tree middle) target ⟨rest, middle + value.drawn⟩ := by
  refine (bind_ok readTarget).trans ?_
  exact bind_ok (read.nestedExpression short regular ends)

theorem plainExpression_read {operands : Derivation (.operands (some .disjunction))}
    (read : operands.Read) : (plainExpression operands).Read := by
  intro depth rest low short regular ends
  have noEquals : (firstToken rest).isMark .equal = false :=
    ends.not_mark .equal fun token kind => by simp [tightness, kind]
  have target : (nested depth).disjunction ⟨operands.write rest, low⟩ = _ :=
    read.operands short regular (ends.mono (by decide))
  have looked : (nested depth).wholeExpression ⟨operands.write rest, low⟩ =
      (if (firstToken rest).isMark .equal then (do
          advance
          Phrases.assignTo (firstToken rest) (← expression depth) (operands.tree low))
        else return operands.tree low : Parser Expression) ⟨rest, low + operands.drawn⟩ :=
    bind_ok target
  refine looked.trans ?_
  rw [noEquals]
  rfl

theorem assignVariable_read {value : Derivation .expression} (read : value.Read)
    (name : Identifier) (equals : Sign .equal) : (assignVariable name equals value).Read := by
  intro depth rest low short regular ends
  have call : (nested depth).call ⟨name.token :: equals.token :: value.write rest, low⟩ =
      .ok (.read low name) ⟨equals.token :: value.write rest, low + 1⟩ := by
    show (nested depth).calls (depth + 1) (.read low name)
      ⟨equals.token :: value.write rest, low + 1⟩ = _
    exact calls_stop (depth + 1) (show 1 < 8 by decide)
  have target := disjunction_call rfl call (show 1 < 2 by decide)
  have fits : (value.write rest).length + 2 ≤ depth := short
  refine (wholeExpression_assign read equals target (by omega) regular ends).trans ?_
  show Phrases.assignTo _ _ (.read low name) _ = .ok _ ⟨rest, low + (1 + value.drawn + 1)⟩
  rw [← Nat.add_assoc, ← Nat.add_assoc]
  rfl

theorem assignProperty_read {object : Derivation .call} {value : Derivation .expression}
    (readObject : object.Read) (read : value.Read) (dot : Sign .dot) (name : Identifier)
    (equals : Sign .equal) : (assignProperty object dot name equals value).Read := by
  intro depth rest low short ⟨regularObject, regular⟩ ends
  obtain ⟨room, enough, goesOn⟩ := readObject depth
    (dot.token :: name.token :: equals.token :: value.write rest) low short regularObject
  obtain ⟨room, rfl, _⟩ := room_succ enough
  have call : (nested depth).call
        ⟨object.write (dot.token :: name.token :: equals.token :: value.write rest), low⟩ =
      .ok (.get (object.tree low) name)
        ⟨equals.token :: value.write rest, low + object.drawn⟩ :=
    goesOn.trans ((calls_property room dot name).trans (calls_stop room (show 1 < 8 by decide)))
  have target := disjunction_call (unaryOperator?_call object _) call (show 1 < 2 by decide)
  have fits : (object.write (dot.token :: name.token :: equals.token ::
      value.write rest)).length ≤ depth := short
  simp only [length_write, List.length_cons] at fits
  refine (wholeExpression_assign read equals target (by simp only [length_write]; omega) regular
    ends).trans ?_
  rw [Nat.add_assoc]
  rfl

end Derivation

end Lox.Grammar
