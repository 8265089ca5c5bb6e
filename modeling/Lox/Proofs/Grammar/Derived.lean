/-
Whatever expression is read is derived by the grammar. A parser that succeeds has taken the tokens
of a derivation, no more and no fewer, and has found the tree of that derivation. A derivation is
put together as the parser goes on: where a parser repeats itself, what it has so far is a
derivation already.
-/

import Lox.Proofs.Grammar.Operands

namespace Lox.Grammar

variable {α β : Type} {tokens rest : List Token} {low high : Reference}

/-! ### Successful parsers -/

/-- If the parser succeeds on the tokens, then what it finds, the tokens it leaves and the next
unused reference are as said. -/
def Finds (parser : Parser α) (tokens : List Token) (low : Reference)
    (found : α → List Token → Reference → Prop) : Prop :=
  Ensures parser ⟨tokens, low⟩ (fun value after => found value after.rest after.nextReference)
    fun _ _ => True

/-- A sign that is the first of the tokens has the others behind it. -/
theorem Sign.eq_cons {mark : Mark} (sign : Sign mark) (isFirst : firstToken tokens = sign.token) :
    ∃ rest, tokens = sign.token :: rest := by
  refine ⟨tokens.tail, ?_⟩
  rw [← isFirst]
  exact eq_cons_of_not_end (not_end_of_isMark (isFirst ▸ sign.isMark_token))

/-- A mark that is there is a sign. -/
theorem eq_sign_cons {mark : Mark} (isMark : (firstToken tokens).isMark mark = true) :
    ∃ (sign : Sign mark) (rest : List Token), tokens = sign.token :: rest := by
  obtain ⟨sign, isSign⟩ := eq_sign (kind_of_isMark isMark)
  exact ⟨sign, sign.eq_cons isSign⟩

/-- A name that is there likewise. -/
theorem eq_name_cons (isIdentifier : (firstToken tokens).isIdentifier = true) :
    ∃ (name : Identifier) (rest : List Token), tokens = name.token :: rest := by
  cases tokens with
  | nil => exact nomatch isIdentifier
  | cons first rest =>
    obtain ⟨kind, lexeme, line⟩ := first
    cases kind with
    | identifier => exact ⟨⟨lexeme, line⟩, rest, rfl⟩
    | _ => exact nomatch isIdentifier

namespace Finds

variable {parser : Parser α} {next : α → Parser β} {first : α → List Token → Reference → Prop}
  {found : β → List Token → Reference → Prop}

theorem ok (finds : Finds parser tokens low first) {value : α} {after : State}
    (ended : parser ⟨tokens, low⟩ = .ok value after) : first value after.rest after.nextReference :=
  Ensures.ok finds ended

/-- A parser and the one that goes on from what it found. -/
theorem bind (start : Finds parser tokens low first)
    (goesOn : ∀ value rest high, first value rest high → Finds (next value) rest high found) :
    Finds (parser >>= next) tokens low found :=
  Ensures.bind start fun value after _ holds => goesOn value after.rest after.nextReference holds

theorem mono {weaker : α → List Token → Reference → Prop} (finds : Finds parser tokens low first)
    (weakens : ∀ value rest high, first value rest high → weaker value rest high) :
    Finds parser tokens low weaker :=
  Ensures.mono finds (fun value after => weakens value after.rest after.nextReference)
    fun _ _ => id

/-- A parser that succeeds and the one that goes on. -/
theorem bind_of_ok {value : α} (ended : parser ⟨tokens, low⟩ = .ok value ⟨rest, high⟩)
    (goesOn : Finds (next value) rest high found) : Finds (parser >>= next) tokens low found := by
  unfold Finds Ensures
  rw [bind_ok ended]
  exact goesOn

/-- Nothing is said of a parser that fails. -/
theorem bind_of_error {error : SyntaxError} {after : State}
    (failed : parser ⟨tokens, low⟩ = .error error after) :
    Finds (parser >>= next) tokens low found := by
  unfold Finds Ensures
  rw [bind_error failed]
  trivial

/-- Looking at the first token takes nothing. -/
theorem peek_bind {next : Token → Parser β}
    (goesOn : Finds (next (firstToken tokens)) tokens low found) :
    Finds (peek >>= next) tokens low found :=
  goesOn

theorem recovering (finds : Finds parser tokens low first) :
    Finds (Grammar.recovering parser) tokens low first := by
  cases ended : parser ⟨tokens, low⟩ with
  | ok value after =>
    refine Ensures.of_ok ?_ (finds.ok ended)
    rw [Grammar.recovering, ended]
  | error error after =>
    unfold Finds Ensures Grammar.recovering
    rw [ended]
    trivial

/-! ### Single tokens -/

theorem expect_bind {mark : Mark} {role : String} {next : Token → Parser β}
    (goesOn : ∀ (sign : Sign mark) rest, tokens = sign.token :: rest →
      Finds (next sign.token) rest low found) :
    Finds (expect mark role >>= next) tokens low found := by
  cases isMark : (firstToken tokens).isMark mark with
  | true =>
    obtain ⟨sign, rest, rfl⟩ := eq_sign_cons isMark
    exact bind_of_ok (expect_sign sign role rest low) (goesOn sign rest rfl)
  | false =>
    have looked : expect mark role ⟨tokens, low⟩ =
        (if (firstToken tokens).isMark mark then (do advance; return firstToken tokens)
          else throw ⟨firstToken tokens, .missingMark mark role⟩ : Parser Token)
          ⟨tokens, low⟩ := rfl
    rw [isMark] at looked
    exact bind_of_error looked

theorem expectName_bind {role : String} {next : Identifier → Parser β}
    (goesOn : ∀ (name : Identifier) rest, tokens = name.token :: rest →
      Finds (next name) rest low found) :
    Finds (expectName role >>= next) tokens low found := by
  cases isName : (firstToken tokens).isIdentifier with
  | true =>
    obtain ⟨name, rest, rfl⟩ := eq_name_cons isName
    exact bind_of_ok (expectName_name name role rest low) (goesOn name rest rfl)
  | false =>
    have looked : expectName role ⟨tokens, low⟩ =
        (if (firstToken tokens).isIdentifier then
            (do advance; return (firstToken tokens).toIdentifier)
          else throw ⟨firstToken tokens, .missingName role⟩ : Parser Identifier)
          ⟨tokens, low⟩ := rfl
    rw [isName] at looked
    exact bind_of_error looked

/-- A mark is taken where it stands. -/
theorem accept_bind {mark : Mark} {next : Bool → Parser β}
    (taken : ∀ (sign : Sign mark) rest, tokens = sign.token :: rest →
      Finds (next true) rest low found)
    (other : (firstToken tokens).isMark mark = false → Finds (next false) tokens low found) :
    Finds (accept mark >>= next) tokens low found := by
  cases isMark : (firstToken tokens).isMark mark with
  | true =>
    obtain ⟨sign, rest, rfl⟩ := eq_sign_cons isMark
    exact bind_of_ok (accept_sign sign rest low) (taken sign rest rfl)
  | false => exact bind_of_ok (accept_other isMark) (other isMark)

end Finds

/-! ### Derived phrases -/

/-- What is found is the tree of a derivation of the tokens up to the rest. -/
def Derives (symbol : Symbol) (tokens : List Token) (low : Reference) (found : symbol.Tree)
    (rest : List Token) (high : Reference) : Prop :=
  ∃ derivation : Derivation symbol, tokens = derivation.write rest ∧ found = derivation.tree low ∧
    high = low + derivation.drawn ∧ derivation.Regular rest

/-- Whatever the parser finds is derived from the symbol. -/
def Sound (symbol : Symbol) (parser : Parser symbol.Tree) : Prop :=
  ∀ tokens low, Finds parser tokens low (Derives symbol tokens low)

/-- Whatever the parsers of nested phrases find is derived. -/
structure Phrases.Sound (phrases : Phrases) : Prop where
  expression : Grammar.Sound .expression phrases.expression
  statement : Grammar.Sound .statement phrases.statement
  declaration : Grammar.Sound .declaration phrases.declaration

/-! ### Targets of assignments -/

namespace Derivation

/-- Operands whose tree is that of a name or a property are just a call, without operators. -/
theorem eq_call : {tier : Option Tier} → (operands : Derivation (.operands tier)) →
    (low : Reference) →
    (isTarget : (∃ reference name, (operands.tree low : Expression) = .read reference name) ∨
      ∃ object name, (operands.tree low : Expression) = .get object name) →
    ∃ call : Derivation .call, operands.tree low = call.tree low ∧ operands.drawn = call.drawn ∧
      ∀ rest, operands.write rest = call.write rest ∧ (operands.Regular rest → call.Regular rest)
  | _, soleOperand operand, low, isTarget => eq_call operand low isTarget
  | _, joinedOperands _ operator _ _, _, isTarget => by
    cases operator <;> rcases isTarget with ⟨_, _, isTarget⟩ | ⟨_, _, isTarget⟩ <;>
      exact nomatch isTarget
  | _, plainCall call, _, _ => ⟨call, rfl, rfl, fun _ => ⟨rfl, id⟩⟩
  | _, unaryOperation _ _ _, _, isTarget => by
    rcases isTarget with ⟨_, _, isTarget⟩ | ⟨_, _, isTarget⟩ <;> exact nomatch isTarget

/-- A call whose tree is that of a name is a name. -/
theorem eq_variableName {call : Derivation .call} {reference : Reference} {name : Identifier}
    (isRead : (call.tree low : Expression) = .read reference name) :
    call = .plainPrimary (.variableName name) := by
  cases call with
  | plainPrimary primary =>
    cases primary with
    | variableName other =>
      cases isRead
      rfl
    | _ => exact nomatch isRead
  | _ => exact nomatch isRead

/-- A call whose tree is that of a property is a property. -/
theorem eq_property {call : Derivation .call} {object : Expression} {name : Identifier}
    (isGet : (call.tree low : Expression) = .get object name) :
    ∃ (inner : Derivation .call) (dot : Sign .dot), call = .property inner dot name ∧
      object = inner.tree low := by
  cases call with
  | property inner dot other =>
    cases isGet
    exact ⟨inner, dot, rfl, rfl⟩
  | plainPrimary primary => cases primary <;> exact nomatch isGet
  | _ => exact nomatch isGet

end Derivation

namespace Phrases.Sound

variable {phrases : Phrases}

/-! ### Lists -/

/-- Entries between commas, of which the first can be found. -/
theorem parameters_found (role : String) (room : Nat) (tokens : List Token) (low : Reference) :
    Finds (commaSeparated "parameters" (expectName role) room) tokens low fun found rest high =>
      ∃ parameters : Parameters, tokens = parameters.write rest ∧ found = parameters.names ∧
        high = low ∧ parameters.names.length ≤ room := by
  induction room generalizing tokens with
  | zero => exact trivial
  | succ room inductionHypothesis =>
    refine .expectName_bind fun name rest isName => .accept_bind ?_ ?_
    · rintro comma others rfl
      subst isName
      refine (inductionHypothesis others).bind ?_
      rintro found rest high ⟨parameters, rfl, rfl, rfl, enough⟩
      exact ⟨.more name comma parameters, rfl, rfl, rfl, Nat.succ_le_succ enough⟩
    · intro _
      exact ⟨.last name, isName, rfl, rfl, Nat.succ_le_succ (Nat.zero_le _)⟩

theorem arguments_found (sound : phrases.Sound) (room : Nat) (tokens : List Token)
    (low : Reference) :
    Finds (commaSeparated "arguments" phrases.expression room) tokens low fun found rest high =>
      Derives .arguments tokens low found rest high ∧ found.length ≤ room := by
  induction room generalizing tokens low with
  | zero => exact trivial
  | succ room inductionHypothesis =>
    refine (sound.expression tokens low).bind ?_
    rintro first rest high ⟨argument, rfl, rfl, rfl, regular⟩
    refine .accept_bind ?_ ?_
    · rintro comma others rfl
      refine (inductionHypothesis others _).bind ?_
      rintro found rest high ⟨⟨others, rfl, rfl, rfl, regularOthers⟩, enough⟩
      exact ⟨⟨.moreArguments argument comma others, rfl, rfl, Nat.add_assoc _ _ _, regular,
        regularOthers⟩, Nat.succ_le_succ enough⟩
    · intro _
      exact ⟨⟨.lastArgument argument, rfl, rfl, rfl, regular⟩, Nat.succ_le_succ (Nat.zero_le _)⟩

/-- A parenthesised list is empty or its entries are found. -/
theorem parenthesised_found {Entry : Type} {entries : String} {entry : Parser Entry}
    {found : List Entry → List Token → Reference → Prop}
    (inside : Finds (commaSeparated entries entry maximalEntries) tokens low found) :
    Finds (parenthesised entries entry) tokens low fun list rest high =>
      ∃ closing : Sign .rightParen, list.2 = closing.token ∧
        ((list.1 = [] ∧ tokens = closing.token :: rest ∧ high = low) ∨
          found list.1 (closing.token :: rest) high) := by
  have looked : Finds (entriesInside entries entry) tokens low fun list rest high =>
      (list = [] ∧ rest = tokens ∧ high = low) ∨ found list rest high := by
    refine .bind_of_ok (nextIs_eq .rightParen tokens low) ?_
    split
    · exact .inl ⟨rfl, rfl, rfl⟩
    · exact Ensures.mono inside (fun _ _ => .inr) fun _ _ => id
  refine looked.bind fun list rest high holds => .expect_bind ?_
  rintro closing rest rfl
  refine ⟨closing, rfl, holds.imp_left ?_⟩
  rintro ⟨rfl, rfl, rfl⟩
  exact ⟨rfl, rfl, rfl⟩

theorem declarations_found (sound : phrases.Sound) (limit : Nat) :
    Grammar.Sound .declarations (untilBrace phrases.declaration limit) := by
  induction limit with
  | zero => exact fun _ _ => ⟨.noDeclarations, rfl, rfl, rfl, trivial⟩
  | succ limit inductionHypothesis =>
    intro tokens low
    refine .bind_of_ok (nextIs_eq .rightBrace tokens low) ?_
    show Finds (if ((firstToken tokens).isMark .rightBrace || atEnd tokens) then return []
      else _) _ _ _
    split
    · exact ⟨.noDeclarations, rfl, rfl, rfl, trivial⟩
    · refine (sound.declaration tokens low).bind ?_
      rintro _ rest high ⟨first, rfl, rfl, rfl, regular⟩
      refine (inductionHypothesis rest _).bind ?_
      rintro _ rest high ⟨others, rfl, rfl, rfl, regularOthers⟩
      exact ⟨.moreDeclarations first others, rfl, rfl, Nat.add_assoc _ _ _, regular, regularOthers⟩

/-! ### Blocks and functions -/

/-- A block whose opening brace is taken. -/
theorem block_found (sound : phrases.Sound) (opening : Sign .leftBrace) (tokens : List Token)
    (low : Reference) :
    Finds phrases.block tokens low (Derives .block (opening.token :: tokens) low) := by
  refine (sound.declarations_found _ tokens low).bind ?_
  rintro _ rest high ⟨declarations, rfl, rfl, rfl, regular⟩
  refine .expect_bind ?_
  rintro closing rest rfl
  exact ⟨.braces opening declarations closing, rfl, rfl, rfl, regular⟩

/-- The parameters and the body of a function. -/
theorem functionTail_found (sound : phrases.Sound) (kind role : String)
    (name : Option Identifier) (tokens : List Token) (low : Reference) :
    Finds (phrases.functionTail kind role name) tokens low fun found rest high =>
      ∃ (opening : Sign .leftParen) (parameters : Option Parameters) (closing : Sign .rightParen)
        (body : Derivation .block),
        tokens = opening.token ::
          writeParameters (closing.token :: body.write rest) parameters ∧
        found = .mk name (parameterNames parameters) (body.tree low) ∧ high = low + body.drawn ∧
        (parameterNames parameters).length ≤ 255 ∧ body.Regular rest := by
  refine .expect_bind ?_
  rintro opening rest rfl
  refine (parenthesised_found (parameters_found _ _ rest low)).bind ?_
  rintro ⟨names, _⟩ after high ⟨closing, rfl, list⟩
  have ⟨parameters, isRest, isNames, isHigh, enough⟩ : ∃ parameters : Option Parameters,
      rest = writeParameters (closing.token :: after) parameters ∧
        names = parameterNames parameters ∧ high = low ∧
        (parameterNames parameters).length ≤ 255 := by
    rcases list with ⟨rfl, rfl, rfl⟩ | ⟨parameters, rfl, rfl, rfl, enough⟩
    · exact ⟨none, rfl, rfl, rfl, Nat.zero_le _⟩
    · exact ⟨some parameters, rfl, rfl, rfl, enough⟩
  subst isRest isNames isHigh
  refine .expect_bind ?_
  rintro brace rest rfl
  refine (sound.block_found brace rest _).bind ?_
  rintro _ rest high ⟨body, isBody, rfl, rfl, regular⟩
  rw [isBody]
  exact ⟨opening, parameters, closing, body, rfl, rfl, rfl, enough, regular⟩

/-! ### Primary expressions and calls -/

theorem primary_found (sound : phrases.Sound) : Grammar.Sound .primary phrases.primary := by
  intro tokens low
  match tokens with
  | [] => exact trivial
  | ⟨kind, lexeme, line⟩ :: rest =>
    cases kind with
    | number value => exact ⟨.numberLiteral value lexeme line, rfl, rfl, rfl, trivial⟩
    | string contents => exact ⟨.stringLiteral contents lexeme line, rfl, rfl, rfl, trivial⟩
    | identifier => exact ⟨.variableName ⟨lexeme, line⟩, rfl, rfl, rfl, trivial⟩
    | endOfInput => exact trivial
    | mark mark =>
      cases mark with
      | falseWord => exact ⟨.falseLiteral ⟨lexeme, line⟩, rfl, rfl, rfl, trivial⟩
      | trueWord => exact ⟨.trueLiteral ⟨lexeme, line⟩, rfl, rfl, rfl, trivial⟩
      | nilWord => exact ⟨.nilLiteral ⟨lexeme, line⟩, rfl, rfl, rfl, trivial⟩
      | thisWord => exact ⟨.receiver ⟨lexeme, line⟩, rfl, rfl, rfl, trivial⟩
      | superWord =>
        show Finds (do
          let _ ← expect .dot "after 'super'"
          let method ← expectName "superclass method name"
          return .super (← freshReference) ⟨lexeme, line⟩ method : Parser Expression) rest low _
        refine .expect_bind fun dot afterDot isDot => .expectName_bind fun method after isName => ?_
        subst isDot isName
        exact ⟨.superMethod ⟨lexeme, line⟩ dot method, rfl, rfl, rfl, trivial⟩
      | funWord =>
        show Finds (do
          return .function (← phrases.functionTail "function" "after 'fun'" none) :
          Parser Expression) rest low _
        refine (sound.functionTail_found _ _ none rest low).bind ?_
        rintro _ rest high ⟨opening, parameters, closing, body, rfl, rfl, rfl, enough, regular⟩
        exact ⟨.anonymousFunction ⟨lexeme, line⟩ opening parameters closing body, rfl, rfl, rfl,
          enough, regular⟩
      | leftParen =>
        show Finds (do
          let inner ← phrases.expression
          let _ ← expect .rightParen "after expression"
          return .grouping inner : Parser Expression) rest low _
        refine (sound.expression rest low).bind ?_
        rintro _ rest high ⟨inner, rfl, rfl, rfl, regular⟩
        refine .expect_bind ?_
        rintro closing rest rfl
        exact ⟨.grouping ⟨lexeme, line⟩ inner closing, rfl, rfl, rfl, regular⟩
      | _ => exact trivial

/-- What is called on a callee goes on with its derivation. -/
theorem calls_found (sound : phrases.Sound) (limit : Nat) {tokens rest : List Token}
    {low high : Reference} {callee : Expression}
    (soFar : Derives .call tokens low callee rest high) :
    Finds (phrases.calls limit callee) rest high (Derives .call tokens low) := by
  induction limit generalizing rest high callee with
  | zero => exact soFar
  | succ limit inductionHypothesis =>
    obtain ⟨callee, rfl, rfl, rfl, regular⟩ := soFar
    refine .accept_bind ?_ fun _ => .accept_bind ?_ fun _ => ?_
    · rintro opening inside rfl
      refine (parenthesised_found (sound.arguments_found _ inside _)).bind ?_
      rintro ⟨arguments, _⟩ after high ⟨closing, rfl, list⟩
      rcases list with ⟨rfl, rfl, rfl⟩ | ⟨⟨arguments, rfl, rfl, rfl, regularArguments⟩, enough⟩
      · exact inductionHypothesis ⟨.callWithout callee opening closing, rfl, rfl, rfl, regular⟩
      · have few : (arguments.tree 0).length ≤ 255 :=
          Nat.le_trans (Nat.le_of_eq (arguments.length_arguments 0 _)) enough
        exact inductionHypothesis ⟨.callWith callee opening arguments closing, rfl, rfl,
          Nat.add_assoc _ _ _, regular, few, regularArguments⟩
    · rintro dot afterDot rfl
      refine .expectName_bind ?_
      rintro name after rfl
      exact inductionHypothesis ⟨.property callee dot name, rfl, rfl, rfl, regular⟩
    · exact ⟨callee, rfl, rfl, rfl, regular⟩

theorem call_found (sound : phrases.Sound) : Grammar.Sound .call phrases.call := by
  intro tokens low
  refine (sound.primary_found tokens low).bind ?_
  rintro _ rest high ⟨primary, rfl, rfl, rfl, regular⟩
  exact sound.calls_found _ ⟨.plainPrimary primary, rfl, rfl, rfl, regular⟩

/-! ### Operators -/

theorem unaryWithin_found (sound : phrases.Sound) (limit : Nat) :
    Grammar.Sound (.operands none) (phrases.unaryWithin limit) := by
  have plain (tokens : List Token) (low : Reference) :
      Finds phrases.call tokens low (Derives (.operands none) tokens low) := by
    refine Finds.mono (sound.call_found tokens low) ?_
    rintro _ rest high ⟨call, rfl, rfl, rfl, regular⟩
    exact ⟨.plainCall call, rfl, rfl, rfl, regular⟩
  induction limit with
  | zero => exact plain
  | succ limit inductionHypothesis =>
    intro tokens low
    refine Finds.peek_bind ?_
    split
    · rename_i operator isOperator
      obtain ⟨sign, isSign⟩ := unaryOperator?_some isOperator
      obtain ⟨rest, rfl⟩ := sign.eq_cons isSign
      refine (inductionHypothesis rest low).bind ?_
      rintro _ after high ⟨operand, rfl, rfl, rfl, regular⟩
      exact ⟨.unaryOperation operator sign operand, rfl, rfl, rfl, regular⟩
    · exact plain tokens low

/-- Operators of a level go on with the derivation of their left operand. -/
theorem continueFrom_found {tier : Tier} {operand : Parser Expression}
    (sound : Grammar.Sound (.operands tier.tighter) operand) (limit : Nat)
    {tokens rest : List Token} {low high : Reference} {left : Expression}
    (soFar : Derives (.operands (some tier)) tokens low left rest high) :
    Finds (leftAssociative.continueFrom operand tier.join? limit left) rest high
      (Derives (.operands (some tier)) tokens low) := by
  induction limit generalizing rest high left with
  | zero => exact soFar
  | succ limit inductionHypothesis =>
    refine Finds.peek_bind ?_
    split
    · rename_i join joins
      obtain ⟨left, rfl, rfl, rfl, regular⟩ := soFar
      obtain ⟨operator, sign, isSign, rfl⟩ := Tier.join?_some joins
      obtain ⟨afterSign, rfl⟩ := sign.eq_cons isSign
      refine (sound afterSign _).bind ?_
      rintro _ after high ⟨right, rfl, rfl, rfl, regularRight⟩
      exact inductionHypothesis ⟨.joinedOperands left operator sign right, rfl, rfl,
        Nat.add_assoc _ _ _, regular, regularRight⟩
    · exact soFar

theorem leftAssociative_found (tier : Tier) {operand : Parser Expression}
    (sound : Grammar.Sound (.operands tier.tighter) operand) (limit : Nat) :
    Grammar.Sound (.operands (some tier)) (leftAssociative operand tier.join? limit) := by
  intro tokens low
  refine (sound tokens low).bind ?_
  rintro _ rest high ⟨operand, rfl, rfl, rfl, regular⟩
  exact continueFrom_found sound limit ⟨.soleOperand operand, rfl, rfl, rfl, regular⟩

theorem disjunction_found (sound : phrases.Sound) :
    Grammar.Sound (.operands (some .disjunction)) phrases.disjunction := by
  have factor : Grammar.Sound (.operands (some .factor)) phrases.factor :=
    leftAssociative_found .factor (sound.unaryWithin_found phrases.limit) phrases.limit
  have term : Grammar.Sound (.operands (some .term)) phrases.term :=
    leftAssociative_found .term factor phrases.limit
  have comparison : Grammar.Sound (.operands (some .comparison)) phrases.comparison :=
    leftAssociative_found .comparison term phrases.limit
  have equality : Grammar.Sound (.operands (some .equality)) phrases.equality :=
    leftAssociative_found .equality comparison phrases.limit
  have conjunction : Grammar.Sound (.operands (some .conjunction)) phrases.conjunction :=
    leftAssociative_found .conjunction equality phrases.limit
  exact leftAssociative_found .disjunction conjunction phrases.limit

/-! ### Assignment -/

theorem wholeExpression_found (sound : phrases.Sound) :
    Grammar.Sound .expression phrases.wholeExpression := by
  intro tokens low
  refine (sound.disjunction_found tokens low).bind ?_
  rintro (target : Expression) rest high ⟨operands, rfl, isTarget, rfl, regular⟩
  show Finds (if (firstToken rest).isMark .equal then do
      advance
      assignTo (firstToken rest) (← phrases.expression) target
    else return target : Parser Expression) rest _ _
  split
  · rename_i isEqual
    obtain ⟨equals, afterEquals, rfl⟩ := eq_sign_cons isEqual
    refine Finds.bind_of_ok rfl ((sound.expression afterEquals _).bind ?_)
    rintro _ rest high ⟨value, rfl, rfl, rfl, regularValue⟩
    cases target with
    | read reference name =>
      obtain ⟨call, sameTree, sameDrawn, same⟩ := operands.eq_call low (.inl ⟨_, _, isTarget.symm⟩)
      obtain rfl := Derivation.eq_variableName (sameTree.symm.trans isTarget.symm)
      rw [(same _).1, sameDrawn]
      have drawn : low + 1 + value.drawn + 1 = low + (1 + value.drawn + 1) := by
        rw [Nat.add_assoc low, Nat.add_assoc low]
      exact ⟨.assignVariable name equals value, rfl, rfl, drawn, regularValue⟩
    | get object name =>
      obtain ⟨call, sameTree, sameDrawn, same⟩ := operands.eq_call low (.inr ⟨_, _, isTarget.symm⟩)
      obtain ⟨inner, dot, rfl, rfl⟩ := Derivation.eq_property (sameTree.symm.trans isTarget.symm)
      rw [(same _).1, sameDrawn]
      exact ⟨.assignProperty inner dot name equals value, rfl, rfl, Nat.add_assoc _ _ _,
        (same _).2 regular, regularValue⟩
    | _ => exact trivial
  · exact ⟨.plainExpression operands, rfl, isTarget, rfl, regular⟩

end Phrases.Sound

end Lox.Grammar
