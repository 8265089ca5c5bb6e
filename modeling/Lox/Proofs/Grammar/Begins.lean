/-
How phrases begin. A parser chooses by the next token what to read, and at the word `fun` by the one
behind it, too; so it has to be known which tokens the derivations of a symbol can begin with.
-/

import Lox.Proofs.Grammar.Levels

namespace Lox.Grammar

/-! ### Expressions -/

/-- The marks with which an expression can begin. -/
def beginsLikeExpression : Mark → Bool
  | .falseWord | .trueWord | .nilWord | .thisWord | .superWord | .funWord | .leftParen | .bang
  | .minus => true
  | _ => false

/-- The tokens begin like an expression: behind the word `fun` there is no name. -/
def beginsExpression : List Token → Bool
  | [] => false
  | first :: rest =>
    match first.kind with
    | .number _ | .string _ | .identifier => true
    | .mark .funWord => (firstToken rest).isMark .leftParen
    | .mark mark => beginsLikeExpression mark
    | .endOfInput => false

/-- Whether what the symbol derives begins like an expression. -/
def Symbol.isExpression : Symbol → Bool
  | .expression | .operands _ | .call | .primary | .arguments | .expressionStatement => true
  | _ => false

theorem Derivation.beginsExpression {symbol : Symbol} (derivation : Derivation symbol)
    (isExpression : symbol.isExpression = true) (rest : List Token) :
    beginsExpression (derivation.write rest) = true := by
  induction derivation generalizing rest with
  | terminated _ _ inductionHypothesis | plainExpression _ inductionHypothesis
  | soleOperand _ inductionHypothesis | plainCall _ inductionHypothesis
  | plainPrimary _ inductionHypothesis | lastArgument _ inductionHypothesis
  | callWithout _ _ _ inductionHypothesis | property _ _ _ inductionHypothesis =>
    exact inductionHypothesis rfl _
  | assignProperty _ _ _ _ _ inductionHypothesis _ | joinedOperands _ _ _ _ inductionHypothesis _
  | callWith _ _ _ _ inductionHypothesis _ | moreArguments _ _ _ inductionHypothesis _ =>
    exact inductionHypothesis rfl _
  | unaryOperation operator _ _ _ => cases operator <;> rfl
  | assignVariable | numberLiteral | stringLiteral | trueLiteral | falseLiteral | nilLiteral
  | receiver | superMethod | variableName | grouping | anonymousFunction => rfl
  | _ => exact nomatch isExpression

/-- No other mark begins an expression. -/
theorem not_mark_of_beginsExpression {tokens : List Token}
    (begins : beginsExpression tokens = true) {mark : Mark}
    (other : beginsLikeExpression mark = false) : (firstToken tokens).isMark mark = false := by
  cases isMark : (firstToken tokens).isMark mark with
  | false => rfl
  | true =>
    cases tokens with
    | nil => exact nomatch begins
    | cons first rest =>
      obtain ⟨sign, rfl⟩ := eq_sign (kind_of_isMark isMark)
      cases mark <;> first
        | exact absurd begins Bool.false_ne_true
        | exact absurd other.symm Bool.false_ne_true

theorem not_end_of_beginsExpression {tokens : List Token}
    (begins : beginsExpression tokens = true) : atEnd tokens = false := by
  cases tokens with
  | nil => exact nomatch begins
  | cons first rest =>
    obtain ⟨kind, lexeme, line⟩ := first
    cases kind with
    | endOfInput => exact nomatch begins
    | _ => rfl

/-! ### Statements -/

/-- Tokens that begin a statement begin no other declaration, and end no list of declarations. -/
structure BeginsStatement (tokens : List Token) : Prop where
  more : atEnd tokens = false
  notClosing : (firstToken tokens).isMark .rightBrace = false
  notElse : (firstToken tokens).isMark .elseWord = false
  notClass : (firstToken tokens).isMark .classWord = false
  notVariable : (firstToken tokens).isMark .varWord = false
  notFunction : Phrases.beginsFunction tokens = false

theorem BeginsStatement.of_expression {tokens : List Token}
    (begins : Grammar.beginsExpression tokens = true) : BeginsStatement tokens := by
  refine ⟨not_end_of_beginsExpression begins, not_mark_of_beginsExpression begins rfl,
    not_mark_of_beginsExpression begins rfl, not_mark_of_beginsExpression begins rfl,
    not_mark_of_beginsExpression begins rfl, ?_⟩
  match tokens with
  | [] => rfl
  | [first] => rfl
  | first :: second :: rest =>
    show (first.isMark .funWord && second.isIdentifier) = false
    cases isFun : first.isMark .funWord with
    | false => rfl
    | true =>
      obtain ⟨sign, rfl⟩ := eq_sign (kind_of_isMark isFun)
      have isParen : second.isMark .leftParen = true := begins
      obtain ⟨paren, rfl⟩ := eq_sign (kind_of_isMark isParen)
      rfl

/-- A token that is another word than `fun` begins no function. -/
theorem beginsFunction_of_other {tokens : List Token}
    (other : (firstToken tokens).isMark .funWord = false) :
    Phrases.beginsFunction tokens = false := by
  match tokens with
  | [] => rfl
  | [_] => rfl
  | first :: second :: rest =>
    show (first.isMark .funWord && second.isIdentifier) = false
    rw [show first.isMark .funWord = false from other]
    rfl

theorem Derivation.beginsStatement (derivation : Derivation .statement) (rest : List Token) :
    BeginsStatement (derivation.write rest) := by
  cases derivation with
  | evaluationStatement statement => exact .of_expression (statement.beginsExpression rfl rest)
  | blockStatement block =>
    cases block
    exact ⟨rfl, rfl, rfl, rfl, rfl, beginsFunction_of_other rfl⟩
  | _ => exact ⟨rfl, rfl, rfl, rfl, rfl, beginsFunction_of_other rfl⟩

end Lox.Grammar
