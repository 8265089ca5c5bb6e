/-
The grammar of expressions, from the loosest level to the tightest. The level of assignment and that
of the prefix operators group to the right; those between them group to the left. What stands inside
a longer phrase is read by the parsers of `Phrases`, one nesting further down.
-/

import Lox.Grammar.Parser

namespace Lox.Grammar

/-! ### Phrases -/

/-- The parsers of the phrases nested in a phrase, and a bound on how often a phrase repeats, which
is as good as none when it exceeds the number of tokens. -/
structure Phrases where
  limit : Nat
  expression : Parser Expression
  statement : Parser Statement
  declaration : Parser Statement

namespace Phrases

variable (phrases : Phrases)

/-! ### Blocks and functions -/

/-- The statements of a block whose opening brace is taken, and its closing one. -/
def block : Parser (List Statement) := do
  let statements ← untilBrace phrases.declaration phrases.limit
  let _ ← expect .rightBrace "after block"
  return statements

/-- The parameters and the body of a function whose name is taken; `kind` names what it is, and
`role` what its opening parenthesis is for. -/
def functionTail (kind role : String) (name : Option Identifier) :
    Parser FunctionDeclaration := do
  let _ ← expect .leftParen role
  let (parameters, _) ← parenthesised "parameters" (expectName "parameter name")
  let _ ← expect .leftBrace ("before " ++ kind ++ " body")
  return .mk name parameters (← phrases.block)

/-! ### Primary expressions and calls -/

/-- The smallest expressions. -/
def primary : Parser Expression := do
  let token ← peek
  match token.kind with
  | .number value =>
    advance
    return .literal (.number value)
  | .string contents =>
    advance
    return .literal (.string contents)
  | .identifier =>
    advance
    return .read (← freshReference) token.toIdentifier
  | .mark .falseWord =>
    advance
    return .literal (.boolean false)
  | .mark .trueWord =>
    advance
    return .literal (.boolean true)
  | .mark .nilWord =>
    advance
    return .literal .nil
  | .mark .thisWord =>
    advance
    return .this (← freshReference) token.toIdentifier
  | .mark .superWord =>
    advance
    let _ ← expect .dot "after 'super'"
    let method ← expectName "superclass method name"
    return .super (← freshReference) token.toIdentifier method
  | .mark .funWord =>
    advance
    return .function (← phrases.functionTail "function" "after 'fun'" none)
  | .mark .leftParen =>
    advance
    let inner ← phrases.expression
    let _ ← expect .rightParen "after expression"
    return .grouping inner
  | _ => throw ⟨token, .missingExpression⟩

/-- What follows a callee: argument lists and property names, at most `limit` of them. -/
def calls : Nat → Expression → Parser Expression
  | 0, callee => return callee
  | limit + 1, callee => do
    if ← accept .leftParen then
      let (arguments, closing) ← parenthesised "arguments" phrases.expression
      calls limit (.call callee closing.line arguments)
    else if ← accept .dot then
      calls limit (.get callee (← expectName "property name after '.'"))
    else
      return callee

/-- A primary expression with everything called on it. -/
def call : Parser Expression := do
  phrases.calls phrases.limit (← phrases.primary)

/-! ### Operators -/

/-- The prefix operator that a token is. -/
def unaryOperator? (token : Token) : Option UnaryOperator :=
  match token.kind with
  | .mark .bang => some .not
  | .mark .minus => some .negate
  | _ => none

/-- Prefix operators, at most `limit` of them, and their operand. -/
def unaryWithin : Nat → Parser Expression
  | 0 => phrases.call
  | limit + 1 => do
    let token ← peek
    match unaryOperator? token with
    | some operator =>
      advance
      return .unary operator token.line (← unaryWithin limit)
    | none => phrases.call

/-- Prefix operators and their operand. -/
def unary : Parser Expression :=
  phrases.unaryWithin phrases.limit

/-- The operators of one level of binary expressions. -/
abbrev Level := TokenKind → Option BinaryOperator

/-- The operators of products and quotients. -/
def factorLevel : Level
  | .mark .slash => some .divide
  | .mark .star => some .multiply
  | _ => none

/-- The operators of sums and differences. -/
def termLevel : Level
  | .mark .minus => some .subtract
  | .mark .plus => some .add
  | _ => none

/-- The operators that compare by order. -/
def comparisonLevel : Level
  | .mark .greater => some .greater
  | .mark .greaterEqual => some .greaterEqual
  | .mark .less => some .less
  | .mark .lessEqual => some .lessEqual
  | _ => none

/-- The operators that compare for equality. -/
def equalityLevel : Level
  | .mark .bangEqual => some .notEqual
  | .mark .equalEqual => some .equal
  | _ => none

/-- How an operator token of a level joins its operands; the node keeps the operator's line. -/
def Level.join? (level : Level) (token : Token) :
    Option (Expression → Expression → Expression) :=
  (level token.kind).map fun operator left right => .binary operator token.line left right

/-- How the token of a logical operator joins its operands. -/
def logicalJoin? (mark : Mark) (operator : LogicalOperator) (token : Token) :
    Option (Expression → Expression → Expression) :=
  if token.isMark mark then some (.logical operator) else none

/-- Products and quotients. -/
def factor : Parser Expression :=
  leftAssociative phrases.unary (Level.join? factorLevel) phrases.limit

/-- Sums and differences. -/
def term : Parser Expression :=
  leftAssociative phrases.factor (Level.join? termLevel) phrases.limit

/-- Comparisons by order. -/
def comparison : Parser Expression :=
  leftAssociative phrases.term (Level.join? comparisonLevel) phrases.limit

/-- Comparisons for equality. -/
def equality : Parser Expression :=
  leftAssociative phrases.comparison (Level.join? equalityLevel) phrases.limit

/-- Expressions joined by `and`. -/
def conjunction : Parser Expression :=
  leftAssociative phrases.equality (logicalJoin? .andWord .and) phrases.limit

/-- Expressions joined by `or`. -/
def disjunction : Parser Expression :=
  leftAssociative phrases.conjunction (logicalJoin? .orWord .or) phrases.limit

/-! ### Assignment -/

/-- The assignment of a value to what was read as a target; `equals` is the token between them. Only
a variable and a property can be assigned to. -/
def assignTo (equals : Token) (value : Expression) : Expression → Parser Expression
  | .read _ name => return .assign (← freshReference) name value
  | .get object name => return .set object name value
  | _ => throw ⟨equals, .invalidTarget⟩

/-- An expression: the target is read first, and found to be none only behind the value. -/
def wholeExpression : Parser Expression := do
  let target ← phrases.disjunction
  let equals ← peek
  if equals.isMark .equal then
    advance
    assignTo equals (← phrases.expression) target
  else
    return target

end Phrases

end Lox.Grammar
