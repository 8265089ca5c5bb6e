/-
`for` loops spelled out: instead of one there stands a `while` loop that has the increment as the
last statement of its body, behind the initializer, in braces of their own. What is derived is then
as regular as before, and the trees are twins; this is so as well where braces stand around
statements.
-/

import Lox.Proofs.Grammar.Begins
import Lox.Proofs.Grammar.Braced

namespace Lox.Grammar

/-! ### Loops -/

/-- The signs with which a `for` loop is spelled out. -/
structure Spelling where
  opening : Sign .leftBrace
  word : Sign .whileWord
  before : Sign .leftParen
  always : Sign .trueWord
  behind : Sign .rightParen
  openingBody : Sign .leftBrace
  semicolon : Sign .semicolon
  closingBody : Sign .rightBrace
  closing : Sign .rightBrace

namespace Derivation

/-- The condition, or without one `true`. -/
def orAlways (always : Sign .trueWord) :
    Derivation .optionalExpression → Derivation .expression
  | noExpression =>
    plainExpression (soleOperand (soleOperand (soleOperand (soleOperand (soleOperand (soleOperand
      (plainCall (plainPrimary (trueLiteral always)))))))))
  | someExpression condition => condition

/-- The increment as a statement, if there is one. -/
def asLast (semicolon : Sign .semicolon) :
    Derivation .optionalExpression → Derivation .declarations
  | noExpression => noDeclarations
  | someExpression increment =>
    moreDeclarations (statementDeclaration (evaluationStatement (terminated increment semicolon)))
      noDeclarations

/-- `while (C) { S N; }` -/
def spelledLoop (spelling : Spelling) (condition increment : Derivation .optionalExpression)
    (body : Derivation .statement) : Derivation .statement :=
  whileStatement spelling.word spelling.before (condition.orAlways spelling.always)
    spelling.behind (blockStatement (braces spelling.openingBody
      (moreDeclarations (statementDeclaration body) (increment.asLast spelling.semicolon))
      spelling.closingBody))

/-- A declaration and a statement behind it, in braces. -/
def together (spelling : Spelling) (first : Derivation .declaration)
    (second : Derivation .statement) : Derivation .statement :=
  blockStatement (braces spelling.opening
    (moreDeclarations first (moreDeclarations (statementDeclaration second) noDeclarations))
    spelling.closing)

/-- `{ I while (C) { S N; } }`, or without an initializer the loop alone. -/
def spelledOut (spelling : Spelling) (initializer : Derivation .loopInitializer)
    (condition increment : Derivation .optionalExpression) (body : Derivation .statement) :
    Derivation .statement :=
  match initializer with
  | noInitializer _ => spelledLoop spelling condition increment body
  | variableInitializer declared =>
    together spelling (variableDeclaration declared) (spelledLoop spelling condition increment body)
  | plainInitializer first =>
    together spelling (statementDeclaration (evaluationStatement first))
      (spelledLoop spelling condition increment body)

/-- The second derivation is the first one, on any lines, with braces around any of its statements,
and any of its `for` loops spelled out whose bodies have no `continue` for them. -/
inductive Spelled : {symbol : Symbol} → Derivation symbol → Derivation symbol → Prop
  | inBraces {content contentToo : Derivation .statement} {opening : Sign .leftBrace}
    {closing : Sign .rightBrace} :
    Spelled content contentToo → Spelled content (inBraces opening contentToo closing)
  | wholeProgram {declarations declarationsToo : Derivation .declarations}
    {ending endingToo : Ending} :
    Spelled declarations declarationsToo →
    Spelled (wholeProgram declarations ending) (wholeProgram declarationsToo endingToo)
  | wholeExpression {content contentToo : Derivation .expression} {ending endingToo : Ending} :
    Spelled content contentToo →
    Spelled (wholeExpression content ending) (wholeExpression contentToo endingToo)
  | noDeclarations : Spelled noDeclarations noDeclarations
  | moreDeclarations {first firstToo : Derivation .declaration}
    {others othersToo : Derivation .declarations} :
    Spelled first firstToo → Spelled others othersToo →
    Spelled (moreDeclarations first others) (moreDeclarations firstToo othersToo)
  | classDeclaration {word wordToo : Sign .classWord} {name : String} {line lineToo : Nat}
    {opening openingToo : Sign .leftBrace} {methods methodsToo : Derivation .methods}
    {closing closingToo : Sign .rightBrace} :
    Spelled methods methodsToo →
    Spelled (classDeclaration word ⟨name, line⟩ opening methods closing)
      (classDeclaration wordToo ⟨name, lineToo⟩ openingToo methodsToo closingToo)
  | subclassDeclaration {word wordToo : Sign .classWord} {name superclass : String}
    {line lineToo place placeToo : Nat} {less lessToo : Sign .less}
    {opening openingToo : Sign .leftBrace} {methods methodsToo : Derivation .methods}
    {closing closingToo : Sign .rightBrace} :
    Spelled methods methodsToo →
    Spelled
      (subclassDeclaration word ⟨name, line⟩ less ⟨superclass, place⟩ opening methods closing)
      (subclassDeclaration wordToo ⟨name, lineToo⟩ lessToo ⟨superclass, placeToo⟩ openingToo
        methodsToo closingToo)
  | functionDeclaration {word wordToo : Sign .funWord}
    {function functionToo : Derivation .function} :
    Spelled function functionToo →
    Spelled (functionDeclaration word function) (functionDeclaration wordToo functionToo)
  | variableDeclaration {declared declaredToo : Derivation .variable} :
    Spelled declared declaredToo →
    Spelled (variableDeclaration declared) (variableDeclaration declaredToo)
  | statementDeclaration {content contentToo : Derivation .statement} :
    Spelled content contentToo →
    Spelled (statementDeclaration content) (statementDeclaration contentToo)
  | noMethods : Spelled noMethods noMethods
  | moreMethods {first firstToo : Derivation .function} {others othersToo : Derivation .methods} :
    Spelled first firstToo → Spelled others othersToo →
    Spelled (moreMethods first others) (moreMethods firstToo othersToo)
  | namedFunction {name : String} {line lineToo : Nat} {opening openingToo : Sign .leftParen}
    {parameters parametersToo : Option Parameters} {closing closingToo : Sign .rightParen}
    {body bodyToo : Derivation .block} :
    SameNames parameters parametersToo → Spelled body bodyToo →
    Spelled (namedFunction ⟨name, line⟩ opening parameters closing body)
      (namedFunction ⟨name, lineToo⟩ openingToo parametersToo closingToo bodyToo)
  | braces {opening openingToo : Sign .leftBrace}
    {declarations declarationsToo : Derivation .declarations}
    {closing closingToo : Sign .rightBrace} :
    Spelled declarations declarationsToo →
    Spelled (braces opening declarations closing) (braces openingToo declarationsToo closingToo)
  | uninitialized {word wordToo : Sign .varWord} {name : String} {line lineToo : Nat}
    {semicolon semicolonToo : Sign .semicolon} :
    Spelled (uninitialized word ⟨name, line⟩ semicolon)
      (uninitialized wordToo ⟨name, lineToo⟩ semicolonToo)
  | initialized {word wordToo : Sign .varWord} {name : String} {line lineToo : Nat}
    {equals equalsToo : Sign .equal} {value valueToo : Derivation .expression}
    {semicolon semicolonToo : Sign .semicolon} :
    Spelled value valueToo →
    Spelled (initialized word ⟨name, line⟩ equals value semicolon)
      (initialized wordToo ⟨name, lineToo⟩ equalsToo valueToo semicolonToo)
  | evaluationStatement {content contentToo : Derivation .expressionStatement} :
    Spelled content contentToo →
    Spelled (evaluationStatement content) (evaluationStatement contentToo)
  | forStatement {word wordToo : Sign .forWord} {opening openingToo : Sign .leftParen}
    {initializer initializerToo : Derivation .loopInitializer}
    {condition conditionToo increment incrementToo : Derivation .optionalExpression}
    {semicolon semicolonToo : Sign .semicolon} {closing closingToo : Sign .rightParen}
    {body bodyToo : Derivation .statement} :
    Spelled initializer initializerToo → Spelled condition conditionToo →
    Spelled increment incrementToo → Spelled body bodyToo →
    Spelled (forStatement word opening initializer condition semicolon increment closing body)
      (forStatement wordToo openingToo initializerToo conditionToo semicolonToo incrementToo
        closingToo bodyToo)
  | spelledOut {word : Sign .forWord} {opening : Sign .leftParen}
    {initializer initializerToo : Derivation .loopInitializer}
    {condition conditionToo increment incrementToo : Derivation .optionalExpression}
    {semicolon : Sign .semicolon} {closing : Sign .rightParen}
    {body bodyToo : Derivation .statement} {spelling : Spelling} :
    (∀ low, Statement.continues (body.tree low) = false) → Spelled initializer initializerToo →
    Spelled condition conditionToo → Spelled increment incrementToo → Spelled body bodyToo →
    Spelled (forStatement word opening initializer condition semicolon increment closing body)
      (spelledOut spelling initializerToo conditionToo incrementToo bodyToo)
  | ifStatement {word wordToo : Sign .ifWord} {opening openingToo : Sign .leftParen}
    {condition conditionToo : Derivation .expression} {closing closingToo : Sign .rightParen}
    {thenBranch thenBranchToo : Derivation .statement} :
    Spelled condition conditionToo → Spelled thenBranch thenBranchToo →
    Spelled (ifStatement word opening condition closing thenBranch)
      (ifStatement wordToo openingToo conditionToo closingToo thenBranchToo)
  | ifElseStatement {word wordToo : Sign .ifWord} {opening openingToo : Sign .leftParen}
    {condition conditionToo : Derivation .expression} {closing closingToo : Sign .rightParen}
    {thenBranch thenBranchToo elseBranch elseBranchToo : Derivation .statement}
    {otherwise otherwiseToo : Sign .elseWord} :
    Spelled condition conditionToo → Spelled thenBranch thenBranchToo →
    Spelled elseBranch elseBranchToo →
    Spelled (ifElseStatement word opening condition closing thenBranch otherwise elseBranch)
      (ifElseStatement wordToo openingToo conditionToo closingToo thenBranchToo otherwiseToo
        elseBranchToo)
  | whileStatement {word wordToo : Sign .whileWord} {opening openingToo : Sign .leftParen}
    {condition conditionToo : Derivation .expression} {closing closingToo : Sign .rightParen}
    {body bodyToo : Derivation .statement} :
    Spelled condition conditionToo → Spelled body bodyToo →
    Spelled (whileStatement word opening condition closing body)
      (whileStatement wordToo openingToo conditionToo closingToo bodyToo)
  | printStatement {word wordToo : Sign .printWord} {value valueToo : Derivation .expression}
    {semicolon semicolonToo : Sign .semicolon} :
    Spelled value valueToo →
    Spelled (printStatement word value semicolon) (printStatement wordToo valueToo semicolonToo)
  | returnStatement {word wordToo : Sign .returnWord}
    {value valueToo : Derivation .optionalExpression} {semicolon semicolonToo : Sign .semicolon} :
    Spelled value valueToo →
    Spelled (returnStatement word value semicolon) (returnStatement wordToo valueToo semicolonToo)
  | breakStatement {word wordToo : Sign .breakWord} {semicolon semicolonToo : Sign .semicolon} :
    Spelled (breakStatement word semicolon) (breakStatement wordToo semicolonToo)
  | continueStatement {word wordToo : Sign .continueWord}
    {semicolon semicolonToo : Sign .semicolon} :
    Spelled (continueStatement word semicolon) (continueStatement wordToo semicolonToo)
  | blockStatement {block blockToo : Derivation .block} :
    Spelled block blockToo → Spelled (blockStatement block) (blockStatement blockToo)
  | terminated {content contentToo : Derivation .expression}
    {semicolon semicolonToo : Sign .semicolon} :
    Spelled content contentToo →
    Spelled (terminated content semicolon) (terminated contentToo semicolonToo)
  | noInitializer {semicolon semicolonToo : Sign .semicolon} :
    Spelled (noInitializer semicolon) (noInitializer semicolonToo)
  | variableInitializer {declared declaredToo : Derivation .variable} :
    Spelled declared declaredToo →
    Spelled (variableInitializer declared) (variableInitializer declaredToo)
  | plainInitializer {content contentToo : Derivation .expressionStatement} :
    Spelled content contentToo → Spelled (plainInitializer content) (plainInitializer contentToo)
  | noExpression : Spelled noExpression noExpression
  | someExpression {content contentToo : Derivation .expression} :
    Spelled content contentToo → Spelled (someExpression content) (someExpression contentToo)
  | assignVariable {name : String} {line lineToo : Nat} {equals equalsToo : Sign .equal}
    {value valueToo : Derivation .expression} :
    Spelled value valueToo →
    Spelled (assignVariable ⟨name, line⟩ equals value)
      (assignVariable ⟨name, lineToo⟩ equalsToo valueToo)
  | assignProperty {object objectToo : Derivation .call} {dot dotToo : Sign .dot} {name : String}
    {line lineToo : Nat} {equals equalsToo : Sign .equal}
    {value valueToo : Derivation .expression} :
    Spelled object objectToo → Spelled value valueToo →
    Spelled (assignProperty object dot ⟨name, line⟩ equals value)
      (assignProperty objectToo dotToo ⟨name, lineToo⟩ equalsToo valueToo)
  | plainExpression {operands operandsToo : Derivation (.operands (some .disjunction))} :
    Spelled operands operandsToo → Spelled (plainExpression operands) (plainExpression operandsToo)
  | soleOperand {tier : Tier} {operand operandToo : Derivation (.operands tier.tighter)} :
    Spelled operand operandToo → Spelled (soleOperand operand) (soleOperand operandToo)
  | joinedOperands {tier : Tier} {left leftToo : Derivation (.operands (some tier))}
    {operator : Operator tier} {sign signToo : Sign operator.mark}
    {right rightToo : Derivation (.operands tier.tighter)} :
    Spelled left leftToo → Spelled right rightToo →
    Spelled (joinedOperands left operator sign right)
      (joinedOperands leftToo operator signToo rightToo)
  | plainCall {call callToo : Derivation .call} :
    Spelled call callToo → Spelled (plainCall call) (plainCall callToo)
  | unaryOperation {operator : UnaryOperator} {sign signToo : Sign operator.mark}
    {operand operandToo : Derivation (.operands none)} :
    Spelled operand operandToo →
    Spelled (unaryOperation operator sign operand) (unaryOperation operator signToo operandToo)
  | plainPrimary {primary primaryToo : Derivation .primary} :
    Spelled primary primaryToo → Spelled (plainPrimary primary) (plainPrimary primaryToo)
  | callWithout {callee calleeToo : Derivation .call} {opening openingToo : Sign .leftParen}
    {closing closingToo : Sign .rightParen} :
    Spelled callee calleeToo →
    Spelled (callWithout callee opening closing) (callWithout calleeToo openingToo closingToo)
  | callWith {callee calleeToo : Derivation .call} {opening openingToo : Sign .leftParen}
    {arguments argumentsToo : Derivation .arguments} {closing closingToo : Sign .rightParen} :
    Spelled callee calleeToo → Spelled arguments argumentsToo →
    Spelled (callWith callee opening arguments closing)
      (callWith calleeToo openingToo argumentsToo closingToo)
  | property {object objectToo : Derivation .call} {dot dotToo : Sign .dot} {name : String}
    {line lineToo : Nat} :
    Spelled object objectToo →
    Spelled (property object dot ⟨name, line⟩) (property objectToo dotToo ⟨name, lineToo⟩)
  | lastArgument {argument argumentToo : Derivation .expression} :
    Spelled argument argumentToo → Spelled (lastArgument argument) (lastArgument argumentToo)
  | moreArguments {argument argumentToo : Derivation .expression} {comma commaToo : Sign .comma}
    {others othersToo : Derivation .arguments} :
    Spelled argument argumentToo → Spelled others othersToo →
    Spelled (moreArguments argument comma others) (moreArguments argumentToo commaToo othersToo)
  | numberLiteral {value : Float} {lexeme lexemeToo : String} {line lineToo : Nat} :
    Spelled (numberLiteral value lexeme line) (numberLiteral value lexemeToo lineToo)
  | stringLiteral {contents lexeme lexemeToo : String} {line lineToo : Nat} :
    Spelled (stringLiteral contents lexeme line) (stringLiteral contents lexemeToo lineToo)
  | trueLiteral {word wordToo : Sign .trueWord} : Spelled (trueLiteral word) (trueLiteral wordToo)
  | falseLiteral {word wordToo : Sign .falseWord} :
    Spelled (falseLiteral word) (falseLiteral wordToo)
  | nilLiteral {word wordToo : Sign .nilWord} : Spelled (nilLiteral word) (nilLiteral wordToo)
  | receiver {lexeme : String} {line lineToo : Nat} :
    Spelled (receiver ⟨lexeme, line⟩) (receiver ⟨lexeme, lineToo⟩)
  | superMethod {lexeme method : String} {line lineToo place placeToo : Nat}
    {dot dotToo : Sign .dot} :
    Spelled (superMethod ⟨lexeme, line⟩ dot ⟨method, place⟩)
      (superMethod ⟨lexeme, lineToo⟩ dotToo ⟨method, placeToo⟩)
  | variableName {name : String} {line lineToo : Nat} :
    Spelled (variableName ⟨name, line⟩) (variableName ⟨name, lineToo⟩)
  | grouping {opening openingToo : Sign .leftParen} {content contentToo : Derivation .expression}
    {closing closingToo : Sign .rightParen} :
    Spelled content contentToo →
    Spelled (grouping opening content closing) (grouping openingToo contentToo closingToo)
  | anonymousFunction {word wordToo : Sign .funWord} {opening openingToo : Sign .leftParen}
    {parameters parametersToo : Option Parameters} {closing closingToo : Sign .rightParen}
    {body bodyToo : Derivation .block} :
    SameNames parameters parametersToo → Spelled body bodyToo →
    Spelled (anonymousFunction word opening parameters closing body)
      (anonymousFunction wordToo openingToo parametersToo closingToo bodyToo)

/-- No loop need be spelled out. -/
theorem Braced.spelled {symbol : Symbol} {derivation other : Derivation symbol}
    (braced : Braced derivation other) : Spelled derivation other := by
  induction braced with
  | namedFunction sameNames _ body => exact .namedFunction sameNames body
  | anonymousFunction sameNames _ body => exact .anonymousFunction sameNames body
  | _ => constructor <;> assumption

theorem Spelled.refl {symbol : Symbol} (derivation : Derivation symbol) :
    Spelled derivation derivation :=
  (Braced.refl derivation).spelled

end Derivation

/-! ### Trees -/

open Lox.Alignment

/-- The tree of a loop that is spelled out. -/
def spelledTree (initializer : Option Statement) (condition increment : Option Expression)
    (body : Statement) : Statement :=
  let condition := condition.getD (.literal (.boolean true))
  let last := (increment.map Statement.expression).toList
  let loop : Statement := .loop condition (.block (body :: last)) none
  match initializer with
  | some first => .block [first, loop]
  | none => loop

theorem Derivation.tree_spelledOut (spelling : Spelling)
    (initializer : Derivation .loopInitializer)
    (condition increment : Derivation .optionalExpression) (body : Derivation .statement)
    (low : Reference) :
    (spelledOut spelling initializer condition increment body).tree low =
      spelledTree (initializer.tree low) (condition.tree (low + initializer.drawn))
        (increment.tree (low + initializer.drawn + condition.drawn + body.drawn))
        (body.tree (low + initializer.drawn + condition.drawn)) := by
  cases initializer <;> cases condition <;> cases increment <;> rfl

/-- A loop and what it is when it is spelled out. -/
theorem spelledTree_twin {alignment : Alignment} {initializer initializerToo : Option Statement}
    {condition conditionToo increment incrementToo : Option Expression} {body bodyToo : Statement}
    (quiet : body.continues = false)
    (initializers : ∀ alignment : Alignment, (true = true → alignment 0 0) →
      Symbol.loopInitializer.Twins alignment initializer initializerToo)
    (conditions : ∀ alignment,
      Symbol.optionalExpression.Twins alignment condition conditionToo)
    (increments : ∀ alignment,
      Symbol.optionalExpression.Twins alignment increment incrementToo)
    (bodies : ∀ alignment, Twin .loose alignment (.statement body bodyToo)) :
    Twin .loose alignment (.statement (desugared initializer condition increment body)
      (spelledTree initializerToo conditionToo incrementToo bodyToo)) := by
  have loops (alignment : Alignment) : Twin .loose alignment (.statement
      (.loop (condition.getD (.literal (.boolean true))) body (increment.map .expression))
      (.loop (conditionToo.getD (.literal (.boolean true)))
        (.block (bodyToo :: (incrementToo.map Statement.expression).toList)) none)) := by
    have conditionTwin := condition_twin (conditions alignment)
    cases increments alignment.skipRight with
    | none => exact .loop conditionTwin (.bracedRight (bodies _))
    | some twin => exact .spelledRight quiet conditionTwin (bodies _) twin
  cases initializers alignment.inside fun _ => inside_here with
  | none => exact loops alignment
  | some first =>
    exact .block (.moreStatements first (.moreStatements (loops _) .noStatements))

namespace Derivation

/-- The trees are twins whatever scopes lie around, but that the innermost ones have to belong
together where names may be declared. -/
theorem Spelled.twins {symbol : Symbol} {derivation other : Derivation symbol}
    (spelled : Spelled derivation other) (alignment : Alignment) (low lowToo : Reference)
    (here : symbol.declares = true → alignment 0 0) :
    symbol.Twins alignment (derivation.tree low) (other.tree lowToo) := by
  induction spelled generalizing alignment low lowToo with
  | inBraces _ inside => exact .bracedRight (inside _ _ _ nofun)
  | wholeProgram _ inside | variableDeclaration _ inside | braces _ inside =>
    exact inside _ _ _ here
  | wholeExpression _ inside | evaluationStatement _ inside | plainExpression _ inside
  | soleOperand _ inside | plainCall _ inside | plainPrimary _ inside
  | statementDeclaration _ inside => exact inside _ _ _ nofun
  | variableInitializer _ inside => exact .some (inside _ _ _ here)
  | plainInitializer _ inside | someExpression _ inside => exact .some (inside _ _ _ nofun)
  | noInitializer | noExpression => exact .none
  | noDeclarations => exact .noStatements
  | moreDeclarations _ _ first others =>
    exact .moreStatements (first _ _ _ here) (others _ _ _ here)
  | classDeclaration _ methods => exact .declareClass (here rfl) (methods _ _ _ nofun)
  | subclassDeclaration _ methods =>
    exact .declareSubclass (here rfl) (.read trivial) (methods _ _ _ nofun)
  | functionDeclaration _ function => exact .declareFunction (here rfl) (function _ _ _ nofun)
  | noMethods => exact .noFunctions
  | moreMethods _ _ first others =>
    exact .moreFunctions (first _ _ _ nofun) (others _ _ _ nofun)
  | namedFunction sameNames _ body =>
    exact .function rfl sameNames (body _ _ _ fun _ => inside_here)
  | uninitialized => exact .uninitialized (here rfl)
  | initialized _ value => exact .initialized (here rfl) (value _ _ _ nofun)
  | forStatement _ _ _ _ initializer condition increment body =>
    exact desugared_twin (fun alignment => initializer alignment _ _)
      (fun alignment => condition alignment _ _ nofun)
      (fun alignment => increment alignment _ _ nofun) (fun alignment => body alignment _ _ nofun)
  | spelledOut quiet _ _ _ _ initializer condition increment body =>
    rw [tree_spelledOut]
    exact spelledTree_twin (quiet _) (fun alignment => initializer alignment _ _)
      (fun alignment => condition alignment _ _ nofun)
      (fun alignment => increment alignment _ _ nofun) (fun alignment => body alignment _ _ nofun)
  | ifStatement _ _ condition thenBranch =>
    exact .ifThen (condition _ _ _ nofun) (thenBranch _ _ _ nofun)
  | ifElseStatement _ _ _ condition thenBranch elseBranch =>
    exact .ifElse (condition _ _ _ nofun) (thenBranch _ _ _ nofun) (elseBranch _ _ _ nofun)
  | whileStatement _ _ condition body =>
    exact .loop (condition _ _ _ nofun) (body _ _ _ nofun)
  | printStatement _ value => exact .print (value _ _ _ nofun)
  | returnStatement _ value => exact giveBack_twin (value _ _ _ nofun)
  | breakStatement | continueStatement => exact .control
  | blockStatement _ block => exact .block (block _ _ _ fun _ => inside_here)
  | terminated _ inside => exact .evaluation (inside _ _ _ nofun)
  | assignVariable _ value => exact .assign trivial (value _ _ _ nofun)
  | assignProperty _ _ object value => exact .set (object _ _ _ nofun) (value _ _ _ nofun)
  | joinedOperands _ _ left right =>
    exact join_twin _ (left _ _ _ nofun) (right _ _ _ nofun)
  | unaryOperation _ operand => exact .unary (operand _ _ _ nofun)
  | callWithout _ callee => exact .call (callee _ _ _ nofun) .noExpressions
  | callWith _ _ callee arguments =>
    exact .call (callee _ _ _ nofun) (arguments _ _ _ nofun)
  | property _ object => exact .get (object _ _ _ nofun)
  | lastArgument _ argument => exact .moreExpressions (argument _ _ _ nofun) .noExpressions
  | moreArguments _ _ argument others =>
    exact .moreExpressions (argument _ _ _ nofun) (others _ _ _ nofun)
  | numberLiteral | stringLiteral | trueLiteral | falseLiteral | nilLiteral => exact .literal
  | receiver => exact .this trivial
  | superMethod => exact .super trivial
  | variableName => exact .read trivial
  | grouping _ inner => exact .grouping (inner _ _ _ nofun)
  | anonymousFunction sameNames _ body =>
    exact .anonymous (.function rfl sameNames (body _ _ _ fun _ => inside_here))

end Derivation

/-! ### Regularity -/

/-- Statements do not begin with `else`. -/
theorem NoElse.of_begins {tokens : List Token} (begins : BeginsStatement tokens) :
    NoElse tokens := by
  cases tokens with
  | nil => exact fun _ none => nomatch none
  | cons first rest => exact .of_token begins.notElse

namespace Derivation

theorem Spelled.length_arguments {arguments argumentsToo : Derivation .arguments}
    (spelled : Spelled arguments argumentsToo) :
    (argumentsToo.tree 0).length = (arguments.tree 0).length :=
  (spelled.twins .same 0 0 nofun).length.symm

variable {symbol : Symbol} {derivation other : Derivation symbol} {rest behind : List Token}

/-- What a derivation begins with is no more `else` than before. -/
theorem Spelled.noElse_write (spelled : Spelled derivation other)
    (follows : NoElse rest → NoElse behind) (noElse : NoElse (derivation.write rest)) :
    NoElse (other.write behind) := by
  induction spelled generalizing rest behind with
  | noDeclarations | noMethods | noExpression => exact follows noElse
  | variableDeclaration _ inside | statementDeclaration _ inside | evaluationStatement _ inside
  | blockStatement _ inside | variableInitializer _ inside | plainInitializer _ inside
  | someExpression _ inside | plainExpression _ inside | soleOperand _ inside
  | plainCall _ inside | plainPrimary _ inside | lastArgument _ inside =>
    exact inside follows noElse
  | moreDeclarations _ _ inside inOthers | moreMethods _ _ inside inOthers =>
    exact inside (inOthers follows) noElse
  | wholeProgram _ inside | wholeExpression _ inside | terminated _ inside
  | assignProperty _ _ inside _ | callWithout _ inside | callWith _ _ inside _
  | property _ inside | moreArguments _ _ inside _ =>
    exact inside (fun _ => .of_token rfl) noElse
  | joinedOperands _ _ inside _ => exact inside .of_sign noElse
  | unaryOperation _ _ => exact noElse.of_sign
  | spelledOut _ _ _ _ _ => exact .of_begins (beginsStatement _ _)
  | _ => exact .of_token rfl

/-- Behind the body of a loop that is spelled out there is its increment, or a brace. -/
theorem noElse_asLast (semicolon : Sign .semicolon) (increment : Derivation .optionalExpression)
    (closing : Sign .rightBrace) (rest : List Token) :
    NoElse ((increment.asLast semicolon).write (closing.token :: rest)) := by
  cases increment with
  | noExpression => exact .of_token rfl
  | someExpression increment => exact .of_begins (.of_expression (increment.beginsExpression rfl _))

/-- A loop that is spelled out is regular behind whatever tokens if its parts are so where they
stand. -/
theorem regular_spelledOut (spelling : Spelling) {initializer : Derivation .loopInitializer}
    {condition increment : Derivation .optionalExpression} {body : Derivation .statement}
    (inInitializer : ∀ sign : Sign .whileWord, ∀ behind,
      initializer.Regular (sign.token :: behind))
    (inCondition : ∀ behind, condition.Regular (spelling.behind.token :: behind))
    (inIncrement : ∀ behind, increment.Regular (spelling.semicolon.token :: behind))
    (inBody : ∀ behind, NoElse behind → body.Regular behind) (rest : List Token) :
    (spelledOut spelling initializer condition increment body).Regular rest := by
  have regularCondition (behind : List Token) :
      (condition.orAlways spelling.always).Regular (spelling.behind.token :: behind) := by
    cases condition with
    | noExpression => trivial
    | someExpression condition => exact inCondition behind
  have regularLast (behind : List Token) :
      (increment.asLast spelling.semicolon).Regular behind := by
    cases increment with
    | noExpression => trivial
    | someExpression increment => exact ⟨inIncrement _, trivial⟩
  have regularLoop (behind : List Token) :
      (spelledLoop spelling condition increment body).Regular behind :=
    ⟨regularCondition _, inBody _ (noElse_asLast _ _ _ _), regularLast _⟩
  cases initializer with
  | noInitializer semicolon => exact regularLoop rest
  | variableInitializer declared => exact ⟨inInitializer _ _, regularLoop _, trivial⟩
  | plainInitializer first => exact ⟨inInitializer _ _, regularLoop _, trivial⟩

/-- With braces a derivation is as regular as before, and so it is behind other tokens, unless these
begin with `else` and the tokens before did not. -/
theorem Spelled.regular (spelled : Spelled derivation other) (regular : derivation.Regular rest)
    (follows : NoElse rest → NoElse behind) : other.Regular behind := by
  induction spelled generalizing rest behind with
  | noDeclarations | noMethods | uninitialized | breakStatement | continueStatement
  | noInitializer | noExpression | numberLiteral | stringLiteral | trueLiteral | falseLiteral
  | nilLiteral | receiver | superMethod | variableName => trivial
  | inBraces _ inside => exact ⟨inside regular fun _ => .of_token rfl, trivial⟩
  | functionDeclaration _ inside | variableDeclaration _ inside | statementDeclaration _ inside
  | evaluationStatement _ inside | blockStatement _ inside | variableInitializer _ inside
  | plainInitializer _ inside | someExpression _ inside | assignVariable _ inside
  | plainExpression _ inside | soleOperand _ inside | plainCall _ inside
  | unaryOperation _ inside | plainPrimary _ inside | lastArgument _ inside =>
    exact inside regular follows
  | wholeProgram _ inside | wholeExpression _ inside
  | classDeclaration _ inside | subclassDeclaration _ inside
  | braces _ inside | initialized _ inside | printStatement _ inside | returnStatement _ inside
  | terminated _ inside | callWithout _ inside | property _ inside | grouping _ inside =>
    exact inside regular fun _ => .of_token rfl
  | moreDeclarations _ others inside inOthers | moreMethods _ others inside inOthers =>
    exact ⟨inside regular.1 (others.noElse_write follows), inOthers regular.2 follows⟩
  | namedFunction sameNames _ inside | anonymousFunction sameNames _ inside =>
    exact ⟨sameNames.length ▸ regular.1, inside regular.2 follows⟩
  | forStatement initializer condition increment body inInitializer inCondition inIncrement
      inBody =>
    obtain ⟨regularInitializer, regularCondition, regularIncrement, regularBody⟩ := regular
    exact ⟨inInitializer regularInitializer (condition.noElse_write .of_sign),
      inCondition regularCondition fun _ => .of_token rfl,
      inIncrement regularIncrement fun _ => .of_token rfl, inBody regularBody follows⟩
  | spelledOut _ _ _ _ _ inInitializer inCondition inIncrement inBody =>
    obtain ⟨regularInitializer, regularCondition, regularIncrement, regularBody⟩ := regular
    exact regular_spelledOut _ (fun _ _ => inInitializer regularInitializer fun _ => .of_token rfl)
      (fun _ => inCondition regularCondition fun _ => .of_token rfl)
      (fun _ => inIncrement regularIncrement fun _ => .of_token rfl)
      (fun _ noElse => inBody regularBody fun _ => noElse) behind
  | ifStatement _ _ inCondition inThen =>
    obtain ⟨regularCondition, regularThen, noElse⟩ := regular
    exact ⟨inCondition regularCondition fun _ => .of_token rfl, inThen regularThen follows,
      follows noElse⟩
  | ifElseStatement _ _ _ inCondition inThen inElse =>
    obtain ⟨regularCondition, regularThen, regularElse⟩ := regular
    exact ⟨inCondition regularCondition fun _ => .of_token rfl,
      inThen regularThen .of_sign, inElse regularElse follows⟩
  | whileStatement _ _ inCondition inBody =>
    exact ⟨inCondition regular.1 fun _ => .of_token rfl, inBody regular.2 follows⟩
  | assignProperty _ _ inObject inValue =>
    exact ⟨inObject regular.1 fun _ => .of_token rfl, inValue regular.2 follows⟩
  | joinedOperands _ _ inLeft inRight =>
    exact ⟨inLeft regular.1 .of_sign, inRight regular.2 follows⟩
  | callWith _ arguments inCallee inArguments =>
    obtain ⟨regularCallee, few, regularArguments⟩ := regular
    exact ⟨inCallee regularCallee fun _ => .of_token rfl, arguments.length_arguments ▸ few,
      inArguments regularArguments fun _ => .of_token rfl⟩
  | moreArguments _ _ inArgument inOthers =>
    exact ⟨inArgument regular.1 fun _ => .of_token rfl, inOthers regular.2 follows⟩

end Derivation

end Lox.Grammar
