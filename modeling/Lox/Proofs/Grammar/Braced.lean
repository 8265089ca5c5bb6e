/-
Derivations that are the same but for braces that stand around some statements of the second one,
and for lines; and what it means that the trees of two derivations are twins. Declarations stand
only where braces add no scope: whatever scopes lie around, the innermost ones belong together
there.
-/

import Lox.Proofs.Grammar.Relined
import Lox.Proofs.Tree.Twin

namespace Lox.Grammar

/-! ### Braces around statements -/

/-- The parameters have the same names. -/
def SameNames (parameters parametersToo : Option Parameters) : Prop :=
  (parameterNames parameters).map Identifier.name =
    (parameterNames parametersToo).map Identifier.name

theorem SameNames.length {parameters parametersToo : Option Parameters}
    (same : SameNames parameters parametersToo) :
    (parameterNames parameters).length = (parameterNames parametersToo).length := by
  have lengths := congrArg List.length same
  rwa [List.length_map, List.length_map] at lengths

namespace Derivation

/-- The statement with braces around it. -/
def inBraces (opening : Sign .leftBrace) (statement : Derivation .statement)
    (closing : Sign .rightBrace) : Derivation .statement :=
  blockStatement (braces opening
    (moreDeclarations (statementDeclaration statement) noDeclarations) closing)

/-- The second derivation is the first one, on any lines, with braces around any of its
statements. -/
inductive Braced : {symbol : Symbol} → Derivation symbol → Derivation symbol → Prop
  | inBraces {content contentToo : Derivation .statement} {opening : Sign .leftBrace}
    {closing : Sign .rightBrace} :
    Braced content contentToo → Braced content (inBraces opening contentToo closing)
  | wholeProgram {declarations declarationsToo : Derivation .declarations}
    {ending endingToo : Ending} :
    Braced declarations declarationsToo →
    Braced (wholeProgram declarations ending) (wholeProgram declarationsToo endingToo)
  | wholeExpression {content contentToo : Derivation .expression} {ending endingToo : Ending} :
    Braced content contentToo →
    Braced (wholeExpression content ending) (wholeExpression contentToo endingToo)
  | noDeclarations : Braced noDeclarations noDeclarations
  | moreDeclarations {first firstToo : Derivation .declaration}
    {others othersToo : Derivation .declarations} :
    Braced first firstToo → Braced others othersToo →
    Braced (moreDeclarations first others) (moreDeclarations firstToo othersToo)
  | classDeclaration {word wordToo : Sign .classWord} {name : String} {line lineToo : Nat}
    {opening openingToo : Sign .leftBrace} {methods methodsToo : Derivation .methods}
    {closing closingToo : Sign .rightBrace} :
    Braced methods methodsToo →
    Braced (classDeclaration word ⟨name, line⟩ opening methods closing)
      (classDeclaration wordToo ⟨name, lineToo⟩ openingToo methodsToo closingToo)
  | subclassDeclaration {word wordToo : Sign .classWord} {name superclass : String}
    {line lineToo place placeToo : Nat} {less lessToo : Sign .less}
    {opening openingToo : Sign .leftBrace} {methods methodsToo : Derivation .methods}
    {closing closingToo : Sign .rightBrace} :
    Braced methods methodsToo →
    Braced
      (subclassDeclaration word ⟨name, line⟩ less ⟨superclass, place⟩ opening methods closing)
      (subclassDeclaration wordToo ⟨name, lineToo⟩ lessToo ⟨superclass, placeToo⟩ openingToo
        methodsToo closingToo)
  | functionDeclaration {word wordToo : Sign .funWord}
    {function functionToo : Derivation .function} :
    Braced function functionToo →
    Braced (functionDeclaration word function) (functionDeclaration wordToo functionToo)
  | variableDeclaration {declared declaredToo : Derivation .variable} :
    Braced declared declaredToo →
    Braced (variableDeclaration declared) (variableDeclaration declaredToo)
  | statementDeclaration {content contentToo : Derivation .statement} :
    Braced content contentToo →
    Braced (statementDeclaration content) (statementDeclaration contentToo)
  | noMethods : Braced noMethods noMethods
  | moreMethods {first firstToo : Derivation .function} {others othersToo : Derivation .methods} :
    Braced first firstToo → Braced others othersToo →
    Braced (moreMethods first others) (moreMethods firstToo othersToo)
  | namedFunction {name : String} {line lineToo : Nat} {opening openingToo : Sign .leftParen}
    {parameters parametersToo : Option Parameters} {closing closingToo : Sign .rightParen}
    {body bodyToo : Derivation .block} :
    SameNames parameters parametersToo → Braced body bodyToo →
    Braced (namedFunction ⟨name, line⟩ opening parameters closing body)
      (namedFunction ⟨name, lineToo⟩ openingToo parametersToo closingToo bodyToo)
  | braces {opening openingToo : Sign .leftBrace}
    {declarations declarationsToo : Derivation .declarations}
    {closing closingToo : Sign .rightBrace} :
    Braced declarations declarationsToo →
    Braced (braces opening declarations closing) (braces openingToo declarationsToo closingToo)
  | uninitialized {word wordToo : Sign .varWord} {name : String} {line lineToo : Nat}
    {semicolon semicolonToo : Sign .semicolon} :
    Braced (uninitialized word ⟨name, line⟩ semicolon)
      (uninitialized wordToo ⟨name, lineToo⟩ semicolonToo)
  | initialized {word wordToo : Sign .varWord} {name : String} {line lineToo : Nat}
    {equals equalsToo : Sign .equal} {value valueToo : Derivation .expression}
    {semicolon semicolonToo : Sign .semicolon} :
    Braced value valueToo →
    Braced (initialized word ⟨name, line⟩ equals value semicolon)
      (initialized wordToo ⟨name, lineToo⟩ equalsToo valueToo semicolonToo)
  | evaluationStatement {content contentToo : Derivation .expressionStatement} :
    Braced content contentToo →
    Braced (evaluationStatement content) (evaluationStatement contentToo)
  | forStatement {word wordToo : Sign .forWord} {opening openingToo : Sign .leftParen}
    {initializer initializerToo : Derivation .loopInitializer}
    {condition conditionToo increment incrementToo : Derivation .optionalExpression}
    {semicolon semicolonToo : Sign .semicolon} {closing closingToo : Sign .rightParen}
    {body bodyToo : Derivation .statement} :
    Braced initializer initializerToo → Braced condition conditionToo →
    Braced increment incrementToo → Braced body bodyToo →
    Braced (forStatement word opening initializer condition semicolon increment closing body)
      (forStatement wordToo openingToo initializerToo conditionToo semicolonToo incrementToo
        closingToo bodyToo)
  | ifStatement {word wordToo : Sign .ifWord} {opening openingToo : Sign .leftParen}
    {condition conditionToo : Derivation .expression} {closing closingToo : Sign .rightParen}
    {thenBranch thenBranchToo : Derivation .statement} :
    Braced condition conditionToo → Braced thenBranch thenBranchToo →
    Braced (ifStatement word opening condition closing thenBranch)
      (ifStatement wordToo openingToo conditionToo closingToo thenBranchToo)
  | ifElseStatement {word wordToo : Sign .ifWord} {opening openingToo : Sign .leftParen}
    {condition conditionToo : Derivation .expression} {closing closingToo : Sign .rightParen}
    {thenBranch thenBranchToo elseBranch elseBranchToo : Derivation .statement}
    {otherwise otherwiseToo : Sign .elseWord} :
    Braced condition conditionToo → Braced thenBranch thenBranchToo →
    Braced elseBranch elseBranchToo →
    Braced (ifElseStatement word opening condition closing thenBranch otherwise elseBranch)
      (ifElseStatement wordToo openingToo conditionToo closingToo thenBranchToo otherwiseToo
        elseBranchToo)
  | whileStatement {word wordToo : Sign .whileWord} {opening openingToo : Sign .leftParen}
    {condition conditionToo : Derivation .expression} {closing closingToo : Sign .rightParen}
    {body bodyToo : Derivation .statement} :
    Braced condition conditionToo → Braced body bodyToo →
    Braced (whileStatement word opening condition closing body)
      (whileStatement wordToo openingToo conditionToo closingToo bodyToo)
  | printStatement {word wordToo : Sign .printWord} {value valueToo : Derivation .expression}
    {semicolon semicolonToo : Sign .semicolon} :
    Braced value valueToo →
    Braced (printStatement word value semicolon) (printStatement wordToo valueToo semicolonToo)
  | returnStatement {word wordToo : Sign .returnWord}
    {value valueToo : Derivation .optionalExpression} {semicolon semicolonToo : Sign .semicolon} :
    Braced value valueToo →
    Braced (returnStatement word value semicolon) (returnStatement wordToo valueToo semicolonToo)
  | breakStatement {word wordToo : Sign .breakWord} {semicolon semicolonToo : Sign .semicolon} :
    Braced (breakStatement word semicolon) (breakStatement wordToo semicolonToo)
  | continueStatement {word wordToo : Sign .continueWord}
    {semicolon semicolonToo : Sign .semicolon} :
    Braced (continueStatement word semicolon) (continueStatement wordToo semicolonToo)
  | blockStatement {block blockToo : Derivation .block} :
    Braced block blockToo → Braced (blockStatement block) (blockStatement blockToo)
  | terminated {content contentToo : Derivation .expression}
    {semicolon semicolonToo : Sign .semicolon} :
    Braced content contentToo →
    Braced (terminated content semicolon) (terminated contentToo semicolonToo)
  | noInitializer {semicolon semicolonToo : Sign .semicolon} :
    Braced (noInitializer semicolon) (noInitializer semicolonToo)
  | variableInitializer {declared declaredToo : Derivation .variable} :
    Braced declared declaredToo →
    Braced (variableInitializer declared) (variableInitializer declaredToo)
  | plainInitializer {content contentToo : Derivation .expressionStatement} :
    Braced content contentToo → Braced (plainInitializer content) (plainInitializer contentToo)
  | noExpression : Braced noExpression noExpression
  | someExpression {content contentToo : Derivation .expression} :
    Braced content contentToo → Braced (someExpression content) (someExpression contentToo)
  | assignVariable {name : String} {line lineToo : Nat} {equals equalsToo : Sign .equal}
    {value valueToo : Derivation .expression} :
    Braced value valueToo →
    Braced (assignVariable ⟨name, line⟩ equals value)
      (assignVariable ⟨name, lineToo⟩ equalsToo valueToo)
  | assignProperty {object objectToo : Derivation .call} {dot dotToo : Sign .dot} {name : String}
    {line lineToo : Nat} {equals equalsToo : Sign .equal}
    {value valueToo : Derivation .expression} :
    Braced object objectToo → Braced value valueToo →
    Braced (assignProperty object dot ⟨name, line⟩ equals value)
      (assignProperty objectToo dotToo ⟨name, lineToo⟩ equalsToo valueToo)
  | plainExpression {operands operandsToo : Derivation (.operands (some .disjunction))} :
    Braced operands operandsToo → Braced (plainExpression operands) (plainExpression operandsToo)
  | soleOperand {tier : Tier} {operand operandToo : Derivation (.operands tier.tighter)} :
    Braced operand operandToo → Braced (soleOperand operand) (soleOperand operandToo)
  | joinedOperands {tier : Tier} {left leftToo : Derivation (.operands (some tier))}
    {operator : Operator tier} {sign signToo : Sign operator.mark}
    {right rightToo : Derivation (.operands tier.tighter)} :
    Braced left leftToo → Braced right rightToo →
    Braced (joinedOperands left operator sign right)
      (joinedOperands leftToo operator signToo rightToo)
  | plainCall {call callToo : Derivation .call} :
    Braced call callToo → Braced (plainCall call) (plainCall callToo)
  | unaryOperation {operator : UnaryOperator} {sign signToo : Sign operator.mark}
    {operand operandToo : Derivation (.operands none)} :
    Braced operand operandToo →
    Braced (unaryOperation operator sign operand) (unaryOperation operator signToo operandToo)
  | plainPrimary {primary primaryToo : Derivation .primary} :
    Braced primary primaryToo → Braced (plainPrimary primary) (plainPrimary primaryToo)
  | callWithout {callee calleeToo : Derivation .call} {opening openingToo : Sign .leftParen}
    {closing closingToo : Sign .rightParen} :
    Braced callee calleeToo →
    Braced (callWithout callee opening closing) (callWithout calleeToo openingToo closingToo)
  | callWith {callee calleeToo : Derivation .call} {opening openingToo : Sign .leftParen}
    {arguments argumentsToo : Derivation .arguments} {closing closingToo : Sign .rightParen} :
    Braced callee calleeToo → Braced arguments argumentsToo →
    Braced (callWith callee opening arguments closing)
      (callWith calleeToo openingToo argumentsToo closingToo)
  | property {object objectToo : Derivation .call} {dot dotToo : Sign .dot} {name : String}
    {line lineToo : Nat} :
    Braced object objectToo →
    Braced (property object dot ⟨name, line⟩) (property objectToo dotToo ⟨name, lineToo⟩)
  | lastArgument {argument argumentToo : Derivation .expression} :
    Braced argument argumentToo → Braced (lastArgument argument) (lastArgument argumentToo)
  | moreArguments {argument argumentToo : Derivation .expression} {comma commaToo : Sign .comma}
    {others othersToo : Derivation .arguments} :
    Braced argument argumentToo → Braced others othersToo →
    Braced (moreArguments argument comma others) (moreArguments argumentToo commaToo othersToo)
  | numberLiteral {value : Float} {lexeme lexemeToo : String} {line lineToo : Nat} :
    Braced (numberLiteral value lexeme line) (numberLiteral value lexemeToo lineToo)
  | stringLiteral {contents lexeme lexemeToo : String} {line lineToo : Nat} :
    Braced (stringLiteral contents lexeme line) (stringLiteral contents lexemeToo lineToo)
  | trueLiteral {word wordToo : Sign .trueWord} : Braced (trueLiteral word) (trueLiteral wordToo)
  | falseLiteral {word wordToo : Sign .falseWord} :
    Braced (falseLiteral word) (falseLiteral wordToo)
  | nilLiteral {word wordToo : Sign .nilWord} : Braced (nilLiteral word) (nilLiteral wordToo)
  | receiver {lexeme : String} {line lineToo : Nat} :
    Braced (receiver ⟨lexeme, line⟩) (receiver ⟨lexeme, lineToo⟩)
  | superMethod {lexeme method : String} {line lineToo place placeToo : Nat}
    {dot dotToo : Sign .dot} :
    Braced (superMethod ⟨lexeme, line⟩ dot ⟨method, place⟩)
      (superMethod ⟨lexeme, lineToo⟩ dotToo ⟨method, placeToo⟩)
  | variableName {name : String} {line lineToo : Nat} :
    Braced (variableName ⟨name, line⟩) (variableName ⟨name, lineToo⟩)
  | grouping {opening openingToo : Sign .leftParen} {content contentToo : Derivation .expression}
    {closing closingToo : Sign .rightParen} :
    Braced content contentToo →
    Braced (grouping opening content closing) (grouping openingToo contentToo closingToo)
  | anonymousFunction {word wordToo : Sign .funWord} {opening openingToo : Sign .leftParen}
    {parameters parametersToo : Option Parameters} {closing closingToo : Sign .rightParen}
    {body bodyToo : Derivation .block} :
    SameNames parameters parametersToo → Braced body bodyToo →
    Braced (anonymousFunction word opening parameters closing body)
      (anonymousFunction wordToo openingToo parametersToo closingToo bodyToo)

/-- There need not be braces around any statement. -/
theorem Braced.refl {symbol : Symbol} (derivation : Derivation symbol) :
    Braced derivation derivation := by
  induction derivation with
  | namedFunction _ _ _ _ _ body => exact .namedFunction rfl body
  | anonymousFunction _ _ _ _ _ body => exact .anonymousFunction rfl body
  | _ => constructor <;> assumption

end Derivation

/-! ### Trees -/

open Lox.Alignment

/-- Whether what the symbol stands for may declare names in the innermost scope. -/
def Symbol.declares : Symbol → Bool
  | .program | .declarations | .declaration | .block | .variable | .loopInitializer => true
  | _ => false

/-- What two derivations of the symbol stand for are twins. -/
def Symbol.Twins (alignment : Alignment) : (symbol : Symbol) → symbol.Tree → symbol.Tree → Prop
  | .program | .declarations | .block => fun left right =>
    Twin .loose alignment (.statements left right)
  | .declaration | .variable | .statement | .expressionStatement => fun left right =>
    Twin .loose alignment (.statement left right)
  | .methods => fun left right => Twin .loose alignment (.functions left right)
  | .function => fun left right => Twin .loose alignment (.function left right)
  | .loopInitializer => Option.Rel fun left right => Twin .loose alignment (.statement left right)
  | .optionalExpression => Option.Rel fun left right =>
    Twin .loose alignment (.expression left right)
  | .arguments => fun left right => Twin .loose alignment (.expressions left right)
  | .loneExpression | .expression | .operands _ | .call | .primary => fun left right =>
    Twin .loose alignment (.expression left right)

theorem join_twin {tier : Tier} {alignment : Alignment} {line lineToo : Nat}
    {left leftToo right rightToo : Expression} (operator : Operator tier)
    (leftTwin : Twin .loose alignment (.expression left leftToo))
    (rightTwin : Twin .loose alignment (.expression right rightToo)) :
    Twin .loose alignment
      (.expression (operator.join line left right) (operator.join lineToo leftToo rightToo)) := by
  cases operator with
  | or | and => exact .logical leftTwin rightTwin
  | _ => exact .binary leftTwin rightTwin

theorem giveBack_twin {alignment : Alignment} {keyword keywordToo : Identifier}
    {value valueToo : Option Expression}
    (twins : Symbol.optionalExpression.Twins alignment value valueToo) :
    Twin .loose alignment
      (.statement (.giveBack keyword value) (.giveBack keywordToo valueToo)) := by
  cases twins with
  | none => exact .giveNothing
  | some value => exact .giveBack value

/-- A loop without a condition has one that always holds. -/
theorem condition_twin {alignment : Alignment} {condition conditionToo : Option Expression}
    (twins : Symbol.optionalExpression.Twins alignment condition conditionToo) :
    Twin .loose alignment (.expression (condition.getD (.literal (.boolean true)))
      (conditionToo.getD (.literal (.boolean true)))) := by
  cases twins with
  | none => exact .literal
  | some twin => exact twin

/-- The parts of a `for` loop stand in one scope more if there is an initializer. -/
theorem desugared_twin {alignment : Alignment} {initializer initializerToo : Option Statement}
    {condition conditionToo increment incrementToo : Option Expression} {body bodyToo : Statement}
    (initializers : ∀ alignment : Alignment, (true = true → alignment 0 0) →
      Symbol.loopInitializer.Twins alignment initializer initializerToo)
    (conditions : ∀ alignment,
      Symbol.optionalExpression.Twins alignment condition conditionToo)
    (increments : ∀ alignment,
      Symbol.optionalExpression.Twins alignment increment incrementToo)
    (bodies : ∀ alignment, Twin .loose alignment (.statement body bodyToo)) :
    Twin .loose alignment (.statement (desugared initializer condition increment body)
      (desugared initializerToo conditionToo incrementToo bodyToo)) := by
  have conditionTwin (alignment : Alignment) := condition_twin (conditions alignment)
  have loops (alignment : Alignment) : Twin .loose alignment (.statement
      (.loop (condition.getD (.literal (.boolean true))) body (increment.map .expression))
      (.loop (conditionToo.getD (.literal (.boolean true))) bodyToo
        (incrementToo.map .expression))) := by
    cases increments alignment with
    | none => exact .loop (conditionTwin alignment) (bodies alignment)
    | some twin =>
      exact .loopWith (conditionTwin alignment) (bodies alignment) (.evaluation twin)
  cases initializers alignment.inside fun _ => inside_here with
  | none => exact loops alignment
  | some first =>
    exact .block (.moreStatements first (.moreStatements (loops _) .noStatements))

/-! ### Regularity -/

theorem NoElse.of_token {token : Token} {rest : List Token}
    (notElse : token.isMark .elseWord = false) : NoElse (token :: rest) := by
  rintro following ⟨⟩
  exact notElse

/-- A sign of the same mark is no more `else`. -/
theorem NoElse.of_sign {mark : Mark} {sign signToo : Sign mark} {rest behind : List Token}
    (noElse : NoElse (sign.token :: rest)) : NoElse (signToo.token :: behind) :=
  .of_token (noElse sign.token rfl)

end Lox.Grammar
