/-
The documented grammar, on its own: which tokens it derives, and which tree a derivation stands for.
There is one constructor for each production, so a derivation tells how every token came to be
there. Repetition that groups to the left is a left recursion, any other a right recursion.

The tree of a derivation tells the occurrences of names apart by references, in the order in which a
reader comes to know of them: an assignment is known to be one only behind its value.
-/

import Lox.Tree

namespace Lox

/-- A name as a token. -/
def Identifier.token (name : Identifier) : Token :=
  ⟨.identifier, name.name, name.line⟩

/-- The mark that spells the operator before an operand. -/
def UnaryOperator.mark : UnaryOperator → Mark
  | .negate => .minus
  | .not => .bang

namespace Grammar

/-! ### Terminals -/

/-- A token that is the given mark. -/
structure Sign (mark : Mark) where
  lexeme : String
  line : Nat

/-- The sign as a token. -/
def Sign.token {mark : Mark} (sign : Sign mark) : Token :=
  ⟨.mark mark, sign.lexeme, sign.line⟩

/-- The word that the sign is. -/
def Sign.identifier {mark : Mark} (sign : Sign mark) : Identifier :=
  ⟨sign.lexeme, sign.line⟩

/-- A token that ends the source. -/
structure Ending where
  lexeme : String
  line : Nat

/-- The end as a token. -/
def Ending.token (ending : Ending) : Token :=
  ⟨.endOfInput, ending.lexeme, ending.line⟩

/-! ### Operators -/

/-- The levels of the operators between operands, from the loosest to the tightest. -/
inductive Tier where
  | disjunction | conjunction | equality | comparison | term | factor
deriving DecidableEq

/-- The operators of a level. -/
inductive Operator : Tier → Type where
  | or : Operator .disjunction
  | and : Operator .conjunction
  | notEqual : Operator .equality
  | equal : Operator .equality
  | greater : Operator .comparison
  | greaterEqual : Operator .comparison
  | less : Operator .comparison
  | lessEqual : Operator .comparison
  | subtract : Operator .term
  | add : Operator .term
  | divide : Operator .factor
  | multiply : Operator .factor

/-- The mark that spells the operator. -/
def Operator.mark {tier : Tier} : Operator tier → Mark
  | .or => .orWord
  | .and => .andWord
  | .notEqual => .bangEqual
  | .equal => .equalEqual
  | .greater => .greater
  | .greaterEqual => .greaterEqual
  | .less => .less
  | .lessEqual => .lessEqual
  | .subtract => .minus
  | .add => .plus
  | .divide => .slash
  | .multiply => .star

/-- The tree of two operands with the operator, which stands on a line, between them. -/
def Operator.join {tier : Tier} (line : Nat) (left right : Expression) :
    Operator tier → Expression
  | .or => .logical .or left right
  | .and => .logical .and left right
  | .notEqual => .binary .notEqual line left right
  | .equal => .binary .equal line left right
  | .greater => .binary .greater line left right
  | .greaterEqual => .binary .greaterEqual line left right
  | .less => .binary .less line left right
  | .lessEqual => .binary .lessEqual line left right
  | .subtract => .binary .subtract line left right
  | .add => .binary .add line left right
  | .divide => .binary .divide line left right
  | .multiply => .binary .multiply line left right

/-! ### Symbols -/

/-- What a derivation derives. -/
inductive Symbol where
  | program | loneExpression
  | declarations | declaration | methods | function | block | variable
  | statement | expressionStatement | loopInitializer | optionalExpression
  | expression
  /-- Operands with operators of a level between them, or else with prefix operators alone. -/
  | operands (tier : Option Tier)
  | call | arguments | primary
deriving DecidableEq

/-- The level of the operands of the operators of a level. -/
def Tier.tighter : Tier → Option Tier
  | .disjunction => some .conjunction
  | .conjunction => some .equality
  | .equality => some .comparison
  | .comparison => some .term
  | .term => some .factor
  | .factor => none

/-- What a derivation of the symbol stands for. -/
def Symbol.Tree : Symbol → Type
  | .program | .declarations | .block => List Statement
  | .declaration | .variable | .statement | .expressionStatement => Statement
  | .methods => List FunctionDeclaration
  | .function => FunctionDeclaration
  | .loopInitializer => Option Statement
  | .optionalExpression => Option Expression
  | .arguments => List Expression
  | .loneExpression | .expression | .operands _ | .call | .primary => Expression

/-- Whether what is derived from the symbol is a whole source, with its end. -/
def Symbol.isWhole : Symbol → Bool
  | .program | .loneExpression => true
  | _ => false

/-- The parameters of a function: one name or more, with commas between. -/
inductive Parameters where
  | last (name : Identifier)
  | more (name : Identifier) (comma : Sign .comma) (others : Parameters)

/-! ### Productions -/

/-- The derivations of a symbol. -/
inductive Derivation : Symbol → Type where
  /-- `declaration* EOF` -/
  | wholeProgram (declarations : Derivation .declarations) (ending : Ending) : Derivation .program
  /-- `expression EOF` -/
  | wholeExpression (expression : Derivation .expression) (ending : Ending) :
    Derivation .loneExpression
  | noDeclarations : Derivation .declarations
  | moreDeclarations (first : Derivation .declaration) (others : Derivation .declarations) :
    Derivation .declarations
  /-- `"class" IDENT "{" function* "}"` -/
  | classDeclaration (word : Sign .classWord) (name : Identifier) (opening : Sign .leftBrace)
    (methods : Derivation .methods) (closing : Sign .rightBrace) : Derivation .declaration
  /-- `"class" IDENT "<" IDENT "{" function* "}"` -/
  | subclassDeclaration (word : Sign .classWord) (name : Identifier) (less : Sign .less)
    (superclass : Identifier) (opening : Sign .leftBrace) (methods : Derivation .methods)
    (closing : Sign .rightBrace) : Derivation .declaration
  /-- `"fun" function` -/
  | functionDeclaration (word : Sign .funWord) (function : Derivation .function) :
    Derivation .declaration
  | variableDeclaration (declared : Derivation .variable) : Derivation .declaration
  | statementDeclaration (statement : Derivation .statement) : Derivation .declaration
  | noMethods : Derivation .methods
  | moreMethods (first : Derivation .function) (others : Derivation .methods) : Derivation .methods
  /-- `IDENT "(" parameters? ")" block` -/
  | namedFunction (name : Identifier) (opening : Sign .leftParen) (parameters : Option Parameters)
    (closing : Sign .rightParen) (body : Derivation .block) : Derivation .function
  /-- `"{" declaration* "}"` -/
  | braces (opening : Sign .leftBrace) (declarations : Derivation .declarations)
    (closing : Sign .rightBrace) : Derivation .block
  /-- `"var" IDENT ";"` -/
  | uninitialized (word : Sign .varWord) (name : Identifier) (semicolon : Sign .semicolon) :
    Derivation .variable
  /-- `"var" IDENT "=" expression ";"` -/
  | initialized (word : Sign .varWord) (name : Identifier) (equals : Sign .equal)
    (value : Derivation .expression) (semicolon : Sign .semicolon) : Derivation .variable
  | evaluationStatement (statement : Derivation .expressionStatement) : Derivation .statement
  /-- `"for" "(" ( varDecl | exprStmt | ";" ) expression? ";" expression? ")" statement` -/
  | forStatement (word : Sign .forWord) (opening : Sign .leftParen)
    (initializer : Derivation .loopInitializer) (condition : Derivation .optionalExpression)
    (semicolon : Sign .semicolon) (increment : Derivation .optionalExpression)
    (closing : Sign .rightParen) (body : Derivation .statement) : Derivation .statement
  /-- `"if" "(" expression ")" statement` -/
  | ifStatement (word : Sign .ifWord) (opening : Sign .leftParen)
    (condition : Derivation .expression) (closing : Sign .rightParen)
    (thenBranch : Derivation .statement) : Derivation .statement
  /-- `"if" "(" expression ")" statement "else" statement` -/
  | ifElseStatement (word : Sign .ifWord) (opening : Sign .leftParen)
    (condition : Derivation .expression) (closing : Sign .rightParen)
    (thenBranch : Derivation .statement) (otherwise : Sign .elseWord)
    (elseBranch : Derivation .statement) : Derivation .statement
  /-- `"while" "(" expression ")" statement` -/
  | whileStatement (word : Sign .whileWord) (opening : Sign .leftParen)
    (condition : Derivation .expression) (closing : Sign .rightParen)
    (body : Derivation .statement) : Derivation .statement
  /-- `"print" expression ";"` -/
  | printStatement (word : Sign .printWord) (value : Derivation .expression)
    (semicolon : Sign .semicolon) : Derivation .statement
  /-- `"return" expression? ";"` -/
  | returnStatement (word : Sign .returnWord) (value : Derivation .optionalExpression)
    (semicolon : Sign .semicolon) : Derivation .statement
  /-- `"break" ";"` -/
  | breakStatement (word : Sign .breakWord) (semicolon : Sign .semicolon) : Derivation .statement
  /-- `"continue" ";"` -/
  | continueStatement (word : Sign .continueWord) (semicolon : Sign .semicolon) :
    Derivation .statement
  | blockStatement (block : Derivation .block) : Derivation .statement
  /-- `expression ";"` -/
  | terminated (expression : Derivation .expression) (semicolon : Sign .semicolon) :
    Derivation .expressionStatement
  | noInitializer (semicolon : Sign .semicolon) : Derivation .loopInitializer
  | variableInitializer (declared : Derivation .variable) : Derivation .loopInitializer
  | plainInitializer (statement : Derivation .expressionStatement) : Derivation .loopInitializer
  | noExpression : Derivation .optionalExpression
  | someExpression (expression : Derivation .expression) : Derivation .optionalExpression
  /-- `IDENT "=" assignment` -/
  | assignVariable (name : Identifier) (equals : Sign .equal) (value : Derivation .expression) :
    Derivation .expression
  /-- `call "." IDENT "=" assignment` -/
  | assignProperty (object : Derivation .call) (dot : Sign .dot) (name : Identifier)
    (equals : Sign .equal) (value : Derivation .expression) : Derivation .expression
  | plainExpression (operands : Derivation (.operands (some .disjunction))) :
    Derivation .expression
  | soleOperand {tier : Tier} (operand : Derivation (.operands tier.tighter)) :
    Derivation (.operands (some tier))
  /-- Operands of the level so far, an operator of it and its right operand. -/
  | joinedOperands {tier : Tier} (left : Derivation (.operands (some tier)))
    (operator : Operator tier) (sign : Sign operator.mark)
    (right : Derivation (.operands tier.tighter)) : Derivation (.operands (some tier))
  | plainCall (call : Derivation .call) : Derivation (.operands none)
  /-- `( "!" | "-" ) unary` -/
  | unaryOperation (operator : UnaryOperator) (sign : Sign operator.mark)
    (operand : Derivation (.operands none)) : Derivation (.operands none)
  | plainPrimary (primary : Derivation .primary) : Derivation .call
  /-- `call "(" ")"` -/
  | callWithout (callee : Derivation .call) (opening : Sign .leftParen)
    (closing : Sign .rightParen) : Derivation .call
  /-- `call "(" arguments ")"` -/
  | callWith (callee : Derivation .call) (opening : Sign .leftParen)
    (arguments : Derivation .arguments) (closing : Sign .rightParen) : Derivation .call
  /-- `call "." IDENT` -/
  | property (object : Derivation .call) (dot : Sign .dot) (name : Identifier) : Derivation .call
  | lastArgument (argument : Derivation .expression) : Derivation .arguments
  /-- `expression "," arguments` -/
  | moreArguments (argument : Derivation .expression) (comma : Sign .comma)
    (others : Derivation .arguments) : Derivation .arguments
  | numberLiteral (value : Float) (lexeme : String) (line : Nat) : Derivation .primary
  | stringLiteral (contents lexeme : String) (line : Nat) : Derivation .primary
  | trueLiteral (word : Sign .trueWord) : Derivation .primary
  | falseLiteral (word : Sign .falseWord) : Derivation .primary
  | nilLiteral (word : Sign .nilWord) : Derivation .primary
  | receiver (word : Sign .thisWord) : Derivation .primary
  /-- `"super" "." IDENT` -/
  | superMethod (word : Sign .superWord) (dot : Sign .dot) (method : Identifier) :
    Derivation .primary
  | variableName (name : Identifier) : Derivation .primary
  /-- `"(" expression ")"` -/
  | grouping (opening : Sign .leftParen) (inner : Derivation .expression)
    (closing : Sign .rightParen) : Derivation .primary
  /-- `"fun" "(" parameters? ")" block` -/
  | anonymousFunction (word : Sign .funWord) (opening : Sign .leftParen)
    (parameters : Option Parameters) (closing : Sign .rightParen) (body : Derivation .block) :
    Derivation .primary

/-! ### Tokens -/

/-- The tokens of the parameters, in front of others. -/
def Parameters.write (rest : List Token) : Parameters → List Token
  | .last name => name.token :: rest
  | .more name comma others => name.token :: comma.token :: others.write rest

/-- The names of the parameters. -/
def Parameters.names : Parameters → List Identifier
  | .last name => [name]
  | .more name _ others => name :: others.names

/-- The tokens of the parameters if there are some. -/
def writeParameters (rest : List Token) : Option Parameters → List Token
  | none => rest
  | some parameters => parameters.write rest

/-- The names of the parameters if there are some. -/
def parameterNames : Option Parameters → List Identifier
  | none => []
  | some parameters => parameters.names

/-- The tokens that are derived, in front of others. -/
def Derivation.write : {symbol : Symbol} → Derivation symbol → List Token → List Token
  | _, wholeProgram declarations ending, rest => declarations.write (ending.token :: rest)
  | _, wholeExpression expression ending, rest => expression.write (ending.token :: rest)
  | _, noDeclarations, rest => rest
  | _, moreDeclarations first others, rest => first.write (others.write rest)
  | _, classDeclaration word name opening methods closing, rest =>
    word.token :: name.token :: opening.token :: methods.write (closing.token :: rest)
  | _, subclassDeclaration word name less superclass opening methods closing, rest =>
    word.token :: name.token :: less.token :: superclass.token :: opening.token ::
      methods.write (closing.token :: rest)
  | _, functionDeclaration word function, rest => word.token :: function.write rest
  | _, variableDeclaration declared, rest => declared.write rest
  | _, statementDeclaration statement, rest => statement.write rest
  | _, noMethods, rest => rest
  | _, moreMethods first others, rest => first.write (others.write rest)
  | _, namedFunction name opening parameters closing body, rest =>
    name.token :: opening.token :: writeParameters (closing.token :: body.write rest) parameters
  | _, braces opening declarations closing, rest =>
    opening.token :: declarations.write (closing.token :: rest)
  | _, uninitialized word name semicolon, rest =>
    word.token :: name.token :: semicolon.token :: rest
  | _, initialized word name equals value semicolon, rest =>
    word.token :: name.token :: equals.token :: value.write (semicolon.token :: rest)
  | _, evaluationStatement statement, rest => statement.write rest
  | _, forStatement word opening initializer condition semicolon increment closing body, rest =>
    word.token :: opening.token :: initializer.write (condition.write (semicolon.token ::
      increment.write (closing.token :: body.write rest)))
  | _, ifStatement word opening condition closing thenBranch, rest =>
    word.token :: opening.token :: condition.write (closing.token :: thenBranch.write rest)
  | _, ifElseStatement word opening condition closing thenBranch otherwise elseBranch, rest =>
    word.token :: opening.token :: condition.write (closing.token ::
      thenBranch.write (otherwise.token :: elseBranch.write rest))
  | _, whileStatement word opening condition closing body, rest =>
    word.token :: opening.token :: condition.write (closing.token :: body.write rest)
  | _, printStatement word value semicolon, rest =>
    word.token :: value.write (semicolon.token :: rest)
  | _, returnStatement word value semicolon, rest =>
    word.token :: value.write (semicolon.token :: rest)
  | _, breakStatement word semicolon, rest => word.token :: semicolon.token :: rest
  | _, continueStatement word semicolon, rest => word.token :: semicolon.token :: rest
  | _, blockStatement block, rest => block.write rest
  | _, terminated expression semicolon, rest => expression.write (semicolon.token :: rest)
  | _, noInitializer semicolon, rest => semicolon.token :: rest
  | _, variableInitializer declared, rest => declared.write rest
  | _, plainInitializer statement, rest => statement.write rest
  | _, noExpression, rest => rest
  | _, someExpression expression, rest => expression.write rest
  | _, assignVariable name equals value, rest => name.token :: equals.token :: value.write rest
  | _, assignProperty object dot name equals value, rest =>
    object.write (dot.token :: name.token :: equals.token :: value.write rest)
  | _, plainExpression operands, rest => operands.write rest
  | _, soleOperand operand, rest => operand.write rest
  | _, joinedOperands left _ sign right, rest => left.write (sign.token :: right.write rest)
  | _, plainCall call, rest => call.write rest
  | _, unaryOperation _ sign operand, rest => sign.token :: operand.write rest
  | _, plainPrimary primary, rest => primary.write rest
  | _, callWithout callee opening closing, rest =>
    callee.write (opening.token :: closing.token :: rest)
  | _, callWith callee opening arguments closing, rest =>
    callee.write (opening.token :: arguments.write (closing.token :: rest))
  | _, property object dot name, rest => object.write (dot.token :: name.token :: rest)
  | _, lastArgument argument, rest => argument.write rest
  | _, moreArguments argument comma others, rest =>
    argument.write (comma.token :: others.write rest)
  | _, numberLiteral value lexeme line, rest => ⟨.number value, lexeme, line⟩ :: rest
  | _, stringLiteral contents lexeme line, rest => ⟨.string contents, lexeme, line⟩ :: rest
  | _, trueLiteral word, rest => word.token :: rest
  | _, falseLiteral word, rest => word.token :: rest
  | _, nilLiteral word, rest => word.token :: rest
  | _, receiver word, rest => word.token :: rest
  | _, superMethod word dot method, rest => word.token :: dot.token :: method.token :: rest
  | _, variableName name, rest => name.token :: rest
  | _, grouping opening inner closing, rest =>
    opening.token :: inner.write (closing.token :: rest)
  | _, anonymousFunction word opening parameters closing body, rest =>
    word.token :: opening.token :: writeParameters (closing.token :: body.write rest) parameters

/-- The tokens that are derived. -/
def Derivation.tokens {symbol : Symbol} (derivation : Derivation symbol) : List Token :=
  derivation.write []

/-! ### Trees -/

/-- How many references the tree has. -/
def Derivation.drawn : {symbol : Symbol} → Derivation symbol → Nat
  | _, wholeProgram declarations _ => declarations.drawn
  | _, wholeExpression expression _ => expression.drawn
  | _, noDeclarations => 0
  | _, moreDeclarations first others => first.drawn + others.drawn
  | _, classDeclaration _ _ _ methods _ => methods.drawn
  | _, subclassDeclaration _ _ _ _ _ methods _ => 1 + methods.drawn
  | _, functionDeclaration _ function => function.drawn
  | _, variableDeclaration declared => declared.drawn
  | _, statementDeclaration statement => statement.drawn
  | _, noMethods => 0
  | _, moreMethods first others => first.drawn + others.drawn
  | _, namedFunction _ _ _ _ body => body.drawn
  | _, braces _ declarations _ => declarations.drawn
  | _, uninitialized _ _ _ => 0
  | _, initialized _ _ _ value _ => value.drawn
  | _, evaluationStatement statement => statement.drawn
  | _, forStatement _ _ initializer condition _ increment _ body =>
    initializer.drawn + condition.drawn + increment.drawn + body.drawn
  | _, ifStatement _ _ condition _ thenBranch => condition.drawn + thenBranch.drawn
  | _, ifElseStatement _ _ condition _ thenBranch _ elseBranch =>
    condition.drawn + thenBranch.drawn + elseBranch.drawn
  | _, whileStatement _ _ condition _ body => condition.drawn + body.drawn
  | _, printStatement _ value _ => value.drawn
  | _, returnStatement _ value _ => value.drawn
  | _, breakStatement _ _ => 0
  | _, continueStatement _ _ => 0
  | _, blockStatement block => block.drawn
  | _, terminated expression _ => expression.drawn
  | _, noInitializer _ => 0
  | _, variableInitializer declared => declared.drawn
  | _, plainInitializer statement => statement.drawn
  | _, noExpression => 0
  | _, someExpression expression => expression.drawn
  | _, assignVariable _ _ value => 1 + value.drawn + 1
  | _, assignProperty object _ _ _ value => object.drawn + value.drawn
  | _, plainExpression operands => operands.drawn
  | _, soleOperand operand => operand.drawn
  | _, joinedOperands left _ _ right => left.drawn + right.drawn
  | _, plainCall call => call.drawn
  | _, unaryOperation _ _ operand => operand.drawn
  | _, plainPrimary primary => primary.drawn
  | _, callWithout callee _ _ => callee.drawn
  | _, callWith callee _ arguments _ => callee.drawn + arguments.drawn
  | _, property object _ _ => object.drawn
  | _, lastArgument argument => argument.drawn
  | _, moreArguments argument _ others => argument.drawn + others.drawn
  | _, numberLiteral _ _ _ => 0
  | _, stringLiteral _ _ _ => 0
  | _, trueLiteral _ => 0
  | _, falseLiteral _ => 0
  | _, nilLiteral _ => 0
  | _, receiver _ => 1
  | _, superMethod _ _ _ => 1
  | _, variableName _ => 1
  | _, grouping _ inner _ => inner.drawn
  | _, anonymousFunction _ _ _ _ body => body.drawn

/-- The loop that a `for` loop stands for: without a condition it runs until something ends it. An
initializer is put before the loop, in a block of their own. -/
def desugared (initializer : Option Statement) (condition increment : Option Expression)
    (body : Statement) : Statement :=
  let condition := condition.getD (.literal (.boolean true))
  let loop : Statement := .loop condition body (increment.map .expression)
  match initializer with
  | some first => .block [first, loop]
  | none => loop

/-- The tree of the derivation, whose references are numbered from `low` on. -/
def Derivation.tree : {symbol : Symbol} → Derivation symbol → Reference → symbol.Tree
  | _, wholeProgram declarations _, low => declarations.tree low
  | _, wholeExpression expression _, low => expression.tree low
  | _, noDeclarations, _ => ([] : List Statement)
  | _, moreDeclarations first others, low =>
    (first.tree low :: others.tree (low + first.drawn) : List Statement)
  | _, classDeclaration _ name _ methods _, low =>
    Statement.declareClass name none (methods.tree low)
  | _, subclassDeclaration _ name _ superclass _ methods _, low =>
    Statement.declareClass name (some (.read low superclass)) (methods.tree (low + 1))
  | _, functionDeclaration _ function, low => Statement.declareFunction (function.tree low)
  | _, variableDeclaration declared, low => declared.tree low
  | _, statementDeclaration statement, low => statement.tree low
  | _, noMethods, _ => ([] : List FunctionDeclaration)
  | _, moreMethods first others, low =>
    (first.tree low :: others.tree (low + first.drawn) : List FunctionDeclaration)
  | _, namedFunction name _ parameters _ body, low =>
    FunctionDeclaration.mk (some name) (parameterNames parameters) (body.tree low)
  | _, braces _ declarations _, low => declarations.tree low
  | _, uninitialized _ name _, _ => Statement.declareVariable name none
  | _, initialized _ name _ value _, low =>
    Statement.declareVariable name (some (value.tree low))
  | _, evaluationStatement statement, low => statement.tree low
  | _, forStatement _ _ initializer condition _ increment _ body, low =>
    desugared (initializer.tree low) (condition.tree (low + initializer.drawn))
      (increment.tree (low + initializer.drawn + condition.drawn))
      (body.tree (low + initializer.drawn + condition.drawn + increment.drawn))
  | _, ifStatement _ _ condition _ thenBranch, low =>
    Statement.conditional (condition.tree low) (thenBranch.tree (low + condition.drawn)) none
  | _, ifElseStatement _ _ condition _ thenBranch _ elseBranch, low =>
    Statement.conditional (condition.tree low) (thenBranch.tree (low + condition.drawn))
      (some (elseBranch.tree (low + condition.drawn + thenBranch.drawn)))
  | _, whileStatement _ _ condition _ body, low =>
    Statement.loop (condition.tree low) (body.tree (low + condition.drawn)) none
  | _, printStatement _ value _, low => Statement.print (value.tree low)
  | _, returnStatement word value _, low => Statement.giveBack word.identifier (value.tree low)
  | _, breakStatement word _, _ => Statement.control .break word.identifier
  | _, continueStatement word _, _ => Statement.control .continue word.identifier
  | _, blockStatement block, low => Statement.block (block.tree low)
  | _, terminated expression _, low => Statement.expression (expression.tree low)
  | _, noInitializer _, _ => (none : Option Statement)
  | _, variableInitializer declared, low => some (declared.tree low : Statement)
  | _, plainInitializer statement, low => some (statement.tree low : Statement)
  | _, noExpression, _ => (none : Option Expression)
  | _, someExpression expression, low => some (expression.tree low : Expression)
  | _, assignVariable name _ value, low =>
    -- the name was read as a variable, with a reference, before it was known to be assigned to
    Expression.assign (low + 1 + value.drawn) name (value.tree (low + 1))
  | _, assignProperty object _ name _ value, low =>
    Expression.set (object.tree low) name (value.tree (low + object.drawn))
  | _, plainExpression operands, low => operands.tree low
  | _, soleOperand operand, low => (operand.tree low : Expression)
  | _, joinedOperands left operator sign right, low =>
    operator.join sign.line (left.tree low) (right.tree (low + left.drawn))
  | _, plainCall call, low => call.tree low
  | _, unaryOperation operator sign operand, low =>
    Expression.unary operator sign.line (operand.tree low)
  | _, plainPrimary primary, low => primary.tree low
  | _, callWithout callee _ closing, low => Expression.call (callee.tree low) closing.line []
  | _, callWith callee _ arguments closing, low =>
    Expression.call (callee.tree low) closing.line (arguments.tree (low + callee.drawn))
  | _, property object _ name, low => Expression.get (object.tree low) name
  | _, lastArgument argument, low => ([argument.tree low] : List Expression)
  | _, moreArguments argument _ others, low =>
    (argument.tree low :: others.tree (low + argument.drawn) : List Expression)
  | _, numberLiteral value _ _, _ => Expression.literal (.number value)
  | _, stringLiteral contents _ _, _ => Expression.literal (.string contents)
  | _, trueLiteral _, _ => Expression.literal (.boolean true)
  | _, falseLiteral _, _ => Expression.literal (.boolean false)
  | _, nilLiteral _, _ => Expression.literal .nil
  | _, receiver word, low => Expression.this low word.identifier
  | _, superMethod word _ method, low => Expression.super low word.identifier method
  | _, variableName name, low => Expression.read low name
  | _, grouping _ inner _, low => Expression.grouping (inner.tree low)
  | _, anonymousFunction _ _ parameters _ body, low =>
    Expression.function (.mk none (parameterNames parameters) (body.tree low))

/-! ### Conditions -/

/-- No list of parameters or arguments has more than 255 entries, and no `if` without an `else` is
followed by the word `else`; `rest` is what follows the tokens that are derived. -/
def Derivation.Regular : {symbol : Symbol} → Derivation symbol → (rest : List Token) → Prop
  | _, wholeProgram declarations ending, rest => declarations.Regular (ending.token :: rest)
  | _, wholeExpression expression ending, rest => expression.Regular (ending.token :: rest)
  | _, noDeclarations, _ => True
  | _, moreDeclarations first others, rest =>
    first.Regular (others.write rest) ∧ others.Regular rest
  | _, classDeclaration _ _ _ methods closing, rest => methods.Regular (closing.token :: rest)
  | _, subclassDeclaration _ _ _ _ _ methods closing, rest =>
    methods.Regular (closing.token :: rest)
  | _, functionDeclaration _ function, rest => function.Regular rest
  | _, variableDeclaration declared, rest => declared.Regular rest
  | _, statementDeclaration statement, rest => statement.Regular rest
  | _, noMethods, _ => True
  | _, moreMethods first others, rest => first.Regular (others.write rest) ∧ others.Regular rest
  | _, namedFunction _ _ parameters _ body, rest =>
    (parameterNames parameters).length ≤ 255 ∧ body.Regular rest
  | _, braces _ declarations closing, rest => declarations.Regular (closing.token :: rest)
  | _, uninitialized _ _ _, _ => True
  | _, initialized _ _ _ value semicolon, rest => value.Regular (semicolon.token :: rest)
  | _, evaluationStatement statement, rest => statement.Regular rest
  | _, forStatement _ _ initializer condition semicolon increment closing body, rest =>
    initializer.Regular (condition.write (semicolon.token ::
        increment.write (closing.token :: body.write rest))) ∧
      condition.Regular (semicolon.token :: increment.write (closing.token :: body.write rest)) ∧
      increment.Regular (closing.token :: body.write rest) ∧ body.Regular rest
  | _, ifStatement _ _ condition closing thenBranch, rest =>
    condition.Regular (closing.token :: thenBranch.write rest) ∧ thenBranch.Regular rest ∧
      ∀ following ∈ rest.head?, following.isMark .elseWord = false
  | _, ifElseStatement _ _ condition closing thenBranch otherwise elseBranch, rest =>
    condition.Regular (closing.token ::
        thenBranch.write (otherwise.token :: elseBranch.write rest)) ∧
      thenBranch.Regular (otherwise.token :: elseBranch.write rest) ∧ elseBranch.Regular rest
  | _, whileStatement _ _ condition closing body, rest =>
    condition.Regular (closing.token :: body.write rest) ∧ body.Regular rest
  | _, printStatement _ value semicolon, rest => value.Regular (semicolon.token :: rest)
  | _, returnStatement _ value semicolon, rest => value.Regular (semicolon.token :: rest)
  | _, breakStatement _ _, _ => True
  | _, continueStatement _ _, _ => True
  | _, blockStatement block, rest => block.Regular rest
  | _, terminated expression semicolon, rest => expression.Regular (semicolon.token :: rest)
  | _, noInitializer _, _ => True
  | _, variableInitializer declared, rest => declared.Regular rest
  | _, plainInitializer statement, rest => statement.Regular rest
  | _, noExpression, _ => True
  | _, someExpression expression, rest => expression.Regular rest
  | _, assignVariable _ _ value, rest => value.Regular rest
  | _, assignProperty object dot name equals value, rest =>
    object.Regular (dot.token :: name.token :: equals.token :: value.write rest) ∧
      value.Regular rest
  | _, plainExpression operands, rest => operands.Regular rest
  | _, soleOperand operand, rest => operand.Regular rest
  | _, joinedOperands left _ sign right, rest =>
    left.Regular (sign.token :: right.write rest) ∧ right.Regular rest
  | _, plainCall call, rest => call.Regular rest
  | _, unaryOperation _ _ operand, rest => operand.Regular rest
  | _, plainPrimary primary, rest => primary.Regular rest
  | _, callWithout callee opening closing, rest =>
    callee.Regular (opening.token :: closing.token :: rest)
  | _, callWith callee opening arguments closing, rest =>
    callee.Regular (opening.token :: arguments.write (closing.token :: rest)) ∧
      (arguments.tree 0).length ≤ 255 ∧ arguments.Regular (closing.token :: rest)
  | _, property object dot name, rest => object.Regular (dot.token :: name.token :: rest)
  | _, lastArgument argument, rest => argument.Regular rest
  | _, moreArguments argument comma others, rest =>
    argument.Regular (comma.token :: others.write rest) ∧ others.Regular rest
  | _, numberLiteral _ _ _, _ => True
  | _, stringLiteral _ _ _, _ => True
  | _, trueLiteral _, _ => True
  | _, falseLiteral _, _ => True
  | _, nilLiteral _, _ => True
  | _, receiver _, _ => True
  | _, superMethod _ _ _, _ => True
  | _, variableName _, _ => True
  | _, grouping _ inner closing, rest => inner.Regular (closing.token :: rest)
  | _, anonymousFunction _ _ parameters _ body, rest =>
    (parameterNames parameters).length ≤ 255 ∧ body.Regular rest

/-! ### Lengths -/

theorem writeParameters_append (parameters : Option Parameters) (first rest : List Token) :
    writeParameters (first ++ rest) parameters = writeParameters first parameters ++ rest := by
  cases parameters with
  | none => rfl
  | some parameters =>
    show parameters.write (first ++ rest) = parameters.write first ++ rest
    induction parameters with
    | last name => rfl
    | more name comma others inductionHypothesis =>
      simp only [Parameters.write, inductionHypothesis, List.cons_append]

theorem any_isEnd_writeParameters (parameters : Option Parameters) (rest : List Token) :
    (writeParameters rest parameters).any Token.isEnd = rest.any Token.isEnd := by
  cases parameters with
  | none => rfl
  | some parameters =>
    show (parameters.write rest).any Token.isEnd = _
    induction parameters with
    | last name => rfl
    | more name comma others inductionHypothesis => exact inductionHypothesis

namespace Derivation

variable {symbol : Symbol}

theorem write_append (derivation : Derivation symbol) (first rest : List Token) :
    derivation.write (first ++ rest) = derivation.write first ++ rest := by
  induction derivation generalizing first with
  | _ => simp only [write, ← List.cons_append, writeParameters_append, *]

theorem write_eq (derivation : Derivation symbol) (rest : List Token) :
    derivation.write rest = derivation.tokens ++ rest :=
  derivation.write_append [] rest

/-- There is an end among the tokens that are derived just if a whole source is derived. -/
theorem any_isEnd_write (derivation : Derivation symbol) (rest : List Token) :
    (derivation.write rest).any Token.isEnd = (symbol.isWhole || rest.any Token.isEnd) := by
  have sign {mark : Mark} (sign : Sign mark) : sign.token.isEnd = false := rfl
  have name (name : Identifier) : name.token.isEnd = false := rfl
  have ending (ending : Ending) : ending.token.isEnd = true := rfl
  induction derivation generalizing rest with
  | numberLiteral | stringLiteral => rfl
  | _ =>
    simp only [write, List.any_cons, Bool.false_or, Bool.true_or, any_isEnd_writeParameters,
      Symbol.isWhole, *]

theorem length_write (derivation : Derivation symbol) (rest : List Token) :
    (derivation.write rest).length = derivation.tokens.length + rest.length := by
  rw [write_eq, List.length_append]

end Derivation

theorem length_le_writeParameters (parameters : Option Parameters) (rest : List Token) :
    rest.length ≤ (writeParameters rest parameters).length := by
  have whole := writeParameters_append parameters [] rest
  rw [List.nil_append] at whole
  rw [whole, List.length_append]
  exact Nat.le_add_left _ _

end Grammar

end Lox
