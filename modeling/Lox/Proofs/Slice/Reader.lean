/-
Reading tokens by place. Here the tokens stay where they are and a cursor moves over them; loops go
on for as long as they like, and a token may be looked at where there is none. The parsers that take
tokens off the front of a list turn out to do the same, so that reading by place always comes to an
end and never leaves the tokens.

A reader calls itself, or another reader of its group, by `apply`. Written as a term, such a call
would leave the position of its text behind in the fixpoint, which then would not be the same
wherever the text stands.
-/

import Lox.Proofs.Grammar.Levels

namespace Lox.Grammar.Slice

/-! ### Readers -/

/-- The place of the next token, and the next unused reference. -/
structure Cursor where
  place : Nat
  nextReference : Reference

/-- Why a reader stops before its end. -/
inductive Stop where
  /-- A syntax error, reported at the token of a place. -/
  | error (place : Nat) (problem : SyntaxProblem)
  /-- A token was asked for at a place that has none. -/
  | outOfRange

/-- A reader of tokens by their places. After an error the cursor is where it was then; a reader
that goes on forever has no outcome. -/
abbrev Reader := ExceptT Stop (StateT Cursor Option)

variable (tokens : List Token)

/-- The token of a place. Behind the last one stands an end of no line. -/
def tokenAt (place : Nat) : Token :=
  tokens.getD place missingEnd

/-! ### Single tokens -/

/-- The next token, which stays. -/
def peek : Reader Token := do
  return tokenAt tokens (← get).place

/-- Whether the next token is an end. -/
def endsHere : Reader Bool := do
  return (← peek tokens).isEnd

/-- The place of the last token taken; before any is taken, the first place. -/
def previous : Reader Nat := do
  let place := (← get).place - 1
  if place < tokens.length then return place else throw .outOfRange

/-- Moves on over a token. -/
def step : Reader Unit := do
  let cursor ← get
  if cursor.place < tokens.length then
    set { cursor with place := cursor.place + 1 }
  else
    throw .outOfRange

/-- Takes the next token unless it is an end, and gives the place of the last token taken. -/
def advance : Reader Nat := do
  if ← endsHere tokens then
    previous tokens
  else
    step tokens
    previous tokens

/-- Whether the next token is as wanted. An end is never wanted. -/
def check (wanted : Token → Bool) : Reader Bool := do
  if ← endsHere tokens then
    return false
  else
    return wanted (← peek tokens)

/-- Whether the token behind the next one is a name. -/
def nameFollows : Reader Bool := do
  return tokens[(← get).place + 1]?.any Token.isIdentifier

/-- Takes the next token if it is the given mark, and says whether it did. -/
def accept (mark : Mark) : Reader Bool := do
  if ← check tokens (·.isMark mark) then
    let _ ← advance tokens
    return true
  else
    return false

/-- Takes the next token if it is an operator, and says which one. -/
def acceptOperator {Operator : Type} (operator? : Token → Option Operator) :
    Reader (Option Operator) := do
  if ← check tokens fun token => (operator? token).isSome then
    let _ ← advance tokens
    return operator? (tokenAt tokens (← previous tokens))
  else
    return none

/-- Reports a problem at the next token. -/
def failHere {α : Type} (problem : SyntaxProblem) : Reader α := do
  throw (.error (← get).place problem)

/-- Takes the next token, which has to be as wanted, and gives its place. -/
def expectToken (wanted : Token → Bool) (problem : SyntaxProblem) : Reader Nat := do
  if ← check tokens wanted then
    advance tokens
  else
    failHere problem

/-- Takes the given mark, which is there for `role`. -/
def expect (mark : Mark) (role : String) : Reader Token := do
  return tokenAt tokens (← expectToken tokens (·.isMark mark) (.missingMark mark role))

/-- Takes a name, which names `role`. -/
def expectName (role : String) : Reader Identifier := do
  let place ← expectToken tokens Token.isIdentifier (.missingName role)
  return (tokenAt tokens place).toIdentifier

/-- The word that was taken last. -/
def lastWord : Reader Identifier := do
  return (tokenAt tokens (← previous tokens)).toIdentifier

/-- A reference that no other occurrence has. -/
def freshReference : Reader Reference := do
  let cursor ← get
  set { cursor with nextReference := cursor.nextReference + 1 }
  return cursor.nextReference

/-! ### Recovery -/

/-- Takes tokens up to the next likely start of a statement. -/
def skipToStatement : Reader Unit := do
  if ← endsHere tokens then
    return
  else if (tokenAt tokens (← previous tokens)).isMark .semicolon then
    return
  else if beginsStatement (← peek tokens) then
    return
  else
    let _ ← advance tokens
    by apply skipToStatement
partial_fixpoint

/-- Goes on after an error at the next token, which is taken. -/
def synchronize : Reader Unit := do
  let _ ← advance tokens
  skipToStatement tokens

/-! ### Parameters -/

/-- One name or more between commas, behind `count` others. -/
def parameterNames (count : Nat) : Reader (List Identifier) := do
  if maximalEntries ≤ count then
    failHere (.tooMany "parameters")
  else
    let name ← expectName tokens "parameter name"
    if ← accept tokens .comma then
      return name :: (← (by apply parameterNames : _ → Reader _) (count + 1))
    else
      return [name]
partial_fixpoint

/-- The parameters of a function: none if the list closes at once. -/
def parameters : Reader (List Identifier) := do
  if ← check tokens (·.isMark .rightParen) then
    return []
  else
    parameterNames tokens 0

/-- The superclass that a class names, if it names one. -/
def superclass : Reader (Option Expression) := do
  if ← accept tokens .less then
    let name ← expectName tokens "superclass name"
    return some (.read (← freshReference) name)
  else
    return none

/-- A `break` or `continue` whose word is taken. -/
def controlStatement (control : LoopControl) : Reader Statement := do
  let keyword ← lastWord tokens
  let _ ← expect tokens .semicolon ("after '" ++ control.spelling ++ "'")
  return .control control keyword

/-- The assignment of a value to what was read as a target, where the equals sign has its place. -/
def assignTo (equals : Nat) (value : Expression) : Expression → Reader Expression
  | .read _ name => do return .assign (← freshReference) name value
  | .get object name => return .set object name value
  | _ => throw (.error equals .invalidTarget)

/-! ### Phrases -/

mutual

/-- A declaration, or a statement. After an error it goes on at the next statement, and fails all
the same. -/
def declaration : Reader Statement := show StateT Cursor Option _ from do
  match ← ExceptT.run (by apply plainDeclaration) with
  | .ok statement => return .ok statement
  | .error stop => ExceptT.run do
    synchronize tokens
    throw stop
partial_fixpoint

/-- A declaration, or a statement, without recovery. -/
def plainDeclaration : Reader Statement := do
  if ← accept tokens .classWord then
    by apply classDeclaration
  else if (← check tokens (·.isMark .funWord)) && (← nameFollows tokens) then
    let _ ← advance tokens
    let function ← (by apply namedFunction : _ → Reader _) "function"
    return .declareFunction function
  else if ← accept tokens .varWord then
    by apply variableDeclaration
  else
    by apply statement
partial_fixpoint

/-- A class declaration whose first word is taken. -/
def classDeclaration : Reader Statement := do
  let name ← expectName tokens "class name"
  let superclass ← superclass tokens
  let _ ← expect tokens .leftBrace "before class body"
  let methods ← by apply methods
  let _ ← expect tokens .rightBrace "after class body"
  return .declareClass name superclass methods
partial_fixpoint

/-- The methods of a class up to its closing brace. -/
def methods : Reader (List FunctionDeclaration) := do
  if (← check tokens (·.isMark .rightBrace)) || (← endsHere tokens) then
    return []
  else
    let first ← (by apply namedFunction : _ → Reader _) "method"
    return first :: (← by apply methods)
partial_fixpoint

/-- A function or method from its name on. -/
def namedFunction (kind : String) : Reader FunctionDeclaration := do
  let name ← expectName tokens (kind ++ " name")
  (by apply functionTail : _ → _ → _ → Reader _) kind ("after " ++ kind ++ " name") (some name)
partial_fixpoint

/-- The parameters and the body of a function whose name is taken. -/
def functionTail (kind role : String) (name : Option Identifier) :
    Reader FunctionDeclaration := do
  let _ ← expect tokens .leftParen role
  let parameters ← parameters tokens
  let _ ← expect tokens .rightParen "after parameters"
  let _ ← expect tokens .leftBrace ("before " ++ kind ++ " body")
  return .mk name parameters (← by apply block)
partial_fixpoint

/-- The statements of a block whose opening brace is taken, with the closing one. -/
def block : Reader (List Statement) := do
  let statements ← by apply declarations
  let _ ← expect tokens .rightBrace "after block"
  return statements
partial_fixpoint

/-- The declarations up to a closing brace. -/
def declarations : Reader (List Statement) := do
  if (← check tokens (·.isMark .rightBrace)) || (← endsHere tokens) then
    return []
  else
    let first ← by apply declaration
    return first :: (← by apply declarations)
partial_fixpoint

/-- A variable declaration whose first word is taken. -/
def variableDeclaration : Reader Statement := do
  let name ← expectName tokens "variable name"
  let initializer ← by apply initialValue
  let _ ← expect tokens .semicolon "after variable declaration"
  return .declareVariable name initializer
partial_fixpoint

/-- What is behind an equals sign, if there is one. -/
def initialValue : Reader (Option Expression) := do
  if ← accept tokens .equal then
    return some (← by apply expression)
  else
    return none
partial_fixpoint

/-- A statement that is no declaration. -/
def statement : Reader Statement := do
  let token ← peek tokens
  match token.kind with
  | .mark .forWord =>
    let _ ← advance tokens
    by apply forStatement
  | .mark .ifWord =>
    let _ ← advance tokens
    by apply ifStatement
  | .mark .whileWord =>
    let _ ← advance tokens
    by apply whileStatement
  | .mark .returnWord =>
    let _ ← advance tokens
    by apply returnStatement
  | .mark .breakWord =>
    let _ ← advance tokens
    controlStatement tokens .break
  | .mark .continueWord =>
    let _ ← advance tokens
    controlStatement tokens .continue
  | .mark .leftBrace =>
    let _ ← advance tokens
    return .block (← by apply block)
  | .mark .printWord =>
    let _ ← advance tokens
    return .print (← (by apply expressionUntilSemicolon : _ → Reader _) "after value")
  | _ => by apply expressionStatement
partial_fixpoint

/-- A `for` loop whose first word is taken. -/
def forStatement : Reader Statement := do
  let _ ← expect tokens .leftParen "after 'for'"
  let initializer ← by apply forInitializer
  let condition ← (by apply expressionUnless : Mark → Reader _) .semicolon
  let _ ← expect tokens .semicolon "after loop condition"
  let increment ← (by apply expressionUnless : Mark → Reader _) .rightParen
  let _ ← expect tokens .rightParen "after for clauses"
  return Phrases.forLoop initializer condition increment (← by apply statement)
partial_fixpoint

/-- The first part of a `for` loop with its semicolon. -/
def forInitializer : Reader (Option Statement) := do
  if ← accept tokens .semicolon then
    return none
  else if ← accept tokens .varWord then
    return some (← by apply variableDeclaration)
  else
    return some (← by apply expressionStatement)
partial_fixpoint

/-- An expression unless the given mark follows. -/
def expressionUnless (mark : Mark) : Reader (Option Expression) := do
  if ← check tokens (·.isMark mark) then
    return none
  else
    return some (← by apply expression)
partial_fixpoint

/-- A condition in parentheses. -/
def condition (word : String) : Reader Expression := do
  let _ ← expect tokens .leftParen ("after '" ++ word ++ "'")
  let condition ← by apply expression
  let _ ← expect tokens .rightParen "after condition"
  return condition
partial_fixpoint

/-- A conditional whose first word is taken. -/
def ifStatement : Reader Statement := do
  let condition ← (by apply condition : _ → Reader _) "if"
  let thenBranch ← by apply statement
  let elseBranch ← by apply elseBranch
  return .conditional condition thenBranch elseBranch
partial_fixpoint

/-- The branch behind `else`, if there is one. -/
def elseBranch : Reader (Option Statement) := do
  if ← accept tokens .elseWord then
    return some (← by apply statement)
  else
    return none
partial_fixpoint

/-- A `while` loop whose first word is taken. -/
def whileStatement : Reader Statement := do
  let condition ← (by apply condition : _ → Reader _) "while"
  return .loop condition (← by apply statement) none
partial_fixpoint

/-- A `return` whose word is taken. -/
def returnStatement : Reader Statement := do
  let keyword ← lastWord tokens
  let value ← (by apply expressionUnless : Mark → Reader _) .semicolon
  let _ ← expect tokens .semicolon "after return value"
  return .giveBack keyword value
partial_fixpoint

/-- An expression and the semicolon behind it. -/
def expressionUntilSemicolon (role : String) : Reader Expression := do
  let expression ← by apply expression
  let _ ← expect tokens .semicolon role
  return expression
partial_fixpoint

/-- An expression as a statement. -/
def expressionStatement : Reader Statement := do
  return .expression (← (by apply expressionUntilSemicolon : _ → Reader _) "after expression")
partial_fixpoint

/-- An expression: the target of an assignment is found to be none only behind the value. -/
def expression : Reader Expression := do
  let target ← (by apply operands : _ → Reader _) (some Tier.disjunction)
  if ← accept tokens .equal then
    let equals ← previous tokens
    assignTo equals (← by apply expression) target
  else
    return target
partial_fixpoint

/-- Operands with operators of a level between them, or else with prefix operators alone. -/
def operands (tier : Option Tier) : Reader Expression := do
  match tier with
  | some tier =>
    let first ← (by apply operands : _ → Reader _) tier.tighter
    (by apply joined : _ → _ → Reader _) tier first
  | none =>
    match ← acceptOperator tokens Phrases.unaryOperator? with
    | some operator =>
      let line := (tokenAt tokens (← previous tokens)).line
      return .unary operator line (← (by apply operands : _ → Reader _) none)
    | none =>
      let callee ← by apply primary
      (by apply calls : _ → Reader _) callee
partial_fixpoint

/-- What goes on behind the operands that were read so far. -/
def joined (tier : Tier) (left : Expression) : Reader Expression := do
  match ← acceptOperator tokens tier.join? with
  | some join =>
    let right ← (by apply operands : _ → Reader _) tier.tighter
    (by apply joined : _ → _ → Reader _) tier (join left right)
  | none => return left
partial_fixpoint

/-- What follows a callee: argument lists and property names. -/
def calls (callee : Expression) : Reader Expression := do
  if ← accept tokens .leftParen then
    let arguments ← by apply arguments
    let closing ← expect tokens .rightParen "after arguments"
    (by apply calls : _ → Reader _) (Expression.call callee closing.line arguments)
  else if ← accept tokens .dot then
    let name ← expectName tokens "property name after '.'"
    (by apply calls : _ → Reader _) (Expression.get callee name)
  else
    return callee
partial_fixpoint

/-- The arguments of a call: none if the list closes at once. -/
def arguments : Reader (List Expression) := do
  if ← check tokens (·.isMark .rightParen) then
    return []
  else
    (by apply argumentValues : _ → Reader _) 0
partial_fixpoint

/-- One argument or more between commas, behind `count` others. -/
def argumentValues (count : Nat) : Reader (List Expression) := do
  if maximalEntries ≤ count then
    failHere (.tooMany "arguments")
  else
    let value ← by apply expression
    if ← accept tokens .comma then
      return value :: (← (by apply argumentValues : _ → Reader _) (count + 1))
    else
      return [value]
partial_fixpoint

/-- The smallest expressions. -/
def primary : Reader Expression := do
  let token ← peek tokens
  match token.kind with
  | .number value =>
    let _ ← advance tokens
    return .literal (.number value)
  | .string contents =>
    let _ ← advance tokens
    return .literal (.string contents)
  | .identifier =>
    let _ ← advance tokens
    let name ← lastWord tokens
    return .read (← freshReference) name
  | .mark .falseWord =>
    let _ ← advance tokens
    return .literal (.boolean false)
  | .mark .trueWord =>
    let _ ← advance tokens
    return .literal (.boolean true)
  | .mark .nilWord =>
    let _ ← advance tokens
    return .literal .nil
  | .mark .thisWord =>
    let _ ← advance tokens
    let keyword ← lastWord tokens
    return .this (← freshReference) keyword
  | .mark .superWord =>
    let _ ← advance tokens
    let keyword ← lastWord tokens
    let _ ← expect tokens .dot "after 'super'"
    let method ← expectName tokens "superclass method name"
    return .super (← freshReference) keyword method
  | .mark .funWord =>
    let _ ← advance tokens
    return .function
      (← (by apply functionTail : _ → _ → _ → Reader _) "function" "after 'fun'" none)
  | .mark .leftParen =>
    let _ ← advance tokens
    let inner ← by apply expression
    let _ ← expect tokens .rightParen "after expression"
    return .grouping inner
  | _ => failHere .missingExpression
partial_fixpoint

end

/-! ### Programs and lone expressions -/

/-- What became of an attempt to read a declaration, and the places where it began and where the
next one begins. -/
structure Item where
  start : Nat
  stop : Nat
  outcome : Except (Nat × SyntaxProblem) Statement

/-- The next attempt at a declaration, unless the tokens are at their end. -/
def next : Reader (Option Item) := do
  if ← endsHere tokens then
    return none
  else
    let start := (← get).place
    match ← ExceptT.lift (ExceptT.run (declaration tokens)) with
    | .ok statement => return some ⟨start, (← get).place, .ok statement⟩
    | .error (.error place problem) =>
      return some ⟨start, (← get).place, .error (place, problem)⟩
    | .error .outOfRange => throw .outOfRange

/-- The attempts at declarations up to the end. -/
def items : Reader (List Item) := do
  match ← next tokens with
  | some item => return item :: (← by apply items)
  | none => return []
partial_fixpoint

/-- An expression that takes all tokens up to the end. -/
def loneExpression : Reader Expression := do
  let result ← expression tokens
  if ← endsHere tokens then
    return result
  else
    failHere .missingEnd

end Lox.Grammar.Slice
