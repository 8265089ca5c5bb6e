/-
The grammar of statements and declarations, and recovery from syntax errors. A declaration that
fails leaves the tokens at what looks like the start of the next statement, and fails all the same,
so each declaration around it recovers once more.
-/

import Lox.Grammar.Expression

namespace Lox.Grammar

/-! ### Recovery -/

/-- Whether a token begins a statement by a word of its own. -/
def beginsStatement (token : Token) : Bool :=
  match token.kind with
  | .mark .classWord | .mark .funWord | .mark .varWord | .mark .forWord
  | .mark .ifWord | .mark .whileWord | .mark .printWord | .mark .returnWord => true
  | _ => false

/-- The tokens from the next likely start of a statement on: behind a semicolon or at a word that
begins a statement. `previous` is the token before them. -/
def skipToStatement (previous : Token) : List Token → List Token
  | [] => []
  | token :: rest =>
    if token.isEnd || previous.isMark .semicolon || beginsStatement token then token :: rest
    else skipToStatement token rest

/-- The tokens from which to go on after an error at the first of `tokens`, which is skipped. -/
def synchronize : List Token → List Token
  | [] => []
  | token :: rest => if token.isEnd then token :: rest else skipToStatement token rest

/-- The parser, going on at the next statement when it fails. -/
def recovering {α : Type} (parser : Parser α) : Parser α := fun state =>
  match parser state with
  | .ok result state => .ok result state
  | .error error state => .error error { state with rest := synchronize state.rest }

namespace Phrases

variable (phrases : Phrases)

/-! ### Statements -/

/-- An expression and the semicolon behind it. -/
def expressionUntilSemicolon (role : String) : Parser Expression := do
  let expression ← phrases.wholeExpression
  let _ ← expect .semicolon role
  return expression

/-- An expression unless the given mark follows. -/
def expressionUnless (mark : Mark) : Parser (Option Expression) := do
  if ← nextIs mark then
    return none
  else
    return some (← phrases.wholeExpression)

/-- A condition in parentheses, behind the word `word`. -/
def condition (word : String) : Parser Expression := do
  let _ ← expect .leftParen ("after '" ++ word ++ "'")
  let condition ← phrases.wholeExpression
  let _ ← expect .rightParen "after condition"
  return condition

/-- What is behind an equals sign, if there is one. -/
def initialValue : Parser (Option Expression) := do
  if ← accept .equal then
    return some (← phrases.wholeExpression)
  else
    return none

/-- A variable declaration whose first word is taken. -/
def variableDeclaration : Parser Statement := do
  let name ← expectName "variable name"
  let initializer ← phrases.initialValue
  let _ ← expect .semicolon "after variable declaration"
  return .declareVariable name initializer

/-- An expression as a statement. -/
def expressionStatement : Parser Statement := do
  return .expression (← phrases.expressionUntilSemicolon "after expression")

/-- The statement that a `for` loop stands for: without a condition it runs until something ends it,
and an initializer is declared in a block of its own. -/
def forLoop (initializer : Option Statement) (condition increment : Option Expression)
    (body : Statement) : Statement :=
  let loop := .loop (condition.getD (.literal (.boolean true))) body
    (increment.map .expression)
  match initializer with
  | some initializer => .block [initializer, loop]
  | none => loop

/-- The first part of a `for` loop with its semicolon: nothing, a variable or an expression. -/
def forInitializer : Parser (Option Statement) := do
  if ← accept .semicolon then
    return none
  else if ← accept .varWord then
    return some (← phrases.variableDeclaration)
  else
    return some (← phrases.expressionStatement)

/-- A `for` loop whose first word is taken. -/
def forStatement : Parser Statement := do
  let _ ← expect .leftParen "after 'for'"
  let initializer ← phrases.forInitializer
  let condition ← phrases.expressionUnless .semicolon
  let _ ← expect .semicolon "after loop condition"
  let increment ← phrases.expressionUnless .rightParen
  let _ ← expect .rightParen "after for clauses"
  return forLoop initializer condition increment (← phrases.statement)

/-- The branch behind `else`, if there is one. -/
def elseBranch : Parser (Option Statement) := do
  if ← accept .elseWord then
    return some (← phrases.statement)
  else
    return none

/-- A conditional whose first word is taken. An `else` belongs to the nearest open conditional. -/
def ifStatement : Parser Statement := do
  let condition ← phrases.condition "if"
  let thenBranch ← phrases.statement
  let elseBranch ← phrases.elseBranch
  return .conditional condition thenBranch elseBranch

/-- A `while` loop whose first word is taken. -/
def whileStatement : Parser Statement := do
  let condition ← phrases.condition "while"
  return .loop condition (← phrases.statement) none

/-- A `return` whose first word is taken. -/
def returnStatement (keyword : Identifier) : Parser Statement := do
  let value ← phrases.expressionUnless .semicolon
  let _ ← expect .semicolon "after return value"
  return .giveBack keyword value

/-- A `break` or `continue` whose word is taken. -/
def controlStatement (control : LoopControl) (keyword : Identifier) : Parser Statement := do
  let _ ← expect .semicolon ("after '" ++ control.spelling ++ "'")
  return .control control keyword

/-- A statement that is no declaration. -/
def wholeStatement : Parser Statement := do
  let token ← peek
  match token.kind with
  | .mark .forWord =>
    advance
    phrases.forStatement
  | .mark .ifWord =>
    advance
    phrases.ifStatement
  | .mark .whileWord =>
    advance
    phrases.whileStatement
  | .mark .returnWord =>
    advance
    phrases.returnStatement token.toIdentifier
  | .mark .breakWord =>
    advance
    controlStatement .break token.toIdentifier
  | .mark .continueWord =>
    advance
    controlStatement .continue token.toIdentifier
  | .mark .leftBrace =>
    advance
    return .block (← phrases.block)
  | .mark .printWord =>
    advance
    return .print (← phrases.expressionUntilSemicolon "after value")
  | _ => phrases.expressionStatement

/-! ### Declarations -/

/-- A function or method from its name on; `kind` says which. -/
def namedFunction (kind : String) : Parser FunctionDeclaration := do
  let name ← expectName (kind ++ " name")
  phrases.functionTail kind ("after " ++ kind ++ " name") (some name)

/-- The superclass that a class names, if it names one. -/
def superclass : Parser (Option Expression) := do
  if ← accept .less then
    let name ← expectName "superclass name"
    return some (.read (← freshReference) name)
  else
    return none

/-- A class declaration whose first word is taken. -/
def classDeclaration : Parser Statement := do
  let name ← expectName "class name"
  let superclass ← superclass
  let _ ← expect .leftBrace "before class body"
  let methods ← untilBrace (phrases.namedFunction "method") phrases.limit
  let _ ← expect .rightBrace "after class body"
  return .declareClass name superclass methods

/-- Whether the tokens begin with `fun` and a name. Without a name behind it the word begins an
expression. -/
def beginsFunction : List Token → Bool
  | first :: second :: _ => first.isMark .funWord && second.isIdentifier
  | _ => false

/-- A declaration, or a statement. -/
def wholeDeclaration : Parser Statement := recovering do
  if ← accept .classWord then
    phrases.classDeclaration
  else if beginsFunction (← get).rest then
    advance
    return .declareFunction (← phrases.namedFunction "function")
  else if ← accept .varWord then
    phrases.variableDeclaration
  else
    phrases.wholeStatement

end Phrases

end Lox.Grammar
