/-
Parsers. A parser takes tokens off the front of a list and ends with a result or with a syntax
error; either way it leaves the tokens it has not taken and the next unused reference. A list of
tokens ends at its first end token, or where it is empty, and no parser takes an end token.
-/

import Lox.Tree

namespace Lox.Grammar

/-! ### Syntax errors -/

/-- What is wrong with the tokens at the place of a syntax error. -/
inductive SyntaxProblem where
  /-- Another token stands where a mark is needed; `role` says what the mark is for. -/
  | missingMark (mark : Mark) (role : String)
  /-- Another token stands where a name is needed; `role` says what is named. -/
  | missingName (role : String)
  | missingExpression
  | missingEnd
  /-- A list of `entries` is longer than `maximalEntries`. -/
  | tooMany (entries : String)
  | invalidTarget
deriving Repr, DecidableEq

/-- How many parameters a function and arguments a call can have. -/
def maximalEntries : Nat := 255

/-- The text of a syntax problem. -/
def SyntaxProblem.text : SyntaxProblem → String
  | .missingMark mark role => "Expected '" ++ mark.spelling ++ "' " ++ role
  | .missingName role => "Expected " ++ role
  | .missingExpression => "Expected expression"
  | .missingEnd => "Expected end of expression"
  | .tooMany entries =>
    "Cannot have more than " ++ Nat.repr maximalEntries ++ " " ++ entries
  | .invalidTarget => "Invalid assignment target"

/-- A syntax problem and the token it is reported at. -/
structure SyntaxError where
  token : Token
  problem : SyntaxProblem
deriving Repr

/-! ### The state of a parser -/

/-- The tokens not yet taken and the next unused reference. -/
structure State where
  rest : List Token
  nextReference : Reference
deriving Repr

/-- A reader of tokens. After an error the state is the one in which it arose. -/
abbrev Parser := EStateM SyntaxError State

/-- What is read where a list of tokens has no end token: there is no line to tell. -/
def missingEnd : Token := ⟨.endOfInput, "", 0⟩

/-- The first of the tokens. -/
def firstToken : List Token → Token
  | [] => missingEnd
  | token :: _ => token

/-- Whether no token is left to take. -/
def atEnd (tokens : List Token) : Bool :=
  (firstToken tokens).isEnd

/-! ### Taking tokens -/

/-- The next token, which stays. -/
def peek : Parser Token := do
  return firstToken (← get).rest

/-- Whether the next token is the given mark. -/
def nextIs (mark : Mark) : Parser Bool := do
  return (← peek).isMark mark

/-- Takes the next token. -/
def advance : Parser Unit :=
  modify fun state => { state with rest := state.rest.tail }

/-- Takes the next token if it is the given mark, and says whether it did. -/
def accept (mark : Mark) : Parser Bool := do
  if ← nextIs mark then
    advance
    return true
  else
    return false

/-- Reports a problem at the next token. -/
def failHere {α : Type} (problem : SyntaxProblem) : Parser α := do
  throw ⟨← peek, problem⟩

/-- Takes the given mark, which is there for `role`. -/
def expect (mark : Mark) (role : String) : Parser Token := do
  let token ← peek
  if token.isMark mark then
    advance
    return token
  else
    throw ⟨token, .missingMark mark role⟩

/-- Takes a name, which names `role`. -/
def expectName (role : String) : Parser Identifier := do
  let token ← peek
  if token.isIdentifier then
    advance
    return token.toIdentifier
  else
    throw ⟨token, .missingName role⟩

/-- A reference that no other occurrence has. -/
def freshReference : Parser Reference :=
  modifyGet fun state =>
    (state.nextReference, { state with nextReference := state.nextReference + 1 })

/-! ### Repetition -/

/-- One or more of `entry` between commas, at most `room` of them. -/
def commaSeparated {α : Type} (entries : String) (entry : Parser α) : Nat → Parser (List α)
  | 0 => failHere (.tooMany entries)
  | room + 1 => do
    let first ← entry
    if ← accept .comma then
      return first :: (← commaSeparated entries entry room)
    else
      return [first]

/-- The entries of a parenthesised list: none if it closes at once. -/
def entriesInside {α : Type} (entries : String) (entry : Parser α) : Parser (List α) := do
  if ← nextIs .rightParen then
    return []
  else
    commaSeparated entries entry maximalEntries

/-- The entries of a parenthesised list whose opening parenthesis is taken, and its closing one. -/
def parenthesised {α : Type} (entries : String) (entry : Parser α) : Parser (List α × Token) := do
  let found ← entriesInside entries entry
  let closing ← expect .rightParen ("after " ++ entries)
  return (found, closing)

/-- As many of `entry` as stand before a closing brace or the end, at most `limit` of them. -/
def untilBrace {α : Type} (entry : Parser α) : Nat → Parser (List α)
  | 0 => return []
  | limit + 1 => do
    if (← nextIs .rightBrace) || atEnd (← get).rest then
      return []
    else
      let first ← entry
      return first :: (← untilBrace entry limit)

/-- Operands joined by operators that group to the left. `operator?` says how an operator token
joins its operands; at most `limit` operators are taken. -/
def leftAssociative (operand : Parser Expression)
    (operator? : Token → Option (Expression → Expression → Expression)) (limit : Nat) :
    Parser Expression := do
  continueFrom limit (← operand)
where
  continueFrom : Nat → Expression → Parser Expression
    | 0, left => return left
    | limit + 1, left => do
      match operator? (← peek) with
      | some join =>
        advance
        continueFrom limit (join left (← operand))
      | none => return left

end Lox.Grammar
