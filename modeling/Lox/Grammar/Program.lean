/-
Programs and lone expressions. The parsers of nested phrases are tied together by the depth to which
phrases may nest; a phrase takes a token before it goes a level down, so the number of tokens is
depth enough.
-/

import Lox.Grammar.Statement

namespace Lox.Grammar

/-! ### Nested phrases -/

mutual

/-- An expression with phrases nested at most `depth` deep. At depth zero it is found missing. -/
def expression : Nat → Parser Expression
  | 0 => failHere .missingExpression
  | depth + 1 =>
    Phrases.wholeExpression ⟨depth + 1, expression depth, statement depth, declaration depth⟩

/-- A statement with phrases nested at most `depth` deep. -/
def statement : Nat → Parser Statement
  | 0 => failHere .missingExpression
  | depth + 1 =>
    Phrases.wholeStatement ⟨depth + 1, expression depth, statement depth, declaration depth⟩

/-- A declaration or statement with phrases nested at most `depth` deep. -/
def declaration : Nat → Parser Statement
  | 0 => failHere .missingExpression
  | depth + 1 =>
    Phrases.wholeDeclaration ⟨depth + 1, expression depth, statement depth, declaration depth⟩

end

/-- A depth that no phrase in the tokens exceeds. -/
def depthOf (tokens : List Token) : Nat :=
  tokens.length + 1

/-! ### Programs -/

/-- What became of an attempt to read a declaration. -/
abbrev Attempt := Except SyntaxError Statement

/-- The attempts at declarations up to the end of the tokens, at most `limit` of them, and the next
unused reference. -/
def attempts (depth : Nat) : Nat → State → List Attempt × Reference
  | 0, state => ([], state.nextReference)
  | limit + 1, state =>
    if atEnd state.rest then ([], state.nextReference)
    else
      match declaration depth state with
      | .ok statement state =>
        let (others, nextReference) := attempts depth limit state
        (.ok statement :: others, nextReference)
      | .error error state =>
        let (others, nextReference) := attempts depth limit state
        (.error error :: others, nextReference)

/-- The attempts at the declarations of a program, one for each of its top-level declarations and
one for each error, and the next unused reference. -/
def parseItems (tokens : List Token) (nextReference : Reference) : List Attempt × Reference :=
  attempts (depthOf tokens) tokens.length ⟨tokens, nextReference⟩

/-- The statements among the attempts. -/
def statementsOf (attempts : List Attempt) : List Statement :=
  attempts.filterMap Except.toOption

/-- The errors among the attempts. -/
def errorsOf (attempts : List Attempt) : List SyntaxError :=
  attempts.filterMap fun
    | .ok _ => none
    | .error error => some error

/-- The statements of a program, or else every syntax error found, and the next unused reference. -/
def parseProgram (tokens : List Token) (nextReference : Reference) :
    Except (List SyntaxError) (List Statement) × Reference :=
  let (attempts, nextReference) := parseItems tokens nextReference
  match errorsOf attempts with
  | [] => (.ok (statementsOf attempts), nextReference)
  | errors => (.error errors, nextReference)

/-! ### Lone expressions -/

/-- An expression that takes all tokens up to the end. -/
def loneExpression (depth : Nat) : Parser Expression := do
  let result ← expression depth
  if atEnd (← get).rest then
    return result
  else
    failHere .missingEnd

/-- The expression that the tokens are, or a syntax error, and the next unused reference. -/
def parseExpression (tokens : List Token) (nextReference : Reference) :
    Except SyntaxError Expression × Reference :=
  match loneExpression (depthOf tokens) ⟨tokens, nextReference⟩ with
  | .ok result state => (.ok result, state.nextReference)
  | .error error state => (.error error, state.nextReference)

end Lox.Grammar
