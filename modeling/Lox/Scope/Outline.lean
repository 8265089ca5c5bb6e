/-
An outline of a program shows what its occurrences of names are related to: one row for each node
that has something to show, a node before what is inside it.
-/

import Lox.Scope.Walk

namespace Lox.Scope

/-! ### Rows -/

/-- A line number as rows show it. -/
def lineMark (line : Nat) : String :=
  "@" ++ Nat.repr line

/-- How far out an occurrence is declared, or that it is global. -/
def distanceMark (distances : Distances) (reference : Reference) : String :=
  match distances[reference]? with
  | some distance => Nat.repr distance
  | none => "global"

/-- A row: its words with single spaces between them. -/
def row (words : List String) : String :=
  " ".intercalate words

/-- The row of a name and its line. -/
def nameRow (word : String) (name : Identifier) : String :=
  row [word, name.name, lineMark name.line]

/-! ### Outlines -/

mutual

/-- The rows of an expression. -/
def outlineExpression (distances : Distances) : Expression → List String
  | .literal _ => []
  | .grouping inner => outlineExpression distances inner
  | .unary operator line operand =>
    row ["unary", operator.spelling, lineMark line] :: outlineExpression distances operand
  | .binary operator line left right =>
    row ["binary", operator.spelling, lineMark line] ::
      (outlineExpression distances left ++ outlineExpression distances right)
  | .logical operator left right =>
    row ["logical", operator.spelling] ::
      (outlineExpression distances left ++ outlineExpression distances right)
  | .read reference name =>
    [row ["var", name.name, lineMark name.line, distanceMark distances reference]]
  | .assign reference name value =>
    row ["assign", name.name, lineMark name.line, distanceMark distances reference] ::
      outlineExpression distances value
  | .call callee line arguments =>
    row ["call", Nat.repr arguments.length, lineMark line] ::
      (outlineExpression distances callee ++ outlineExpressions distances arguments)
  | .function declaration => outlineFunction distances declaration
  | .get object name => nameRow "get" name :: outlineExpression distances object
  | .set object name value =>
    nameRow "set" name ::
      (outlineExpression distances object ++ outlineExpression distances value)
  | .this reference keyword =>
    [row ["this", lineMark keyword.line, distanceMark distances reference]]
  | .super reference keyword method =>
    [row ["super", method.name, lineMark keyword.line, lineMark method.line,
      distanceMark distances reference]]

/-- The rows of expressions, one after the other. -/
def outlineExpressions (distances : Distances) : List Expression → List String
  | [] => []
  | expression :: others =>
    outlineExpression distances expression ++ outlineExpressions distances others

/-- The rows of a function: itself, its parameters, its body. -/
def outlineFunction (distances : Distances) : FunctionDeclaration → List String
  | .mk name parameters body =>
    (match name with
      | some name => nameRow "fun" name
      | none => "fun") ::
      (parameters.map (nameRow "param") ++ outlineStatements distances body)

/-- The rows of methods, one after the other. -/
def outlineMethods (distances : Distances) :
    List FunctionDeclaration → List String
  | [] => []
  | method :: others =>
    outlineFunction distances method ++ outlineMethods distances others

/-- The rows of a statement. -/
def outlineStatement (distances : Distances) : Statement → List String
  | .expression expression => outlineExpression distances expression
  | .print expression => outlineExpression distances expression
  | .declareVariable name none => [nameRow "let" name]
  | .declareVariable name (some initializer) =>
    nameRow "let" name :: outlineExpression distances initializer
  | .block statements => outlineStatements distances statements
  | .conditional condition thenBranch none =>
    outlineExpression distances condition ++ outlineStatement distances thenBranch
  | .conditional condition thenBranch (some elseBranch) =>
    outlineExpression distances condition ++ outlineStatement distances thenBranch ++
      outlineStatement distances elseBranch
  | .loop condition body none =>
    outlineExpression distances condition ++ outlineStatement distances body
  | .loop condition body (some increment) =>
    outlineExpression distances condition ++ outlineStatement distances body ++
      outlineStatement distances increment
  | .control control keyword => [row [control.spelling, lineMark keyword.line]]
  | .declareFunction declaration => outlineFunction distances declaration
  | .giveBack keyword none => [row ["return", lineMark keyword.line]]
  | .giveBack keyword (some value) =>
    row ["return", lineMark keyword.line] :: outlineExpression distances value
  | .declareClass name none methods =>
    nameRow "class" name :: outlineMethods distances methods
  | .declareClass name (some superclass) methods =>
    nameRow "class" name ::
      (outlineExpression distances superclass ++ outlineMethods distances methods)

/-- The rows of statements, one after the other. -/
def outlineStatements (distances : Distances) : List Statement → List String
  | [] => []
  | statement :: others =>
    outlineStatement distances statement ++ outlineStatements distances others

end

end Lox.Scope
