/-
This file writes trees in prefix form. A tree becomes a form, an atom or a parenthesised list of
forms whose first one names the node, and a form becomes text with single spaces between the members
of a list. Lines and references are not written.
-/

import Lox.Tree

namespace Lox

/-! ### Forms -/

/-- An atom or a list. -/
inductive Form where
  | atom (text : String)
  | list (members : List Form)
deriving Repr

mutual

/-- The characters of a form. -/
def Form.characters : Form → List Char
  | .atom text => text.toList
  | .list members => '(' :: Form.membersCharacters members ++ [')']

/-- The characters of the members of a list. -/
def Form.membersCharacters : List Form → List Char
  | [] => []
  | [form] => form.characters
  | form :: other :: others => form.characters ++ ' ' :: Form.membersCharacters (other :: others)

end

/-- The text of a form. -/
def Form.text (form : Form) : String :=
  String.ofList form.characters

/-- A list that begins with the given word. -/
def Form.headed (word : String) (members : List Form) : Form :=
  .list (.atom word :: members)

/-! ### Forms of trees -/

/-- The form of a literal: a string stands without its quotes. -/
def Literal.form : Literal → Form
  | .number value => .atom (Number.treeText value)
  | .string contents => .atom contents
  | .boolean true => .atom "true"
  | .boolean false => .atom "false"
  | .nil => .atom "nil"

/-- The form of a name. -/
def Identifier.form (identifier : Identifier) : Form :=
  .atom identifier.name

mutual

/-- The form of an expression. -/
def Expression.form : Expression → Form
  | .literal value => value.form
  | .grouping inner => .headed "group" [inner.form]
  | .unary operator _ operand => .headed operator.spelling [operand.form]
  | .binary operator _ left right => .headed operator.spelling [left.form, right.form]
  | .logical operator left right => .headed operator.spelling [left.form, right.form]
  | .read _ name => name.form
  | .assign _ name value => .headed "=" [name.form, value.form]
  | .call callee _ arguments => .headed "call" (callee.form :: Expression.forms arguments)
  | .function declaration => declaration.form "fun"
  | .get object name => .headed "." [object.form, name.form]
  | .set object name value => .headed "=" [.headed "." [object.form, name.form], value.form]
  | .this _ _ => .atom "this"
  | .super _ _ method => .headed "super" [method.form]

/-- The forms of expressions, in order. -/
def Expression.forms : List Expression → List Form
  | [] => []
  | expression :: others => expression.form :: Expression.forms others

/-- The form of a function: the head word, the name if there is one, the parameters, the body. -/
def FunctionDeclaration.form (head : String) : FunctionDeclaration → Form
  | .mk name parameters body =>
    .headed head <|
      (name.map Identifier.form).toList ++
        .list (parameters.map Identifier.form) :: Statement.forms body

/-- The forms of the methods of a class, in order. -/
def FunctionDeclaration.forms : List FunctionDeclaration → List Form
  | [] => []
  | method :: others => method.form "method" :: FunctionDeclaration.forms others

/-- The form of a statement. A lone expression is headed by the semicolon that ends it. -/
def Statement.form : Statement → Form
  | .expression expression => .headed ";" [expression.form]
  | .print expression => .headed "print" [expression.form]
  | .declareVariable name none => .headed "var" [name.form]
  | .declareVariable name (some initializer) => .headed "var" [name.form, initializer.form]
  | .block statements => .headed "block" (Statement.forms statements)
  | .conditional condition thenBranch none => .headed "if" [condition.form, thenBranch.form]
  | .conditional condition thenBranch (some elseBranch) =>
    .headed "if" [condition.form, thenBranch.form, elseBranch.form]
  | .loop condition body none => .headed "while" [condition.form, body.form]
  | .loop condition body (some increment) =>
    .headed "while" [condition.form, body.form, increment.form]
  | .control control _ => .headed control.spelling []
  | .declareFunction declaration => declaration.form "fun"
  | .giveBack _ none => .headed "return" []
  | .giveBack _ (some value) => .headed "return" [value.form]
  | .declareClass name none methods =>
    .headed "class" (name.form :: FunctionDeclaration.forms methods)
  | .declareClass name (some superclass) methods =>
    .headed "class"
      (name.form :: .atom "<" :: superclass.form :: FunctionDeclaration.forms methods)

/-- The forms of statements, in order. -/
def Statement.forms : List Statement → List Form
  | [] => []
  | statement :: others => statement.form :: Statement.forms others

end

/-- The printed text of an expression. -/
def Expression.text (expression : Expression) : String :=
  expression.form.text

/-- The printed text of a statement. -/
def Statement.text (statement : Statement) : String :=
  statement.form.text

end Lox
