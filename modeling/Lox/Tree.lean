/-
The trees of programs. A `for` loop has no node of its own: it is a block that holds the initializer
and a loop whose third part runs after every pass. Every occurrence of a name that is looked up
carries a reference, its identity, so that what is found out about one occurrence can be kept apart
from what is found out about another that looks the same.
-/

import Lox.Token

namespace Lox

/-! ### Operators and literals -/

/-- An operator before its operand. -/
inductive UnaryOperator where
  | negate
  | not
deriving Repr, DecidableEq

/-- An operator between operands that are both evaluated. -/
inductive BinaryOperator where
  | add | subtract | multiply | divide
  | equal | notEqual
  | greater | greaterEqual | less | lessEqual
deriving Repr, DecidableEq

/-- An operator whose left operand decides whether the right one is evaluated. -/
inductive LogicalOperator where
  | and
  | or
deriving Repr, DecidableEq

/-- What a loop does next when its body asks for it. -/
inductive LoopControl where
  | break
  | continue
deriving Repr, DecidableEq

/-- A value written in the source. -/
inductive Literal where
  | number (value : Float)
  | string (contents : String)
  | boolean (value : Bool)
  | nil
deriving Repr

/-- The identity of one occurrence of a name. -/
abbrev Reference := Nat

/-! ### Trees -/

mutual

/-- A part of a program that has a value. -/
inductive Expression where
  | literal (value : Literal)
  | grouping (inner : Expression)
  | unary (operator : UnaryOperator) (line : Nat) (operand : Expression)
  | binary (operator : BinaryOperator) (line : Nat) (left right : Expression)
  | logical (operator : LogicalOperator) (left right : Expression)
  /-- A variable that is read. -/
  | read (reference : Reference) (name : Identifier)
  | assign (reference : Reference) (name : Identifier) (value : Expression)
  /-- A call, with the line of its closing parenthesis. -/
  | call (callee : Expression) (line : Nat) (arguments : List Expression)
  | function (declaration : FunctionDeclaration)
  | get (object : Expression) (name : Identifier)
  | set (object : Expression) (name : Identifier) (value : Expression)
  | this (reference : Reference) (keyword : Identifier)
  | super (reference : Reference) (keyword method : Identifier)

/-- A function, a method, or a function without a name that is used as a value. -/
inductive FunctionDeclaration where
  | mk (name : Option Identifier) (parameters : List Identifier) (body : List Statement)

/-- A part of a program that is executed for its effect. -/
inductive Statement where
  | expression (expression : Expression)
  | print (expression : Expression)
  | declareVariable (name : Identifier) (initializer : Option Expression)
  | block (statements : List Statement)
  | conditional (condition : Expression) (thenBranch : Statement) (elseBranch : Option Statement)
  /-- A loop; the increment runs after every pass that completed or was cut short by `continue`. -/
  | loop (condition : Expression) (body : Statement) (increment : Option Statement)
  | control (control : LoopControl) (keyword : Identifier)
  | declareFunction (declaration : FunctionDeclaration)
  | giveBack (keyword : Identifier) (value : Option Expression)
  | declareClass (name : Identifier) (superclass : Option Expression)
      (methods : List FunctionDeclaration)

end

/-- `nil` stands for any expression. -/
instance : Inhabited Expression := ⟨.literal .nil⟩

/-- The empty block stands for any statement. -/
instance : Inhabited Statement := ⟨.block []⟩

/-- A function that does nothing stands for any function. -/
instance : Inhabited FunctionDeclaration := ⟨.mk none [] []⟩

namespace FunctionDeclaration

/-- The name of a function, if it has one. -/
def name : FunctionDeclaration → Option Identifier
  | .mk name _ _ => name

/-- The parameters of a function, in order. -/
def parameters : FunctionDeclaration → List Identifier
  | .mk _ parameters _ => parameters

/-- The statements of a function. -/
def body : FunctionDeclaration → List Statement
  | .mk _ _ body => body

/-- How many arguments a function takes. -/
def arity (declaration : FunctionDeclaration) : Nat :=
  declaration.parameters.length

end FunctionDeclaration

/-- The name of the method that runs when an instance is made. -/
def initializerName : String := "init"

/-- Whether a method of this declaration runs when an instance is made. -/
def FunctionDeclaration.isInitializer (declaration : FunctionDeclaration) : Bool :=
  match declaration.name with
  | some name => name.name == initializerName
  | none => false

/-! ### Spellings -/

/-- The characters of the operator in the source. -/
def UnaryOperator.spelling : UnaryOperator → String
  | .negate => "-"
  | .not => "!"

/-- The characters of the operator in the source. -/
def BinaryOperator.spelling : BinaryOperator → String
  | .add => "+" | .subtract => "-" | .multiply => "*" | .divide => "/"
  | .equal => "==" | .notEqual => "!="
  | .greater => ">" | .greaterEqual => ">=" | .less => "<" | .lessEqual => "<="

/-- The word of the operator in the source. -/
def LogicalOperator.spelling : LogicalOperator → String
  | .and => "and"
  | .or => "or"

/-- The word of the loop control in the source. -/
def LoopControl.spelling : LoopControl → String
  | .break => "break"
  | .continue => "continue"

end Lox
