/-
What can stop a running program. Every error but one arises at a place in the source and keeps the
line of the token there; output that cannot be written has no such place.
-/

namespace Lox

/-! ### Causes -/

/-- How the kind of a value does not fit what is done with it. -/
inductive TypeProblem where
  | operand
  | operands
  | addends
  | unordered
  | superclass
  | superOutsideMethod
deriving Repr, DecidableEq

/-- The text of a type problem. -/
def TypeProblem.text : TypeProblem → String
  | .operand => "Operand must be a number."
  | .operands => "Operands must be numbers."
  | .addends => "Operands must be two numbers or two strings."
  | .unordered => "Operands must be two numbers, two strings or two booleans."
  | .superclass => "Superclass must be a class."
  | .superOutsideMethod => "Can't use 'super' outside of a subclass method."

/-- What went wrong at a place in a running program. -/
inductive RuntimeProblem where
  | undefinedVariable (name : String)
  | type (problem : TypeProblem)
  | divisionByZero
  | notCallable
  | arityMismatch (expected given : Nat)
  /-- A property is read of something that is no instance. -/
  | notAnInstance
  /-- A property is written of something that is no instance. -/
  | noFields
  | undefinedProperty (name : String)
  /-- A native function failed, with this message. -/
  | native (message : String)
  | stackOverflow
deriving Repr, DecidableEq

/-- How many calls can be in progress at once. -/
def maximalCallDepth : Nat := 10000

/-- The text of a runtime problem. -/
def RuntimeProblem.text : RuntimeProblem → String
  | .undefinedVariable name => "Undefined variable '" ++ name ++ "'."
  | .type problem => problem.text
  | .divisionByZero => "Division by zero."
  | .notCallable => "Can only call functions and classes."
  | .arityMismatch expected given =>
    "Expected " ++ Nat.repr expected ++ " arguments but got " ++ Nat.repr given ++ "."
  | .notAnInstance => "Only instances have properties."
  | .noFields => "Only instances have fields."
  | .undefinedProperty name => "Undefined property '" ++ name ++ "'."
  | .native message => message
  | .stackOverflow =>
    "Stack overflow: more than " ++ Nat.repr maximalCallDepth ++ " nested calls."

/-! ### Errors -/

/-- Why output could not be written. -/
inductive OutputProblem where
  | sinkFull
deriving Repr, DecidableEq

/-- The text of an output problem. -/
def OutputProblem.text : OutputProblem → String
  | .sinkFull => "sink full"

/-- An error that stops a running program. -/
inductive RuntimeError where
  | located (problem : RuntimeProblem) (line : Nat)
  | output (problem : OutputProblem)
deriving Repr, DecidableEq

namespace RuntimeError

/-- The line of the token at which the error arose, zero where there is none. -/
def line : RuntimeError → Nat
  | .located _ line => line
  | .output _ => 0

/-- The report of the error. -/
def message : RuntimeError → String
  | .located problem line => problem.text ++ "\n[line " ++ Nat.repr line ++ "]"
  | .output problem => "Output error: " ++ problem.text

end RuntimeError

end Lox
