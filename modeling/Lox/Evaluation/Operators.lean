/-
The operators on values. The kinds of both operands decide together what an operator does, and an
operator that does nothing with them stops the run.
-/

import Lox.Tree
import Lox.Machine.RuntimeError
import Lox.Value

namespace Lox

/-- The value of a literal. -/
def Literal.value : Literal → Value
  | .number value => .number value
  | .string contents => .string contents
  | .boolean value => .boolean value
  | .nil => .nil

/-- An error in the kinds of operands, at the line of the operator. -/
def typeError {α : Type} (problem : TypeProblem) (line : Nat) : Except RuntimeError α :=
  .error (.located (.type problem) line)

/-- The value of a prefix operator. -/
def UnaryOperator.apply (operator : UnaryOperator) (line : Nat) (operand : Value) :
    Except RuntimeError Value :=
  match operator, operand with
  | .not, operand => .ok (.boolean (!operand.isTruthy))
  | .negate, .number value => .ok (.number (-value))
  | .negate, _ => typeError .operand line

/-- The sum of two numbers, or two strings put together. -/
def addValues (line : Nat) : Value → Value → Except RuntimeError Value
  | .number left, .number right => .ok (.number (left + right))
  | .string left, .string right => .ok (.string (left ++ right))
  | _, _ => typeError .addends line

/-- An operation on two numbers. -/
def onNumbers (line : Nat) (operation : Float → Float → Except RuntimeError Float) :
    Value → Value → Except RuntimeError Value
  | .number left, .number right => (operation left right).map .number
  | _, _ => typeError .operands line

/-- The quotient of two numbers; nothing is divided by either zero. -/
def quotient (line : Nat) (left right : Float) : Except RuntimeError Float :=
  if right == 0 then .error (.located .divisionByZero line) else .ok (left / right)

/-- Whether two values are in one of the given orders. Numbers without an order are in none. -/
def inOrder (line : Nat) (orders : List Ordering) (left right : Value) :
    Except RuntimeError Value :=
  match left.order? right with
  | some (some order) => .ok (.boolean (orders.contains order))
  | some none => .ok (.boolean false)
  | none => typeError .unordered line

/-- The value of an operator between two operands. -/
def BinaryOperator.apply (operator : BinaryOperator) (line : Nat) (left right : Value) :
    Except RuntimeError Value :=
  match operator with
  | .add => addValues line left right
  | .subtract => onNumbers line (fun left right => .ok (left - right)) left right
  | .multiply => onNumbers line (fun left right => .ok (left * right)) left right
  | .divide => onNumbers line (quotient line) left right
  | .equal => .ok (.boolean (left.equals right))
  | .notEqual => .ok (.boolean (!left.equals right))
  | .greater => inOrder line [.gt] left right
  | .greaterEqual => inOrder line [.gt, .eq] left right
  | .less => inOrder line [.lt] left right
  | .lessEqual => inOrder line [.lt, .eq] left right

/-- Whether a logical operator is decided by its left operand, which is then its value. -/
def LogicalOperator.isDecidedBy (operator : LogicalOperator) (left : Value) : Bool :=
  match operator with
  | .or => left.isTruthy
  | .and => !left.isTruthy

end Lox
