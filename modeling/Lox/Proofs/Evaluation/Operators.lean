/-
What an operator answers is the same on every line, but for the line of an error. A value that it
gives is never an object of the heap.
-/

import Lox.Evaluation.Operators

namespace Lox

/-- On every line the answer is the same plain value, or an error that is the same but for the
line. -/
inductive OnEveryLine : (Nat → Except RuntimeError Value) → Prop
  | ok {value : Value} : value.IsPlain → OnEveryLine fun _ => .ok value
  | error (problem : RuntimeProblem) : OnEveryLine fun line => .error (.located problem line)

theorem Literal.isPlain_value (literal : Literal) : literal.value.IsPlain := by
  cases literal <;> trivial

theorem UnaryOperator.onEveryLine (operator : UnaryOperator) (operand : Value) :
    OnEveryLine fun line => operator.apply line operand := by
  cases operator with
  | not => exact .ok trivial
  | negate =>
    cases operand with
    | number => exact .ok trivial
    | _ => exact .error _

theorem addValues_onEveryLine (left right : Value) :
    OnEveryLine fun line => addValues line left right := by
  cases left with
  | number =>
    cases right with
    | number => exact .ok trivial
    | _ => exact .error _
  | string =>
    cases right with
    | string => exact .ok trivial
    | _ => exact .error _
  | _ => exact .error _

/-- An operation on numbers that gives a number, or an error that is the same but for the line. -/
theorem onNumbers_onEveryLine {operation : Nat → Float → Float → Except RuntimeError Float}
    (answers : ∀ left right, (∃ number, ∀ line, operation line left right = .ok number) ∨
      ∃ problem, ∀ line, operation line left right = .error (.located problem line))
    (left right : Value) :
    OnEveryLine fun line => onNumbers line (operation line) left right := by
  cases left with
  | number left =>
    cases right with
    | number right =>
      show OnEveryLine fun line => (operation line left right).map Value.number
      rcases answers left right with ⟨number, isNumber⟩ | ⟨problem, isError⟩
      · simp only [isNumber]
        exact .ok trivial
      · simp only [isError]
        exact .error problem
    | _ => exact .error _
  | _ => exact .error _

theorem inOrder_onEveryLine (orders : List Ordering) (left right : Value) :
    OnEveryLine fun line => inOrder line orders left right := by
  unfold inOrder
  cases left.order? right with
  | none => exact .error _
  | some order => cases order <;> exact .ok trivial

theorem BinaryOperator.onEveryLine (operator : BinaryOperator) (left right : Value) :
    OnEveryLine fun line => operator.apply line left right := by
  cases operator with
  | add => exact addValues_onEveryLine left right
  | subtract | multiply =>
    exact onNumbers_onEveryLine (fun _ _ => .inl ⟨_, fun _ => rfl⟩) left right
  | divide =>
    refine onNumbers_onEveryLine (fun dividend divisor => ?_) left right
    unfold quotient
    split
    · exact .inr ⟨_, fun _ => rfl⟩
    · exact .inl ⟨_, fun _ => rfl⟩
  | equal | notEqual => exact .ok trivial
  | greater | greaterEqual | less | lessEqual => exact inOrder_onEveryLine _ left right

end Lox
