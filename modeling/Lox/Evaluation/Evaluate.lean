/-
The evaluator, tied together by the depth to which runs may nest. A run that finishes within some
depth finishes in the same way within every greater one; a run that needs more than it is given
stops as exhausted. The depth counts the nested nodes on the way to the one being run, not the steps
of the run, and bounds the passes of each loop.
-/

import Lox.Evaluation.Node

namespace Lox

/-! ### Nested runs -/

mutual

/-- Evaluates an expression within a depth. -/
def evaluate : Nat → Expression → Run Value
  | 0, _ => throw .exhausted
  | depth + 1, expression =>
    Evaluator.evaluateNode ⟨evaluate depth, execute depth, depth⟩ expression

/-- Executes a statement within a depth. -/
def execute : Nat → Statement → Run Flow
  | 0, _ => throw .exhausted
  | depth + 1, statement =>
    Evaluator.executeNode ⟨evaluate depth, execute depth, depth⟩ statement

end

/-- The evaluator of a depth. -/
def evaluator (depth : Nat) : Evaluator :=
  ⟨evaluate depth, execute depth, depth⟩

/-- With depth left, a statement is executed by its node. -/
theorem execute_succ (depth : Nat) (statement : Statement) :
    execute (depth + 1) statement = (evaluator depth).executeNode statement := rfl

/-! ### Programs -/

/-- Executes the statements of a program in order, up to the first error. A flow that reaches the
top level belongs to nothing there, and the program goes on. -/
def interpret (depth : Nat) : List Statement → Run Unit
  | [] => return
  | statement :: others => do
    let _ ← execute depth statement
    interpret depth others

end Lox
