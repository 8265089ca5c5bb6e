/-
Trees that stand on other lines and whose occurrences of names have other references. Neither is a
part of what a program means: lines are reported with errors, and references only tell occurrences
apart. So a tree that is relabelled is the same program in another place.
-/

import Lox.Proofs.Tree.Shape

namespace Lox

/-! ### Relabelled trees -/

/-- What lines and references become. -/
structure Relabelling where
  line : Nat → Nat
  reference : Reference → Reference

/-- Nothing changes. -/
def Relabelling.same : Relabelling := ⟨id, id⟩

/-- Only lines change. -/
def Relabelling.lines (line : Nat → Nat) : Relabelling := ⟨line, id⟩

/-- The name on its new line. -/
def Identifier.reline (line : Nat → Nat) (name : Identifier) : Identifier :=
  ⟨name.name, line name.line⟩

mutual

/-- The expression with new labels. -/
def Expression.relabel (labels : Relabelling) : Expression → Expression
  | .literal literal => .literal literal
  | .grouping inner => .grouping (inner.relabel labels)
  | .unary operator line operand => .unary operator (labels.line line) (operand.relabel labels)
  | .binary operator line left right =>
    .binary operator (labels.line line) (left.relabel labels) (right.relabel labels)
  | .logical operator left right => .logical operator (left.relabel labels) (right.relabel labels)
  | .read reference name => .read (labels.reference reference) (name.reline labels.line)
  | .assign reference name value =>
    .assign (labels.reference reference) (name.reline labels.line) (value.relabel labels)
  | .call callee line arguments =>
    .call (callee.relabel labels) (labels.line line) (Expression.relabelAll labels arguments)
  | .function declaration => .function (declaration.relabel labels)
  | .get object name => .get (object.relabel labels) (name.reline labels.line)
  | .set object name value =>
    .set (object.relabel labels) (name.reline labels.line) (value.relabel labels)
  | .this reference keyword => .this (labels.reference reference) (keyword.reline labels.line)
  | .super reference keyword method =>
    .super (labels.reference reference) (keyword.reline labels.line) (method.reline labels.line)

/-- Some expressions with new labels. -/
def Expression.relabelAll (labels : Relabelling) : List Expression → List Expression
  | [] => []
  | expression :: others => expression.relabel labels :: Expression.relabelAll labels others

/-- The function with new labels. -/
def FunctionDeclaration.relabel (labels : Relabelling) :
    FunctionDeclaration → FunctionDeclaration
  | .mk name parameters body =>
    .mk (name.map (·.reline labels.line)) (parameters.map (·.reline labels.line))
      (Statement.relabelAll labels body)

/-- Some functions with new labels. -/
def FunctionDeclaration.relabelAll (labels : Relabelling) :
    List FunctionDeclaration → List FunctionDeclaration
  | [] => []
  | method :: others => method.relabel labels :: FunctionDeclaration.relabelAll labels others

/-- The statement with new labels. -/
def Statement.relabel (labels : Relabelling) : Statement → Statement
  | .expression expression => .expression (expression.relabel labels)
  | .print expression => .print (expression.relabel labels)
  | .declareVariable name none => .declareVariable (name.reline labels.line) none
  | .declareVariable name (some initializer) =>
    .declareVariable (name.reline labels.line) (some (initializer.relabel labels))
  | .block statements => .block (Statement.relabelAll labels statements)
  | .conditional condition thenBranch none =>
    .conditional (condition.relabel labels) (thenBranch.relabel labels) none
  | .conditional condition thenBranch (some elseBranch) =>
    .conditional (condition.relabel labels) (thenBranch.relabel labels)
      (some (elseBranch.relabel labels))
  | .loop condition body none => .loop (condition.relabel labels) (body.relabel labels) none
  | .loop condition body (some increment) =>
    .loop (condition.relabel labels) (body.relabel labels) (some (increment.relabel labels))
  | .control control keyword => .control control (keyword.reline labels.line)
  | .declareFunction declaration => .declareFunction (declaration.relabel labels)
  | .giveBack keyword none => .giveBack (keyword.reline labels.line) none
  | .giveBack keyword (some value) =>
    .giveBack (keyword.reline labels.line) (some (value.relabel labels))
  | .declareClass name none methods =>
    .declareClass (name.reline labels.line) none (FunctionDeclaration.relabelAll labels methods)
  | .declareClass name (some superclass) methods =>
    .declareClass (name.reline labels.line) (some (superclass.relabel labels))
      (FunctionDeclaration.relabelAll labels methods)

/-- Some statements with new labels. -/
def Statement.relabelAll (labels : Relabelling) : List Statement → List Statement
  | [] => []
  | statement :: others => statement.relabel labels :: Statement.relabelAll labels others

end

mutual

/-- Labels that stay the same make no difference. -/
theorem Expression.relabel_same : (expression : Expression) →
    expression.relabel .same = expression
  | .literal _ => rfl
  | .grouping inner => congrArg Expression.grouping inner.relabel_same
  | .unary operator line operand => congrArg (Expression.unary operator line) operand.relabel_same
  | .binary operator line left right =>
    congrArg₂ (Expression.binary operator line) left.relabel_same right.relabel_same
  | .logical operator left right =>
    congrArg₂ (Expression.logical operator) left.relabel_same right.relabel_same
  | .read _ _ => rfl
  | .assign reference name value =>
    congrArg (Expression.assign reference name) value.relabel_same
  | .call callee line arguments =>
    congrArg₂ (Expression.call · line ·) callee.relabel_same
      (Expression.relabelAll_same arguments)
  | .function declaration => congrArg Expression.function declaration.relabel_same
  | .get object name => congrArg (Expression.get · name) object.relabel_same
  | .set object name value =>
    congrArg₂ (Expression.set · name ·) object.relabel_same value.relabel_same
  | .this _ _ => rfl
  | .super _ _ _ => rfl

theorem Expression.relabelAll_same : (expressions : List Expression) →
    Expression.relabelAll .same expressions = expressions
  | [] => rfl
  | expression :: others =>
    congrArg₂ List.cons expression.relabel_same (Expression.relabelAll_same others)

theorem FunctionDeclaration.relabel_same : (declaration : FunctionDeclaration) →
    declaration.relabel .same = declaration
  | .mk name parameters body => by
    have sameName : name.map (·.reline Relabelling.same.line) = name := by cases name <;> rfl
    have sameParameters : parameters.map (·.reline Relabelling.same.line) = parameters :=
      List.map_id parameters
    rw [FunctionDeclaration.relabel, sameName, sameParameters, Statement.relabelAll_same body]

theorem FunctionDeclaration.relabelAll_same : (methods : List FunctionDeclaration) →
    FunctionDeclaration.relabelAll .same methods = methods
  | [] => rfl
  | method :: others =>
    congrArg₂ List.cons method.relabel_same (FunctionDeclaration.relabelAll_same others)

theorem Statement.relabel_same : (statement : Statement) → statement.relabel .same = statement
  | .expression expression => congrArg Statement.expression expression.relabel_same
  | .print expression => congrArg Statement.print expression.relabel_same
  | .declareVariable _ none => rfl
  | .declareVariable name (some initializer) =>
    congrArg (Statement.declareVariable name <| some ·) initializer.relabel_same
  | .block statements => congrArg Statement.block (Statement.relabelAll_same statements)
  | .conditional condition thenBranch none =>
    congrArg₂ (Statement.conditional · · none) condition.relabel_same thenBranch.relabel_same
  | .conditional condition thenBranch (some elseBranch) => by
    rw [Statement.relabel, condition.relabel_same, thenBranch.relabel_same,
      elseBranch.relabel_same]
  | .loop condition body none =>
    congrArg₂ (Statement.loop · · none) condition.relabel_same body.relabel_same
  | .loop condition body (some increment) => by
    rw [Statement.relabel, condition.relabel_same, body.relabel_same, increment.relabel_same]
  | .control _ _ => rfl
  | .declareFunction declaration => congrArg Statement.declareFunction declaration.relabel_same
  | .giveBack _ none => rfl
  | .giveBack keyword (some value) =>
    congrArg (Statement.giveBack keyword <| some ·) value.relabel_same
  | .declareClass name none methods =>
    congrArg (Statement.declareClass name none) (FunctionDeclaration.relabelAll_same methods)
  | .declareClass name (some superclass) methods =>
    congrArg₂ (Statement.declareClass name <| some ·) superclass.relabel_same
      (FunctionDeclaration.relabelAll_same methods)

theorem Statement.relabelAll_same : (statements : List Statement) →
    Statement.relabelAll .same statements = statements
  | [] => rfl
  | statement :: others =>
    congrArg₂ List.cons statement.relabel_same (Statement.relabelAll_same others)

end

/-! ### What stays -/

namespace FunctionDeclaration

variable (labels : Relabelling) (declaration : FunctionDeclaration)

theorem name_relabel :
    (declaration.relabel labels).name = declaration.name.map (·.reline labels.line) := by
  cases declaration
  rfl

theorem arity_relabel : (declaration.relabel labels).arity = declaration.arity := by
  cases declaration
  exact List.length_map _

theorem isInitializer_relabel :
    (declaration.relabel labels).isInitializer = declaration.isInitializer := by
  unfold isInitializer
  rw [name_relabel]
  cases declaration.name <;> rfl

end FunctionDeclaration

end Lox
