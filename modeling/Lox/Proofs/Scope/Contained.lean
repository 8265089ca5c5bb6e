/-
Which signals may leave a statement. A `break` or `continue` needs a loop around it, a `return`
needs a function, and one with a value needs a function that is no initializer; a function keeps all
signals of its body to itself. A walk that reports no error has found all of this.
-/

import Lox.Scope.Resolve

namespace Lox

open Scope

/-! ### Containment -/

mutual

/-- Every function in the expression contains the signals of its body. -/
def Expression.Contained : Expression → Prop
  | .literal _ => True
  | .grouping inner => inner.Contained
  | .unary _ _ operand => operand.Contained
  | .binary _ _ left right => left.Contained ∧ right.Contained
  | .logical _ left right => left.Contained ∧ right.Contained
  | .read _ _ => True
  | .assign _ _ value => value.Contained
  | .call callee _ arguments => callee.Contained ∧ Expression.AllContained arguments
  | .function declaration => declaration.Contained .function
  | .get object _ => object.Contained
  | .set object _ value => object.Contained ∧ value.Contained
  | .this _ _ => True
  | .super _ _ _ => True

/-- Every function in the expressions contains the signals of its body. -/
def Expression.AllContained : List Expression → Prop
  | [] => True
  | expression :: others => expression.Contained ∧ Expression.AllContained others

/-- A function of the given kind contains the signals of its body. -/
def FunctionDeclaration.Contained (kind : FunctionKind) : FunctionDeclaration → Prop
  | .mk _ _ body => Statement.AllContained kind false body

/-- Every one of the methods contains the signals of its body. -/
def FunctionDeclaration.AllContained : List FunctionDeclaration → Prop
  | [] => True
  | method :: others =>
    method.Contained (methodKind method) ∧ FunctionDeclaration.AllContained others

/-- In a function of the given kind, and in a loop of it or in none, there is something to take
every signal that leaves the statement. -/
def Statement.Contained (kind : FunctionKind) (inLoop : Bool) : Statement → Prop
  | .expression expression => expression.Contained
  | .print expression => expression.Contained
  | .declareVariable _ none => True
  | .declareVariable _ (some initializer) => initializer.Contained
  | .block statements => Statement.AllContained kind inLoop statements
  | .conditional condition thenBranch none =>
    condition.Contained ∧ thenBranch.Contained kind inLoop
  | .conditional condition thenBranch (some elseBranch) =>
    condition.Contained ∧ thenBranch.Contained kind inLoop ∧ elseBranch.Contained kind inLoop
  | .loop condition body none => condition.Contained ∧ body.Contained kind true
  | .loop condition body (some increment) =>
    condition.Contained ∧ body.Contained kind true ∧ increment.Contained kind true
  | .control _ _ => inLoop = true
  | .declareFunction declaration => declaration.Contained .function
  | .giveBack _ none => kind ≠ .none
  | .giveBack _ (some value) => kind ≠ .none ∧ kind ≠ .initializer ∧ value.Contained
  | .declareClass _ none methods => FunctionDeclaration.AllContained methods
  | .declareClass _ (some superclass) methods =>
    superclass.Contained ∧ FunctionDeclaration.AllContained methods

/-- The same for statements one after the other. -/
def Statement.AllContained (kind : FunctionKind) (inLoop : Bool) : List Statement → Prop
  | [] => True
  | statement :: others =>
    statement.Contained kind inLoop ∧ Statement.AllContained kind inLoop others

end

/-- A method of a class is one of those that were checked. -/
theorem FunctionDeclaration.AllContained.of_mem {methods : List FunctionDeclaration}
    (contained : FunctionDeclaration.AllContained methods) {method : FunctionDeclaration}
    (member : method ∈ methods) : method.Contained (methodKind method) := by
  induction methods with
  | nil => exact absurd member List.not_mem_nil
  | cons first others inductionHypothesis =>
    rcases List.mem_cons.mp member with rfl | inOthers
    · exact contained.1
    · exact inductionHypothesis contained.2 inOthers

/-! ### What a walk without errors finds -/

namespace Scope

/-- Whether there is a loop around, in the same function. -/
def Surroundings.inLoop (around : Surroundings) : Bool :=
  around.loops != 0

/-- The walk adds errors or none, and if it adds none then the proposition holds. -/
def Finds (walk : Walk Unit) (holds : Prop) : Prop :=
  ∀ before, before.errors <+: (walk before).2.errors ∧
    ((walk before).2.errors = before.errors → holds)

namespace Finds

variable {walk next : Walk Unit} {holds first second : Prop}

/-- Two walks in a row add no error only if neither does. -/
theorem bind (start : Finds walk first) (rest : Finds next second) :
    Finds (walk >>= fun _ => next) (first ∧ second) := by
  intro before
  have ⟨early, isFirst⟩ := start before
  have ⟨late, isSecond⟩ := rest (walk before).2
  refine ⟨early.trans late, fun noError => ?_⟩
  have noErrorFirst : (walk before).2.errors = before.errors :=
    (early.eq_of_length_le (noError ▸ late.length_le)).symm
  exact ⟨isFirst noErrorFirst, isSecond (noError.trans noErrorFirst.symm)⟩

theorem imp (finds : Finds walk first) (weaker : first → second) : Finds walk second :=
  fun before => ⟨(finds before).1, fun noError => weaker ((finds before).2 noError)⟩

/-- A walk that reports nothing. -/
theorem silent (same : ∀ before, (walk before).2.errors = before.errors) : Finds walk True :=
  fun before => ⟨same before ▸ List.prefix_refl _, fun _ => trivial⟩

theorem modify (change : State → State)
    (same : ∀ before, (change before).errors = before.errors) :
    Finds (modify change) True :=
  silent same

theorem report (place : Identifier) (problem : ScopeProblem) :
    Finds (report place problem) holds := by
  refine fun before => ⟨List.prefix_append _ _, fun noError => ?_⟩
  exact absurd (List.append_right_eq_self.mp noError) (List.cons_ne_nil _ _)

/-- A check that reports or does nothing. -/
theorem check {condition : Prop} [Decidable condition] (place : Identifier)
    (problem : ScopeProblem) :
    Finds (if condition then Scope.report place problem else return) ¬condition := by
  split
  · exact report place problem
  · rename_i holds
    exact (silent fun _ => rfl).imp fun _ => holds

theorem inNewScope (finds : Finds walk holds) : Finds (inNewScope walk) holds :=
  fun before => finds { before with scopes := .empty :: before.scopes }

/-! ### Names -/

theorem relate (reference : Reference) (name : String) : Finds (relate reference name) True := by
  refine modify _ fun before => ?_
  split <;> rfl

theorem define (name : String) : Finds (define name) True := by
  refine modify _ fun before => ?_
  obtain ⟨scopes, distances, errors⟩ := before
  cases scopes <;> rfl

theorem declare (name : Identifier) : Finds (declare name) True := by
  intro before
  obtain ⟨scopes, distances, errors⟩ := before
  cases scopes with
  | nil => exact ⟨List.prefix_refl _, fun _ => trivial⟩
  | cons innermost others =>
    have step : Scope.declare name ⟨innermost :: others, distances, errors⟩ =
        (if innermost.contains name.name then Scope.report name .alreadyDeclared
          else changeInnermost fun names => names.write name.name false : Walk Unit)
        ⟨innermost :: others, distances, errors⟩ := rfl
    rw [step]
    split
    · exact ⟨List.prefix_append _ _, fun _ => trivial⟩
    · exact ⟨List.prefix_refl _, fun _ => trivial⟩

theorem parameters (parameters : List Identifier) : Finds (walkParameters parameters) True := by
  induction parameters with
  | nil => exact silent fun _ => rfl
  | cons parameter others inductionHypothesis =>
    exact ((declare parameter).bind ((define parameter.name).bind inductionHypothesis)).imp
      fun _ => trivial

theorem read (reference : Reference) (name : Identifier) :
    Finds (walkRead reference name) True := by
  have checked : Finds (checkRead name) True := by
    intro before
    have step : Scope.checkRead name before =
        (if isUndefinedHere name.name before then Scope.report name .ownInitializer else return :
          Walk Unit) before := rfl
    rw [step]
    exact ((check name .ownInitializer).imp fun _ => trivial) before
  exact (checked.bind (relate reference name.name)).imp fun _ => trivial

theorem this (around : Surroundings) (reference : Reference) (keyword : Identifier) :
    Finds (walkThis around reference keyword) True := by
  unfold walkThis
  split
  · exact report keyword _
  · exact relate reference keyword.name

theorem super (around : Surroundings) (reference : Reference) (keyword : Identifier) :
    Finds (walkSuper around reference keyword) True := by
  have reported (problem : ScopeProblem) : Finds (Scope.report keyword problem) True :=
    report keyword problem
  have unchanged : Finds (pure ()) True := silent fun _ => rfl
  unfold walkSuper
  cases around.enclosingClass with
  | none => exact ((reported _).bind (relate reference keyword.name)).imp And.right
  | withoutSuperclass => exact ((reported _).bind (relate reference keyword.name)).imp And.right
  | withSuperclass => exact (unchanged.bind (relate reference keyword.name)).imp And.right

theorem superclass (name : Identifier) (superclass : Expression) :
    Finds (checkSuperclass name superclass) True := by
  cases superclass with
  | read reference other => exact (check other .ownSuperclass).imp fun _ => trivial
  | _ => exact silent fun _ => rfl

end Finds

end Scope

/-! ### Nodes -/

mutual

theorem walkExpression_contained : (expression : Expression) → (around : Surroundings) →
    Finds (walkExpression around expression) expression.Contained
  | .literal _, _ => .silent fun _ => rfl
  | .grouping inner, around => walkExpression_contained inner around
  | .unary _ _ operand, around => walkExpression_contained operand around
  | .binary _ _ left right, around =>
    (walkExpression_contained left around).bind (walkExpression_contained right around)
  | .logical _ left right, around =>
    (walkExpression_contained left around).bind (walkExpression_contained right around)
  | .read reference name, _ => .read reference name
  | .assign reference name value, around =>
    ((walkExpression_contained value around).bind (.relate reference name.name)).imp And.left
  | .call callee _ arguments, around =>
    (walkExpression_contained callee around).bind (walkExpressions_contained arguments around)
  | .function declaration, around => walkFunction_contained declaration around .function
  | .get object _, around => walkExpression_contained object around
  | .set object _ value, around =>
    ((walkExpression_contained value around).bind (walkExpression_contained object around)).imp
      And.symm
  | .this reference keyword, around => .this around reference keyword
  | .super reference keyword _, around => .super around reference keyword

theorem walkExpressions_contained : (expressions : List Expression) → (around : Surroundings) →
    Finds (walkExpressions around expressions) (Expression.AllContained expressions)
  | [], _ => .silent fun _ => rfl
  | expression :: others, around =>
    (walkExpression_contained expression around).bind (walkExpressions_contained others around)

theorem walkFunction_contained : (declaration : FunctionDeclaration) → (around : Surroundings) →
    (kind : FunctionKind) →
    Finds (walkFunction around kind declaration) (declaration.Contained kind)
  | .mk _ parameters body, around, kind =>
    .inNewScope (((Finds.parameters parameters).bind (walkStatements_contained body
      { around with function := kind, loops := 0 })).imp And.right)

theorem walkMethods_contained : (methods : List FunctionDeclaration) → (around : Surroundings) →
    Finds (walkMethods around methods) (FunctionDeclaration.AllContained methods)
  | [], _ => .silent fun _ => rfl
  | method :: others, around =>
    (walkFunction_contained method around (methodKind method)).bind
      (walkMethods_contained others around)

theorem walkStatement_contained : (statement : Statement) → (around : Surroundings) →
    Finds (walkStatement around statement) (statement.Contained around.function around.inLoop)
  | .expression expression, around => walkExpression_contained expression around
  | .print expression, around => walkExpression_contained expression around
  | .declareVariable name none, _ =>
    ((Finds.declare name).bind (.define name.name)).imp fun _ => trivial
  | .declareVariable name (some initializer), around =>
    ((Finds.declare name).bind ((walkExpression_contained initializer around).bind
      (.define name.name))).imp fun found => found.2.1
  | .block statements, around => .inNewScope (walkStatements_contained statements around)
  | .conditional condition thenBranch none, around =>
    (walkExpression_contained condition around).bind (walkStatement_contained thenBranch around)
  | .conditional condition thenBranch (some elseBranch), around =>
    (walkExpression_contained condition around).bind
      ((walkStatement_contained thenBranch around).bind (walkStatement_contained elseBranch around))
  | .loop condition body none, around =>
    (walkExpression_contained condition around).bind
      (walkStatement_contained body { around with loops := around.loops + 1 })
  | .loop condition body (some increment), around =>
    (walkExpression_contained condition around).bind
      ((walkStatement_contained body { around with loops := around.loops + 1 }).bind
        (walkStatement_contained increment { around with loops := around.loops + 1 }))
  | .control control keyword, _ =>
    (Finds.check keyword (.outsideLoop control)).imp fun looped => bne_iff_ne.mpr looped
  | .declareFunction (.mk none parameters body), around =>
    walkFunction_contained (.mk none parameters body) around .function
  | .declareFunction (.mk (some name) parameters body), around =>
    ((Finds.declare name).bind ((Finds.define name.name).bind
      (walkFunction_contained (.mk (some name) parameters body) around .function))).imp
        fun found => found.2.2
  | .giveBack keyword none, _ => .check keyword .outsideFunction
  | .giveBack keyword (some value), around =>
    (Finds.check keyword .outsideFunction).bind
      ((Finds.check keyword .valueFromInitializer).bind (walkExpression_contained value around))
  | .declareClass name none methods, around =>
    ((Finds.declare name).bind ((Finds.define name.name).bind
      (.inNewScope ((Finds.define "this").bind (walkMethods_contained methods
        { around with enclosingClass := .withoutSuperclass }))))).imp fun found => found.2.2.2
  | .declareClass name (some superclass) methods, around =>
    ((Finds.declare name).bind ((Finds.define name.name).bind
      ((Finds.superclass name superclass).bind
        ((walkExpression_contained superclass { around with enclosingClass := .withSuperclass }).bind
          (.inNewScope ((Finds.define "super").bind
            (.inNewScope ((Finds.define "this").bind (walkMethods_contained methods
              { around with enclosingClass := .withSuperclass }))))))))).imp
      fun found => ⟨found.2.2.2.1, found.2.2.2.2.2.2⟩

theorem walkStatements_contained : (statements : List Statement) → (around : Surroundings) →
    Finds (walkStatements around statements)
      (Statement.AllContained around.function around.inLoop statements)
  | [], _ => .silent fun _ => rfl
  | statement :: others, around =>
    (walkStatement_contained statement around).bind (walkStatements_contained others around)

end

/-! ### Programs -/

namespace Scope

theorem Finds.of_outcome {walk : Walk Unit} {holds : Prop} {distances : Distances}
    (finds : Finds walk holds) (accepted : outcome walk = .ok distances) : holds := by
  unfold outcome at accepted
  dsimp only at accepted
  split at accepted
  · rename_i noError
    exact (finds State.start).2 noError
  · exact nomatch accepted

/-- No signal leaves a program that is accepted. -/
theorem resolveProgram_contained {statements : List Statement} {distances : Distances}
    (accepted : resolveProgram statements = .ok distances) :
    Statement.AllContained .none false statements :=
  (walkStatements_contained statements .topLevel).of_outcome accepted

/-- And every function in a lone expression contains its signals. -/
theorem resolveExpression_contained {expression : Expression} {distances : Distances}
    (accepted : resolveExpression expression = .ok distances) : expression.Contained :=
  (walkExpression_contained expression .topLevel).of_outcome accepted

end Scope

end Lox
