/-
A walk through a tree records distances of the references of the tree and of no others, whatever the
tree and the state from which the walk starts.
-/

import Lox.Proofs.Scope.Walk

namespace Lox

open Scope

namespace Scope

/-- The walk leaves what was recorded of every reference that is not among these. -/
def Records (walk : Walk Unit) (references : List Reference) : Prop :=
  ∀ before, ∀ reference, reference ∉ references →
    (walk before).2.distances[reference]? = before.distances[reference]?

namespace Records

variable {walk next : Walk Unit} {references first second : List Reference}

theorem bind (start : Records walk first) (rest : Records next second) :
    Records (walk >>= fun _ => next) (first ++ second) := by
  intro before reference absent
  rw [List.mem_append, not_or] at absent
  exact (rest _ reference absent.2).trans (start before reference absent.1)

/-- The references may be listed in another order. -/
theorem perm (records : Records walk first) (same : first.Perm second) : Records walk second :=
  fun before reference absent => records before reference (mt same.mem_iff.mp absent)

/-- What goes on after a walk that records nothing. -/
theorem after {silent : Walk Unit} (records : Records silent []) (rest : Records next second) :
    Records (silent >>= fun _ => next) second :=
  records.bind rest

/-- A walk behind which nothing is recorded. -/
theorem before {silent : Walk Unit} (start : Records walk first) (records : Records silent []) :
    Records (walk >>= fun _ => silent) first :=
  (start.bind records).perm (by rw [List.append_nil])

/-- A walk that leaves the distances alone. -/
theorem silent (same : ∀ before, (walk before).2.distances = before.distances) :
    Records walk references :=
  fun before reference _ => congrArg (·[reference]?) (same before)

theorem pure : Records (Pure.pure ()) [] :=
  silent fun _ => rfl

theorem report (place : Identifier) (problem : ScopeProblem) :
    Records (report place problem) references :=
  silent fun _ => rfl

/-- A check reports or does nothing. -/
theorem check {condition : Prop} [Decidable condition] (place : Identifier)
    (problem : ScopeProblem) :
    Records (if condition then Scope.report place problem else return) [] := by
  split
  · exact report place problem
  · exact pure

theorem define (name : String) : Records (define name) [] := by
  refine silent fun ⟨scopes, distances, errors⟩ => ?_
  cases scopes <;> rfl

theorem declare (name : Identifier) : Records (declare name) [] := by
  refine silent fun ⟨scopes, distances, errors⟩ => ?_
  cases scopes with
  | nil => rfl
  | cons innermost others =>
    show ((if innermost.contains name.name then Scope.report name .alreadyDeclared
      else changeInnermost fun names => names.write name.name false : Walk Unit) _).2.distances = _
    split <;> rfl

theorem relate (reference : Reference) (name : String) :
    Records (relate reference name) [reference] := by
  intro before other absent
  have different : reference ≠ other := fun same => absent (same ▸ List.mem_cons_self)
  cases nearest : distance? before.scopes name with
  | none => rw [Walks.relate_absent reference nearest]
  | some distance =>
    rw [Walks.relate_found reference nearest]
    simp [Std.TreeMap.getElem?_insert, different]

theorem inNewScope (records : Records walk references) : Records (inNewScope walk) references :=
  fun before => records { before with scopes := .empty :: before.scopes }

theorem checkRead (name : Identifier) : Records (checkRead name) [] := by
  intro before reference absent
  have checked : Records (if isUndefinedHere name.name before
      then Scope.report name .ownInitializer else return) [] := check name .ownInitializer
  exact checked before reference absent

theorem this (around : Surroundings) (reference : Reference) (keyword : Identifier) :
    Records (walkThis around reference keyword) [reference] := by
  unfold walkThis
  split
  · exact report keyword _
  · exact relate reference keyword.name

theorem super (around : Surroundings) (reference : Reference) (keyword : Identifier) :
    Records (walkSuper around reference keyword) [reference] := by
  unfold walkSuper
  cases around.enclosingClass with
  | none | withoutSuperclass => exact (report keyword _).after (relate reference keyword.name)
  | withSuperclass => exact pure.after (relate reference keyword.name)

theorem superclass (name : Identifier) (superclass : Expression) :
    Records (checkSuperclass name superclass) [] := by
  cases superclass with
  | read _ other => exact check other _
  | _ => exact pure

theorem parameters (parameters : List Identifier) : Records (walkParameters parameters) [] := by
  induction parameters with
  | nil => exact pure
  | cons parameter others inductionHypothesis =>
    exact (declare parameter).after ((define parameter.name).after inductionHypothesis)

end Records

end Scope

/-! ### Nodes -/

mutual

/-- A walk through an expression records only about its references. -/
theorem walkExpression_records : (expression : Expression) → (around : Surroundings) →
    Records (walkExpression around expression) expression.references
  | .literal _, _ => .pure
  | .grouping inner, around => walkExpression_records inner around
  | .unary _ _ operand, around => walkExpression_records operand around
  | .binary _ _ left right, around =>
    (walkExpression_records left around).bind (walkExpression_records right around)
  | .logical _ left right, around =>
    (walkExpression_records left around).bind (walkExpression_records right around)
  | .read reference name, _ => (Records.checkRead name).after (.relate reference name.name)
  | .assign reference name value, around =>
    (walkExpression_records value around).bind (.relate reference name.name)
  | .call callee _ arguments, around =>
    (walkExpression_records callee around).bind (walkExpressions_records arguments around)
  | .function declaration, around => walkFunction_records declaration around .function
  | .get object _, around => walkExpression_records object around
  | .set object _ value, around =>
    ((walkExpression_records value around).bind (walkExpression_records object around)).perm
      List.perm_append_comm
  | .this reference keyword, around => .this around reference keyword
  | .super reference keyword _, around => .super around reference keyword

theorem walkExpressions_records : (expressions : List Expression) → (around : Surroundings) →
    Records (walkExpressions around expressions) (Expression.allReferences expressions)
  | [], _ => .pure
  | expression :: others, around =>
    (walkExpression_records expression around).bind (walkExpressions_records others around)

theorem walkFunction_records : (declaration : FunctionDeclaration) → (around : Surroundings) →
    (kind : FunctionKind) →
    Records (walkFunction around kind declaration) declaration.references
  | .mk _ parameters body, around, kind =>
    .inNewScope ((Records.parameters parameters).after
      (walkStatements_records body { around with function := kind, loops := 0 }))

theorem walkMethods_records : (methods : List FunctionDeclaration) → (around : Surroundings) →
    Records (walkMethods around methods) (FunctionDeclaration.allReferences methods)
  | [], _ => .pure
  | method :: others, around =>
    (walkFunction_records method around (methodKind method)).bind
      (walkMethods_records others around)

/-- A walk through a statement records only about its references. -/
theorem walkStatement_records : (statement : Statement) → (around : Surroundings) →
    Records (walkStatement around statement) statement.references
  | .expression expression, around => walkExpression_records expression around
  | .print expression, around => walkExpression_records expression around
  | .declareVariable name none, _ => (Records.declare name).after (.define name.name)
  | .declareVariable name (some initializer), around =>
    (Records.declare name).after
      ((walkExpression_records initializer around).before (.define name.name))
  | .block statements, around => .inNewScope (walkStatements_records statements around)
  | .conditional condition thenBranch none, around =>
    (walkExpression_records condition around).bind (walkStatement_records thenBranch around)
  | .conditional condition thenBranch (some elseBranch), around =>
    (walkExpression_records condition around).bind
      ((walkStatement_records thenBranch around).bind (walkStatement_records elseBranch around))
  | .loop condition body none, around =>
    (walkExpression_records condition around).bind
      (walkStatement_records body { around with loops := around.loops + 1 })
  | .loop condition body (some increment), around =>
    (walkExpression_records condition around).bind
      ((walkStatement_records body { around with loops := around.loops + 1 }).bind
        (walkStatement_records increment { around with loops := around.loops + 1 }))
  | .control control keyword, _ => .check keyword (.outsideLoop control)
  | .declareFunction (.mk none parameters body), around =>
    walkFunction_records (.mk none parameters body) around .function
  | .declareFunction (.mk (some name) parameters body), around =>
    (Records.declare name).after ((Records.define name.name).after
      (walkFunction_records (.mk (some name) parameters body) around .function))
  | .giveBack keyword none, _ => .check keyword .outsideFunction
  | .giveBack keyword (some value), around =>
    (Records.check keyword .outsideFunction).after
      ((Records.check keyword .valueFromInitializer).after (walkExpression_records value around))
  | .declareClass name none methods, around =>
    (Records.declare name).after ((Records.define name.name).after
      (.inNewScope ((Records.define "this").after
        (walkMethods_records methods { around with enclosingClass := .withoutSuperclass }))))
  | .declareClass name (some superclass) methods, around =>
    (Records.declare name).after ((Records.define name.name).after
      ((Records.superclass name superclass).after
        ((walkExpression_records superclass { around with enclosingClass := .withSuperclass }).bind
          (.inNewScope ((Records.define "super").after
            (.inNewScope ((Records.define "this").after
              (walkMethods_records methods
                { around with enclosingClass := .withSuperclass }))))))))

theorem walkStatements_records : (statements : List Statement) → (around : Surroundings) →
    Records (walkStatements around statements) (Statement.allReferences statements)
  | [], _ => .pure
  | statement :: others, around =>
    (walkStatement_records statement around).bind (walkStatements_records others around)

end

/-! ### Tables -/

namespace Scope

theorem Records.of_outcome {walk : Walk Unit} {references : List Reference} {distances : Distances}
    (records : Records walk references) (accepted : outcome walk = .ok distances)
    {reference : Reference} (absent : reference ∉ references) : distances[reference]? = none := by
  have unrecorded := records State.start reference absent
  unfold outcome at accepted
  dsimp only at accepted
  split at accepted
  · cases accepted
    exact unrecorded.trans Std.TreeMap.getElem?_emptyc
  · exact nomatch accepted

end Scope

end Lox
