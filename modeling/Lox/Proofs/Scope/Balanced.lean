/-
Walks are balanced. A walk through a part of a tree, from whatever state, ends in as many scopes as
it began in and with the same around it. It changes the innermost scope only by the names that the
part declares there, records distances only of the part's own occurrences and each within the scopes
open at the occurrence, and adds errors only behind those that were there.
-/

import Lox.Grammar.Program
import Lox.Proofs.Scope.Accepted
import Lox.Proofs.Scope.Registers

namespace Lox

open Scope

/-! ### Names that a part of a tree declares -/

/-- The names that a statement declares in the scope in which it stands. Blocks and functions have
scopes of their own; branches and the bodies of loops have not. -/
def Statement.declares : Statement → List String
  | .declareVariable name _ => [name.name]
  | .declareFunction declaration => (declaration.name.map Identifier.name).toList
  | .declareClass name _ _ => [name.name]
  | .conditional _ thenBranch none => thenBranch.declares
  | .conditional _ thenBranch (some elseBranch) => thenBranch.declares ++ elseBranch.declares
  | .loop _ body none => body.declares
  | .loop _ body (some increment) => body.declares ++ increment.declares
  | .expression _ => []
  | .print _ => []
  | .block _ => []
  | .control _ _ => []
  | .giveBack _ _ => []

/-- In a tree that is read from tokens no branch is a declaration, so that a statement declares a
name itself or not at all. -/
theorem Statement.declares_eq {words : Vocabulary} : (statement : Statement) →
    statement.Shaped words → statement.declares = statement.declared?.toList
  | .declareVariable _ _, _ => rfl
  | .declareFunction _, _ => rfl
  | .declareClass _ _ _, _ => rfl
  | .conditional _ thenBranch none, shaped => by
    rw [Statement.declares, Statement.declares_eq thenBranch shaped.2.2,
      declared?_of_not_isDeclaration shaped.2.1]
    rfl
  | .conditional _ thenBranch (some elseBranch), shaped => by
    rw [Statement.declares, Statement.declares_eq thenBranch shaped.2.2.1,
      Statement.declares_eq elseBranch shaped.2.2.2.2,
      declared?_of_not_isDeclaration shaped.2.1, declared?_of_not_isDeclaration shaped.2.2.2.1]
    rfl
  | .loop _ body none, shaped => by
    rw [Statement.declares, Statement.declares_eq body shaped.2.2,
      declared?_of_not_isDeclaration shaped.2.1]
    rfl
  | .loop _ body (some increment), shaped => by
    rw [Statement.declares, Statement.declares_eq body shaped.2.2.1,
      Statement.declares_eq increment shaped.2.2.2.2,
      declared?_of_not_isDeclaration shaped.2.1, shaped.2.2.2.1.declared?]
    rfl
  | .expression _, _ => rfl
  | .print _, _ => rfl
  | .block _, _ => rfl
  | .control _ _, _ => rfl
  | .giveBack _ _, _ => rfl

/-! ### Scopes that are open at an occurrence -/

mutual

/-- The references of an expression, each with the number of scopes that are open at it if so many
are open around the expression. -/
def Expression.openings (around : Nat) : Expression → List (Reference × Nat)
  | .literal _ => []
  | .grouping inner => inner.openings around
  | .unary _ _ operand => operand.openings around
  | .binary _ _ left right => left.openings around ++ right.openings around
  | .logical _ left right => left.openings around ++ right.openings around
  | .read reference _ => [(reference, around)]
  | .assign reference _ value => value.openings around ++ [(reference, around)]
  | .call callee _ arguments => callee.openings around ++ Expression.allOpenings around arguments
  | .function declaration => declaration.openings around
  | .get object _ => object.openings around
  | .set object _ value => object.openings around ++ value.openings around
  | .this reference _ => [(reference, around)]
  | .super reference _ _ => [(reference, around)]

/-- The references of some expressions. -/
def Expression.allOpenings (around : Nat) : List Expression → List (Reference × Nat)
  | [] => []
  | expression :: others => expression.openings around ++ Expression.allOpenings around others

/-- The references of a function, which opens one scope. -/
def FunctionDeclaration.openings (around : Nat) : FunctionDeclaration → List (Reference × Nat)
  | .mk _ _ body => Statement.allOpenings (around + 1) body

/-- The references of some functions. -/
def FunctionDeclaration.allOpenings (around : Nat) :
    List FunctionDeclaration → List (Reference × Nat)
  | [] => []
  | method :: others => method.openings around ++ FunctionDeclaration.allOpenings around others

/-- The references of a statement. A block opens one scope; a class opens one for `this`, and one
for `super` outside it if it has a superclass. -/
def Statement.openings (around : Nat) : Statement → List (Reference × Nat)
  | .expression expression => expression.openings around
  | .print expression => expression.openings around
  | .declareVariable _ none => []
  | .declareVariable _ (some initializer) => initializer.openings around
  | .block statements => Statement.allOpenings (around + 1) statements
  | .conditional condition thenBranch none =>
    condition.openings around ++ thenBranch.openings around
  | .conditional condition thenBranch (some elseBranch) =>
    condition.openings around ++ (thenBranch.openings around ++ elseBranch.openings around)
  | .loop condition body none => condition.openings around ++ body.openings around
  | .loop condition body (some increment) =>
    condition.openings around ++ (body.openings around ++ increment.openings around)
  | .control _ _ => []
  | .declareFunction declaration => declaration.openings around
  | .giveBack _ none => []
  | .giveBack _ (some value) => value.openings around
  | .declareClass _ none methods => FunctionDeclaration.allOpenings (around + 1) methods
  | .declareClass _ (some superclass) methods =>
    superclass.openings around ++ FunctionDeclaration.allOpenings (around + 1 + 1) methods

/-- The references of some statements. -/
def Statement.allOpenings (around : Nat) : List Statement → List (Reference × Nat)
  | [] => []
  | statement :: others => statement.openings around ++ Statement.allOpenings around others

end

mutual

/-- However many scopes are open around an expression, its references are these. -/
theorem Expression.openings_references (around : Nat) : (expression : Expression) →
    (expression.openings around).map Prod.fst = expression.references
  | .literal _ => rfl
  | .grouping inner => Expression.openings_references around inner
  | .unary _ _ operand => Expression.openings_references around operand
  | .binary _ _ left right => by
    rw [Expression.openings, List.map_append, Expression.openings_references around left,
      Expression.openings_references around right, Expression.references]
  | .logical _ left right => by
    rw [Expression.openings, List.map_append, Expression.openings_references around left,
      Expression.openings_references around right, Expression.references]
  | .read _ _ => rfl
  | .assign _ _ value => by
    rw [Expression.openings, List.map_append, Expression.openings_references around value,
      Expression.references]
    rfl
  | .call callee _ arguments => by
    rw [Expression.openings, List.map_append, Expression.openings_references around callee,
      Expression.allOpenings_references around arguments, Expression.references]
  | .function declaration => FunctionDeclaration.openings_references around declaration
  | .get object _ => Expression.openings_references around object
  | .set object _ value => by
    rw [Expression.openings, List.map_append, Expression.openings_references around object,
      Expression.openings_references around value, Expression.references]
  | .this _ _ => rfl
  | .super _ _ _ => rfl

theorem Expression.allOpenings_references (around : Nat) : (expressions : List Expression) →
    (Expression.allOpenings around expressions).map Prod.fst =
      Expression.allReferences expressions
  | [] => rfl
  | expression :: others => by
    rw [Expression.allOpenings, List.map_append, Expression.openings_references around expression,
      Expression.allOpenings_references around others, Expression.allReferences]

theorem FunctionDeclaration.openings_references (around : Nat) :
    (declaration : FunctionDeclaration) →
    (declaration.openings around).map Prod.fst = declaration.references
  | .mk _ _ body => Statement.allOpenings_references (around + 1) body

theorem FunctionDeclaration.allOpenings_references (around : Nat) :
    (methods : List FunctionDeclaration) →
    (FunctionDeclaration.allOpenings around methods).map Prod.fst =
      FunctionDeclaration.allReferences methods
  | [] => rfl
  | method :: others => by
    rw [FunctionDeclaration.allOpenings, List.map_append,
      FunctionDeclaration.openings_references around method,
      FunctionDeclaration.allOpenings_references around others,
      FunctionDeclaration.allReferences]

/-- However many scopes are open around a statement, its references are these. -/
theorem Statement.openings_references (around : Nat) : (statement : Statement) →
    (statement.openings around).map Prod.fst = statement.references
  | .expression expression => Expression.openings_references around expression
  | .print expression => Expression.openings_references around expression
  | .declareVariable _ none => rfl
  | .declareVariable _ (some initializer) => Expression.openings_references around initializer
  | .block statements => Statement.allOpenings_references (around + 1) statements
  | .conditional condition thenBranch none => by
    rw [Statement.openings, List.map_append, Expression.openings_references around condition,
      Statement.openings_references around thenBranch, Statement.references]
  | .conditional condition thenBranch (some elseBranch) => by
    rw [Statement.openings, List.map_append, List.map_append,
      Expression.openings_references around condition,
      Statement.openings_references around thenBranch,
      Statement.openings_references around elseBranch, Statement.references]
  | .loop condition body none => by
    rw [Statement.openings, List.map_append, Expression.openings_references around condition,
      Statement.openings_references around body, Statement.references]
  | .loop condition body (some increment) => by
    rw [Statement.openings, List.map_append, List.map_append,
      Expression.openings_references around condition, Statement.openings_references around body,
      Statement.openings_references around increment, Statement.references]
  | .control _ _ => rfl
  | .declareFunction declaration => FunctionDeclaration.openings_references around declaration
  | .giveBack _ none => rfl
  | .giveBack _ (some value) => Expression.openings_references around value
  | .declareClass _ none methods => FunctionDeclaration.allOpenings_references (around + 1) methods
  | .declareClass _ (some superclass) methods => by
    rw [Statement.openings, List.map_append, Expression.openings_references around superclass,
      FunctionDeclaration.allOpenings_references (around + 1 + 1) methods, Statement.references]

theorem Statement.allOpenings_references (around : Nat) : (statements : List Statement) →
    (Statement.allOpenings around statements).map Prod.fst = Statement.allReferences statements
  | [] => rfl
  | statement :: others => by
    rw [Statement.allOpenings, List.map_append, Statement.openings_references around statement,
      Statement.allOpenings_references around others, Statement.allReferences]

end

/-- A function in the method of a class with a superclass stands in four scopes. -/
example :
    (Grammar.parseProgram (Source.scan
      "class B < A \x7b m(x) \x7b fun f() \x7b return super.m(x); \x7d \x7d \x7d").1 0).1.map
        (Statement.allOpenings 0) = .ok [(0, 0), (1, 4), (2, 4)] := rfl

/-! ### Balance -/

namespace Scope

/-- What the innermost scope says of a name: if it is there, whether it is defined. -/
def innermost? (scopes : List Names) (name : String) : Option Bool :=
  scopes.head?.bind fun names => names.get? name

/-- Between two states only these names are declared, only distances of these references are
recorded, which are open in that many scopes, and errors are only added. -/
structure Balanced (declared : List String) (openings : List (Reference × Nat))
    (before after : State) : Prop where
  count : after.scopes.length = before.scopes.length
  outer : after.scopes.tail = before.scopes.tail
  innermost : ∀ name, innermost? after.scopes name =
    if before.scopes ≠ [] ∧ name ∈ declared then some true else innermost? before.scopes name
  distances : ∀ reference, after.distances[reference]? = before.distances[reference]? ∨
    ∃ opened distance, (reference, opened) ∈ openings ∧ distance < opened ∧
      after.distances[reference]? = some distance
  errors : before.errors <+: after.errors

namespace Balanced

variable {declared declaredNext : List String} {openings openingsNext : List (Reference × Nat)}
  {before middle after : State}

theorem refl (openings : List (Reference × Nat)) (state : State) :
    Balanced [] openings state state where
  count := rfl
  outer := rfl
  innermost _ := (if_neg fun found => absurd found.2 List.not_mem_nil).symm
  distances _ := .inl rfl
  errors := List.prefix_refl _

theorem trans (start : Balanced declared openings before middle)
    (rest : Balanced declaredNext openingsNext middle after) :
    Balanced (declared ++ declaredNext) (openings ++ openingsNext) before after where
  count := rest.count.trans start.count
  outer := rest.outer.trans start.outer
  innermost name := by
    have anyScope : middle.scopes ≠ [] ↔ before.scopes ≠ [] := by
      rw [← List.length_pos_iff, ← List.length_pos_iff, start.count]
    simp only [rest.innermost, start.innermost, anyScope, List.mem_append]
    by_cases global : before.scopes = [] <;> by_cases inNext : name ∈ declaredNext <;>
      simp [global, inNext]
  distances reference := by
    rcases rest.distances reference with same | ⟨opened, distance, member, inside, found⟩
    · rcases start.distances reference with sameBefore | ⟨opened, distance, member, inside, found⟩
      · exact .inl (same.trans sameBefore)
      · exact .inr ⟨opened, distance, List.mem_append_left _ member, inside, same.trans found⟩
    · exact .inr ⟨opened, distance, List.mem_append_right _ member, inside, found⟩
  errors := start.errors.trans rest.errors

/-- The references may be listed in another order. -/
theorem perm (balanced : Balanced declared openings before after)
    (same : openings.Perm openingsNext) : Balanced declared openingsNext before after :=
  { balanced with
    distances := fun reference => (balanced.distances reference).imp_right
      fun ⟨opened, distance, member, inside, found⟩ =>
        ⟨opened, distance, same.mem_iff.mp member, inside, found⟩ }

end Balanced

/-- From every state a walk ends balanced. -/
def Balances (walk : Walk Unit) (declared : List String)
    (openings : Nat → List (Reference × Nat)) : Prop :=
  ∀ before, Balanced declared (openings before.scopes.length) before (walk before).2

/-! ### Entering names -/

theorem length_enter (name : String) (isDefined : Bool) (scopes : List Names) :
    (enter name isDefined scopes).length = scopes.length := by
  cases scopes <;> rfl

theorem tail_enter (name : String) (isDefined : Bool) (scopes : List Names) :
    (enter name isDefined scopes).tail = scopes.tail := by
  cases scopes <;> rfl

theorem innermost?_enter (name other : String) (isDefined : Bool) (scopes : List Names) :
    innermost? (enter name isDefined scopes) other =
      if scopes ≠ [] ∧ other = name then some isDefined else innermost? scopes other := by
  cases scopes with
  | nil => rfl
  | cons innermost others => simp [enter, innermost?, Bindings.get?_write]

/-- A name that is declared is pending, unless it is there already. -/
theorem declaredIn_eq (name : String) (scopes : List Names) :
    declaredIn name scopes = scopes ∨ declaredIn name scopes = enter name false scopes := by
  cases scopes with
  | nil => exact .inl rfl
  | cons innermost others =>
    rw [declaredIn]
    split
    · exact .inl rfl
    · exact .inr rfl

theorem length_declaredIn (name : String) (scopes : List Names) :
    (declaredIn name scopes).length = scopes.length := by
  rcases declaredIn_eq name scopes with same | entered
  · rw [same]
  · rw [entered, length_enter]

theorem tail_declaredIn (name : String) (scopes : List Names) :
    (declaredIn name scopes).tail = scopes.tail := by
  rcases declaredIn_eq name scopes with same | entered
  · rw [same]
  · rw [entered, tail_enter]

/-- Declaring a name says nothing of the others. -/
theorem innermost?_declaredIn {name other : String} (different : other ≠ name)
    (scopes : List Names) :
    innermost? (declaredIn name scopes) other = innermost? scopes other := by
  rcases declaredIn_eq name scopes with same | entered
  · rw [same]
  · rw [entered, innermost?_enter, if_neg fun found => different found.2]

/-- The distance to a scope is less than the number of scopes. -/
theorem distance?_lt {scopes : List Names} {name : String} {distance : Nat}
    (nearest : distance? scopes name = some distance) : distance < scopes.length :=
  (List.findIdx?_eq_some_iff_findIdx_eq.mp nearest).1

namespace Balances

variable {walk next : Walk Unit} {declared declaredNext : List String}
  {openings openingsNext : Nat → List (Reference × Nat)}

theorem bind (start : Balances walk declared openings)
    (rest : Balances next declaredNext openingsNext) :
    Balances (walk >>= fun _ => next) (declared ++ declaredNext)
      fun around => openings around ++ openingsNext around := by
  intro before
  have begun := start before
  have ended := rest (walk before).2
  rw [begun.count] at ended
  exact begun.trans ended

/-- The references may be listed in another order. -/
theorem perm (balances : Balances walk declared openings)
    (same : ∀ around, (openings around).Perm (openingsNext around)) :
    Balances walk declared openingsNext :=
  fun before => (balances before).perm (same _)

theorem pure : Balances (Pure.pure ()) [] fun _ => [] :=
  fun before => .refl _ before

theorem report (place : Identifier) (problem : ScopeProblem) :
    Balances (report place problem) [] fun _ => [] :=
  fun before => { Balanced.refl _ before with errors := List.prefix_append _ _ }

/-- A check reports or does nothing. -/
theorem check {condition : Prop} [Decidable condition] (place : Identifier)
    (problem : ScopeProblem) :
    Balances (if condition then Scope.report place problem else return) [] fun _ => [] := by
  split
  · exact report place problem
  · exact pure

/-- What goes on after a walk that declares and relates nothing. -/
theorem after {silent : Walk Unit} (start : Balances silent [] fun _ => [])
    (rest : Balances next declared openings) :
    Balances (silent >>= fun _ => next) declared openings :=
  start.bind rest

theorem relate (reference : Reference) (name : String) :
    Balances (relate reference name) [] fun around => [(reference, around)] := by
  intro before
  cases nearest : distance? before.scopes name with
  | none =>
    rw [Walks.relate_absent reference nearest]
    exact .refl _ before
  | some distance =>
    rw [Walks.relate_found reference nearest]
    refine { Balanced.refl [] before with distances := fun other => ?_ }
    by_cases same : other = reference
    · subst same
      exact .inr ⟨_, distance, List.mem_singleton_self _, distance?_lt nearest, by simp⟩
    · exact .inl (by simp [Std.TreeMap.getElem?_insert, Ne.symm same])

/-- A scope that is opened is closed again, with everything that was declared in it. -/
theorem inNewScope (inside : Balances walk declared openings) :
    Balances (inNewScope walk) [] fun around => openings (around + 1) := by
  intro before
  have balanced := inside { before with scopes := .empty :: before.scopes }
  have closed : (Scope.inNewScope walk before).2.scopes = before.scopes := balanced.outer
  exact {
    count := congrArg List.length closed
    outer := congrArg List.tail closed
    innermost := fun name => by
      rw [closed, if_neg fun found => absurd found.2 List.not_mem_nil]
    distances := balanced.distances
    errors := balanced.errors }

theorem define (name : String) : Balances (define name) [name] fun _ => [] := by
  intro before
  have defined : Walks (Scope.define name) [] before (enter name true before.scopes) _ :=
    Walks.define name
  exact {
    count := by rw [defined.scopes, length_enter]
    outer := by rw [defined.scopes, tail_enter]
    innermost := fun other => by simp only [defined.scopes, innermost?_enter, List.mem_singleton]
    distances := fun reference => .inl (defined.walked.records reference List.not_mem_nil)
    errors := defined.walked.errors }

/-- A name that is declared before a walk and defined behind it. -/
theorem whilePending (name : Identifier) (inside : Balances walk [] openings) :
    Balances (do declare name; walk; Scope.define name.name) [name.name] openings := by
  intro before
  have opened : Walks (declare name) [] before (declaredIn name.name before.scopes) _ :=
    Walks.declare name
  have walked := inside (declare name before).2
  have closed : Balanced [name.name] [] _ _ := define name.name (walk (declare name before).2).2
  have count : (declare name before).2.scopes.length = before.scopes.length := by
    rw [opened.scopes, length_declaredIn]
  rw [count] at walked
  have anyScope : (walk (declare name before).2).2.scopes ≠ [] ↔ before.scopes ≠ [] := by
    rw [← List.length_pos_iff, ← List.length_pos_iff, walked.count, count]
  refine {
    count := closed.count.trans (walked.count.trans count)
    outer := closed.outer.trans (walked.outer.trans ?_)
    innermost := fun other => (closed.innermost other).trans ?_
    distances := fun reference => ?_
    errors := opened.walked.errors.trans (walked.errors.trans closed.errors) }
  · rw [opened.scopes, tail_declaredIn]
  · simp only [anyScope, walked.innermost, List.not_mem_nil, and_false, if_false]
    by_cases global : before.scopes = []
    · rw [opened.scopes, global]
      rfl
    · by_cases same : other = name.name
      · simp [global, same]
      · simp [same, opened.scopes, innermost?_declaredIn same]
  · have recorded := opened.walked.records reference List.not_mem_nil
    rcases closed.distances reference with same | ⟨_, _, member, _⟩
    · rcases walked.distances reference with sameInside | ⟨opened, distance, member, less, found⟩
      · exact .inl (same.trans (sameInside.trans recorded))
      · exact .inr ⟨opened, distance, member, less, same.trans found⟩
    · exact absurd member List.not_mem_nil

/-- A name that is declared and defined at once. -/
theorem introduce (name : Identifier) :
    Balances (do declare name; Scope.define name.name) [name.name] fun _ => [] :=
  whilePending name pure

/-- A name that is known in a walk. -/
theorem introducing (name : Identifier) (inside : Balances walk [] openings) :
    Balances (do declare name; Scope.define name.name; walk) [name.name] openings :=
  (introduce name).bind inside

theorem checkRead (name : Identifier) : Balances (checkRead name) [] fun _ => [] := by
  intro before
  have checked : Balances (if isUndefinedHere name.name before
      then Scope.report name .ownInitializer else return) [] fun _ => [] := check name _
  exact checked before

theorem this (around : Surroundings) (reference : Reference) (keyword : Identifier) :
    Balances (walkThis around reference keyword) [] fun opened => [(reference, opened)] := by
  unfold walkThis
  split
  · exact fun before =>
      { report keyword .thisOutsideClass before with distances := fun _ => .inl rfl }
  · exact relate reference keyword.name

theorem super (around : Surroundings) (reference : Reference) (keyword : Identifier) :
    Balances (walkSuper around reference keyword) [] fun opened => [(reference, opened)] := by
  unfold walkSuper
  cases around.enclosingClass with
  | none | withoutSuperclass => exact (report keyword _).after (relate reference keyword.name)
  | withSuperclass => exact pure.after (relate reference keyword.name)

theorem superclass (name : Identifier) (superclass : Expression) :
    Balances (checkSuperclass name superclass) [] fun _ => [] := by
  cases superclass with
  | read _ other => exact check other _
  | _ => exact pure

theorem parameters (parameters : List Identifier) :
    Balances (walkParameters parameters) (parameters.map Identifier.name) fun _ => [] := by
  induction parameters with
  | nil => exact pure
  | cons parameter others inductionHypothesis =>
    exact (introduce parameter).bind inductionHypothesis

end Balances

end Scope

/-! ### Nodes -/

mutual

/-- A walk through an expression is balanced, and declares nothing. -/
theorem walkExpression_balances : (expression : Expression) → (around : Surroundings) →
    Balances (walkExpression around expression) [] expression.openings
  | .literal _, _ => .pure
  | .grouping inner, around => walkExpression_balances inner around
  | .unary _ _ operand, around => walkExpression_balances operand around
  | .binary _ _ left right, around =>
    (walkExpression_balances left around).bind (walkExpression_balances right around)
  | .logical _ left right, around =>
    (walkExpression_balances left around).bind (walkExpression_balances right around)
  | .read reference name, _ => (Balances.checkRead name).after (.relate reference name.name)
  | .assign reference name value, around =>
    (walkExpression_balances value around).bind (.relate reference name.name)
  | .call callee _ arguments, around =>
    (walkExpression_balances callee around).bind (walkExpressions_balances arguments around)
  | .function declaration, around => walkFunction_balances declaration around .function
  | .get object _, around => walkExpression_balances object around
  | .set object _ value, around =>
    ((walkExpression_balances value around).bind (walkExpression_balances object around)).perm
      fun _ => List.perm_append_comm
  | .this reference keyword, around => .this around reference keyword
  | .super reference keyword _, around => .super around reference keyword

theorem walkExpressions_balances : (expressions : List Expression) → (around : Surroundings) →
    Balances (walkExpressions around expressions) []
      fun opened => Expression.allOpenings opened expressions
  | [], _ => .pure
  | expression :: others, around =>
    (walkExpression_balances expression around).bind (walkExpressions_balances others around)

/-- A walk through a function is balanced. Its parameters are declared in its own scope. -/
theorem walkFunction_balances : (declaration : FunctionDeclaration) → (around : Surroundings) →
    (kind : FunctionKind) →
    Balances (walkFunction around kind declaration) [] declaration.openings
  | .mk _ parameters body, around, kind =>
    ((Balances.parameters parameters).bind
      (walkStatements_balances body { around with function := kind, loops := 0 })).inNewScope

theorem walkMethods_balances : (methods : List FunctionDeclaration) → (around : Surroundings) →
    Balances (walkMethods around methods) []
      fun opened => FunctionDeclaration.allOpenings opened methods
  | [], _ => .pure
  | method :: others, around =>
    (walkFunction_balances method around (methodKind method)).bind
      (walkMethods_balances others around)

/-- A walk through a statement is balanced. -/
theorem walkStatement_balances : (statement : Statement) → (around : Surroundings) →
    Balances (walkStatement around statement) statement.declares statement.openings
  | .expression expression, around => walkExpression_balances expression around
  | .print expression, around => walkExpression_balances expression around
  | .declareVariable name none, _ => .introduce name
  | .declareVariable name (some initializer), around =>
    .whilePending name (walkExpression_balances initializer around)
  | .block statements, around => (walkStatements_balances statements around).inNewScope
  | .conditional condition thenBranch none, around =>
    (walkExpression_balances condition around).bind (walkStatement_balances thenBranch around)
  | .conditional condition thenBranch (some elseBranch), around =>
    (walkExpression_balances condition around).bind
      ((walkStatement_balances thenBranch around).bind (walkStatement_balances elseBranch around))
  | .loop condition body none, around =>
    (walkExpression_balances condition around).bind
      (walkStatement_balances body { around with loops := around.loops + 1 })
  | .loop condition body (some increment), around =>
    (walkExpression_balances condition around).bind
      ((walkStatement_balances body { around with loops := around.loops + 1 }).bind
        (walkStatement_balances increment { around with loops := around.loops + 1 }))
  | .control control keyword, _ => .check keyword (.outsideLoop control)
  | .declareFunction (.mk none parameters body), around =>
    walkFunction_balances (.mk none parameters body) around .function
  | .declareFunction (.mk (some name) parameters body), around =>
    .introducing name (walkFunction_balances (.mk (some name) parameters body) around .function)
  | .giveBack keyword none, _ => .check keyword .outsideFunction
  | .giveBack keyword (some value), around =>
    (Balances.check keyword .outsideFunction).after
      ((Balances.check keyword .valueFromInitializer).after (walkExpression_balances value around))
  | .declareClass name none methods, around =>
    .introducing name ((Balances.define "this").bind
      (walkMethods_balances methods
        { around with enclosingClass := .withoutSuperclass })).inNewScope
  | .declareClass name (some superclass) methods, around =>
    .introducing name ((Balances.superclass name superclass).after
      ((walkExpression_balances superclass { around with enclosingClass := .withSuperclass }).bind
        ((Balances.define "super").bind ((Balances.define "this").bind
          (walkMethods_balances methods
            { around with enclosingClass := .withSuperclass })).inNewScope).inNewScope))

theorem walkStatements_balances : (statements : List Statement) → (around : Surroundings) →
    Balances (walkStatements around statements) (statements.flatMap Statement.declares)
      fun opened => Statement.allOpenings opened statements
  | [], _ => .pure
  | statement :: others, around =>
    (walkStatement_balances statement around).bind (walkStatements_balances others around)

end

/-! ### Balanced tours -/

namespace Scope

/-- Between two states of a walk over registers the same is around, and the rest is balanced. -/
structure Registers.Balanced (declared : List String) (openings : List (Reference × Nat))
    (before after : Registers) : Prop where
  function : after.around.function = before.around.function
  enclosingClass : after.around.enclosingClass = before.around.enclosingClass
  loops : after.around.loops = before.around.loops
  state : Scope.Balanced declared openings before.state after.state

theorem Keeps.balanced {tour : Tour Unit} {walk : Surroundings → Walk Unit}
    {declared : List String} {openings : Nat → List (Reference × Nat)} (keeps : Keeps tour walk)
    (balances : ∀ around, Balances (walk around) declared openings) (before : Registers) :
    Registers.Balanced declared (openings before.state.scopes.length) before (tour before).2 ∧
      (tour before).2.state = (walk before.around before.state).2 := by
  rw [keeps before]
  exact ⟨⟨rfl, rfl, rfl, balances before.around before.state⟩, rfl⟩

/-- Walks are balanced, whether or not they report errors. From all registers a walk through an
expression, a function of any kind, a statement, a class declaration for one, or statements in order
ends with the same kind of function, the same kind of class and the same number of loops around and
in the same number of scopes. The outer scopes are as they were, and so is the innermost but for the
names that are declared directly in it, which are defined. The table changes only by distances of
references of the tree, each less than the number of scopes open at the reference, and errors are
only added at the end. A walk that is told what is around finds just the same. -/
theorem tours_balanced (before : Registers) :
    (∀ expression : Expression,
      (before.Balanced [] (expression.openings before.state.scopes.length)
          (tourExpression expression before).2 ∧
        (tourExpression expression before).2.state =
          (walkExpression before.around expression before.state).2) ∧
      ∀ around, (expression.openings around).map Prod.fst = expression.references) ∧
    (∀ (kind : FunctionKind) (declaration : FunctionDeclaration),
      (before.Balanced [] (declaration.openings before.state.scopes.length)
          (tourFunction kind declaration before).2 ∧
        (tourFunction kind declaration before).2.state =
          (walkFunction before.around kind declaration before.state).2) ∧
      ∀ around, (declaration.openings around).map Prod.fst = declaration.references) ∧
    (∀ statement : Statement,
      (before.Balanced statement.declares (statement.openings before.state.scopes.length)
          (tourStatement statement before).2 ∧
        (tourStatement statement before).2.state =
          (walkStatement before.around statement before.state).2) ∧
      ∀ around, (statement.openings around).map Prod.fst = statement.references) ∧
    ∀ statements : List Statement,
      (before.Balanced (statements.flatMap Statement.declares)
          (Statement.allOpenings before.state.scopes.length statements)
          (tourStatements statements before).2 ∧
        (tourStatements statements before).2.state =
          (walkStatements before.around statements before.state).2) ∧
      ∀ around, (Statement.allOpenings around statements).map Prod.fst =
        Statement.allReferences statements := by
  refine ⟨fun expression => ⟨?_, fun around => expression.openings_references around⟩,
    fun kind declaration => ⟨?_, fun around => declaration.openings_references around⟩,
    fun statement => ⟨?_, fun around => statement.openings_references around⟩,
    fun statements => ⟨?_, fun around => Statement.allOpenings_references around statements⟩⟩
  · exact (tourExpression_keeps expression).balanced (walkExpression_balances expression) before
  · exact (tourFunction_keeps declaration kind).balanced
      (walkFunction_balances declaration · kind) before
  · exact (tourStatement_keeps statement).balanced (walkStatement_balances statement) before
  · exact (tourStatements_keeps statements).balanced (walkStatements_balances statements) before

end Scope

end Lox
