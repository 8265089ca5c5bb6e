/-
When a tree is placed rightly in the scopes around it: the table holds for every occurrence of a
name the number of scopes to the nearest one with the name, and the scopes in which the parts of the
tree stand follow from the tree alone. This says without a walk what a walk without errors finds.
-/

import Lox.Proofs.Tree.Shape
import Lox.Scope.Resolve

namespace Lox

open Scope

/-! ### Scopes -/

namespace Scope

/-- The scopes with a name entered into the innermost one. -/
def enter (name : String) (isDefined : Bool) : List Names → List Names
  | [] => []
  | innermost :: others => innermost.write name isDefined :: others

/-- The scope that holds one name. -/
def only (name : String) : Names := Bindings.empty.write name true

/-- The scope with the parameters of a function added. -/
def parametersIn (names : Names) (parameters : List Identifier) : Names :=
  parameters.foldl (fun names parameter => names.write parameter.name true) names

/-- The innermost scope, if there is one, is without the name. -/
def IsNew (name : String) : List Names → Prop
  | [] => True
  | innermost :: _ => innermost.get? name = none

/-- The innermost scope holds the name as one that is still to be defined. -/
def IsPending (name : String) : List Names → Prop
  | [] => False
  | innermost :: _ => innermost.get? name = some false

/-- What is known about occurrences of names: how many scopes lie between an occurrence and the one
that declares its name, if any does. -/
abbrev Table := Reference → Option Nat → Prop

/-- What is known from distances. -/
def tableOf (distances : Distances) : Table := fun reference distance =>
  distances[reference]? = distance

/-- A name that a program can give to a variable. -/
def IsVariable (name : String) : Prop := name ≠ "this" ∧ name ≠ "super"

/-- The names of the scopes around the methods of a class, innermost first. -/
def methodScopes (hasSuperclass : Bool) (scopes : List Names) : List Names :=
  if hasSuperclass then only "this" :: only "super" :: scopes else only "this" :: scopes

end Scope

/-- The name that a statement declares. -/
def Statement.declared? : Statement → Option String
  | .declareVariable name _ => some name.name
  | .declareFunction declaration => declaration.name.map Identifier.name
  | .declareClass name _ _ => some name.name
  | _ => none

/-- The scopes behind a statement. -/
def Statement.scopesAfter (scopes : List Names) (statement : Statement) : List Names :=
  match statement.declared? with
  | some name => enter name true scopes
  | none => scopes

/-! ### Placement -/

mutual

/-- An expression in scopes. -/
def Expression.Placed (table : Table) (scopes : List Names) : Expression → Prop
  | .literal _ => True
  | .grouping inner => inner.Placed table scopes
  | .unary _ _ operand => operand.Placed table scopes
  | .binary _ _ left right => left.Placed table scopes ∧ right.Placed table scopes
  | .logical _ left right => left.Placed table scopes ∧ right.Placed table scopes
  | .read reference name =>
    IsVariable name.name ∧ ¬IsPending name.name scopes ∧
      table reference (distance? scopes name.name)
  | .assign reference name value =>
    IsVariable name.name ∧ value.Placed table scopes ∧
      table reference (distance? scopes name.name)
  | .call callee _ arguments =>
    callee.Placed table scopes ∧ Expression.AllPlaced table scopes arguments
  | .function declaration => declaration.Placed table scopes
  | .get object _ => object.Placed table scopes
  | .set object _ value => object.Placed table scopes ∧ value.Placed table scopes
  | .this reference keyword =>
    keyword.name = "this" ∧ ∃ distance, distance? scopes "this" = some distance ∧
      table reference (some distance)
  | .super reference keyword _ =>
    keyword.name = "super" ∧ ∃ distance, distance? scopes "this" = some distance ∧
      distance? scopes "super" = some (distance + 1) ∧ table reference (some (distance + 1))

/-- Expressions in scopes. -/
def Expression.AllPlaced (table : Table) (scopes : List Names) : List Expression → Prop
  | [] => True
  | expression :: others =>
    expression.Placed table scopes ∧ Expression.AllPlaced table scopes others

/-- A function in scopes: its parameters and its body share one more. -/
def FunctionDeclaration.Placed (table : Table) (scopes : List Names) :
    FunctionDeclaration → Prop
  | .mk _ parameters body =>
    (∀ parameter ∈ parameters, IsVariable parameter.name) ∧
      Statement.AllPlaced table (parametersIn .empty parameters :: scopes) body

/-- Methods in scopes. -/
def FunctionDeclaration.AllPlaced (table : Table) (scopes : List Names) :
    List FunctionDeclaration → Prop
  | [] => True
  | method :: others =>
    method.Placed table scopes ∧ FunctionDeclaration.AllPlaced table scopes others

/-- A statement in scopes. A variable is pending in its own initializer, and so is a class where its
superclass is named. -/
def Statement.Placed (table : Table) (scopes : List Names) : Statement → Prop
  | .expression expression => expression.Placed table scopes
  | .print expression => expression.Placed table scopes
  | .declareVariable name none => IsVariable name.name ∧ IsNew name.name scopes
  | .declareVariable name (some initializer) =>
    IsVariable name.name ∧ IsNew name.name scopes ∧
      initializer.Placed table (enter name.name false scopes)
  | .block statements => Statement.AllPlaced table (.empty :: scopes) statements
  | .conditional condition thenBranch none =>
    condition.Placed table scopes ∧ thenBranch.declared? = none ∧ thenBranch.Placed table scopes
  | .conditional condition thenBranch (some elseBranch) =>
    condition.Placed table scopes ∧ thenBranch.declared? = none ∧
      thenBranch.Placed table scopes ∧ elseBranch.declared? = none ∧
      elseBranch.Placed table scopes
  | .loop condition body none =>
    condition.Placed table scopes ∧ body.declared? = none ∧ body.Placed table scopes
  | .loop condition body (some increment) =>
    condition.Placed table scopes ∧ body.declared? = none ∧ body.Placed table scopes ∧
      increment.declared? = none ∧ increment.Placed table scopes
  | .control _ _ => True
  | .declareFunction declaration =>
    ∃ name, declaration.name = some name ∧ IsVariable name.name ∧ IsNew name.name scopes ∧
      declaration.Placed table (enter name.name true scopes)
  | .giveBack _ none => True
  | .giveBack _ (some value) => value.Placed table scopes
  | .declareClass name none methods =>
    IsVariable name.name ∧ IsNew name.name scopes ∧
      FunctionDeclaration.AllPlaced table
        (methodScopes false (enter name.name true scopes)) methods
  | .declareClass name (some superclass) methods =>
    IsVariable name.name ∧ IsNew name.name scopes ∧ superclass.IsRead ∧
      superclass.Placed table (enter name.name false scopes) ∧
      FunctionDeclaration.AllPlaced table
        (methodScopes true (enter name.name true scopes)) methods

/-- Statements in scopes, each of which may declare a name for those behind it. -/
def Statement.AllPlaced (table : Table) (scopes : List Names) : List Statement → Prop
  | [] => True
  | statement :: others =>
    statement.Placed table scopes ∧
      Statement.AllPlaced table (statement.scopesAfter scopes) others

end

/-! ### Tables that say more -/

/-- The other table says of some references what the first one says. -/
def Scope.Covers (references : List Reference) (table other : Table) : Prop :=
  ∀ reference ∈ references, ∀ distance, table reference distance → other reference distance

namespace Scope.Covers

variable {first second : List Reference} {table other : Table}

theorem left (covers : Covers (first ++ second) table other) : Covers first table other :=
  fun reference member => covers reference (List.mem_append_left second member)

theorem right (covers : Covers (first ++ second) table other) : Covers second table other :=
  fun reference member => covers reference (List.mem_append_right first member)

end Scope.Covers

/-- Two lots of distances say the same about some references. -/
def Scope.AgreeOn (references : List Reference) (distances other : Distances) : Prop :=
  ∀ reference ∈ references, distances[reference]? = other[reference]?

namespace Scope.AgreeOn

variable {first second : List Reference} {distances other : Distances}

theorem left (agree : AgreeOn (first ++ second) distances other) : AgreeOn first distances other :=
  fun reference member => agree reference (List.mem_append_left second member)

theorem right (agree : AgreeOn (first ++ second) distances other) :
    AgreeOn second distances other :=
  fun reference member => agree reference (List.mem_append_right first member)

theorem refl (references : List Reference) (distances : Distances) :
    AgreeOn references distances distances :=
  fun _ _ => rfl

end Scope.AgreeOn

/-! ### Placement is about the own references -/

mutual

/-- Whether an expression is placed rightly depends on what the table says about its references. -/
theorem Expression.Placed.mono {table other : Table} {scopes : List Names} :
    (expression : Expression) → Covers expression.references table other →
      expression.Placed table scopes → expression.Placed other scopes
  | .literal _, _, placed => placed
  | .grouping inner, covers, placed => Expression.Placed.mono inner covers placed
  | .unary _ _ operand, covers, placed => Expression.Placed.mono operand covers placed
  | .binary _ _ left right, covers, placed =>
    ⟨Expression.Placed.mono left covers.left placed.1,
      Expression.Placed.mono right covers.right placed.2⟩
  | .logical _ left right, covers, placed =>
    ⟨Expression.Placed.mono left covers.left placed.1,
      Expression.Placed.mono right covers.right placed.2⟩
  | .read reference _, covers, placed =>
    ⟨placed.1, placed.2.1, covers reference List.mem_cons_self _ placed.2.2⟩
  | .assign reference _ value, covers, placed =>
    ⟨placed.1, Expression.Placed.mono value covers.left placed.2.1,
      covers.right reference List.mem_cons_self _ placed.2.2⟩
  | .call callee _ arguments, covers, placed =>
    ⟨Expression.Placed.mono callee covers.left placed.1,
      Expression.AllPlaced.mono arguments covers.right placed.2⟩
  | .function declaration, covers, placed =>
    FunctionDeclaration.Placed.mono declaration covers placed
  | .get object _, covers, placed => Expression.Placed.mono object covers placed
  | .set object _ value, covers, placed =>
    ⟨Expression.Placed.mono object covers.left placed.1,
      Expression.Placed.mono value covers.right placed.2⟩
  | .this reference _, covers, ⟨isThis, distance, nearest, known⟩ =>
    ⟨isThis, distance, nearest, covers reference List.mem_cons_self _ known⟩
  | .super reference _ _, covers, ⟨isSuper, distance, nearest, further, known⟩ =>
    ⟨isSuper, distance, nearest, further,
      covers reference List.mem_cons_self _ known⟩

theorem Expression.AllPlaced.mono {table other : Table} {scopes : List Names} :
    (expressions : List Expression) → Covers (Expression.allReferences expressions) table other →
      Expression.AllPlaced table scopes expressions → Expression.AllPlaced other scopes expressions
  | [], _, placed => placed
  | expression :: others, covers, placed =>
    ⟨Expression.Placed.mono expression covers.left placed.1,
      Expression.AllPlaced.mono others covers.right placed.2⟩

theorem FunctionDeclaration.Placed.mono {table other : Table} {scopes : List Names} :
    (declaration : FunctionDeclaration) → Covers declaration.references table other →
      declaration.Placed table scopes → declaration.Placed other scopes
  | .mk _ _ body, covers, placed => ⟨placed.1, Statement.AllPlaced.mono body covers placed.2⟩

theorem FunctionDeclaration.AllPlaced.mono {table other : Table} {scopes : List Names} :
    (methods : List FunctionDeclaration) →
      Covers (FunctionDeclaration.allReferences methods) table other →
      FunctionDeclaration.AllPlaced table scopes methods →
      FunctionDeclaration.AllPlaced other scopes methods
  | [], _, placed => placed
  | method :: others, covers, placed =>
    ⟨FunctionDeclaration.Placed.mono method covers.left placed.1,
      FunctionDeclaration.AllPlaced.mono others covers.right placed.2⟩

/-- Whether a statement is placed rightly depends on what the table says about its references. -/
theorem Statement.Placed.mono {table other : Table} {scopes : List Names} :
    (statement : Statement) → Covers statement.references table other →
      statement.Placed table scopes → statement.Placed other scopes
  | .expression expression, covers, placed => Expression.Placed.mono expression covers placed
  | .print expression, covers, placed => Expression.Placed.mono expression covers placed
  | .declareVariable _ none, _, placed => placed
  | .declareVariable _ (some initializer), covers, placed =>
    ⟨placed.1, placed.2.1, Expression.Placed.mono initializer covers placed.2.2⟩
  | .block statements, covers, placed => Statement.AllPlaced.mono statements covers placed
  | .conditional condition thenBranch none, covers, placed =>
    ⟨Expression.Placed.mono condition covers.left placed.1, placed.2.1,
      Statement.Placed.mono thenBranch covers.right placed.2.2⟩
  | .conditional condition thenBranch (some elseBranch), covers, placed =>
    ⟨Expression.Placed.mono condition covers.left placed.1, placed.2.1,
      Statement.Placed.mono thenBranch covers.right.left placed.2.2.1, placed.2.2.2.1,
      Statement.Placed.mono elseBranch covers.right.right placed.2.2.2.2⟩
  | .loop condition body none, covers, placed =>
    ⟨Expression.Placed.mono condition covers.left placed.1, placed.2.1,
      Statement.Placed.mono body covers.right placed.2.2⟩
  | .loop condition body (some increment), covers, placed =>
    ⟨Expression.Placed.mono condition covers.left placed.1, placed.2.1,
      Statement.Placed.mono body covers.right.left placed.2.2.1, placed.2.2.2.1,
      Statement.Placed.mono increment covers.right.right placed.2.2.2.2⟩
  | .control _ _, _, placed => placed
  | .declareFunction declaration, covers, ⟨name, isName, isVariable, isNew, placed⟩ =>
    ⟨name, isName, isVariable, isNew, FunctionDeclaration.Placed.mono declaration covers placed⟩
  | .giveBack _ none, _, placed => placed
  | .giveBack _ (some value), covers, placed => Expression.Placed.mono value covers placed
  | .declareClass _ none methods, covers, placed =>
    ⟨placed.1, placed.2.1, FunctionDeclaration.AllPlaced.mono methods covers placed.2.2⟩
  | .declareClass _ (some superclass) methods, covers, placed =>
    ⟨placed.1, placed.2.1, placed.2.2.1,
      Expression.Placed.mono superclass covers.left placed.2.2.2.1,
      FunctionDeclaration.AllPlaced.mono methods covers.right placed.2.2.2.2⟩

theorem Statement.AllPlaced.mono {table other : Table} {scopes : List Names} :
    (statements : List Statement) → Covers (Statement.allReferences statements) table other →
      Statement.AllPlaced table scopes statements → Statement.AllPlaced other scopes statements
  | [], _, placed => placed
  | statement :: others, covers, placed =>
    ⟨Statement.Placed.mono statement covers.left placed.1,
      Statement.AllPlaced.mono others covers.right placed.2⟩

end

/-! ### Every reference is known -/

/-- A table speaks of some references. -/
def Scope.Knows (table : Table) (references : List Reference) : Prop :=
  ∀ reference ∈ references, ∃ distance, table reference distance

namespace Scope.Knows

variable {table : Table} {first second : List Reference}

theorem nil : Knows table [] :=
  fun _ member => absurd member List.not_mem_nil

theorem singleton {reference : Reference} {distance : Option Nat}
    (known : table reference distance) : Knows table [reference] := by
  intro other member
  rw [List.mem_singleton] at member
  exact ⟨distance, member ▸ known⟩

theorem append (left : Knows table first) (right : Knows table second) :
    Knows table (first ++ second) :=
  fun reference member => (List.mem_append.mp member).elim (left reference) (right reference)

end Scope.Knows

mutual

theorem Expression.Placed.knows {table : Table} {scopes : List Names} :
    (expression : Expression) → expression.Placed table scopes →
      Knows table expression.references
  | .literal _, _ => .nil
  | .grouping inner, placed => Expression.Placed.knows inner placed
  | .unary _ _ operand, placed => Expression.Placed.knows operand placed
  | .binary _ _ left right, placed =>
    (Expression.Placed.knows left placed.1).append (Expression.Placed.knows right placed.2)
  | .logical _ left right, placed =>
    (Expression.Placed.knows left placed.1).append (Expression.Placed.knows right placed.2)
  | .read _ _, placed => .singleton placed.2.2
  | .assign _ _ value, placed =>
    (Expression.Placed.knows value placed.2.1).append (.singleton placed.2.2)
  | .call callee _ arguments, placed =>
    (Expression.Placed.knows callee placed.1).append
      (Expression.AllPlaced.knows arguments placed.2)
  | .function declaration, placed => FunctionDeclaration.Placed.knows declaration placed
  | .get object _, placed => Expression.Placed.knows object placed
  | .set object _ value, placed =>
    (Expression.Placed.knows object placed.1).append (Expression.Placed.knows value placed.2)
  | .this _ _, ⟨_, _, _, known⟩ => .singleton known
  | .super _ _ _, ⟨_, _, _, _, known⟩ => .singleton known

theorem Expression.AllPlaced.knows {table : Table} {scopes : List Names} :
    (expressions : List Expression) → Expression.AllPlaced table scopes expressions →
      Knows table (Expression.allReferences expressions)
  | [], _ => .nil
  | expression :: others, placed =>
    (Expression.Placed.knows expression placed.1).append
      (Expression.AllPlaced.knows others placed.2)

/-- A table in which a function is placed rightly speaks of all its references. -/
theorem FunctionDeclaration.Placed.knows {table : Table} {scopes : List Names} :
    (declaration : FunctionDeclaration) → declaration.Placed table scopes →
      Knows table declaration.references
  | .mk _ _ body, placed => Statement.AllPlaced.knows body placed.2

theorem FunctionDeclaration.AllPlaced.knows {table : Table} {scopes : List Names} :
    (methods : List FunctionDeclaration) → FunctionDeclaration.AllPlaced table scopes methods →
      Knows table (FunctionDeclaration.allReferences methods)
  | [], _ => .nil
  | method :: others, placed =>
    (FunctionDeclaration.Placed.knows method placed.1).append
      (FunctionDeclaration.AllPlaced.knows others placed.2)

theorem Statement.Placed.knows {table : Table} {scopes : List Names} :
    (statement : Statement) → statement.Placed table scopes →
      Knows table statement.references
  | .expression expression, placed => Expression.Placed.knows expression placed
  | .print expression, placed => Expression.Placed.knows expression placed
  | .declareVariable _ none, _ => .nil
  | .declareVariable _ (some initializer), placed =>
    Expression.Placed.knows initializer placed.2.2
  | .block statements, placed => Statement.AllPlaced.knows statements placed
  | .conditional condition thenBranch none, placed =>
    (Expression.Placed.knows condition placed.1).append
      (Statement.Placed.knows thenBranch placed.2.2)
  | .conditional condition thenBranch (some elseBranch), placed =>
    (Expression.Placed.knows condition placed.1).append
      ((Statement.Placed.knows thenBranch placed.2.2.1).append
        (Statement.Placed.knows elseBranch placed.2.2.2.2))
  | .loop condition body none, placed =>
    (Expression.Placed.knows condition placed.1).append (Statement.Placed.knows body placed.2.2)
  | .loop condition body (some increment), placed =>
    (Expression.Placed.knows condition placed.1).append
      ((Statement.Placed.knows body placed.2.2.1).append
        (Statement.Placed.knows increment placed.2.2.2.2))
  | .control _ _, _ => .nil
  | .declareFunction declaration, ⟨_, _, _, _, placed⟩ =>
    FunctionDeclaration.Placed.knows declaration placed
  | .giveBack _ none, _ => .nil
  | .giveBack _ (some value), placed => Expression.Placed.knows value placed
  | .declareClass _ none methods, placed => FunctionDeclaration.AllPlaced.knows methods placed.2.2
  | .declareClass _ (some superclass) methods, placed =>
    (Expression.Placed.knows superclass placed.2.2.2.1).append
      (FunctionDeclaration.AllPlaced.knows methods placed.2.2.2.2)

theorem Statement.AllPlaced.knows {table : Table} {scopes : List Names} :
    (statements : List Statement) → Statement.AllPlaced table scopes statements →
      Knows table (Statement.allReferences statements)
  | [], _ => .nil
  | statement :: others, placed =>
    (Statement.Placed.knows statement placed.1).append (Statement.AllPlaced.knows others placed.2)

end

end Lox
