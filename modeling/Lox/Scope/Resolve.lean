/-
This file walks through trees and finds, for each occurrence of a name, the scope that declares it,
and every place that breaks a static rule. The walk goes on after an error, so one walk finds them
all, in the order in which it comes to them.
-/

import Lox.Scope.Walk

namespace Lox.Scope

/-- The kind of function that a method is. -/
def methodKind (method : FunctionDeclaration) : FunctionKind :=
  if method.isInitializer then .initializer else .method

/-- Reports a class that names itself as its superclass. -/
def checkSuperclass (name : Identifier) : Expression → Walk Unit
  | .read _ superclass =>
    if superclass.name = name.name then report superclass .ownSuperclass else return
  | _ => return

/-- Reports a `return` that stands outside every function. -/
def checkReturn (around : Surroundings) (keyword : Identifier) : Walk Unit :=
  if around.function = .none then report keyword .outsideFunction else return

/-- Reports a `return` that gives back a value from an initializer. -/
def checkReturnedValue (around : Surroundings) (keyword : Identifier) : Walk Unit :=
  if around.function = .initializer then report keyword .valueFromInitializer else return

/-- Reports a `break` or `continue` that stands outside every loop. -/
def checkControl (around : Surroundings) (control : LoopControl) (keyword : Identifier) :
    Walk Unit :=
  if around.loops = 0 then report keyword (.outsideLoop control) else return

/-- Relates an occurrence of `this` to its scope, or reports it outside classes. -/
def walkThis (around : Surroundings) (reference : Reference) (keyword : Identifier) : Walk Unit :=
  if around.enclosingClass = .none then report keyword .thisOutsideClass
  else relate reference keyword.name

/-- Relates an occurrence of `super` to its scope, and reports it where there is no superclass. -/
def walkSuper (around : Surroundings) (reference : Reference) (keyword : Identifier) :
    Walk Unit := do
  match around.enclosingClass with
  | .none => report keyword .superOutsideClass
  | .withoutSuperclass => report keyword .noSuperclass
  | .withSuperclass => pure ()
  relate reference keyword.name

/-- Reports a variable that is read directly in its own initializer. -/
def checkRead (name : Identifier) : Walk Unit := do
  if isUndefinedHere name.name (← get) then report name .ownInitializer else return

/-- Relates a variable that is read to its scope, and reports it in its own initializer. -/
def walkRead (reference : Reference) (name : Identifier) : Walk Unit := do
  checkRead name
  relate reference name.name

/-- Declares and defines the parameters of a function, in order. -/
def walkParameters : List Identifier → Walk Unit
  | [] => return
  | parameter :: others => do
    declare parameter
    define parameter.name
    walkParameters others

mutual

/-- Walks through an expression. What is assigned comes before what it is assigned to. -/
def walkExpression (around : Surroundings) : Expression → Walk Unit
  | .literal _ => return
  | .grouping inner => walkExpression around inner
  | .unary _ _ operand => walkExpression around operand
  | .binary _ _ left right => do
    walkExpression around left
    walkExpression around right
  | .logical _ left right => do
    walkExpression around left
    walkExpression around right
  | .read reference name => walkRead reference name
  | .assign reference name value => do
    walkExpression around value
    relate reference name.name
  | .call callee _ arguments => do
    walkExpression around callee
    walkExpressions around arguments
  | .function declaration => walkFunction around .function declaration
  | .get object _ => walkExpression around object
  | .set object _ value => do
    walkExpression around value
    walkExpression around object
  | .this reference keyword => walkThis around reference keyword
  | .super reference keyword _ => walkSuper around reference keyword

/-- Walks through expressions, in order. -/
def walkExpressions (around : Surroundings) : List Expression → Walk Unit
  | [] => return
  | expression :: others => do
    walkExpression around expression
    walkExpressions around others

/-- The parameters and the body of a function share one scope. -/
def walkFunction (around : Surroundings) (kind : FunctionKind) :
    FunctionDeclaration → Walk Unit
  | .mk _ parameters body =>
    inNewScope do
      walkParameters parameters
      walkStatements { around with function := kind, loops := 0 } body

/-- Walks through the methods of a class, in order. -/
def walkMethods (around : Surroundings) : List FunctionDeclaration → Walk Unit
  | [] => return
  | method :: others => do
    walkFunction around (methodKind method) method
    walkMethods around others

/-- Walks through a statement. A function or class is known by its name inside itself, and the
scopes of `super` and `this` lie around the methods of a class. -/
def walkStatement (around : Surroundings) : Statement → Walk Unit
  | .expression expression => walkExpression around expression
  | .print expression => walkExpression around expression
  | .declareVariable name none => do
    declare name
    define name.name
  | .declareVariable name (some initializer) => do
    declare name
    walkExpression around initializer
    define name.name
  | .block statements => inNewScope (walkStatements around statements)
  | .conditional condition thenBranch none => do
    walkExpression around condition
    walkStatement around thenBranch
  | .conditional condition thenBranch (some elseBranch) => do
    walkExpression around condition
    walkStatement around thenBranch
    walkStatement around elseBranch
  | .loop condition body none => do
    walkExpression around condition
    walkStatement { around with loops := around.loops + 1 } body
  | .loop condition body (some increment) => do
    walkExpression around condition
    walkStatement { around with loops := around.loops + 1 } body
    walkStatement { around with loops := around.loops + 1 } increment
  | .control control keyword => checkControl around control keyword
  | .declareFunction (.mk none parameters body) =>
    walkFunction around .function (.mk none parameters body)
  | .declareFunction (.mk (some name) parameters body) => do
    declare name
    define name.name
    walkFunction around .function (.mk (some name) parameters body)
  | .giveBack keyword none => checkReturn around keyword
  | .giveBack keyword (some value) => do
    checkReturn around keyword
    checkReturnedValue around keyword
    walkExpression around value
  | .declareClass name none methods => do
    declare name
    define name.name
    inNewScope do
      define "this"
      walkMethods { around with enclosingClass := .withoutSuperclass } methods
  | .declareClass name (some superclass) methods => do
    declare name
    define name.name
    checkSuperclass name superclass
    walkExpression { around with enclosingClass := .withSuperclass } superclass
    inNewScope do
      define "super"
      inNewScope do
        define "this"
        walkMethods { around with enclosingClass := .withSuperclass } methods

/-- Walks through statements, in order. -/
def walkStatements (around : Surroundings) : List Statement → Walk Unit
  | [] => return
  | statement :: others => do
    walkStatement around statement
    walkStatements around others

end

/-! ### Results -/

/-- The result of a walk: the distances, or else every error found. -/
def outcome (walk : Walk Unit) : Except (List ScopeError) Distances :=
  let state := (walk State.start).2
  match state.errors with
  | [] => .ok state.distances
  | errors => .error errors

/-- Resolves a program: its distances, or else every error found. -/
def resolveProgram (statements : List Statement) : Except (List ScopeError) Distances :=
  outcome (walkStatements .topLevel statements)

/-- Resolves a lone expression. -/
def resolveExpression (expression : Expression) : Except (List ScopeError) Distances :=
  outcome (walkExpression .topLevel expression)

end Lox.Scope
