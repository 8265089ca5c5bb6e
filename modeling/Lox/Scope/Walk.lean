/-
The state of a walk through a tree in which every occurrence of a name is related to the scope that
declares it. Scopes are kept innermost first. A name is declared before it is defined, so a read in
between is seen; the global scope is not kept, and what no scope declares is looked for there.
-/

import Lox.Bindings
import Lox.Tree
import Std.Data.TreeMap

namespace Lox.Scope

/-! ### Scope errors -/

/-- How a program breaks the rules on where things may stand. -/
inductive ScopeProblem where
  | alreadyDeclared
  | ownInitializer
  | outsideLoop (control : LoopControl)
  | outsideFunction
  | valueFromInitializer
  | ownSuperclass
  | thisOutsideClass
  | superOutsideClass
  | noSuperclass
deriving Repr, DecidableEq

/-- The text of a scope problem. -/
def ScopeProblem.text : ScopeProblem → String
  | .alreadyDeclared => "Already a variable with this name in this scope."
  | .ownInitializer => "Can't read local variable in its own initializer."
  | .outsideLoop control => "Can't use '" ++ control.spelling ++ "' outside of a loop."
  | .outsideFunction => "Can't return from top-level code."
  | .valueFromInitializer => "Can't return a value from an initializer."
  | .ownSuperclass => "A class can't inherit from itself."
  | .thisOutsideClass => "Can't use 'this' outside of a class."
  | .superOutsideClass => "Can't use 'super' outside of a class."
  | .noSuperclass => "Can't use 'super' in a class with no superclass."

/-- A scope problem and the name it is reported at. -/
structure ScopeError where
  place : Identifier
  problem : ScopeProblem
deriving Repr, DecidableEq

/-! ### Surroundings -/

/-- What kind of function body the walk is in. -/
inductive FunctionKind where
  | none
  | function
  | method
  | initializer
deriving Repr, DecidableEq

/-- What kind of class body the walk is in. -/
inductive ClassKind where
  | none
  | withoutSuperclass
  | withSuperclass
deriving Repr, DecidableEq

/-- What is around a place in a tree. Loops count only within the nearest function body. -/
structure Surroundings where
  function : FunctionKind
  enclosingClass : ClassKind
  loops : Nat
deriving Repr, DecidableEq

/-- Nothing is around the top level. -/
def Surroundings.topLevel : Surroundings := ⟨.none, .none, 0⟩

/-! ### The walk -/

/-- For each occurrence of a local name, how many scopes lie between it and the declaring one. -/
abbrev Distances := Std.TreeMap Reference Nat

/-- A scope: its names, each with whether it is defined as well as declared. -/
abbrev Names := Bindings Bool

/-- What a walk has found so far, and the scopes it is in. -/
structure State where
  scopes : List Names
  distances : Distances
  errors : List ScopeError

/-- The start of a walk. -/
def State.start : State := ⟨[], ∅, []⟩

/-- A change of what a walk has found. No error ends it. -/
abbrev Walk := StateM State

/-- Reports a problem. -/
def report (place : Identifier) (problem : ScopeProblem) : Walk Unit :=
  modify fun state => { state with errors := state.errors ++ [⟨place, problem⟩] }

/-- Changes the innermost scope, if there is one. -/
def changeInnermost (change : Names → Names) : Walk Unit :=
  modify fun state =>
    match state.scopes with
    | [] => state
    | innermost :: others => { state with scopes := change innermost :: others }

/-- Enters a name into the innermost scope as not yet defined. A name that is there already is
reported and left as it is. -/
def declare (name : Identifier) : Walk Unit := do
  match (← get).scopes with
  | [] => return
  | innermost :: _ =>
    if innermost.contains name.name then
      report name .alreadyDeclared
    else
      changeInnermost fun names => names.write name.name false

/-- Marks a name of the innermost scope as defined. -/
def define (name : String) : Walk Unit :=
  changeInnermost fun names => names.write name true

/-- Walks in a new scope and leaves it again. -/
def inNewScope (walk : Walk Unit) : Walk Unit := do
  modify fun state => { state with scopes := .empty :: state.scopes }
  walk
  modify fun state => { state with scopes := state.scopes.tail }

/-- How many scopes out the nearest one with the name is. -/
def distance? (scopes : List Names) (name : String) : Option Nat :=
  scopes.findIdx? fun names => names.contains name

/-- Records how far out the name of an occurrence is declared. An occurrence of a name that no scope
declares gets no record: it is global. -/
def relate (reference : Reference) (name : String) : Walk Unit :=
  modify fun state =>
    match distance? state.scopes name with
    | some distance => { state with distances := state.distances.insert reference distance }
    | none => state

/-- Whether a name is declared in the innermost scope and not defined yet. -/
def isUndefinedHere (name : String) (state : State) : Bool :=
  match state.scopes with
  | [] => false
  | innermost :: _ => innermost.get? name == some false

end Lox.Scope
