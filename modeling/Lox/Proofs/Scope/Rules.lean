/-
The static rules, stated by where things stand. A site is something that a rule is about, together
with all that lies around it in the program, from the inside out: blocks and functions with as much
of them as stands before the site, the methods of classes, and loops. Which rule a site breaks can
be read off it, without a walk through what comes before.
-/

import Lox.Proofs.Scope.Placed

namespace Lox

namespace Scope

/-! ### Sites -/

/-- Something that lies around a place in a program. -/
inductive Layer where
  /-- A block, and the statements that stand in it before the place. -/
  | block (before : List Statement)
  /-- A function, its parameters before the place, and the statements of its body before it. -/
  | function (isMethod : Bool) (declaration : FunctionDeclaration) (parameters : List Identifier)
      (before : List Statement)
  /-- The methods of a class. -/
  | methods (hasSuperclass : Bool)
  /-- The body of a loop, or what runs after every pass. -/
  | loop

/-- What a rule is about. -/
inductive Subject where
  /-- A variable, function, class or parameter where it is declared. -/
  | declaration (name : Identifier)
  /-- A variable that is read, and the variable in whose initializer it stands, if it stands in one
  and in no function inside it. -/
  | read (initialized : Option Identifier) (name : Identifier)
  | control (control : LoopControl) (keyword : Identifier)
  | giveBack (keyword : Identifier) (hasValue : Bool)
  | this (keyword : Identifier)
  | super (keyword : Identifier)
  /-- The superclass of a class, where it is named. -/
  | superclass (className name : Identifier)

/-- The word at which a breach of a rule is reported. -/
def Subject.word : Subject → Identifier
  | .declaration name => name
  | .read _ name => name
  | .control _ keyword => keyword
  | .giveBack keyword _ => keyword
  | .this keyword => keyword
  | .super keyword => keyword
  | .superclass _ name => name

/-- Something that a rule is about, and what lies around it, innermost first. -/
structure Site where
  around : List Layer
  subject : Subject

/-! ### What lies around -/

/-- The names declared before a place in the scope it stands in; none at the top level, whose scope
is the global one. -/
def localNames? : List Layer → Option (List String)
  | [] => none
  | .block before :: _ => some (before.filterMap Statement.declared?)
  | .function _ _ parameters before :: _ =>
    some (parameters.map Identifier.name ++ before.filterMap Statement.declared?)
  | .methods _ :: _ => none
  | .loop :: around => localNames? around

/-- Whether the layer is a function, and if it is, whether it is a method called `init`. -/
def Layer.initializer? : Layer → Option Bool
  | .function isMethod declaration _ _ => some (isMethod && declaration.isInitializer)
  | _ => none

/-- Whether the layer is a class, and if it is, whether the class has a superclass. -/
def Layer.superclass? : Layer → Option Bool
  | .methods hasSuperclass => some hasSuperclass
  | _ => none

def Layer.isFunction : Layer → Bool
  | .function _ _ _ _ => true
  | _ => false

def Layer.isLoop : Layer → Bool
  | .loop => true
  | _ => false

/-- Whether there is a loop around, in the nearest function if there is one. -/
def inLoop (around : List Layer) : Bool :=
  (around.takeWhile fun layer => !layer.isFunction).any Layer.isLoop

/-- The place behind a statement. -/
def past (statement : Statement) : List Layer → List Layer
  | [] => []
  | .block before :: around => .block (before ++ [statement]) :: around
  | .function isMethod declaration parameters before :: around =>
    .function isMethod declaration parameters (before ++ [statement]) :: around
  | .methods hasSuperclass :: around => .methods hasSuperclass :: around
  | .loop :: around => .loop :: past statement around

/-! ### The rules -/

/-- The rule that a site breaks, if it breaks one. No site breaks two. -/
def Site.violation? : Site → Option ScopeProblem
  | ⟨around, .declaration name⟩ =>
    if ∃ names ∈ localNames? around, name.name ∈ names then some .alreadyDeclared else none
  | ⟨_, .read none _⟩ => none
  | ⟨around, .read (some initialized) name⟩ =>
    if name.name = initialized.name ∧ ∃ names ∈ localNames? around, name.name ∉ names
    then some .ownInitializer else none
  | ⟨around, .control control _⟩ => if inLoop around then none else some (.outsideLoop control)
  | ⟨around, .giveBack _ hasValue⟩ =>
    match around.findSome? Layer.initializer? with
    | none => some .outsideFunction
    | some isInitializer =>
      if isInitializer && hasValue then some .valueFromInitializer else none
  | ⟨around, .this _⟩ =>
    match around.findSome? Layer.superclass? with
    | none => some .thisOutsideClass
    | some _ => none
  | ⟨around, .super _⟩ =>
    match around.findSome? Layer.superclass? with
    | none => some .superOutsideClass
    | some false => some .noSuperclass
    | some true => none
  | ⟨_, .superclass className name⟩ =>
    if name.name = className.name then some .ownSuperclass else none

/-- The error that a site deserves. -/
def Site.error? (site : Site) : Option ScopeError :=
  site.violation?.map fun problem => ⟨site.subject.word, problem⟩

/-- The sites of parameters, where `earlier` are the parameters before them. -/
def parameterSites (isMethod : Bool) (declaration : FunctionDeclaration) (around : List Layer)
    (earlier : List Identifier) : List Identifier → List Site
  | [] => []
  | parameter :: others =>
    ⟨.function isMethod declaration earlier [] :: around, .declaration parameter⟩ ::
      parameterSites isMethod declaration around (earlier ++ [parameter]) others

/-- The site of a superclass that is named. -/
def superclassSites (around : List Layer) (className : Identifier) : Expression → List Site
  | .read _ name => [⟨around, .superclass className name⟩]
  | _ => []

end Scope

open Scope

/-! ### The sites of trees -/

mutual

/-- The sites of an expression. Those of a value that is assigned to a property come before those of
the object. -/
def Expression.sites (around : List Layer) (initialized : Option Identifier) :
    Expression → List Site
  | .literal _ => []
  | .grouping inner => inner.sites around initialized
  | .unary _ _ operand => operand.sites around initialized
  | .binary _ _ left right => left.sites around initialized ++ right.sites around initialized
  | .logical _ left right => left.sites around initialized ++ right.sites around initialized
  | .read _ name => [⟨around, .read initialized name⟩]
  | .assign _ _ value => value.sites around initialized
  | .call callee _ arguments =>
    callee.sites around initialized ++ Expression.allSites around initialized arguments
  | .function declaration => declaration.sites false around
  | .get object _ => object.sites around initialized
  | .set object _ value => value.sites around initialized ++ object.sites around initialized
  | .this _ keyword => [⟨around, .this keyword⟩]
  | .super _ keyword _ => [⟨around, .super keyword⟩]

/-- The sites of some expressions. -/
def Expression.allSites (around : List Layer) (initialized : Option Identifier) :
    List Expression → List Site
  | [] => []
  | expression :: others =>
    expression.sites around initialized ++ Expression.allSites around initialized others

/-- The sites of a function. -/
def FunctionDeclaration.sites (isMethod : Bool) (around : List Layer) :
    FunctionDeclaration → List Site
  | .mk name parameters body =>
    parameterSites isMethod (.mk name parameters body) around [] parameters ++
      Statement.allSites (.function isMethod (.mk name parameters body) parameters [] :: around)
        body

/-- The sites of the methods of a class. -/
def FunctionDeclaration.allSites (around : List Layer) : List FunctionDeclaration → List Site
  | [] => []
  | method :: others => method.sites true around ++ FunctionDeclaration.allSites around others

/-- The sites of a statement. -/
def Statement.sites (around : List Layer) : Statement → List Site
  | .expression expression => expression.sites around none
  | .print expression => expression.sites around none
  | .declareVariable name none => [⟨around, .declaration name⟩]
  | .declareVariable name (some initializer) =>
    ⟨around, .declaration name⟩ :: initializer.sites around (some name)
  | .block statements => Statement.allSites (.block [] :: around) statements
  | .conditional condition thenBranch none =>
    condition.sites around none ++ thenBranch.sites around
  | .conditional condition thenBranch (some elseBranch) =>
    condition.sites around none ++ (thenBranch.sites around ++ elseBranch.sites around)
  | .loop condition body none => condition.sites around none ++ body.sites (.loop :: around)
  | .loop condition body (some increment) =>
    condition.sites around none ++
      (body.sites (.loop :: around) ++ increment.sites (.loop :: around))
  | .control control keyword => [⟨around, .control control keyword⟩]
  | .declareFunction (.mk none parameters body) =>
    FunctionDeclaration.sites false around (.mk none parameters body)
  | .declareFunction (.mk (some name) parameters body) =>
    ⟨around, .declaration name⟩ ::
      FunctionDeclaration.sites false around (.mk (some name) parameters body)
  | .giveBack keyword none => [⟨around, .giveBack keyword false⟩]
  | .giveBack keyword (some value) =>
    ⟨around, .giveBack keyword true⟩ :: value.sites around none
  | .declareClass name none methods =>
    ⟨around, .declaration name⟩ :: FunctionDeclaration.allSites (.methods false :: around) methods
  | .declareClass name (some superclass) methods =>
    ⟨around, .declaration name⟩ :: (superclassSites around name superclass ++
      (superclass.sites around none ++
        FunctionDeclaration.allSites (.methods true :: around) methods))

/-- The sites of statements, each behind the ones before it. -/
def Statement.allSites (around : List Layer) : List Statement → List Site
  | [] => []
  | statement :: others =>
    statement.sites around ++ Statement.allSites (past statement around) others

end

end Lox
