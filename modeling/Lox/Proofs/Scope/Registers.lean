/-
A walk that keeps what is around it in registers: the kind of function, the kind of class and the
number of loops are set on the way into a part of a tree and put back on the way out of it. A walk
that is told what is around it, part by part, finds the same, so nothing is ever put back wrongly.
-/

import Lox.Scope.Resolve

namespace Lox.Scope

/-! ### Registers -/

/-- What a walk has found so far, and the registers of what is around it. -/
structure Registers where
  state : State
  around : Surroundings

/-- A walk over registers. No error ends it. -/
abbrev Tour := StateM Registers

namespace Tour

/-- A walk for which it does not matter what is around. -/
def anywhere (walk : Walk Unit) : Tour Unit :=
  modify fun registers => { registers with state := (walk registers.state).2 }

/-- Sets the registers. -/
def turn (change : Surroundings → Surroundings) : Tour Unit :=
  modify fun registers => { registers with around := change registers.around }

/-- Goes on as the registers tell. -/
def look (tours : Surroundings → Tour Unit) : Tour Unit := do
  tours (← get).around

/-- Sets the kind of class. -/
def setClass (kind : ClassKind) : Tour Unit :=
  turn fun around => { around with enclosingClass := kind }

/-- Opens a scope. -/
def openScope : Tour Unit :=
  anywhere (modify fun state => { state with scopes := .empty :: state.scopes })

/-- Closes the innermost scope. -/
def closeScope : Tour Unit :=
  anywhere (modify fun state => { state with scopes := state.scopes.tail })

/-- Goes through something in a scope of its own. -/
def inScope (tour : Tour Unit) : Tour Unit := do
  openScope
  tour
  closeScope

/-- Goes through what a loop repeats. -/
def inLoop (tour : Tour Unit) : Tour Unit := do
  turn fun around => { around with loops := around.loops + 1 }
  tour
  turn fun around => { around with loops := around.loops - 1 }

/-- Goes through a function. Loops outside the function do not count in it. -/
def inFunction (kind : FunctionKind) (tour : Tour Unit) : Tour Unit :=
  look fun enclosing => do
    turn fun around => { around with function := kind, loops := 0 }
    tour
    turn fun around => { around with function := enclosing.function, loops := enclosing.loops }

/-- Goes through a class. -/
def inClass (tour : Tour Unit) : Tour Unit :=
  look fun enclosing => do
    setClass .withoutSuperclass
    tour
    setClass enclosing.enclosingClass

end Tour

open Tour

/-! ### Tours -/

/-- An occurrence of `this`. Outside classes the tour reports it and looks no further. -/
def tourThis (reference : Reference) (keyword : Identifier) : Tour Unit :=
  look fun around =>
    if around.enclosingClass = .none then anywhere (report keyword .thisOutsideClass)
    else anywhere (relate reference keyword.name)

/-- An occurrence of `super`, which is looked for even where it is reported. -/
def tourSuper (reference : Reference) (keyword : Identifier) : Tour Unit :=
  look fun around => do
    match around.enclosingClass with
    | .none => anywhere (report keyword .superOutsideClass)
    | .withoutSuperclass => anywhere (report keyword .noSuperclass)
    | .withSuperclass => pure ()
    anywhere (relate reference keyword.name)

/-- A `break` or a `continue`. -/
def tourControl (control : LoopControl) (keyword : Identifier) : Tour Unit :=
  look fun around =>
    if around.loops = 0 then anywhere (report keyword (.outsideLoop control)) else return

/-- A `return` with or without a value. -/
def tourReturn (keyword : Identifier) : Tour Unit :=
  look fun around =>
    if around.function = .none then anywhere (report keyword .outsideFunction) else return

/-- The value of a `return`. -/
def tourReturnedValue (keyword : Identifier) : Tour Unit :=
  look fun around =>
    if around.function = .initializer then anywhere (report keyword .valueFromInitializer)
    else return

mutual

/-- A tour through an expression. -/
def tourExpression : Expression → Tour Unit
  | .literal _ => return
  | .grouping inner => tourExpression inner
  | .unary _ _ operand => tourExpression operand
  | .binary _ _ left right => do
    tourExpression left
    tourExpression right
  | .logical _ left right => do
    tourExpression left
    tourExpression right
  | .read reference name => do
    anywhere (checkRead name)
    anywhere (relate reference name.name)
  | .assign reference name value => do
    tourExpression value
    anywhere (relate reference name.name)
  | .call callee _ arguments => do
    tourExpression callee
    tourExpressions arguments
  | .function declaration => tourFunction .function declaration
  | .get object _ => tourExpression object
  | .set object _ value => do
    tourExpression value
    tourExpression object
  | .this reference keyword => tourThis reference keyword
  | .super reference keyword _ => tourSuper reference keyword

/-- A tour through expressions, in order. -/
def tourExpressions : List Expression → Tour Unit
  | [] => return
  | expression :: others => do
    tourExpression expression
    tourExpressions others

/-- A tour through a function, whose parameters and body share one scope. -/
def tourFunction (kind : FunctionKind) : FunctionDeclaration → Tour Unit
  | .mk _ parameters body =>
    inFunction kind do
      inScope do
        anywhere (walkParameters parameters)
        tourStatements body

/-- A tour through the methods of a class, in order. -/
def tourMethods : List FunctionDeclaration → Tour Unit
  | [] => return
  | method :: others => do
    tourFunction (methodKind method) method
    tourMethods others

/-- A tour through a statement. The kind of a class is set before its name is declared, and set
again before its superclass is looked for. -/
def tourStatement : Statement → Tour Unit
  | .expression expression => tourExpression expression
  | .print expression => tourExpression expression
  | .declareVariable name none => do
    anywhere (declare name)
    anywhere (define name.name)
  | .declareVariable name (some initializer) => do
    anywhere (declare name)
    tourExpression initializer
    anywhere (define name.name)
  | .block statements => inScope (tourStatements statements)
  | .conditional condition thenBranch none => do
    tourExpression condition
    tourStatement thenBranch
  | .conditional condition thenBranch (some elseBranch) => do
    tourExpression condition
    tourStatement thenBranch
    tourStatement elseBranch
  | .loop condition body none => do
    tourExpression condition
    inLoop (tourStatement body)
  | .loop condition body (some increment) => do
    tourExpression condition
    inLoop do
      tourStatement body
      tourStatement increment
  | .control control keyword => tourControl control keyword
  | .declareFunction (.mk none parameters body) => tourFunction .function (.mk none parameters body)
  | .declareFunction (.mk (some name) parameters body) => do
    anywhere (declare name)
    anywhere (define name.name)
    tourFunction .function (.mk (some name) parameters body)
  | .giveBack keyword none => tourReturn keyword
  | .giveBack keyword (some value) => do
    tourReturn keyword
    tourReturnedValue keyword
    tourExpression value
  | .declareClass name none methods =>
    inClass do
      anywhere (declare name)
      anywhere (define name.name)
      inScope do
        anywhere (define "this")
        tourMethods methods
  | .declareClass name (some superclass) methods =>
    inClass do
      anywhere (declare name)
      anywhere (define name.name)
      anywhere (checkSuperclass name superclass)
      setClass .withSuperclass
      tourExpression superclass
      inScope do
        anywhere (define "super")
        inScope do
          anywhere (define "this")
          tourMethods methods

/-- A tour through statements, in order. -/
def tourStatements : List Statement → Tour Unit
  | [] => return
  | statement :: others => do
    tourStatement statement
    tourStatements others

end

/-! ### What is left in the registers -/

/-- A tour finds what a walk finds that is told what is around, and leaves the registers changed. -/
def Leaves (tour : Tour Unit) (walk : Surroundings → Walk Unit)
    (change : Surroundings → Surroundings) : Prop :=
  ∀ registers, (tour registers).2 =
    ⟨(walk registers.around registers.state).2, change registers.around⟩

/-- A tour finds what a walk finds that is told what is around, and leaves the registers as they
were. -/
def Keeps (tour : Tour Unit) (walk : Surroundings → Walk Unit) : Prop :=
  Leaves tour walk id

section

variable {tour next : Tour Unit} {walk further : Surroundings → Walk Unit}
  {change changeNext : Surroundings → Surroundings}

namespace Leaves

/-- One tour after another, which finds around it what the first one has left. -/
theorem bind (start : Leaves tour walk change) (rest : Leaves next further changeNext) :
    Leaves (tour >>= fun _ => next)
      (fun around => walk around >>= fun _ => further (change around))
      (fun around => changeNext (change around)) := by
  intro registers
  show (next (tour registers).2).2 = _
  rw [start registers]
  exact rest _

theorem turn (change : Surroundings → Surroundings) :
    Leaves (turn change) (fun _ => return) change :=
  fun _ => rfl

theorem anywhere (walk : Walk Unit) : Leaves (anywhere walk) (fun _ => walk) id :=
  fun _ => rfl

end Leaves

namespace Keeps

theorem bind (start : Keeps tour walk) (rest : Keeps next further) :
    Keeps (tour >>= fun _ => next) fun around => walk around >>= fun _ => further around :=
  Leaves.bind start rest

theorem pure : Keeps (Pure.pure ()) fun _ => Pure.pure () :=
  fun _ => rfl

theorem anywhere (walk : Walk Unit) : Keeps (anywhere walk) fun _ => walk :=
  fun _ => rfl

/-- A look at the registers tells what a walk is told. -/
theorem look {tours : Surroundings → Tour Unit}
    (keeps : ∀ around registers, registers.around = around →
      (tours around registers).2 = ⟨(walk around registers.state).2, around⟩) :
    Keeps (look tours) walk :=
  fun registers => keeps registers.around registers rfl

/-- A check reports or does nothing. -/
theorem check {condition : Surroundings → Prop} [∀ around, Decidable (condition around)]
    (walk : Walk Unit) :
    Keeps (Tour.look fun around => if condition around then Tour.anywhere walk else return)
      fun around => if condition around then walk else return := by
  refine look fun around registers here => ?_
  subst here
  split
  · exact anywhere walk registers
  · exact pure registers

/-- A scope that is opened is closed again. -/
theorem inScope (inside : Keeps tour walk) :
    Keeps (inScope tour) fun around => inNewScope (walk around) :=
  (anywhere _).bind (inside.bind (anywhere _))

/-- A loop that is counted is taken off again. -/
theorem inLoop (inside : Keeps tour walk) :
    Keeps (inLoop tour) fun around => walk { around with loops := around.loops + 1 } :=
  (Leaves.turn _).bind (Leaves.bind inside (.turn _))

/-- What a function sets is put back. -/
theorem inFunction (kind : FunctionKind) (inside : Keeps tour walk) :
    Keeps (inFunction kind tour)
      fun around => walk { around with function := kind, loops := 0 } := by
  refine look fun enclosing registers here => ?_
  subst here
  exact (Leaves.turn fun around => { around with function := kind, loops := 0 }).bind
    (Leaves.bind inside (.turn _)) registers

/-- What a class sets is put back, whatever kind of class it has turned out to be. -/
theorem inClass (inside : Leaves tour walk change)
    (others : ∀ around : Surroundings,
      { change { around with enclosingClass := .withoutSuperclass } with
        enclosingClass := around.enclosingClass } = around) :
    Keeps (inClass tour)
      fun around => walk { around with enclosingClass := .withoutSuperclass } := by
  refine look fun enclosing registers here => ?_
  subst here
  have left := (Leaves.turn fun around => { around with enclosingClass := .withoutSuperclass }).bind
    (inside.bind (.turn fun around =>
      { around with enclosingClass := registers.around.enclosingClass })) registers
  exact left.trans (congrArg _ (others registers.around))

theorem this (reference : Reference) (keyword : Identifier) :
    Keeps (tourThis reference keyword) fun around => walkThis around reference keyword := by
  refine look fun around registers here => ?_
  subst here
  unfold walkThis
  split
  · exact anywhere _ registers
  · exact anywhere _ registers

theorem super (reference : Reference) (keyword : Identifier) :
    Keeps (tourSuper reference keyword) fun around => walkSuper around reference keyword := by
  refine look fun around registers here => ?_
  subst here
  unfold walkSuper
  cases registers.around.enclosingClass with
  | none | withoutSuperclass => exact (anywhere _).bind (anywhere _) registers
  | withSuperclass => exact pure.bind (anywhere _) registers

end Keeps

end

/-! ### Nodes -/

mutual

/-- A tour through an expression finds what the walk through it finds, and puts the registers
back. -/
theorem tourExpression_keeps : (expression : Expression) →
    Keeps (tourExpression expression) fun around => walkExpression around expression
  | .literal _ => .pure
  | .grouping inner => tourExpression_keeps inner
  | .unary _ _ operand => tourExpression_keeps operand
  | .binary _ _ left right => (tourExpression_keeps left).bind (tourExpression_keeps right)
  | .logical _ left right => (tourExpression_keeps left).bind (tourExpression_keeps right)
  | .read _ _ => (Keeps.anywhere _).bind (.anywhere _)
  | .assign _ _ value => (tourExpression_keeps value).bind (.anywhere _)
  | .call callee _ arguments => (tourExpression_keeps callee).bind (tourExpressions_keeps arguments)
  | .function declaration => tourFunction_keeps declaration .function
  | .get object _ => tourExpression_keeps object
  | .set object _ value => (tourExpression_keeps value).bind (tourExpression_keeps object)
  | .this reference keyword => .this reference keyword
  | .super reference keyword _ => .super reference keyword

theorem tourExpressions_keeps : (expressions : List Expression) →
    Keeps (tourExpressions expressions) fun around => walkExpressions around expressions
  | [] => .pure
  | expression :: others => (tourExpression_keeps expression).bind (tourExpressions_keeps others)

theorem tourFunction_keeps : (declaration : FunctionDeclaration) → (kind : FunctionKind) →
    Keeps (tourFunction kind declaration) fun around => walkFunction around kind declaration
  | .mk _ parameters body, kind =>
    .inFunction kind (.inScope ((Keeps.anywhere (walkParameters parameters)).bind
      (tourStatements_keeps body)))

theorem tourMethods_keeps : (methods : List FunctionDeclaration) →
    Keeps (tourMethods methods) fun around => walkMethods around methods
  | [] => .pure
  | method :: others =>
    (tourFunction_keeps method (methodKind method)).bind (tourMethods_keeps others)

/-- A tour through a statement finds what the walk through it finds, and puts the registers
back. -/
theorem tourStatement_keeps : (statement : Statement) →
    Keeps (tourStatement statement) fun around => walkStatement around statement
  | .expression expression => tourExpression_keeps expression
  | .print expression => tourExpression_keeps expression
  | .declareVariable _ none => (Keeps.anywhere _).bind (.anywhere _)
  | .declareVariable _ (some initializer) =>
    (Keeps.anywhere _).bind ((tourExpression_keeps initializer).bind (.anywhere _))
  | .block statements => .inScope (tourStatements_keeps statements)
  | .conditional condition thenBranch none =>
    (tourExpression_keeps condition).bind (tourStatement_keeps thenBranch)
  | .conditional condition thenBranch (some elseBranch) =>
    (tourExpression_keeps condition).bind
      ((tourStatement_keeps thenBranch).bind (tourStatement_keeps elseBranch))
  | .loop condition body none =>
    (tourExpression_keeps condition).bind (tourStatement_keeps body).inLoop
  | .loop condition body (some increment) =>
    (tourExpression_keeps condition).bind
      ((tourStatement_keeps body).bind (tourStatement_keeps increment)).inLoop
  | .control _ _ => .check _
  | .declareFunction (.mk none parameters body) =>
    tourFunction_keeps (.mk none parameters body) .function
  | .declareFunction (.mk (some name) parameters body) =>
    (Keeps.anywhere _).bind ((Keeps.anywhere _).bind
      (tourFunction_keeps (.mk (some name) parameters body) .function))
  | .giveBack _ none => .check _
  | .giveBack _ (some value) =>
    (Keeps.check _).bind ((Keeps.check _).bind (tourExpression_keeps value))
  | .declareClass name none methods =>
    Keeps.inClass ((Leaves.anywhere (declare name)).bind ((Leaves.anywhere (define name.name)).bind
      ((Keeps.anywhere (define "this")).bind (tourMethods_keeps methods)).inScope)) fun _ => rfl
  | .declareClass name (some superclass) methods =>
    Keeps.inClass ((Leaves.anywhere (declare name)).bind ((Leaves.anywhere (define name.name)).bind
      ((Leaves.anywhere (checkSuperclass name superclass)).bind
        ((Leaves.turn fun around => { around with enclosingClass := .withSuperclass }).bind
          ((tourExpression_keeps superclass).bind ((Keeps.anywhere (define "super")).bind
            ((Keeps.anywhere (define "this")).bind
              (tourMethods_keeps methods)).inScope).inScope))))) fun _ => rfl

theorem tourStatements_keeps : (statements : List Statement) →
    Keeps (tourStatements statements) fun around => walkStatements around statements
  | [] => .pure
  | statement :: others => (tourStatement_keeps statement).bind (tourStatements_keeps others)

end

end Lox.Scope
