/-
What happens in a session of accepted sources: which statement is executed and which expression is
evaluated on which machine, and in which environment. An environment is followed along the text of
the program: a function takes that of the place where it was declared along and is called in it,
whenever and wherever that is.
-/

import Lox.Proofs.Run.Environment
import Lox.Session

namespace Lox

open Scope

/-! ### Sessions -/

/-- A step of a session. -/
inductive Step where
  | defineNative (native : NativeFunction)
  | run (depth : Nat) (source : String)
  | evaluate (depth : Nat) (source : String)

/-- The session after a step. -/
def Session.step (session : Session) : Step → Session
  | .defineNative native => session.defineNative native
  | .run depth source => (session.run depth source).2
  | .evaluate depth source => (session.evaluate depth source).2

/-- The session after some steps. -/
def Session.after (session : Session) (steps : List Step) : Session :=
  steps.foldl Session.step session

/-! ### What a source does -/

namespace Session

variable {session after : Session} {source : String} {faults : List Fault}

/-- What is wrong with a source before it is run is no runtime error. -/
theorem readProgram_faults (read : session.readProgram source = (.error faults, after))
    (error : RuntimeError) : .runtime error ∉ faults := by
  have found : (session.readProgram source).1 = .error faults := congrArg Prod.fst read
  unfold readProgram at found
  dsimp only at found
  split at found
  · exact nomatch found
  · rw [← Except.error.inj found]
    simp only [List.mem_map, reduceCtorEq, and_false, exists_false, not_false_eq_true]
  · rw [← Except.error.inj found]
    simp only [List.mem_append, List.mem_map, reduceCtorEq, and_false, exists_false, or_self,
      not_false_eq_true]

theorem readExpression_faults (read : session.readExpression source = (.error faults, after))
    (error : RuntimeError) : .runtime error ∉ faults := by
  have found : (session.readExpression source).1 = .error faults := congrArg Prod.fst read
  unfold readExpression at found
  dsimp only at found
  split at found
  · split at found
    · exact nomatch found
    · rw [← Except.error.inj found]
      simp only [List.mem_singleton, reduceCtorEq, not_false_eq_true]
  · rw [← Except.error.inj found]
    simp only [List.mem_map, reduceCtorEq, and_false, exists_false, not_false_eq_true]

theorem scoping_faults (errors : List ScopeError) (error : RuntimeError) :
    .runtime error ∉ errors.map Fault.scoping := by
  simp only [List.mem_map, reduceCtorEq, and_false, exists_false, not_false_eq_true]

/-- A source is rejected before anything runs, with no runtime error; or its statements are run on
the machine that knows the distances of their names. -/
theorem run_cases (depth : Nat) (session : Session) (source : String) :
    (∃ faults, (∀ error, .runtime error ∉ faults) ∧
      session.run depth source = (.failed faults, (session.readProgram source).2)) ∨
    ∃ statements distances read, session.readProgram source = (.ok statements, read) ∧
      resolveProgram statements = .ok distances ∧
      session.run depth source =
        (read.learn distances).perform (interpret depth statements) := by
  unfold Session.run
  cases isRead : session.readProgram source with
  | mk program read =>
    cases program with
    | error faults => exact .inl ⟨faults, readProgram_faults isRead, rfl⟩
    | ok statements =>
      dsimp only
      cases resolved : resolveProgram statements with
      | error errors => exact .inl ⟨_, scoping_faults errors, rfl⟩
      | ok distances => exact .inr ⟨statements, distances, read, rfl, resolved, rfl⟩

/-- A source that is an expression is rejected, or it is evaluated, in the same way. -/
theorem evaluate_cases (depth : Nat) (session : Session) (source : String) :
    (∃ faults, (∀ error, .runtime error ∉ faults) ∧
      session.evaluate depth source = (.failed faults, (session.readExpression source).2)) ∨
    ∃ expression distances read, session.readExpression source = (.ok expression, read) ∧
      resolveExpression expression = .ok distances ∧
      session.evaluate depth source =
        (read.learn distances).perform (Lox.evaluate depth expression) := by
  unfold Session.evaluate
  cases isRead : session.readExpression source with
  | mk result read =>
    cases result with
    | error faults => exact .inl ⟨faults, readExpression_faults isRead, rfl⟩
    | ok expression =>
      dsimp only
      cases resolved : resolveExpression expression with
      | error errors => exact .inl ⟨_, scoping_faults errors, rfl⟩
      | ok distances => exact .inr ⟨expression, distances, read, rfl, resolved, rfl⟩

end Session

/-! ### Results -/

/-- An expression has a value, within whatever depth. -/
def Evaluates (expression : Expression) (before : Machine) (value : Value) (after : Machine) :
    Prop :=
  ∃ depth, evaluate depth expression before = .ok value after

/-- A statement ends with a flow, within whatever depth. -/
def Executes (statement : Statement) (before : Machine) (flow : Flow) (after : Machine) : Prop :=
  ∃ depth, execute depth statement before = .ok flow after

/-- Expressions have values, one after the other. -/
inductive EvaluatesAll : List Expression → Machine → List Value → Machine → Prop
  | nil (machine : Machine) : EvaluatesAll [] machine [] machine
  | cons {expression others before value middle values after} :
    Evaluates expression before value middle → EvaluatesAll others middle values after →
      EvaluatesAll (expression :: others) before (value :: values) after

/-- The superclass that a class declaration names, if it names one, is a class. -/
inductive NamesParent : Option Expression → Machine → Option ClassId → Machine → Prop
  | none (machine : Machine) : NamesParent none machine none machine
  | some {superclass before parent after} :
    Evaluates superclass before (.callable (.constructor parent)) after →
      NamesParent (some superclass) before (some parent) after

/-! ### Changes of the machine -/

namespace Machine

/-- The machine with another heap. -/
def withHeap (machine : Machine) (heap : Heap) : Machine := { machine with heap }

/-- The machine with a name bound in the current frame. -/
def define (machine : Machine) (name : String) (value : Value) : Machine :=
  machine.withHeap (machine.heap.define machine.current name value)

/-- The machine with a function closed over the current frame. -/
def close (machine : Machine) (declaration : FunctionDeclaration) : Machine :=
  machine.withHeap (machine.heap.addFunction ⟨declaration, machine.current, false⟩).2

/-- The machine in a new frame for a block. -/
def enterBlock (machine : Machine) : Machine :=
  { machine with
    heap := (machine.heap.addFrame machine.current).2, current := machine.heap.frames.size }

/-- The machine in a new frame that binds the parameters of a function. -/
def enterCall (machine : Machine) (function : FunctionObject) (arguments : List Value) : Machine :=
  let names := function.declaration.parameters.map Identifier.name
  { machine with
    heap := (machine.heap.addFrame function.closure).2.defineAll machine.heap.frames.size
      (names.zip arguments)
    current := machine.heap.frames.size }

/-- The machine with one more call in progress. -/
def countCall (machine : Machine) : Machine :=
  { machine with callDepth := machine.callDepth + 1 }

/-- The machine with a method bound to a receiver. -/
def bindMethod (machine : Machine) (method : FunctionId) (receiver : InstanceId) : Machine :=
  machine.withHeap (machine.heap.bindMethod method receiver).2

/-- The machine with an instance of a class. -/
def addInstance (machine : Machine) (classId : ClassId) : Machine :=
  machine.withHeap (machine.heap.addInstance classId).2

/-- The machine with a class. -/
def addClass (machine : Machine) (object : ClassObject) : Machine :=
  machine.withHeap (machine.heap.addClass object).2

/-- The machine has gone on to another one, on which the functions that there were find their names
at the same distances. -/
structure Precedes (before after : Machine) : Prop where
  heap : before.heap.Precedes after.heap
  distances : ∀ {id : FunctionId} {object}, before.heap.functions[id]? = some object →
    AgreeOn object.declaration.references before.distances after.distances

theorem Precedes.refl (machine : Machine) : machine.Precedes machine :=
  ⟨.refl _, fun _ => .refl _ _⟩

end Machine

/-- Declares a class up to its methods: its name is bound, and the methods are made. -/
def makeMethods (name : String) (parent : Option ClassId) (methods : List FunctionDeclaration) :
    Run (Bindings FunctionId) := do
  Run.define name .nil
  Evaluator.methodTable (← Evaluator.methodFrame parent) methods .empty

/-! ### Environments of functions -/

namespace Environment

/-- The environment of a block. -/
def block (machine : Machine) (environment : Environment) : Environment :=
  ⟨.block, .empty, machine.heap.frames.size⟩ :: environment

/-- The environment of the body of a function that is called. -/
def body (machine : Machine) (function : FunctionId) (environment : Environment) : Environment :=
  ⟨.call function,
    parametersIn .empty (machine.heap.function function).declaration.parameters,
    machine.heap.frames.size⟩ :: environment

/-- The environment of a bound method. -/
def bound (machine : Machine) (declaring : ClassId) (receiver : InstanceId)
    (environment : Environment) : Environment :=
  ⟨.receiver declaring receiver, only "this", machine.heap.frames.size⟩ :: environment

/-- The environment of the methods of a class. -/
def methods (machine : Machine) (parent : Option ClassId) (environment : Environment) :
    Environment :=
  match parent with
  | none => environment
  | some parent => ⟨.superclass parent, only "super", machine.heap.frames.size⟩ :: environment

end Environment

/-! ### Parts of nodes -/

/-- An expression is evaluated, in the same environment, when another one is. -/
inductive Operand : Expression → Machine → Expression → Machine → Prop
  | grouping {inner machine} : Operand (.grouping inner) machine inner machine
  | unary {operator line operand machine} :
    Operand (.unary operator line operand) machine operand machine
  | left {operator line left right machine} :
    Operand (.binary operator line left right) machine left machine
  | right {operator line left right machine value after} : Evaluates left machine value after →
    Operand (.binary operator line left right) machine right after
  | decisive {operator left right machine} :
      Operand (.logical operator left right) machine left machine
  | undecided {operator left right machine value after} : Evaluates left machine value after →
    operator.isDecidedBy value = false →
    Operand (.logical operator left right) machine right after
  | assigned {reference name value machine} :
    Operand (.assign reference name value) machine value machine
  | callee {callee line arguments machine} :
    Operand (.call callee line arguments) machine callee machine
  | object {object name machine} : Operand (.get object name) machine object machine
  | target {object name value machine} : Operand (.set object name value) machine object machine
  | stored {object name value machine receiver after} :
    Evaluates object machine (.object receiver) after →
    Operand (.set object name value) machine value after

/-- An expression is evaluated, in the same environment, when a statement is executed. -/
inductive Statement.Operand : Statement → Machine → Expression → Machine → Prop
  | expression {expression machine} :
    Statement.Operand (.expression expression) machine expression machine
  | print {expression machine} : Statement.Operand (.print expression) machine expression machine
  | condition {condition thenBranch elseBranch machine} :
    Statement.Operand (.conditional condition thenBranch elseBranch) machine condition machine
  | returned {keyword value machine} :
    Statement.Operand (.giveBack keyword (some value)) machine value machine

/-- A statement is executed, in the same environment, when another one is. -/
inductive Statement.Branch : Statement → Machine → Statement → Machine → Prop
  | thenBranch {condition thenBranch elseBranch machine value after} :
    Evaluates condition machine value after → value.isTruthy = true →
    Statement.Branch (.conditional condition thenBranch elseBranch) machine thenBranch after
  | elseBranch {condition thenBranch elseBranch machine value after} :
    Evaluates condition machine value after → value.isTruthy = false →
    Statement.Branch (.conditional condition thenBranch (some elseBranch)) machine elseBranch after

/-! ### Events -/

/-- What can happen. -/
inductive Event where
  /-- The rest of a program is about to run. -/
  | program (statements : List Statement) (machine : Machine)
  /-- The rest of a block or of the body of a function is about to run. -/
  | statements (environment : Environment) (statements : List Statement) (machine : Machine)
  | execution (environment : Environment) (statement : Statement) (machine : Machine)
  /-- A loop is about to make a pass. -/
  | pass (environment : Environment) (condition : Expression) (body : Statement)
      (increment : Option Statement) (machine : Machine)
  | evaluation (environment : Environment) (expression : Expression) (machine : Machine)
  | operands (environment : Environment) (expressions : List Expression) (machine : Machine)
  /-- A function is about to be called. -/
  | invocation (function : FunctionId) (arguments : List Value) (machine : Machine)
  /-- An instance whose class has an initializer is about to be initialized. -/
  | construction (declaring : ClassId) (method : FunctionId) (receiver : InstanceId)
      (arguments : List Value) (machine : Machine)
  /-- A method that a class declares is about to be bound to a receiver. -/
  | binding (declaring : ClassId) (method : FunctionId) (receiver : InstanceId)
      (machine : Machine)
  /-- A function was closed over an environment. -/
  | closing (environment : Environment) (function : FunctionId) (machine : Machine)
  /-- A method was made by the execution of a class declaration. -/
  | method (environment : Environment) (declaring : ClassId) (method : FunctionId)
      (machine : Machine)

/-- What happens in a session. -/
inductive Happens (start : Session) : Event → Prop
  /-- A source is accepted. -/
  | program {steps source statements session distances} :
    (start.after steps).readProgram source = (.ok statements, session) →
    resolveProgram statements = .ok distances →
    Happens start (.program statements (session.learn distances).machine)
  | loneExpression {steps source expression session distances} :
    (start.after steps).readExpression source = (.ok expression, session) →
    resolveExpression expression = .ok distances →
    Happens start (.evaluation [] expression (session.learn distances).machine)
  /-- The statements of a program are executed in order, whatever their flow. -/
  | programFirst {statement others machine} :
    Happens start (.program (statement :: others) machine) →
    Happens start (.execution [] statement machine)
  | programRest {statement others machine flow after} :
    Happens start (.program (statement :: others) machine) →
    Executes statement machine flow after →
    Happens start (.program others after)
  /-- The statements of a block are executed in order, up to the first that does not complete. -/
  | first {environment statement others machine} :
    Happens start (.statements environment (statement :: others) machine) →
    Happens start (.execution environment statement machine)
  | rest {environment statement others machine after} :
    Happens start (.statements environment (statement :: others) machine) →
    Executes statement machine .completed after →
    Happens start (.statements (environment.after statement) others after)
  | statementOperand {environment statement machine expression after} :
    Happens start (.execution environment statement machine) →
    statement.Operand machine expression after →
    Happens start (.evaluation environment expression after)
  | branch {environment statement machine inner after} :
    Happens start (.execution environment statement machine) →
    statement.Branch machine inner after →
    Happens start (.execution environment inner after)
  /-- A variable is pending in its own initializer. -/
  | initializer {environment name initializer machine} :
    Happens start (.execution environment (.declareVariable name (some initializer)) machine) →
    Happens start (.evaluation (environment.enter name.name false) initializer machine)
  | block {environment statements machine} :
    Happens start (.execution environment (.block statements) machine) →
    Happens start (.statements (environment.block machine) statements machine.enterBlock)
  | loop {environment condition body increment machine} :
    Happens start (.execution environment (.loop condition body increment) machine) →
    Happens start (.pass environment condition body increment machine)
  | loopCondition {environment condition body increment machine} :
    Happens start (.pass environment condition body increment machine) →
    Happens start (.evaluation environment condition machine)
  | loopBody {environment condition body increment machine value after} :
    Happens start (.pass environment condition body increment machine) →
    Evaluates condition machine value after → value.isTruthy = true →
    Happens start (.execution environment body after)
  | loopIncrement {environment condition body increment machine value middle flow after} :
    Happens start (.pass environment condition body (some increment) machine) →
    Evaluates condition machine value middle → value.isTruthy = true →
    Executes body middle flow after → flow = .completed ∨ flow = .continued →
    Happens start (.execution environment increment after)
  | nextPass {environment condition body machine value middle flow after} :
    Happens start (.pass environment condition body none machine) →
    Evaluates condition machine value middle → value.isTruthy = true →
    Executes body middle flow after → flow = .completed ∨ flow = .continued →
    Happens start (.pass environment condition body none after)
  | nextPassAfter {environment condition body increment machine value middle flow last
      incrementFlow after} :
    Happens start (.pass environment condition body (some increment) machine) →
    Evaluates condition machine value middle → value.isTruthy = true →
    Executes body middle flow last → flow = .completed ∨ flow = .continued →
    Executes increment last incrementFlow after →
    Happens start (.pass environment condition body (some increment) after)
  | operand {environment expression machine inner after} :
    Happens start (.evaluation environment expression machine) →
    Operand expression machine inner after →
    Happens start (.evaluation environment inner after)
  | arguments {environment callee line arguments machine value after} :
    Happens start (.evaluation environment (.call callee line arguments) machine) →
    Evaluates callee machine value after →
    Happens start (.operands environment arguments after)
  | firstOperand {environment expression others machine} :
    Happens start (.operands environment (expression :: others) machine) →
    Happens start (.evaluation environment expression machine)
  | otherOperands {environment expression others machine value after} :
    Happens start (.operands environment (expression :: others) machine) →
    Evaluates expression machine value after →
    Happens start (.operands environment others after)
  /-- A function or a bound method is called with as many arguments as it takes. -/
  | call {environment callee line arguments machine callable middle values after function} :
    Happens start (.evaluation environment (.call callee line arguments) machine) →
    Evaluates callee machine (.callable callable) middle →
    EvaluatesAll arguments middle values after →
    callable = .function function ∨ callable = .method function →
    values.length = after.heap.arity callable → after.callDepth < maximalCallDepth →
    Happens start (.invocation function values after.countCall)
  /-- A class with an initializer is called with as many arguments as that takes. -/
  | construct {environment callee line arguments machine id middle values after declaring method} :
    Happens start (.evaluation environment (.call callee line arguments) machine) →
    Evaluates callee machine (.callable (.constructor id)) middle →
    EvaluatesAll arguments middle values after →
    values.length = after.heap.arity (.constructor id) → after.callDepth < maximalCallDepth →
    (after.addInstance id).heap.Finds id initializerName declaring method →
    Happens start (.construction declaring method after.heap.instances.size values
      (after.countCall.addInstance id))
  | constructBinding {declaring method receiver arguments machine} :
    Happens start (.construction declaring method receiver arguments machine) →
    Happens start (.binding declaring method receiver machine)
  | constructInvocation {declaring method receiver arguments machine} :
    Happens start (.construction declaring method receiver arguments machine) →
    Happens start (.invocation machine.heap.functions.size arguments
      (machine.bindMethod method receiver))
  /-- A property that is no field is a method of the class. -/
  | get {environment object name machine receiver after declaring method} :
    Happens start (.evaluation environment (.get object name) machine) →
    Evaluates object machine (.object receiver) after →
    (after.heap.instanceAt receiver).fields.get? name.name = none →
    after.heap.Finds (after.heap.instanceAt receiver).classId name.name declaring method →
    Happens start (.binding declaring method receiver after)
  /-- A method is taken from the superclass that is bound around the method with the `super`. -/
  | super {environment reference keyword name machine distance parent receiver declaring method} :
    Happens start (.evaluation environment (.super reference keyword name) machine) →
    machine.distances[reference]? = some distance →
    machine.heap.frames.getAt machine.current distance "super" keyword.line =
      .ok (.callable (.constructor parent)) →
    machine.heap.frames.getAt machine.current (distance - 1) "this" keyword.line =
      .ok (.object receiver) →
    machine.heap.Finds parent name.name declaring method →
    Happens start (.binding declaring method receiver machine)
  | function {environment declaration machine} :
    Happens start (.evaluation environment (.function declaration) machine) →
    Happens start (.closing environment machine.heap.functions.size (machine.close declaration))
  /-- A declared function knows itself by its name. -/
  | declaredFunction {environment declaration name machine} :
    Happens start (.execution environment (.declareFunction declaration) machine) →
    declaration.name = some name →
    Happens start (.closing (environment.enter name.name true) machine.heap.functions.size
      ((machine.close declaration).define name.name
        (.callable (.function machine.heap.functions.size))))
  | bound {environment declaring method receiver machine origin} :
    Happens start (.binding declaring method receiver machine) →
    Happens start (.method environment declaring method origin) → origin.Precedes machine →
    Happens start (.closing (environment.bound machine declaring receiver)
      machine.heap.functions.size (machine.bindMethod method receiver))
  /-- The body of a function runs in the environment that the function was closed over. -/
  | body {environment function arguments machine origin} :
    Happens start (.invocation function arguments machine) →
    Happens start (.closing environment function origin) → origin.Precedes machine →
    Happens start (.statements (environment.body machine function)
      (machine.heap.function function).declaration.body
      (machine.enterCall (machine.heap.function function) arguments))
  /-- A class is pending where its superclass is named. -/
  | superclass {environment name superclass methods machine} :
    Happens start (.execution environment (.declareClass name (some superclass) methods) machine) →
    Happens start (.evaluation (environment.enter name.name false) superclass machine)
  | method {environment name superclass methods machine parent middle table after word method} :
    Happens start (.execution environment (.declareClass name superclass methods) machine) →
    NamesParent superclass machine parent middle →
    makeMethods name.name parent methods middle = .ok table after →
    table.get? word = some method →
    Happens start (.method ((environment.enter name.name true).methods middle parent)
      after.heap.classes.size method (after.addClass ⟨name.name, table, parent⟩))

end Lox
