/-
What each node of a tree does when it is run, given how the trees inside it are run. A statement
ends with a flow: a `return`, `break` or `continue` travels outward as a flow until the call or the
loop it belongs to takes it.
-/

import Lox.Evaluation.Operators
import Lox.Machine.State

namespace Lox

/-! ### Flows -/

/-- How a statement finished. -/
inductive Flow where
  | completed
  | returned (value : Value)
  | broke
  | continued
deriving Repr

/-- The flow that a loop control starts. -/
def LoopControl.flow : LoopControl → Flow
  | .break => .broke
  | .continue => .continued

/-- How the trees inside a node are run, and a bound on the passes of a loop. -/
structure Evaluator where
  evaluate : Expression → Run Value
  execute : Statement → Run Flow
  passes : Nat

namespace Evaluator

variable (evaluator : Evaluator)

/-! ### Several trees in a row -/

/-- Statements one after the other, up to the first that does not complete. -/
def executeAll : List Statement → Run Flow
  | [] => return .completed
  | statement :: others => do
    match ← evaluator.execute statement with
    | .completed => executeAll others
    | flow => return flow

/-- Expressions one after the other. -/
def evaluateAll : List Expression → Run (List Value)
  | [] => return []
  | expression :: others => do
    let value ← evaluator.evaluate expression
    return value :: (← evaluateAll others)

/-! ### Variables -/

/-- The value of an occurrence of a name: in the frame at its distance, or else globally. -/
def lookUp (reference : Reference) (name : Identifier) : Run Value := do
  let machine ← get
  let frames := machine.heap.frames
  match machine.distances[reference]? with
  | some distance => .ofExcept (frames.getAt machine.current distance name.name name.line)
  | none => .ofExcept (frames.get Heap.globalFrame name.name name.line)

/-- The frame in which an occurrence of a name is assigned to. -/
def holder (reference : Reference) (name : Identifier) : Run FrameId := do
  let machine ← get
  let frames := machine.heap.frames
  match machine.distances[reference]? with
  | some distance => .ofExcept (frames.holderAt machine.current distance name.name name.line)
  | none => .ofExcept (frames.holder Heap.globalFrame name.name name.line)

/-- Gives an occurrence of a name another value. -/
def assign (reference : Reference) (name : Identifier) (value : Value) : Run Unit := do
  let frame ← holder reference name
  Run.changeHeap fun heap => heap.define frame name.name value

/-! ### Functions and methods -/

/-- Adds a function closed over the current frame. -/
def close (declaration : FunctionDeclaration) : Run FunctionId := do
  let frame := (← get).current
  Run.allocate fun heap => heap.addFunction ⟨declaration, frame, false⟩

/-- A method with its receiver, as a value. -/
def bound (method : FunctionId) (receiver : InstanceId) : Run Value := do
  return .callable (.method (← Run.allocate fun heap => heap.bindMethod method receiver))

/-- A property of a value: a field of an instance, or else a method of its class. -/
def property (object : Value) (name : Identifier) : Run Value := do
  match object with
  | .object id =>
    let heap := (← get).heap
    match (heap.instanceAt id).fields.get? name.name with
    | some value => return value
    | none =>
      match heap.method? (heap.instanceAt id).classId name.name with
      | some method => bound method id
      | none => Run.fail (.undefinedProperty name.name) name.line
  | _ => Run.fail .notAnInstance name.line

/-- The value of `super` with a method name. The superclass is bound in the frame at the distance of
the occurrence, and the receiver one frame nearer. -/
def superMethod (reference : Reference) (keyword method : Identifier) : Run Value := do
  let machine ← get
  let frames := machine.heap.frames
  match machine.distances[reference]? with
  | none => Run.fail (.undefinedVariable keyword.name) keyword.line
  | some distance =>
    let superclass ← .ofExcept (frames.getAt machine.current distance "super" keyword.line)
    let receiver ← .ofExcept (frames.getAt machine.current (distance - 1) "this" keyword.line)
    match superclass, receiver with
    | .callable (.constructor id), .object receiver =>
      match machine.heap.method? id method.name with
      | some found => bound found receiver
      | none => Run.fail (.undefinedProperty method.name) method.line
    | _, _ => Run.fail (.type .superOutsideMethod) keyword.line

/-! ### Calls -/

/-- Runs a function in a new frame that binds its parameters. An initializer gives back its receiver
whatever its body returned. -/
def invoke (id : FunctionId) (arguments : List Value) : Run Value := do
  let function := (← get).heap.function id
  let names := function.declaration.parameters.map Identifier.name
  let frame ← Run.allocate fun heap => heap.addFrame function.closure
  Run.changeHeap fun heap => heap.defineAll frame (names.zip arguments)
  let flow ← Run.within frame (evaluator.executeAll function.declaration.body)
  if function.isInitializer then
    let line := (function.declaration.name.map Identifier.line).getD 0
    .ofExcept ((← get).heap.frames.getAt function.closure 0 "this" line)
  else
    match flow with
    | .returned value => return value
    | _ => return .nil

/-- Makes an instance of a class and runs its initializer, if it has one. -/
def construct (id : ClassId) (arguments : List Value) : Run Value := do
  let receiver ← Run.allocate fun heap => heap.addInstance id
  match (← get).heap.method? id initializerName with
  | some initializer =>
    let method ← Run.allocate fun heap => heap.bindMethod initializer receiver
    let _ ← evaluator.invoke method arguments
    return .object receiver
  | none => return .object receiver

/-- Sets fields, one after the other. -/
def storeAll : List FieldStore → Run Unit
  | [] => return ()
  | store :: others => do
    Run.changeHeap fun heap => heap.setField store.receiver store.name store.value
    storeAll others

/-- Does what a host function does. -/
def carryOut (effect : HostEffect) (line : Nat) : Run Value := do
  storeAll effect.stores
  match effect.answer with
  | .ok value => return value
  | .error message => Run.fail (.native message) line

/-- Runs a native function. -/
def callNative (id : NativeId) (arguments : List Value) (line : Nat) : Run Value := do
  let machine ← get
  match (machine.heap.native id).body with
  | .clock =>
    modify fun machine => { machine with clock := machine.clock.next }
    return .number machine.clock.seconds
  | .host function => carryOut (function.effect machine.heap.view arguments) line

/-- Runs something callable whose arguments have been counted. -/
def perform (callable : Callable) (arguments : List Value) (line : Nat) : Run Value :=
  match callable with
  | .native id => callNative id arguments line
  | .function id => evaluator.invoke id arguments
  | .method id => evaluator.invoke id arguments
  | .constructor id => evaluator.construct id arguments

/-- Calls a value. It must be callable, take as many arguments as it is given, and not be one call
too many, in this order. -/
def call (callee : Value) (arguments : List Value) (line : Nat) : Run Value := do
  match callee with
  | .callable callable =>
    let machine ← get
    let expected := machine.heap.arity callable
    if arguments.length ≠ expected then
      Run.fail (.arityMismatch expected arguments.length) line
    else if maximalCallDepth ≤ machine.callDepth then
      Run.fail .stackOverflow line
    else
      Run.inCall (evaluator.perform callable arguments line)
  | _ => Run.fail .notCallable line

/-! ### Expressions -/

/-- Evaluates an expression by its node. -/
def evaluateNode : Expression → Run Value
  | .literal literal => return literal.value
  | .grouping inner => evaluator.evaluate inner
  | .unary operator line operand => do
    .ofExcept (operator.apply line (← evaluator.evaluate operand))
  | .binary operator line left right => do
    let left ← evaluator.evaluate left
    let right ← evaluator.evaluate right
    .ofExcept (operator.apply line left right)
  | .logical operator left right => do
    let left ← evaluator.evaluate left
    if operator.isDecidedBy left then return left else evaluator.evaluate right
  | .read reference name => lookUp reference name
  | .assign reference name value => do
    let value ← evaluator.evaluate value
    assign reference name value
    return value
  | .call callee line arguments => do
    let callee ← evaluator.evaluate callee
    let arguments ← evaluator.evaluateAll arguments
    evaluator.call callee arguments line
  | .function declaration => do
    return .callable (.function (← close declaration))
  | .get object name => do
    property (← evaluator.evaluate object) name
  | .set object name value => do
    match ← evaluator.evaluate object with
    | .object id =>
      let value ← evaluator.evaluate value
      Run.changeHeap fun heap => heap.setField id name.name value
      return value
    | _ => Run.fail .noFields name.line
  | .this reference keyword => lookUp reference keyword
  | .super reference keyword method => superMethod reference keyword method

/-! ### Loops -/

/-- Repeats a pass until it gives a flow, at most `passes` times. -/
def repeatPass (pass : Run (Option Flow)) : Nat → Run Flow
  | 0 => throw .exhausted
  | passes + 1 => do
    match ← pass with
    | some flow => return flow
    | none => repeatPass pass passes

/-- One pass of a loop: the flow with which the loop ends, or none if it goes on. The increment runs
after every pass that goes on. -/
def pass (condition : Expression) (body : Statement) (increment : Option Statement) :
    Run (Option Flow) := do
  if (← evaluator.evaluate condition).isTruthy then
    match ← evaluator.execute body with
    | .broke => return some .completed
    | .returned value => return some (.returned value)
    | .completed | .continued =>
      match increment with
      | some increment =>
        let _ ← evaluator.execute increment
        return none
      | none => return none
  else
    return some .completed

/-! ### Classes -/

/-- The line at which a superclass that is no class is reported. -/
def superclassLine (name : Identifier) : Expression → Nat
  | .read _ superclass => superclass.line
  | _ => name.line

/-- The superclass of a class declaration, if it names one. -/
def superclass? (name : Identifier) : Option Expression → Run (Option ClassId)
  | none => return none
  | some expression => do
    match ← evaluator.evaluate expression with
    | .callable (.constructor id) => return some id
    | _ => Run.fail (.type .superclass) (superclassLine name expression)

/-- The frame over which the methods of a class are closed: one that binds `super` if there is a
superclass, otherwise the current frame. -/
def methodFrame : Option ClassId → Run FrameId
  | none => return (← get).current
  | some superclass => do
    let current := (← get).current
    let frame ← Run.allocate fun heap => heap.addFrame current
    Run.changeHeap fun heap =>
      heap.define frame "super" (.callable (.constructor superclass))
    return frame

/-- The methods of a class by name, closed over a frame. Of two with one name the later stays. -/
def methodTable (frame : FrameId) :
    List FunctionDeclaration → Bindings FunctionId → Run (Bindings FunctionId)
  | [], table => return table
  | method :: others, table => do
    match method.name with
    | some name =>
      let id ← Run.allocate fun heap => heap.addFunction ⟨method, frame, method.isInitializer⟩
      methodTable frame others (table.write name.name id)
    | none => methodTable frame others table

/-- Declares a class. Its name is bound before its methods are made, and given the class after. -/
def declareClass (name : Identifier) (superclass : Option Expression)
    (methods : List FunctionDeclaration) : Run Unit := do
  let superclass ← evaluator.superclass? name superclass
  Run.define name.name .nil
  let table ← methodTable (← methodFrame superclass) methods .empty
  let id ← Run.allocate fun heap => heap.addClass ⟨name.name, table, superclass⟩
  let machine ← get
  let frame ← .ofExcept (machine.heap.frames.holder machine.current name.name name.line)
  Run.changeHeap fun heap => heap.define frame name.name (.callable (.constructor id))

/-! ### Statements -/

/-- Executes a statement by its node. -/
def executeNode : Statement → Run Flow
  | .expression expression => do
    let _ ← evaluator.evaluate expression
    return .completed
  | .print expression => do
    let value ← evaluator.evaluate expression
    Run.write ((← get).heap.text value ++ "\n")
    return .completed
  | .declareVariable name none => do
    Run.define name.name .nil
    return .completed
  | .declareVariable name (some initializer) => do
    Run.define name.name (← evaluator.evaluate initializer)
    return .completed
  | .block statements => do
    let current := (← get).current
    let frame ← Run.allocate fun heap => heap.addFrame current
    Run.within frame (evaluator.executeAll statements)
  | .conditional condition thenBranch elseBranch => do
    if (← evaluator.evaluate condition).isTruthy then
      evaluator.execute thenBranch
    else
      match elseBranch with
      | some elseBranch => evaluator.execute elseBranch
      | none => return .completed
  | .loop condition body increment =>
    repeatPass (evaluator.pass condition body increment) evaluator.passes
  | .control control _ => return control.flow
  | .declareFunction declaration => do
    let id ← close declaration
    match declaration.name with
    | some name => Run.define name.name (.callable (.function id))
    | none => pure ()
    return .completed
  | .giveBack _ none => return .returned .nil
  | .giveBack _ (some value) => return .returned (← evaluator.evaluate value)
  | .declareClass name superclass methods => do
    evaluator.declareClass name superclass methods
    return .completed

end Evaluator

end Lox
