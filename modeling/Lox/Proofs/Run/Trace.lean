/-
What is written down while a tree runs: each tree that begins and ends, each callable that begins
and is over, and each field that is set, in the order in which they come, with the machine at that
moment. The trace is read off the tree and the machine, part by part in the order of the evaluator,
and goes as far as the run goes, whatever its end.
-/

import Lox.Proofs.Run.Cursor

namespace Lox

/-! ### Moments -/

/-- The machine with a field of an instance set. -/
def Machine.setField (machine : Machine) (receiver : InstanceId) (name : String) (value : Value) :
    Machine :=
  machine.withHeap (machine.heap.setField receiver name value)

/-- A moment of a run, with the machine at that moment. -/
inductive Moment where
  /-- An expression is about to be evaluated. -/
  | evaluation (expression : Expression) (machine : Machine)
  /-- An expression has been evaluated, with a value or not. -/
  | evaluated (expression : Expression) (machine : Machine)
  /-- A statement is about to be executed. -/
  | execution (statement : Statement) (machine : Machine)
  /-- A statement has been executed, up to its end or not. -/
  | executed (statement : Statement) (machine : Machine)
  /-- The callable of a call is about to run. -/
  | begun (callable : Callable) (arguments : List Value) (machine : Machine)
  /-- The callable of a call has run, up to its end or not. -/
  | finished (machine : Machine)
  /-- A field has been set. -/
  | stored (receiver : InstanceId) (name : String) (value : Value) (machine : Machine)

/-- The machine at the moment. -/
def Moment.machine : Moment → Machine
  | .evaluation _ machine => machine
  | .evaluated _ machine => machine
  | .execution _ machine => machine
  | .executed _ machine => machine
  | .begun _ _ machine => machine
  | .finished machine => machine
  | .stored _ _ _ machine => machine

/-- What is written down after a run that gave a result. -/
def Run.thereafter {α : Type} (run : Run α) (machine : Machine)
    (rest : α → Machine → List Moment) : List Moment :=
  match run machine with
  | .ok value after => rest value after
  | .error _ _ => []

/-! ### Nodes -/

/-- How the trees inside a node are run, and what is written down meanwhile. -/
structure Tracer where
  evaluator : Evaluator
  evaluate : Expression → Machine → List Moment
  execute : Statement → Machine → List Moment

namespace Tracer

variable (tracer : Tracer)

/-- Statements one after the other, up to the first that does not complete. -/
def executeAll : List Statement → Machine → List Moment
  | [], _ => []
  | statement :: others, machine =>
    tracer.execute statement machine ++
      (tracer.evaluator.execute statement).thereafter machine fun flow after =>
        match flow with
        | .completed => executeAll others after
        | _ => []

/-- Expressions one after the other. -/
def evaluateAll : List Expression → Machine → List Moment
  | [], _ => []
  | expression :: others, machine =>
    tracer.evaluate expression machine ++
      (tracer.evaluator.evaluate expression).thereafter machine fun _ after =>
        evaluateAll others after

/-- The body of a function, in a new frame that binds its parameters. -/
def invoke (id : FunctionId) (arguments : List Value) (machine : Machine) : List Moment :=
  let function := machine.heap.function id
  tracer.executeAll function.declaration.body (machine.enterCall function arguments)

/-- The initializer of a new instance, if its class has one. -/
def construct (id : ClassId) (arguments : List Value) (machine : Machine) : List Moment :=
  let made := machine.addInstance id
  match made.heap.method? id initializerName with
  | some initializer =>
    tracer.invoke made.heap.functions.size arguments
      (made.bindMethod initializer machine.heap.instances.size)
  | none => []

/-- Fields that are set one after the other. -/
def storeAll : List FieldStore → Machine → List Moment
  | [], _ => []
  | ⟨receiver, name, value⟩ :: others, machine =>
    let after := machine.setField receiver name value
    .stored receiver name value after :: storeAll others after

/-- A native function, which runs no trees. Those of the host may set fields. -/
def callNative (id : NativeId) (arguments : List Value) (machine : Machine) : List Moment :=
  match (machine.heap.native id).body with
  | .clock => []
  | .host function => storeAll (function.effect machine.heap.view arguments).stores machine

/-- Something callable whose arguments have been counted. -/
def perform (callable : Callable) (arguments : List Value) (machine : Machine) : List Moment :=
  match callable with
  | .native id => callNative id arguments machine
  | .function id => tracer.invoke id arguments machine
  | .method id => tracer.invoke id arguments machine
  | .constructor id => tracer.construct id arguments machine

/-- A value is called. Its callable runs if there is one, if it takes as many arguments, and if it
is not one call too many. -/
def call (callee : Value) (arguments : List Value) (line : Nat) (machine : Machine) :
    List Moment :=
  match callee with
  | .callable callable =>
    if arguments.length ≠ machine.heap.arity callable then []
    else if maximalCallDepth ≤ machine.callDepth then []
    else
      let run := tracer.evaluator.perform callable arguments line
      .begun callable arguments machine.countCall ::
        tracer.perform callable arguments machine.countCall ++
          [.finished ((Run.inCall run).left machine)]
  | _ => []

/-- The trees inside an expression. -/
def evaluateNode : Expression → Machine → List Moment
  | .literal _, _ => []
  | .grouping inner, machine => tracer.evaluate inner machine
  | .unary _ _ operand, machine => tracer.evaluate operand machine
  | .binary _ _ left right, machine =>
    tracer.evaluate left machine ++
      (tracer.evaluator.evaluate left).thereafter machine fun _ after =>
        tracer.evaluate right after
  | .logical operator left right, machine =>
    tracer.evaluate left machine ++
      (tracer.evaluator.evaluate left).thereafter machine fun value after =>
        if operator.isDecidedBy value then [] else tracer.evaluate right after
  | .read _ _, _ => []
  | .assign _ _ value, machine => tracer.evaluate value machine
  | .call callee line arguments, machine =>
    tracer.evaluate callee machine ++
      (tracer.evaluator.evaluate callee).thereafter machine fun callee middle =>
        tracer.evaluateAll arguments middle ++
          (tracer.evaluator.evaluateAll arguments).thereafter middle fun values after =>
            tracer.call callee values line after
  | .function _, _ => []
  | .get object _, machine => tracer.evaluate object machine
  | .set object name value, machine =>
    tracer.evaluate object machine ++
      (tracer.evaluator.evaluate object).thereafter machine fun object middle =>
        match object with
        | .object id =>
          tracer.evaluate value middle ++
            (tracer.evaluator.evaluate value).thereafter middle fun value after =>
              [.stored id name.name value (after.setField id name.name value)]
        | _ => []
  | .this _ _, _ => []
  | .super _ _ _, _ => []

/-- One pass of a loop: the condition, the body, and the increment if the loop goes on. -/
def pass (condition : Expression) (body : Statement) (increment : Option Statement)
    (machine : Machine) : List Moment :=
  tracer.evaluate condition machine ++
    (tracer.evaluator.evaluate condition).thereafter machine fun value middle =>
      if value.isTruthy then
        tracer.execute body middle ++
          (tracer.evaluator.execute body).thereafter middle fun flow after =>
            match flow with
            | .broke => []
            | .returned _ => []
            | .completed | .continued =>
              match increment with
              | some increment => tracer.execute increment after
              | none => []
      else []

/-- The passes of a loop, at most `passes` of them. -/
def repeatPass (pass : Run (Option Flow)) (trace : Machine → List Moment) :
    Nat → Machine → List Moment
  | 0, _ => []
  | passes + 1, machine =>
    trace machine ++
      pass.thereafter machine fun ended after =>
        match ended with
        | some _ => []
        | none => repeatPass pass trace passes after

/-- The trees inside a statement. -/
def executeNode : Statement → Machine → List Moment
  | .expression expression, machine => tracer.evaluate expression machine
  | .print expression, machine => tracer.evaluate expression machine
  | .declareVariable _ none, _ => []
  | .declareVariable _ (some initializer), machine => tracer.evaluate initializer machine
  | .block statements, machine => tracer.executeAll statements machine.enterBlock
  | .conditional condition thenBranch elseBranch, machine =>
    tracer.evaluate condition machine ++
      (tracer.evaluator.evaluate condition).thereafter machine fun value after =>
        if value.isTruthy then tracer.execute thenBranch after
        else
          match elseBranch with
          | some elseBranch => tracer.execute elseBranch after
          | none => []
  | .loop condition body increment, machine =>
    repeatPass (tracer.evaluator.pass condition body increment)
      (tracer.pass condition body increment) tracer.evaluator.passes machine
  | .control _ _, _ => []
  | .declareFunction _, _ => []
  | .giveBack _ none, _ => []
  | .giveBack _ (some value), machine => tracer.evaluate value machine
  | .declareClass _ none _, _ => []
  | .declareClass _ (some superclass) _, machine => tracer.evaluate superclass machine

end Tracer

/-! ### Trees -/

/-- The tracer of a depth: a tree is written down when it begins and when it ends, and between these
the trees inside it are. -/
def tracer : Nat → Tracer
  | 0 => ⟨evaluator 0, fun _ _ => [], fun _ _ => []⟩
  | depth + 1 => {
    evaluator := evaluator (depth + 1)
    evaluate := fun expression machine =>
      .evaluation expression machine :: (tracer depth).evaluateNode expression machine ++
        [.evaluated expression ((evaluate (depth + 1) expression).left machine)]
    execute := fun statement machine =>
      .execution statement machine :: (tracer depth).executeNode statement machine ++
        [.executed statement ((execute (depth + 1) statement).left machine)] }

/-- A tracer follows the evaluator of its depth. -/
theorem tracer_evaluator (depth : Nat) : (tracer depth).evaluator = evaluator depth := by
  cases depth <;> rfl

end Lox
