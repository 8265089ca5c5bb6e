/-
No signal leaves its owner. A statement that was found to be contained ends with a flow that
something around it takes, whatever the machine; and all statements that are executed in a session
of accepted sources are contained, since functions are made of nothing but the text of such sources.
So nothing but completion reaches the top level, a loop keeps `break` and `continue` to itself, and
so does a function, which of an initializer gets no value back.
-/

import Lox.Proofs.Scope.Contained
import Lox.Proofs.Run.Recorded

namespace Lox

open Scope

variable {α β : Type} {start : Session} {machine : Machine} {environment : Environment}
  {kind : FunctionKind} {inLoop : Bool}

/-! ### Flows that something takes -/

/-- In a function of the given kind, and in a loop of it or in none, there is something to take the
flow. -/
def Flow.Allowed (kind : FunctionKind) (inLoop : Bool) : Flow → Prop
  | .completed => True
  | .returned value => kind ≠ .none ∧ (kind = .initializer → value = .nil)
  | .broke => inLoop = true
  | .continued => inLoop = true

/-- Outside every loop a flow that is allowed completes or returns. -/
theorem Flow.Allowed.ended {flow : Flow} (allowed : flow.Allowed kind false) :
    flow = .completed ∨
      ∃ value, flow = .returned value ∧ kind ≠ .none ∧ (kind = .initializer → value = .nil) := by
  cases flow with
  | completed => exact .inl rfl
  | returned value => exact .inr ⟨value, rfl, allowed⟩
  | broke => exact absurd allowed Bool.false_ne_true
  | continued => exact absurd allowed Bool.false_ne_true

/-! ### What a run gives -/

namespace Run

/-- On every machine, a result of the run is one of those that are told. -/
def Yields (run : Run α) (holds : α → Prop) : Prop :=
  ∀ machine, Ensures run machine (fun value _ => holds value) fun _ _ => True

namespace Yields

variable {run : Run α} {next : α → Run β} {early : α → Prop} {late : β → Prop}

theorem anything (run : Run α) : run.Yields fun _ => True := by
  intro machine
  unfold Ensures
  split <;> trivial

theorem bind (first : run.Yields early) (rest : ∀ value, early value → (next value).Yields late) :
    (run >>= next).Yields late :=
  fun machine => (first machine).bind fun value after _ holds => rest value holds after

/-- What goes on yields the same whatever the first part gives. -/
theorem after (run : Run α) (rest : ∀ value, (next value).Yields late) :
    (run >>= next).Yields late :=
  (anything run).bind fun value _ => rest value

theorem pure {value : α} (holds : early value) : Yields (Pure.pure value) early :=
  fun _ => holds

theorem within (frame : FrameId) (yields : run.Yields early) :
    (Run.within frame run).Yields early := by
  intro machine
  have inside := yields { machine with current := frame }
  unfold Ensures at inside ⊢
  unfold Run.within
  dsimp only
  split at inside <;> rename_i ended <;> rw [ended] <;> exact inside

end Yields

end Run

/-! ### Statements -/

/-- The statements inside a node end with flows that something around them takes. -/
structure Evaluator.Contains (evaluator : Evaluator) : Prop where
  execute : ∀ {kind inLoop statement}, statement.Contained kind inLoop →
    (evaluator.execute statement).Yields (Flow.Allowed kind inLoop)

namespace Evaluator

open Run.Yields

/-- A loop ends with the flow with which one of its passes ended it. -/
theorem repeatPass_yields {pass : Run (Option Flow)} {holds : Flow → Prop}
    (yields : pass.Yields fun ended => ∀ flow ∈ ended, holds flow) (passes : Nat) :
    (repeatPass pass passes).Yields holds := by
  induction passes with
  | zero => exact fun _ => trivial
  | succ passes inductionHypothesis =>
    refine yields.bind fun ended told => ?_
    cases ended with
    | some flow => exact pure (told flow rfl)
    | none => exact inductionHypothesis

namespace Contains

variable {evaluator : Evaluator}

theorem executeAll (contains : evaluator.Contains) {statements : List Statement}
    (contained : Statement.AllContained kind inLoop statements) :
    (evaluator.executeAll statements).Yields (Flow.Allowed kind inLoop) := by
  induction statements with
  | nil => exact pure trivial
  | cons statement others inductionHypothesis =>
    refine (contains.execute contained.1).bind fun flow allowed => ?_
    cases flow with
    | completed => exact inductionHypothesis contained.2
    | _ => exact pure allowed

/-- The parts of a loop, of which only the body and the increment are inside it. -/
theorem loopParts {condition : Expression} {body : Statement} {increment : Option Statement}
    (contained : (Statement.loop condition body increment).Contained kind inLoop) :
    condition.Contained ∧ body.Contained kind true ∧
      ∀ statement ∈ increment, statement.Contained kind true := by
  cases increment with
  | none => exact ⟨contained.1, contained.2, nofun⟩
  | some increment =>
    refine ⟨contained.1, contained.2.1, fun statement member => ?_⟩
    exact Option.mem_some.mp member ▸ contained.2.2

/-- A loop takes `break` and `continue`, and passes on what returns. -/
theorem pass (contains : evaluator.Contains) {condition : Expression} {body : Statement}
    {increment : Option Statement}
    (contained : (Statement.loop condition body increment).Contained kind inLoop) :
    (evaluator.pass condition body increment).Yields
      fun ended => ∀ flow ∈ ended, flow.Allowed kind false := by
  have ⟨_, inBody, _⟩ := loopParts contained
  refine after _ fun value => ?_
  split
  · refine (contains.execute inBody).bind fun flow allowed => ?_
    split
    · exact pure fun ended isEnd => Option.mem_some.mp isEnd ▸ trivial
    · exact pure fun ended isEnd => Option.mem_some.mp isEnd ▸ allowed
    all_goals
      split
      · exact after _ fun _ => pure nofun
      · exact pure nofun
  · exact pure fun ended isEnd => Option.mem_some.mp isEnd ▸ trivial

theorem loop (contains : evaluator.Contains) {condition : Expression} {body : Statement}
    {increment : Option Statement}
    (contained : (Statement.loop condition body increment).Contained kind inLoop) :
    (evaluator.executeNode (.loop condition body increment)).Yields (Flow.Allowed kind false) :=
  repeatPass_yields (contains.pass contained) evaluator.passes

theorem executeNode (contains : evaluator.Contains) {statement : Statement}
    (contained : statement.Contained kind inLoop) :
    (evaluator.executeNode statement).Yields (Flow.Allowed kind inLoop) := by
  cases statement with
  | expression expression => exact after _ fun _ => pure trivial
  | print expression => exact after _ fun _ => after _ fun _ => after _ fun _ => pure trivial
  | declareVariable name initializer =>
    cases initializer with
    | none => exact after _ fun _ => pure trivial
    | some initializer => exact after _ fun _ => after _ fun _ => pure trivial
  | block statements =>
    exact after _ fun _ => after _ fun frame => within frame (contains.executeAll contained)
  | conditional condition thenBranch elseBranch =>
    cases elseBranch with
    | none =>
      refine after _ fun value => ?_
      split
      · exact contains.execute contained.2
      · exact pure trivial
    | some elseBranch =>
      refine after _ fun value => ?_
      split
      · exact contains.execute contained.2.1
      · exact contains.execute contained.2.2
  | loop condition body increment =>
    intro machine
    refine (contains.loop contained machine).mono (fun flow _ allowed => ?_) fun _ _ _ => trivial
    obtain rfl | ⟨value, rfl, holds⟩ := allowed.ended
    · trivial
    · exact holds
  | control control keyword => cases control <;> exact pure contained
  | declareFunction declaration =>
    refine after _ fun id => ?_
    split
    · exact after _ fun _ => pure trivial
    · exact fun _ => trivial
  | giveBack keyword value =>
    cases value with
    | none => exact pure ⟨contained, fun _ => rfl⟩
    | some value =>
      exact after _ fun _ =>
        pure ⟨contained.1, fun isInitializer => absurd isInitializer contained.2.1⟩
  | declareClass name superclass methods => exact after _ fun _ => pure trivial

end Contains

end Evaluator

/-- Statements that are contained end with flows that something around them takes: an induction on
the depth of the run. -/
theorem evaluator_contains (depth : Nat) : (evaluator depth).Contains := by
  induction depth with
  | zero => exact ⟨fun _ _ => trivial⟩
  | succ depth inductionHypothesis => exact ⟨inductionHypothesis.executeNode⟩

/-! ### Functions -/

/-- A function object contains the signals of its body, those of an initializer if it is one. -/
def FunctionObject.Contained (object : FunctionObject) : Prop :=
  ∃ kind, kind ≠ .none ∧ object.declaration.Contained kind ∧
    (object.isInitializer = true → kind = .initializer)

/-- There is a function at the place, and it contains its signals. -/
def Machine.Contains (machine : Machine) (function : FunctionId) : Prop :=
  ∃ object, machine.heap.functions[function]? = some object ∧ object.Contained

/-- A method that is bound has the text of the method. -/
theorem Machine.Contains.bindMethod {method : FunctionId} (contains : machine.Contains method)
    (receiver : InstanceId) :
    (machine.bindMethod method receiver).Contains machine.heap.functions.size := by
  obtain ⟨object, found, contained⟩ := contains
  refine ⟨{ object with closure := machine.heap.frames.size }, ?_, contained⟩
  rw [← Heap.function_of_some found]
  exact Array.getElem?_push_size

theorem Machine.Contains.later {function : FunctionId} {origin : Machine}
    (contains : origin.Contains function) (precedes : origin.Precedes machine) :
    machine.Contains function := by
  obtain ⟨object, found, contained⟩ := contains
  exact ⟨object, precedes.heap.functions found, contained⟩

/-- The methods in the table of a class were made from the declarations. -/
theorem methodTable_made {frame : FrameId} (methods : List FunctionDeclaration)
    (table : Bindings FunctionId) (machine : Machine) :
    Ensures (Evaluator.methodTable frame methods table) machine
      (fun final after =>
        (∀ {id : FunctionId} {object}, machine.heap.functions[id]? = some object →
          after.heap.functions[id]? = some object) ∧
        ∀ word id, final.get? word = some id → table.get? word = some id ∨
          ∃ declaration ∈ methods, after.heap.functions[id]? =
            some ⟨declaration, frame, declaration.isInitializer⟩)
      fun _ _ => True := by
  induction methods generalizing machine table with
  | nil => exact ⟨fun found => found, fun _ _ found => .inl found⟩
  | cons method others inductionHypothesis =>
    unfold Evaluator.methodTable
    split
    · rename_i word _
      let object : FunctionObject := ⟨method, frame, method.isInitializer⟩
      let added := machine.withHeap (machine.heap.addFunction object).2
      have isThere : added.heap.functions[machine.heap.functions.size]? = some object :=
        Array.getElem?_push_size
      refine (inductionHypothesis (table.write word.name machine.heap.functions.size) added).mono ?_
        fun _ _ _ => trivial
      intro final after ⟨kept, made⟩
      refine ⟨fun found => kept (Heap.push_some found), fun other id found => ?_⟩
      rcases made other id found with written | ⟨declaration, member, isFunction⟩
      · rw [Bindings.get?_write] at written
        split at written
        · cases written
          exact .inr ⟨method, List.mem_cons_self, kept isThere⟩
        · exact .inl written
      · exact .inr ⟨declaration, List.mem_cons_of_mem _ member, isFunction⟩
    · refine (inductionHypothesis table machine).mono ?_ fun _ _ _ => trivial
      intro final after ⟨kept, made⟩
      refine ⟨kept, fun other id found => (made other id found).imp_right ?_⟩
      exact fun ⟨declaration, member, isFunction⟩ =>
        ⟨declaration, List.mem_cons_of_mem _ member, isFunction⟩

/-- The methods that a class declaration makes. -/
theorem makeMethods_made {name : String} {parent : Option ClassId}
    {methods : List FunctionDeclaration} {table : Bindings FunctionId} {after : Machine}
    (made : makeMethods name parent methods machine = .ok table after) {word : String}
    {method : FunctionId} (own : table.get? word = some method) :
    ∃ declaration ∈ methods, ∃ frame, after.heap.functions[method]? =
      some ⟨declaration, frame, declaration.isInitializer⟩ := by
  have ensured : Ensures (makeMethods name parent methods) machine
      (fun table after => ∀ word id, table.get? word = some id →
        ∃ declaration ∈ methods, ∃ frame, after.heap.functions[id]? =
          some ⟨declaration, frame, declaration.isInitializer⟩) fun _ _ => True := by
    refine (Run.Yields.anything _ machine).bind fun _ _ _ _ => ?_
    refine (Run.Yields.anything _ _).bind fun frame _ _ _ => ?_
    refine (methodTable_made methods .empty _).mono ?_ fun _ _ _ => trivial
    intro table after ⟨_, isMade⟩ word id own
    rcases isMade word id own with nothing | ⟨declaration, member, isFunction⟩
    · exact nomatch nothing
    · exact ⟨declaration, member, frame, isFunction⟩
  exact ensured.ok made word method own

/-! ### Everything that happens -/

/-- The trees of an event are contained, and so are its functions. -/
def Event.Contained : Event → Prop
  | .program several _ => Statement.AllContained .none false several
  | .statements _ several _ => ∃ kind inLoop, Statement.AllContained kind inLoop several
  | .execution _ statement _ => ∃ kind inLoop, statement.Contained kind inLoop
  | .pass _ condition body increment _ =>
    ∃ kind inLoop, (Statement.loop condition body increment).Contained kind inLoop
  | .evaluation _ expression _ => expression.Contained
  | .operands _ expressions _ => Expression.AllContained expressions
  | .closing _ function machine => machine.Contains function
  | .method _ _ function machine => machine.Contains function
  | .invocation _ _ _ => True
  | .construction _ _ _ _ _ => True
  | .binding _ _ _ _ => True

theorem Operand.contained {expression inner : Expression} {after : Machine}
    (part : Operand expression machine inner after) (contained : expression.Contained) :
    inner.Contained := by
  cases part with
  | grouping | unary | assigned | object => exact contained
  | left | decisive | callee | target => exact contained.1
  | right _ | undecided _ _ | stored _ => exact contained.2

theorem Statement.Operand.contained {statement : Statement} {inner : Expression} {after : Machine}
    (part : statement.Operand machine inner after) (contained : statement.Contained kind inLoop) :
    inner.Contained := by
  cases part with
  | expression | print => exact contained
  | @condition condition thenBranch elseBranch machine => cases elseBranch <;> exact contained.1
  | returned => exact contained.2.2

theorem Statement.Branch.contained {statement inner : Statement} {after : Machine}
    (part : statement.Branch machine inner after) (contained : statement.Contained kind inLoop) :
    inner.Contained kind inLoop := by
  cases part with
  | @thenBranch condition thenBranch elseBranch machine value after _ _ =>
    cases elseBranch with
    | none => exact contained.2
    | some elseBranch => exact contained.2.1
  | elseBranch _ _ => exact contained.2.2

/-- The methods of a class declaration, with a superclass or without. -/
theorem Statement.Contained.methods {name : Identifier} {superclass : Option Expression}
    {methods : List FunctionDeclaration}
    (contained : (Statement.declareClass name superclass methods).Contained kind inLoop) :
    FunctionDeclaration.AllContained methods := by
  cases superclass with
  | none => exact contained
  | some superclass => exact contained.2

/-- Whatever happens in a session, the trees and functions that are part of it are contained. -/
theorem Happens.contained {event : Event} (happened : Happens start event) : event.Contained := by
  induction happened with
  | program _ resolved => exact resolveProgram_contained resolved
  | loneExpression _ resolved => exact resolveExpression_contained resolved
  | programFirst _ contained => exact ⟨_, _, contained.1⟩
  | programRest _ _ contained => exact contained.2
  | first _ contained =>
    obtain ⟨kind, inLoop, contained⟩ := contained
    exact ⟨kind, inLoop, contained.1⟩
  | rest _ _ contained =>
    obtain ⟨kind, inLoop, contained⟩ := contained
    exact ⟨kind, inLoop, contained.2⟩
  | statementOperand _ part contained =>
    obtain ⟨kind, inLoop, contained⟩ := contained
    exact part.contained contained
  | branch _ part contained =>
    obtain ⟨kind, inLoop, contained⟩ := contained
    exact ⟨kind, inLoop, part.contained contained⟩
  | initializer _ contained =>
    obtain ⟨kind, inLoop, contained⟩ := contained
    exact contained
  | block _ contained => exact contained
  | loop _ contained => exact contained
  | loopCondition _ contained =>
    obtain ⟨kind, inLoop, contained⟩ := contained
    exact (Evaluator.Contains.loopParts contained).1
  | loopBody _ _ _ contained =>
    obtain ⟨kind, inLoop, contained⟩ := contained
    exact ⟨kind, true, (Evaluator.Contains.loopParts contained).2.1⟩
  | loopIncrement _ _ _ _ _ contained =>
    obtain ⟨kind, inLoop, contained⟩ := contained
    exact ⟨kind, true, (Evaluator.Contains.loopParts contained).2.2 _ rfl⟩
  | nextPass _ _ _ _ _ contained => exact contained
  | nextPassAfter _ _ _ _ _ _ contained => exact contained
  | operand _ part contained => exact part.contained contained
  | arguments _ _ contained => exact contained.2
  | firstOperand _ contained => exact contained.1
  | otherOperands _ _ contained => exact contained.2
  | call | construct | constructBinding | constructInvocation | get | super => trivial
  | function _ contained =>
    exact ⟨_, Array.getElem?_push_size, .function, nofun, contained, nofun⟩
  | declaredFunction _ _ contained =>
    obtain ⟨kind, inLoop, contained⟩ := contained
    exact ⟨_, Array.getElem?_push_size, .function, nofun, contained, nofun⟩
  | bound _ _ precedes _ contains => exact (contains.later precedes).bindMethod _
  | body _ _ precedes _ contains =>
    obtain ⟨object, found, kind, _, contained, _⟩ := contains.later precedes
    refine ⟨kind, false, ?_⟩
    rw [Heap.function_of_some found]
    obtain ⟨⟨name, parameters, body⟩, closure, isInitializer⟩ := object
    exact contained
  | superclass _ contained =>
    obtain ⟨kind, inLoop, contained⟩ := contained
    exact contained.1
  | method _ _ made own contained =>
    obtain ⟨kind, inLoop, contained⟩ := contained
    obtain ⟨declaration, member, frame, isFunction⟩ := makeMethods_made made own
    refine ⟨_, isFunction, methodKind declaration, ?_, contained.methods.of_mem member, ?_⟩
    · unfold methodKind
      split <;> nofun
    · exact fun isInitializer => if_pos isInitializer

/-! ### Calls -/

/-- A function that is called was closed over an environment before. -/
theorem Happens.closedBefore {function : FunctionId} {arguments : List Value}
    (started : start.Sound start)
    (happened : Happens start (.invocation function arguments machine)) :
    ∃ environment origin, Happens start (.closing environment function origin) ∧
      origin.Precedes machine := by
  cases happened with
  | call happened ended allEnded isFunction _ _ =>
    obtain ⟨limit, _, good, _⟩ :=
      Session.Bears.called (Session.bears started happened) happened ended allEnded
    rcases isFunction with rfl | rfl <;>
    · obtain ⟨environment, origin, closed, precedes, _⟩ := good
      exact ⟨environment, origin, closed, precedes⟩
  | constructInvocation happened =>
    obtain ⟨limit, sound, made, isInstance, _⟩ := Session.bears started happened
    have ⟨_, environment, origin, closed, precedes, _⟩ :=
      Watch.bindMethod_closed sound (.constructBinding happened) made isInstance
    exact ⟨environment, origin, closed, precedes⟩

theorem Happens.contains {function : FunctionId} {arguments : List Value}
    (started : start.Sound start)
    (happened : Happens start (.invocation function arguments machine)) :
    machine.Contains function := by
  obtain ⟨environment, origin, closed, precedes⟩ := happened.closedBefore started
  exact closed.contained.later precedes

/-- A bound method is marked as an initializer just when it is declared as one. -/
theorem Happens.isInitializer_bound {declaring : ClassId} {method : FunctionId}
    {receiver : InstanceId} (started : start.Sound start)
    (happened : Happens start (.binding declaring method receiver machine)) :
    ((machine.bindMethod method receiver).heap.function machine.heap.functions.size).isInitializer =
      (machine.heap.function method).declaration.isInitializer := by
  obtain ⟨limit, _, ⟨environment, origin, wasMade, precedes, _⟩, _⟩ :=
    Session.bears started happened
  rw [show (machine.bindMethod method receiver).heap.function machine.heap.functions.size = _ from
    Heap.function_bindMethod machine.heap method receiver]
  cases wasMade with
  | method _ _ made own =>
    obtain ⟨declaration, _, frame, isFunction⟩ := makeMethods_made made own
    rw [Heap.function_of_some (precedes.heap.functions isFunction)]

/-- In a session of accepted sources, whatever statement is executed, in whatever function: a
statement at the top level completes; a loop completes or returns; the body of a function completes
or returns, and that of an initializer returns `nil`. The bound methods that are marked as
initializers are those that are declared as `init` in a class. Every statement that is executed in a
session is such a one. -/
theorem signals_contained (capacity : Option Nat) (clock : Clock) :
    (∀ statement others machine,
      Happens (.start capacity clock) (.program (statement :: others) machine) →
      ∀ depth flow after, execute depth statement machine = .ok flow after → flow = .completed) ∧
    (∀ environment condition body increment machine,
      Happens (.start capacity clock)
        (.execution environment (.loop condition body increment) machine) →
      ∀ depth flow after,
        execute depth (.loop condition body increment) machine = .ok flow after →
        flow = .completed ∨ ∃ value, flow = .returned value) ∧
    (∀ function arguments machine,
      Happens (.start capacity clock) (.invocation function arguments machine) →
      ∀ object, object = machine.heap.function function →
      ∀ depth flow after,
        (evaluator depth).executeAll object.declaration.body (machine.enterCall object arguments) =
          .ok flow after →
        flow = .completed ∨
          ∃ value, flow = .returned value ∧ (object.isInitializer = true → value = .nil)) ∧
    (∀ declaring method receiver machine,
      Happens (.start capacity clock) (.binding declaring method receiver machine) →
      ((machine.bindMethod method receiver).heap.function
          machine.heap.functions.size).isInitializer =
        (machine.heap.function method).declaration.isInitializer) ∧
    (Session.start capacity clock).OnlyHappens := by
  have started := Session.start_sound (.start capacity clock) capacity clock
  refine ⟨?_, ?_, ?_, fun _ _ _ _ happened => happened.isInitializer_bound started,
    started.onlyHappens⟩
  · intro statement others machine happened depth flow after ended
    have contained : Statement.AllContained .none false (statement :: others) := happened.contained
    have allowed := ((evaluator_contains depth).execute contained.1 machine).ok ended
    rcases allowed.ended with completed | ⟨value, _, inFunction, _⟩
    · exact completed
    · exact absurd rfl inFunction
  · intro environment condition body increment machine happened depth flow after ended
    obtain ⟨kind, inLoop, contained⟩ := happened.contained
    cases depth with
    | zero => exact nomatch ended
    | succ depth =>
      have allowed := ((evaluator_contains depth).loop contained machine).ok ended
      exact allowed.ended.imp_right fun ⟨value, returned, _⟩ => ⟨value, returned⟩
  · rintro function arguments machine happened object rfl depth flow after ended
    obtain ⟨object, found, kind, _, contained, isInitializer⟩ := happened.contains started
    rw [Heap.function_of_some found] at ended ⊢
    obtain ⟨⟨name, parameters, body⟩, closure, marked⟩ := object
    have allowed := ((evaluator_contains depth).executeAll contained _).ok ended
    refine allowed.ended.imp_right fun ⟨value, returned, _, givesNothing⟩ => ?_
    exact ⟨value, returned, fun isMarked => givesNothing (isInitializer isMarked)⟩

/-- A class whose initializer returns out of a loop is called. -/
theorem signals_contained_initializer :
    ∃ (statement : Statement) (others : List Statement) (condition : Expression) (body : Statement)
      (increment : Option Statement) (function : FunctionId) (receiver : InstanceId)
      (environment : Environment) (top bound called inside : Machine),
      Happens (.start none ⟨0⟩) (.program (statement :: others) top) ∧
      (∃ flow after, execute 1 statement top = .ok flow after ∧ flow = .completed) ∧
      Happens (.start none ⟨0⟩)
        (.execution environment (.loop condition body increment) inside) ∧
      (∃ flow after, execute 2 (.loop condition body increment) inside = .ok flow after ∧
        (flow = .completed ∨ ∃ value, flow = .returned value)) ∧
      Happens (.start none ⟨0⟩) (.invocation function [] called) ∧
      (∃ flow after, (evaluator 2).executeAll (called.heap.function function).declaration.body
          (called.enterCall (called.heap.function function) []) = .ok flow after ∧
        (flow = .completed ∨ ∃ value, flow = .returned value ∧
          ((called.heap.function function).isInitializer = true → value = .nil))) ∧
      Happens (.start none ⟨0⟩) (.binding 0 0 receiver bound) ∧
      ((bound.bindMethod 0 receiver).heap.function bound.heap.functions.size).isInitializer =
        true := by
  let loop : Statement := .loop (.literal (.boolean true)) (.giveBack ⟨"return", 1⟩ none) none
  let initializer : FunctionDeclaration := ⟨some ⟨"init", 1⟩, [], [loop]⟩
  have read : ((Session.start none ⟨0⟩).after []).readProgram
      "class A { init() { while (true) return; } } A();" =
      (.ok [.declareClass ⟨"A", 1⟩ none [initializer],
        .expression (.call (.read 0 ⟨"A", 1⟩) 1 [])], _) := rfl
  have first := Happens.program read rfl
  -- the machine when there is the class
  let heap : Heap := ⟨⟨#[⟨⟨[("clock", .callable (.native 0)), ("A", .callable (.constructor 0))]⟩,
    none⟩]⟩, #[⟨initializer, 0, true⟩], #[⟨"A", ⟨[("init", 0)]⟩, none⟩], #[],
    #[⟨"clock", 0, .clock⟩]⟩
  let machine : Machine := ⟨heap, 0, 0, ∅, .empty none, ⟨0⟩⟩
  have second : Happens _ (.program _ machine) := .programRest first ⟨1, rfl⟩
  have method : Happens _ (.method _ 0 0 _) := @Happens.method _ _ _ _ _ _ none _
    ⟨[("init", 0)]⟩ _ "init" _ (.programFirst first) (.none _) rfl rfl
  have called := Happens.statementOperand (.programFirst second) .expression
  have constructed := Happens.construct called
    (⟨1, rfl⟩ : Evaluates _ _ (.callable (.constructor 0)) _) (.nil _) rfl (by decide)
    ⟨rfl, .refl _, rfl⟩
  have binding := Happens.constructBinding constructed
  have invoked := Happens.constructInvocation constructed
  -- since the method was made, the class was bound and the instance was added
  have closing := Happens.bound binding method
    ⟨((Heap.Precedes.refl _).define 0 "A" (.callable (.constructor 0))
      (.inr (.inl rfl))).addInstance 0, fun _ => .refl _ _⟩
  have inLoop := Happens.first (.body invoked closing ⟨.refl _, fun _ => .refl _ _⟩)
  have ⟨topLevel, loops, bodies, marked, _⟩ := signals_contained none ⟨0⟩
  exact ⟨_, _, _, _, _, _, _, _, _, _, _, _, first,
    ⟨.completed, machine, rfl, topLevel _ _ _ first 1 .completed machine rfl⟩, inLoop,
    ⟨.returned .nil, _, rfl, loops _ _ _ _ _ inLoop 2 (.returned .nil) _ rfl⟩, invoked,
    ⟨.returned .nil, _, rfl, bodies _ _ _ invoked _ rfl 2 (.returned .nil) _ rfl⟩, binding,
    marked _ _ _ _ binding⟩

end Lox
