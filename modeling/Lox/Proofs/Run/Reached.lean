/-
The states that are reached from a machine before its first program: by all that can be asked of a
session, and by everything that happens in one, in the middle of whatever run. Each of them stands,
and so do the values, functions and trees that take part in what happens.
-/

import Lox.Proofs.Run.Proceeds
import Lox.Proofs.Run.Requests

namespace Lox

variable {dialect wider : Dialect} {machine before after : Machine}

/-! ### Wider dialects -/

section

variable (includes : ∀ constituent, dialect.has constituent → wider.has constituent)

include includes

theorem Value.Stands.mono {value : Value} {heap : Heap} (stands : value.Stands dialect heap) :
    value.Stands wider heap := by
  match value, stands with
  | .callable (.native _), present => exact present
  | .callable (.function _), isFunction => exact isFunction
  | .callable (.method _), ⟨isMethod, isBound⟩ => exact ⟨isMethod, isBound.imp_left (includes _)⟩
  | .callable (.constructor _), present => exact present
  | .object _, present => exact present
  | .nil, _ | .boolean _, _ | .number _, _ | .string _, _ => trivial

theorem Heap.Change.mono {heap later : Heap} (change : heap.Change dialect later) :
    heap.Change wider later := by
  cases change with
  | define present isThere free =>
    exact .define present (isThere.mono includes) (free.imp_left (includes _))
  | addFrame present => exact .addFrame present
  | addFunction present isTree => exact .addFunction present (includes _ isTree)
  | addClass older methods => exact .addClass older methods
  | addInstance present => exact .addInstance present
  | setField isThere => exact .setField (isThere.mono includes)
  | addNative native => exact .addNative native

theorem Machine.Chain.mono (chain : before.Chain dialect after) : before.Chain wider after := by
  induction chain with
  | refl => exact .refl before
  | tail _ change inductionHypothesis =>
    refine inductionHypothesis.trans (.single ?_)
    cases change with
    | heap change => exact .heap (change.mono includes)
    | move present => exact .move present
    | aside sameHeap sameFrame => exact .aside sameHeap sameFrame

end

/-! ### Reached states -/

/-- The machine is reached by changes from one before its first program. -/
def Machine.Reached (dialect : Dialect) (machine : Machine) : Prop :=
  ∃ capacity clock, (Machine.start capacity clock).Chain dialect machine

/-- A native function is added and bound globally. -/
theorem Heap.defineNative_chain {heap : Heap} (native : NativeFunction)
    (outermost : globalFrame < heap.frames.size) :
    heap.Chain dialect (heap.defineNative native) := by
  refine .head (.addNative native) (.single (.define outermost ?_ (.inr (.inl rfl))))
  exact Nat.lt_of_lt_of_eq (Nat.lt_succ_self _) (Array.size_push _).symm

/-- Before the first program there are the global frame and the clock. -/
theorem Machine.start_stands (capacity : Option Nat) (clock : Clock) :
    (Machine.start capacity clock).Stands dialect := by
  have alone : Heap.start.Stands dialect := by
    refine ⟨Nat.zero_lt_one, fun enclosed => ?_, fun bound => ?_, ?_, ?_, ?_, ?_, ?_, ?_⟩
    · change (Frames.empty.add none).enclosing? _ = _ at enclosed
      rw [Frames.enclosing?_add] at enclosed
      split at enclosed
      · exact nomatch enclosed
      · exact absurd (Frames.lt_size_of_enclosing? enclosed) (Nat.not_lt_zero _)
    · have bound := (Frames.read?_add Frames.empty none _ _).symm.trans bound
      exact absurd (Frames.lt_size_of_read? bound) (Nat.not_lt_zero _)
    all_goals exact fun found => nomatch found
  have chain : Heap.start.Chain dialect (Heap.start.defineNative ⟨"clock", 0, .clock⟩) :=
    Heap.defineNative_chain _ alone.outermost
  exact ⟨chain.stands alone, Nat.lt_of_lt_of_le alone.outermost chain.extends.frames⟩

namespace Machine

theorem Reached.stands (reached : machine.Reached dialect) : machine.Stands dialect := by
  obtain ⟨capacity, clock, chain⟩ := reached
  exact chain.stands (start_stands capacity clock)

theorem Reached.later (reached : before.Reached dialect) (chain : before.Chain dialect after) :
    after.Reached dialect := by
  obtain ⟨capacity, clock, early⟩ := reached
  exact ⟨capacity, clock, early.trans chain⟩

theorem Reached.mono (includes : ∀ constituent, dialect.has constituent → wider.has constituent)
    (reached : machine.Reached dialect) : machine.Reached wider := by
  obtain ⟨capacity, clock, chain⟩ := reached
  exact ⟨capacity, clock, chain.mono includes⟩

/-- Runs of trees of the dialect and new native functions are chains of changes. -/
theorem Ran.chain (ran : Machine.Ran dialect before after) (stands : before.Stands dialect) :
    before.Chain dialect after := by
  induction ran with
  | refl => exact .refl before
  | native native _ early =>
    exact early.trans
      (.ofHeap (Heap.defineNative_chain native (early.stands stands).heap.outermost))
  | evaluate depth _ isTree early =>
    exact early.trans
      (((evaluator_proceeds dialect depth).evaluate isTree).chain (early.stands stands))
  | execute depth _ isTree early =>
    exact early.trans
      (((evaluator_proceeds dialect depth).execute isTree).chain (early.stands stands))

/-- Distances are no concern of the heap. -/
theorem learn_chain (machine : Machine) (distances : Scope.Distances) :
    machine.Chain dialect (machine.learn distances) :=
  .aside rfl rfl

end Machine

/-! ### Steps of the history -/

namespace Machine.Chain

theorem define (stands : machine.Stands dialect) {name : String} {value : Value}
    (isName : dialect.has (.binding name)) (isThere : value.Stands dialect machine.heap) :
    machine.Chain dialect (machine.define name value) :=
  .ofHeap (.single (.define stands.current isThere (.inl isName)))

theorem close (stands : machine.Stands dialect) {declaration : FunctionDeclaration}
    (isTree : dialect.has (.function declaration)) :
    machine.Chain dialect (machine.close declaration) :=
  .ofHeap (.single (.addFunction stands.current isTree))

theorem addInstance {id : ClassId} (present : id < machine.heap.classes.size) :
    machine.Chain dialect (machine.addInstance id) :=
  .ofHeap (.single (.addInstance present))

theorem bindMethod (stands : machine.Stands dialect) {method : FunctionId}
    {receiver : InstanceId} (isMethod : machine.heap.IsMethod method)
    (isThere : receiver < machine.heap.instances.size) :
    machine.Chain dialect (machine.bindMethod method receiver) :=
  .ofHeap (Heap.bindMethod_chain stands.heap isMethod isThere)

theorem enterBlock (stands : machine.Stands dialect) :
    machine.Chain dialect machine.enterBlock :=
  have opened : machine.Chain dialect
      (machine.withHeap (machine.heap.addFrame machine.current).2) :=
    .ofHeap (.single (.addFrame stands.current))
  opened.trans (.move (Heap.lt_size_addFrame _ _))

theorem enterCall (stands : machine.Stands dialect) {id : FunctionId} {arguments : List Value}
    (present : id < machine.heap.functions.size)
    (areThere : ∀ value ∈ arguments, value.Stands dialect machine.heap) :
    machine.Chain dialect (machine.enterCall (machine.heap.function id) arguments) := by
  refine (ofHeap (Heap.openCall_chain stands.heap present areThere)).trans (.move ?_)
  exact Nat.lt_of_lt_of_eq (Nat.lt_succ_self _) (Heap.openFrame_size _ _ _).symm

end Machine.Chain

/-! ### Sessions -/

namespace Session

variable {session : Session}

theorem serve_chain (stands : session.machine.Stands .spelled) (request : Request) :
    session.machine.Chain .spelled (session.serve request).machine :=
  have learned := session.machine.learn_chain (session.recorded request)
  learned.trans ((session.serve_ran request).chain (learned.stands stands))

theorem serveAll_chain (stands : session.machine.Stands .spelled) (requests : List Request) :
    session.machine.Chain .spelled (session.serveAll requests).machine := by
  induction requests generalizing session with
  | nil => exact .refl session.machine
  | cons request others inductionHypothesis =>
    have first := serve_chain stands request
    exact first.trans (inductionHypothesis (first.stands stands))

theorem serveAll_reached (capacity : Option Nat) (clock : Clock) (requests : List Request) :
    ((start capacity clock).serveAll requests).machine.Reached .spelled :=
  have stands : (start capacity clock).machine.Stands .spelled :=
    Machine.start_stands capacity clock
  ⟨capacity, clock, serveAll_chain stands requests⟩

/-- The steps of a session are requests. -/
theorem after_reached (capacity : Option Nat) (clock : Clock) (steps : List Step) :
    ((start capacity clock).after steps).machine.Reached .spelled := by
  have same : (start capacity clock).after steps =
      (start capacity clock).serveAll (steps.map .step) := by
    rw [serveAll, List.foldl_map]
    rfl
  exact same ▸ serveAll_reached capacity clock (steps.map .step)

end Session

/-! ### Results -/

/-- A tree of the dialect leads from one reached state to another, with a value that refers to
something there. -/
theorem Evaluates.reached {expression : Expression} {value : Value}
    (evaluates : Evaluates expression before value after)
    (isTree : dialect.has (.expression expression)) (reached : before.Reached dialect) :
    after.Reached dialect ∧ before.Chain dialect after ∧ value.Stands dialect after.heap := by
  obtain ⟨depth, ended⟩ := evaluates
  have ⟨chain, isThere⟩ :=
    ((evaluator_proceeds dialect depth).evaluate isTree).ok reached.stands ended
  exact ⟨reached.later chain, chain, isThere⟩

theorem Executes.reached {statement : Statement} {flow : Flow}
    (executes : Executes statement before flow after)
    (isTree : dialect.has (.statement statement)) (reached : before.Reached dialect) :
    after.Reached dialect := by
  obtain ⟨depth, ended⟩ := executes
  have ⟨chain, _⟩ := ((evaluator_proceeds dialect depth).execute isTree).ok reached.stands ended
  exact reached.later chain

theorem EvaluatesAll.reached {expressions : List Expression} {values : List Value}
    (evaluates : EvaluatesAll expressions before values after)
    (areTrees : ∀ expression ∈ expressions, dialect.has (.expression expression))
    (reached : before.Reached dialect) :
    after.Reached dialect ∧ before.Chain dialect after ∧
      ∀ value ∈ values, value.Stands dialect after.heap := by
  induction evaluates with
  | nil machine => exact ⟨reached, .refl machine, fun _ member => absurd member List.not_mem_nil⟩
  | @cons expression others _ _ _ _ _ first _ inductionHypothesis =>
    have ⟨reachedMiddle, chain, isThere⟩ :=
      first.reached (areTrees expression List.mem_cons_self) reached
    have ⟨reachedLast, further, areThere⟩ := inductionHypothesis
      (fun other member => areTrees other (List.mem_cons_of_mem expression member)) reachedMiddle
    refine ⟨reachedLast, chain.trans further, fun value member => ?_⟩
    rcases List.mem_cons.mp member with rfl | inOthers
    · exact isThere.later further.extends
    · exact areThere value inOthers

theorem NamesParent.reached {superclass : Option Expression} {parent : Option ClassId}
    (names : NamesParent superclass before parent after)
    (areTrees : ∀ expression ∈ superclass, dialect.has (.expression expression))
    (reached : before.Reached dialect) :
    after.Reached dialect ∧ ∀ id ∈ parent, id < after.heap.classes.size := by
  cases names with
  | none machine => exact ⟨reached, fun _ member => nomatch member⟩
  | some evaluates =>
    have ⟨reached, _, isThere⟩ := evaluates.reached (areTrees _ rfl) reached
    exact ⟨reached, fun _ isParent => Option.some.inj isParent ▸ isThere⟩

/-! ### Parts of nodes -/

theorem Operand.reached {expression inner : Expression}
    (operand : Operand expression before inner after)
    (isTree : dialect.has (.expression expression)) (reached : before.Reached dialect) :
    after.Reached dialect ∧ dialect.has (.expression inner) := by
  have part {constituent : Constituent}
      (isPart : constituent ∈ (Constituent.expression expression).parts) :
      dialect.has constituent := dialect.closed isTree isPart
  cases operand with
  | grouping | unary | left | decisive | assigned | callee | object | target =>
    exact ⟨reached, part (.head _)⟩
  | right first | undecided first _ | stored first =>
    exact ⟨(first.reached (part (.head _)) reached).1, part (.tail _ (.head _))⟩

theorem Statement.Operand.reached {statement : Statement} {inner : Expression}
    (operand : statement.Operand before inner after)
    (isTree : dialect.has (.statement statement)) (reached : before.Reached dialect) :
    after.Reached dialect ∧ dialect.has (.expression inner) := by
  cases operand with
  | expression | print | condition | returned =>
    exact ⟨reached, dialect.closed isTree (.head _)⟩

theorem Statement.Branch.reached {statement inner : Statement}
    (branch : statement.Branch before inner after)
    (isTree : dialect.has (.statement statement)) (reached : before.Reached dialect) :
    after.Reached dialect ∧ dialect.has (.statement inner) := by
  have part {constituent : Constituent}
      (isPart : constituent ∈ (Constituent.statement statement).parts) :
      dialect.has constituent := dialect.closed isTree isPart
  cases branch with
  | thenBranch condition _ =>
    exact ⟨(condition.reached (part (.head _)) reached).1, part (.tail _ (.head _))⟩
  | elseBranch condition _ =>
    exact ⟨(condition.reached (part (.head _)) reached).1, part (.tail _ (.tail _ (.head _)))⟩

/-! ### Events -/

/-- The state in which an event happens. -/
def Event.state : Event → Machine
  | .program _ state => state
  | .statements _ _ state => state
  | .execution _ _ state => state
  | .pass _ _ _ _ state => state
  | .evaluation _ _ state => state
  | .operands _ _ state => state
  | .invocation _ _ state => state
  | .construction _ _ _ _ state => state
  | .binding _ _ _ state => state
  | .closing _ _ state => state
  | .method _ _ _ state => state

/-- The trees of an event are of the dialect, and the places and values in it refer to something. -/
def Event.Stands (dialect : Dialect) : Event → Prop
  | .program trees _ => ∀ statement ∈ trees, dialect.has (.statement statement)
  | .statements _ trees _ => ∀ statement ∈ trees, dialect.has (.statement statement)
  | .execution _ statement _ => dialect.has (.statement statement)
  | .pass _ condition body increment _ =>
    dialect.has (.statement (.loop condition body increment))
  | .evaluation _ expression _ => dialect.has (.expression expression)
  | .operands _ expressions _ => ∀ expression ∈ expressions, dialect.has (.expression expression)
  | .invocation function arguments state =>
    function < state.heap.functions.size ∧ ∀ value ∈ arguments, value.Stands dialect state.heap
  | .construction _ function receiver arguments state =>
    state.heap.IsMethod function ∧ receiver < state.heap.instances.size ∧
      ∀ value ∈ arguments, value.Stands dialect state.heap
  | .binding _ function receiver state =>
    state.heap.IsMethod function ∧ receiver < state.heap.instances.size
  | .closing _ _ _ => True
  | .method _ _ _ _ => True

/-- The machine of a loop after its condition. -/
theorem Evaluates.loopCondition {condition : Expression} {body : Statement}
    {increment : Option Statement} {value : Value}
    (evaluates : Evaluates condition before value after)
    (isTree : dialect.has (.statement (.loop condition body increment)))
    (reached : before.Reached dialect) : after.Reached dialect :=
  (evaluates.reached (dialect.closed isTree (.head _)) reached).1

/-- The machine of a loop after its body. -/
theorem Executes.loopBody {condition : Expression} {body : Statement}
    {increment : Option Statement} {value : Value} {middle : Machine} {flow : Flow}
    (executes : Executes body middle flow after)
    (evaluates : Evaluates condition before value middle)
    (isTree : dialect.has (.statement (.loop condition body increment)))
    (reached : before.Reached dialect) : after.Reached dialect :=
  executes.reached (dialect.closed isTree (.tail _ (.head _)))
    (evaluates.loopCondition isTree reached)

/-- What is called, and with what, when both have been evaluated. -/
theorem EvaluatesAll.called {callee : Expression} {line : Nat} {arguments : List Expression}
    {middle : Machine} {value : Value} {values : List Value}
    (evaluatesAll : EvaluatesAll arguments middle values after)
    (evaluates : Evaluates callee before value middle)
    (isTree : dialect.has (.expression (.call callee line arguments)))
    (reached : before.Reached dialect) :
    after.Reached dialect ∧ value.Stands dialect after.heap ∧
      ∀ value ∈ values, value.Stands dialect after.heap := by
  have ⟨reachedMiddle, _, isThere⟩ :=
    evaluates.reached (dialect.closed isTree (.head _)) reached
  have ⟨reachedLast, chain, areThere⟩ := evaluatesAll.reached (fun argument member =>
    dialect.closed isTree (.tail _ (List.mem_map_of_mem member))) reachedMiddle
  exact ⟨reachedLast, isThere.later chain.extends, areThere⟩

/-- Whatever happens in a session happens in a reached state. -/
theorem Happens.reached {capacity : Option Nat} {clock : Clock} {event : Event}
    (happened : Happens (.start capacity clock) event) :
    event.state.Reached .spelled ∧ event.Stands .spelled := by
  induction happened with
  | @program steps _ _ _ distances read _ =>
    obtain ⟨_, rfl, shaped, _⟩ := Session.readProgram_read read
    have reached := Session.after_reached capacity clock steps
    exact ⟨reached.later (Machine.learn_chain _ distances), fun _ member => shaped.of_mem member⟩
  | @loneExpression steps _ _ _ distances read _ =>
    obtain ⟨_, rfl, shaped, _⟩ := Session.readExpression_read read
    have reached := Session.after_reached capacity clock steps
    exact ⟨reached.later (Machine.learn_chain _ distances), shaped⟩
  | programFirst _ before => exact ⟨before.1, before.2 _ List.mem_cons_self⟩
  | programRest _ executes before =>
    exact ⟨executes.reached (before.2 _ List.mem_cons_self) before.1,
      fun other member => before.2 other (List.mem_cons_of_mem _ member)⟩
  | first _ before => exact ⟨before.1, before.2 _ List.mem_cons_self⟩
  | rest _ executes before =>
    exact ⟨executes.reached (before.2 _ List.mem_cons_self) before.1,
      fun other member => before.2 other (List.mem_cons_of_mem _ member)⟩
  | statementOperand _ operand before => exact operand.reached before.2 before.1
  | branch _ branch before => exact branch.reached before.2 before.1
  | initializer _ before =>
    exact ⟨before.1, Dialect.spelled.closed before.2 (.tail _ (.head _))⟩
  | block _ before =>
    exact ⟨before.1.later (.enterBlock before.1.stands), fun statement member =>
      Dialect.spelled.closed before.2 (List.mem_map_of_mem member)⟩
  | loop _ before => exact before
  | loopCondition _ before => exact ⟨before.1, Dialect.spelled.closed before.2 (.head _)⟩
  | loopBody _ condition _ before =>
    exact ⟨condition.loopCondition before.2 before.1,
      Dialect.spelled.closed before.2 (.tail _ (.head _))⟩
  | loopIncrement _ condition _ body _ before =>
    exact ⟨body.loopBody condition before.2 before.1,
      Dialect.spelled.closed before.2 (.tail _ (.tail _ (.head _)))⟩
  | nextPass _ condition _ body _ before =>
    exact ⟨body.loopBody condition before.2 before.1, before.2⟩
  | nextPassAfter _ condition _ body _ increment before =>
    exact ⟨increment.reached (Dialect.spelled.closed before.2 (.tail _ (.tail _ (.head _))))
      (body.loopBody condition before.2 before.1), before.2⟩
  | operand _ operand before => exact operand.reached before.2 before.1
  | arguments _ callee before =>
    exact ⟨(callee.reached (Dialect.spelled.closed before.2 (.head _)) before.1).1,
      fun argument member =>
        Dialect.spelled.closed before.2 (.tail _ (List.mem_map_of_mem member))⟩
  | firstOperand _ before => exact ⟨before.1, before.2 _ List.mem_cons_self⟩
  | otherOperands _ evaluates before =>
    exact ⟨(evaluates.reached (before.2 _ List.mem_cons_self) before.1).1,
      fun other member => before.2 other (List.mem_cons_of_mem _ member)⟩
  | call _ callee operands isFunction _ _ before =>
    have ⟨reached, isThere, areThere⟩ := operands.called callee before.2 before.1
    refine ⟨reached.later (.aside rfl rfl), ?_, areThere⟩
    rcases isFunction with rfl | rfl
    · obtain ⟨_, found, _⟩ := isThere
      exact (Array.getElem?_eq_some_iff.mp found).1
    · exact isThere.1.lt_size
  | @construct _ _ _ _ _ id _ _ after _ _ _ callee operands _ _ finds before =>
    have ⟨reached, isThere, areThere⟩ := operands.called callee before.2 before.1
    have counted : after.Chain .spelled after.countCall := .aside rfl rfl
    have isClass : id < after.countCall.heap.classes.size := isThere
    have made : after.countCall.Chain .spelled (after.countCall.addInstance id) :=
      .addInstance isClass
    have reachedNew := (reached.later counted).later made
    refine ⟨reachedNew, reachedNew.stands.heap.isMethod finds.found, ?_, fun value member =>
      (areThere value member).later (counted.trans made).extends⟩
    exact Nat.lt_of_lt_of_eq (Nat.lt_succ_self _) (Array.size_push _).symm
  | constructBinding _ before => exact ⟨before.1, before.2.1, before.2.2.1⟩
  | constructInvocation _ before =>
    obtain ⟨reached, isMethod, isThere, areThere⟩ := before
    have chain := Machine.Chain.bindMethod reached.stands isMethod isThere
    refine ⟨reached.later chain, ?_, fun value member =>
      (areThere value member).later chain.extends⟩
    exact (Array.getElem?_eq_some_iff.mp (Heap.bindMethod_function? _ _ _)).1
  | get _ object _ finds before =>
    have ⟨reached, _, isThere⟩ :=
      object.reached (Dialect.spelled.closed before.2 (.head _)) before.1
    exact ⟨reached, reached.stands.heap.isMethod finds.found, isThere⟩
  | super _ _ _ isThis finds before =>
    have stands := before.1.stands.heap
    exact ⟨before.1, stands.isMethod finds.found, stands.found (Frames.getAt_read? isThis)⟩
  | function _ before =>
    exact ⟨before.1.later (.close before.1.stands (Dialect.spelled.closed before.2 (.head _))),
      trivial⟩
  | declaredFunction _ isNamed before =>
    have isTree := Dialect.spelled.closed before.2 (.head _)
    have closed := Machine.Chain.close before.1.stands isTree
    have reached := before.1.later closed
    refine ⟨reached.later (.define reached.stands ?_ ?_), trivial⟩
    · exact Dialect.spelled.closed before.2 (.tail _ (isNamed ▸ .head _))
    · exact ⟨_, Array.getElem?_push_size, rfl⟩
  | bound _ _ _ before _ =>
    exact ⟨before.1.later (.bindMethod before.1.stands before.2.1 before.2.2), trivial⟩
  | body _ _ _ before _ =>
    obtain ⟨reached, present, areThere⟩ := before
    exact ⟨reached.later (.enterCall reached.stands present areThere),
      Dialect.spelled.body (reached.stands.heap.function present).2⟩
  | superclass _ before =>
    exact ⟨before.1, Dialect.spelled.superclass before.2 _ rfl⟩
  | method _ names made _ before =>
    have ⟨reached, isParent⟩ := names.reached (Dialect.spelled.superclass before.2) before.1
    have ⟨chain, areMethods⟩ :=
      (Evaluator.makeMethods_proceeds before.2 isParent).ok reached.stands made
    refine ⟨(reached.later chain).later (.ofHeap (.single (.addClass ?_ areMethods))), trivial⟩
    exact fun id member => Nat.lt_of_lt_of_le (isParent id member) chain.extends.classes_size

end Lox
