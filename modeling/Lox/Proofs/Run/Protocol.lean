/-
How values are called. As many calls are counted as are in progress, at every moment of every
history, and never more than the limit. A call evaluates what is called and then each argument in
order; if that succeeds, one of four things happens: three kinds of refusal, which leave the machine
as the last argument left it, or the callable runs, with one argument for each of its parameters.
-/

import Lox.Proofs.Run.Accounts
import Lox.Proofs.Run.Initializers

namespace Lox

variable {machine before after : Machine} {moments : List Moment}

/-! ### Calls in progress -/

/-- What is called, and with what. -/
abbrev CallInProgress := Callable × List Value

/-- The calls in progress at a moment, innermost first, from those before it. -/
def Moment.calls (calls : List CallInProgress) : Moment → List CallInProgress
  | .begun callable arguments _ => (callable, arguments) :: calls
  | .finished _ => calls.tail
  | _ => calls

/-- The calls that have begun and are not over. -/
def callsInProgress (moments : List Moment) : List CallInProgress :=
  moments.foldl Moment.calls []

namespace Machine

theorem Silent.bounded (silent : before.Silent after)
    (bounded : before.callDepth ≤ maximalCallDepth) : after.callDepth ≤ maximalCallDepth :=
  silent.callDepth ▸ bounded

/-- A moment counts the calls that are in progress then. -/
theorem callDepth_calls {moment : Moment} {calls : List CallInProgress}
    (follows : moment.Follows before) (counts : before.callDepth = calls.length) :
    moment.machine.callDepth = (moment.calls calls).length := by
  cases moment with
  | begun callable arguments machine =>
    obtain ⟨same, _, _⟩ := follows
    show machine.callDepth = (_ :: calls).length
    rw [same, List.length_cons, ← counts]
    rfl
  | finished machine =>
    obtain ⟨_, same⟩ := follows
    show machine.callDepth = calls.tail.length
    rw [same, List.length_tail, ← counts]
  | stored receiver name value machine =>
    obtain ⟨_, same⟩ := follows
    show machine.callDepth = calls.length
    rw [same, ← counts]
    rfl
  | evaluation _ _ | evaluated _ _ | execution _ _ | executed _ _ =>
    exact (congrArg Machine.callDepth follows).trans counts

/-- No moment makes calls too many. -/
theorem callDepth_bounded {moment : Moment} (follows : moment.Follows before)
    (bounded : before.callDepth ≤ maximalCallDepth) :
    moment.machine.callDepth ≤ maximalCallDepth := by
  cases moment with
  | begun callable arguments machine =>
    obtain ⟨same, _, free⟩ := follows
    exact same ▸ free
  | finished machine =>
    obtain ⟨_, same⟩ := follows
    exact same ▸ Nat.le_trans (Nat.sub_le _ _) bounded
  | stored receiver name value machine =>
    obtain ⟨_, same⟩ := follows
    exact same ▸ bounded
  | evaluation _ _ | evaluated _ _ | execution _ _ | executed _ _ =>
    exact Nat.le_trans (Nat.le_of_eq (congrArg Machine.callDepth follows)) bounded

namespace Goes

/-- Along the moments, calls are counted as they begin and as they are over. -/
theorem callDepth {calls : List CallInProgress} (goes : before.Goes moments after)
    (counts : before.callDepth = calls.length) :
    after.callDepth = (moments.foldl Moment.calls calls).length := by
  induction goes generalizing calls with
  | quiet silent => exact silent.callDepth.trans counts
  | moment silent follows _ _ inductionHypothesis =>
    exact inductionHypothesis (callDepth_calls follows (silent.callDepth.trans counts))

theorem bounded (goes : before.Goes moments after)
    (bounded : before.callDepth ≤ maximalCallDepth) : after.callDepth ≤ maximalCallDepth := by
  induction goes with
  | quiet silent => exact silent.bounded bounded
  | moment silent follows _ _ inductionHypothesis =>
    exact inductionHypothesis (callDepth_bounded follows (silent.bounded bounded))

end Goes

/-- Between the runs of trees no call is in progress. -/
theorem History.callDepth (history : Machine.History moments machine) : machine.callDepth = 0 := by
  induction history with
  | start capacity clock => rfl
  | native _ _ inductionHypothesis => exact inductionHypothesis
  | learn _ _ inductionHypothesis => exact inductionHypothesis
  | evaluate depth expression _ inductionHypothesis =>
    exact (((evaluator_restores depth).evaluate expression).callDepth _).trans inductionHypothesis
  | execute depth statement _ inductionHypothesis =>
    exact (((evaluator_restores depth).execute statement).callDepth _).trans inductionHypothesis

end Machine

/-! ### Arguments -/

namespace Tracer

variable (tracer : Tracer)

/-- Expressions are evaluated, each once and in this order, with these values, and this is written
down meanwhile. -/
inductive EvaluatesEach :
    List Expression → Machine → List Value → Machine → List Moment → Prop
  | nil (machine : Machine) : EvaluatesEach [] machine [] machine []
  | cons {expression : Expression} {others : List Expression} {before middle after : Machine}
    {value : Value} {values : List Value} {moments : List Moment} :
    tracer.evaluator.evaluate expression before = .ok value middle →
    EvaluatesEach others middle values after moments →
    EvaluatesEach (expression :: others) before (value :: values) after
      (tracer.evaluate expression before ++ moments)

/-- The ways in which a call goes, with what is written down meanwhile. What is called is evaluated
first, then each argument, up to the first that stops. Then the call is refused on the machine that
the last argument left: what is no callable is refused before a wrong number of arguments, and this
before a call too many. Otherwise the callable runs. -/
inductive Calls (callee : Expression) (line : Nat) (arguments : List Expression)
    (machine : Machine) : EStateM.Result Stop Machine Value → List Moment → Prop
  | calleeStops {stop : Stop} {after : Machine} :
    tracer.evaluator.evaluate callee machine = .error stop after →
    Calls callee line arguments machine (.error stop after) (tracer.evaluate callee machine)
  | argumentStops {value : Value} {middle : Machine} {first : List Expression}
    {argument : Expression} {rest : List Expression} {values : List Value} {before : Machine}
    {moments : List Moment} {stop : Stop} {after : Machine} :
    tracer.evaluator.evaluate callee machine = .ok value middle →
    arguments = first ++ argument :: rest →
    tracer.EvaluatesEach first middle values before moments →
    tracer.evaluator.evaluate argument before = .error stop after →
    Calls callee line arguments machine (.error stop after)
      (tracer.evaluate callee machine ++ (moments ++ tracer.evaluate argument before))
  | notCallable {value : Value} {middle : Machine} {values : List Value} {after : Machine}
    {moments : List Moment} :
    tracer.evaluator.evaluate callee machine = .ok value middle →
    tracer.EvaluatesEach arguments middle values after moments →
    (∀ callable, value ≠ .callable callable) →
    Calls callee line arguments machine (.error (.error (.located .notCallable line)) after)
      (tracer.evaluate callee machine ++ moments)
  | arityMismatch {callable : Callable} {middle : Machine} {values : List Value}
    {after : Machine} {moments : List Moment} :
    tracer.evaluator.evaluate callee machine = .ok (.callable callable) middle →
    tracer.EvaluatesEach arguments middle values after moments →
    values.length ≠ after.heap.arity callable →
    Calls callee line arguments machine
      (.error (.error (.located
        (.arityMismatch (after.heap.arity callable) values.length) line)) after)
      (tracer.evaluate callee machine ++ moments)
  | stackOverflow {callable : Callable} {middle : Machine} {values : List Value}
    {after : Machine} {moments : List Moment} :
    tracer.evaluator.evaluate callee machine = .ok (.callable callable) middle →
    tracer.EvaluatesEach arguments middle values after moments →
    values.length = after.heap.arity callable → maximalCallDepth ≤ after.callDepth →
    Calls callee line arguments machine (.error (.error (.located .stackOverflow line)) after)
      (tracer.evaluate callee machine ++ moments)
  | runs {callable : Callable} {middle : Machine} {values : List Value} {after : Machine}
    {moments : List Moment} :
    tracer.evaluator.evaluate callee machine = .ok (.callable callable) middle →
    tracer.EvaluatesEach arguments middle values after moments →
    values.length = after.heap.arity callable → after.callDepth < maximalCallDepth →
    Calls callee line arguments machine
      (Run.inCall (tracer.evaluator.perform callable values line) after)
      (tracer.evaluate callee machine ++ (moments ++
        (.begun callable values after.countCall ::
          tracer.perform callable values after.countCall ++
            [.finished ((Run.inCall (tracer.evaluator.perform callable values line)).left after)])))

variable {tracer}

/-- Expressions are evaluated in order, all of them or up to the first that stops. -/
theorem evaluateAll_cases (expressions : List Expression) (machine : Machine) :
    (∃ values after moments, tracer.EvaluatesEach expressions machine values after moments ∧
      tracer.evaluator.evaluateAll expressions machine = .ok values after ∧
      tracer.evaluateAll expressions machine = moments) ∨
    ∃ first expression rest values before moments stop after,
      expressions = first ++ expression :: rest ∧
      tracer.EvaluatesEach first machine values before moments ∧
      tracer.evaluator.evaluate expression before = .error stop after ∧
      tracer.evaluator.evaluateAll expressions machine = .error stop after ∧
      tracer.evaluateAll expressions machine = moments ++ tracer.evaluate expression before := by
  induction expressions generalizing machine with
  | nil => exact .inl ⟨[], machine, [], .nil machine, rfl, rfl⟩
  | cons expression others inductionHypothesis =>
    unfold Evaluator.evaluateAll evaluateAll Run.thereafter
    cases ended : tracer.evaluator.evaluate expression machine with
    | error stop after =>
      exact .inr ⟨[], expression, others, [], machine, [], stop, after, rfl, .nil machine, ended,
        bind_error ended, List.append_nil _⟩
    | ok value middle =>
      rw [bind_ok ended]
      dsimp only
      rcases inductionHypothesis middle with ⟨values, after, moments, each, allEnded, same⟩ |
        ⟨first, last, rest, values, before, moments, stop, after, split, each, stopped, allStopped,
          same⟩
      · exact .inl ⟨value :: values, after, _, .cons ended each, bind_ok allEnded,
          congrArg _ same⟩
      · refine .inr ⟨expression :: first, last, rest, value :: values, before, _, stop, after,
          congrArg _ split, .cons ended each, stopped, bind_error allStopped, ?_⟩
        rw [same, List.append_assoc]

/-- What is called decides, when all arguments are there. -/
theorem call_calls {callee : Expression} {line : Nat} {arguments : List Expression} {value : Value}
    {values : List Value} {middle : Machine}
    (called : tracer.evaluator.evaluate callee machine = .ok value middle)
    (each : tracer.EvaluatesEach arguments middle values after moments) :
    tracer.Calls callee line arguments machine (tracer.evaluator.call value values line after)
      (tracer.evaluate callee machine ++ (moments ++ tracer.call value values line after)) := by
  cases value with
  | callable callable =>
    have decides : tracer.evaluator.call (.callable callable) values line after =
        (if values.length ≠ after.heap.arity callable then
          Run.fail (.arityMismatch (after.heap.arity callable) values.length) line
        else if maximalCallDepth ≤ after.callDepth then Run.fail .stackOverflow line
        else Run.inCall (tracer.evaluator.perform callable values line)) after := bind_ok rfl
    rw [decides]
    unfold Tracer.call
    dsimp only
    by_cases fits : values.length = after.heap.arity callable
    · rw [if_neg (not_not_intro fits), if_neg (not_not_intro fits)]
      by_cases full : maximalCallDepth ≤ after.callDepth
      · rw [if_pos full, if_pos full, List.append_nil]
        exact .stackOverflow called each fits full
      · rw [if_neg full, if_neg full]
        exact .runs called each fits (Nat.not_le.mp full)
    · rw [if_pos fits, if_pos fits, List.append_nil]
      exact .arityMismatch called each fits
  | nil | boolean _ | number _ | string _ | object _ =>
    rw [show tracer.call _ values line after = [] from rfl, List.append_nil]
    exact .notCallable called each fun _ same => nomatch same

/-- Every call goes in one of these ways. -/
theorem evaluateNode_calls (callee : Expression) (line : Nat) (arguments : List Expression)
    (machine : Machine) : tracer.Calls callee line arguments machine
      (tracer.evaluator.evaluateNode (.call callee line arguments) machine)
      (tracer.evaluateNode (.call callee line arguments) machine) := by
  unfold Evaluator.evaluateNode evaluateNode
  dsimp only
  cases called : tracer.evaluator.evaluate callee machine with
  | error stop after =>
    rw [bind_error called, Run.thereafter, called, List.append_nil]
    exact .calleeStops called
  | ok value middle =>
    rw [bind_ok called, Run.thereafter, called]
    dsimp only
    rcases evaluateAll_cases arguments middle with ⟨values, after, moments, each, ended, same⟩ |
      ⟨first, argument, rest, values, before, moments, stop, after, split, each, stopped, ended,
        same⟩
    · rw [bind_ok ended, Run.thereafter, ended, same]
      exact call_calls called each
    · rw [bind_error ended, Run.thereafter, ended, same, List.append_nil]
      exact .argumentStops called split each stopped

end Tracer

/-! ### Parameters -/

/-- To run the callable, a function is invoked on some machine: the callable itself, or the
initializer of a class, bound to a new instance. -/
inductive Machine.Invokes (machine : Machine) : Callable → FunctionId → Machine → Prop
  | function (id : FunctionId) : Invokes machine (.function id) id machine
  | method (id : FunctionId) : Invokes machine (.method id) id machine
  | initializer {id : ClassId} {initializer : FunctionId} :
    machine.heap.method? id initializerName = some initializer →
    Invokes machine (.constructor id) machine.heap.functions.size
      ((machine.addInstance id).bindMethod initializer machine.heap.instances.size)

namespace Machine.Invokes

variable {callable : Callable} {id : FunctionId} {inner : Machine} {arguments : List Value}

/-- What is counted before is what the function takes. -/
theorem fits (invokes : machine.Invokes callable id inner)
    (counted : arguments.length = machine.heap.arity callable) :
    arguments.length = (inner.heap.function id).declaration.parameters.length := by
  cases invokes with
  | function id => exact counted
  | method id => exact counted
  | @initializer classId initializer found =>
    have isBound : ((machine.addInstance classId).bindMethod initializer
        machine.heap.instances.size).heap.function machine.heap.functions.size =
        { machine.heap.function initializer with closure := machine.heap.frames.size } :=
      Heap.function_of_some (Heap.bindMethod_function? _ _ _)
    unfold Heap.arity at counted
    dsimp only at counted
    rw [found] at counted
    rw [isBound]
    exact counted

theorem method?_addInstance (machine : Machine) (id : ClassId) (name : String) :
    (machine.addInstance id).heap.method? id name = machine.heap.method? id name :=
  Heap.method?_congr (show (machine.addInstance id).heap.classes = machine.heap.classes from rfl) id
    name

/-- Running the callable is invoking the function, whatever it gives. -/
theorem left (invokes : machine.Invokes callable id inner) (evaluator : Evaluator)
    (arguments : List Value) (line : Nat) :
    (evaluator.perform callable arguments line).left machine =
      (evaluator.invoke id arguments).left inner := by
  cases invokes with
  | function id => rfl
  | method id => rfl
  | @initializer classId initializer found =>
    let bound := (machine.addInstance classId).bindMethod initializer machine.heap.instances.size
    let invoked := evaluator.invoke machine.heap.functions.size arguments
    let given (_ : Value) : Run Value := Pure.pure (.object machine.heap.instances.size)
    have same : evaluator.construct classId arguments machine = (invoked >>= given) bound :=
      Evaluator.construct_initialized ((method?_addInstance machine classId _).trans found)
    have parts : (evaluator.construct classId arguments).left machine =
        (invoked >>= given).left bound := by
      unfold Run.left
      rw [same]
    refine parts.trans ?_
    rcases Run.Restores.left_bind invoked given bound with ⟨_, left⟩ | left <;> exact left

/-- What is written down while the callable runs is what is while the body of the function does. -/
theorem traced (invokes : machine.Invokes callable id inner) (tracer : Tracer)
    (arguments : List Value) : tracer.perform callable arguments machine =
      tracer.executeAll (inner.heap.function id).declaration.body
        (inner.enterCall (inner.heap.function id) arguments) := by
  cases invokes with
  | function id => rfl
  | method id => rfl
  | @initializer classId initializer found =>
    have found := (method?_addInstance machine classId _).trans found
    show tracer.construct classId arguments machine = _
    unfold Tracer.construct
    dsimp only
    rw [found]
    rfl

end Machine.Invokes

/-- The function gets one argument for each parameter: when they are paired, none is left over on
either side. -/
def FunctionObject.Pairs (function : FunctionObject) (arguments : List Value) : Prop :=
  let names := function.declaration.parameters.map Identifier.name
  arguments.length = function.declaration.parameters.length ∧
    (names.zip arguments).unzip = (names, arguments)

theorem Machine.Invokes.pairs {callable : Callable} {id : FunctionId} {inner : Machine}
    {arguments : List Value} (invokes : machine.Invokes callable id inner)
    (counted : arguments.length = machine.heap.arity callable) :
    (inner.heap.function id).Pairs arguments := by
  have fits := invokes.fits counted
  refine ⟨fits, List.unzip_zip ?_⟩
  rw [List.length_map, fits]

/-! ### The protocol -/

/-- Whatever has been asked of a session, its machine has a history, and the moments of every
history account for it: from one to the next no call begins or is over but those that are written
down, and each is on a machine that stands. In every history the machine counts at each moment the
calls in progress, which are never more than the limit; between the runs of trees there are none.

Every call, on whatever machine, evaluates what is called and then each argument once and in order,
up to the first that stops, and is then refused on the machine that the last argument left, or runs
its callable while it is counted. What is written down meanwhile accounts for the run of the call. A
callable that begins gets as many arguments as it takes; so a function, a method or an initializer,
also one that is inherited, gets one for each parameter, and its body runs in a new frame that binds
them, which is left again before anything is given back. What is written down meanwhile accounts for
the run of the body. -/
theorem call_protocol :
    (∀ capacity clock requests, ∃ moments,
      Machine.History moments ((Session.start capacity clock).serveAll requests).machine) ∧
    (∀ moments machine, Machine.History moments machine →
      (∃ capacity clock, (Machine.start capacity clock).Goes moments machine) ∧
      callsInProgress moments = [] ∧ machine.callDepth = 0 ∧
      ∀ early moment late, moments = early ++ moment :: late →
        moment.machine.Stands .everything ∧
        moment.machine.callDepth = (callsInProgress (early ++ [moment])).length ∧
        moment.machine.callDepth ≤ 10000 ∧
        ∀ callable arguments inside, moment = .begun callable arguments inside →
          arguments.length = inside.heap.arity callable) ∧
    (∀ depth callee line arguments machine,
      (tracer depth).evaluator = evaluator depth ∧
      (tracer depth).Calls callee line arguments machine
        (evaluate (depth + 1) (.call callee line arguments) machine)
        ((tracer depth).evaluateNode (.call callee line arguments) machine) ∧
      (machine.Stands .everything →
        machine.Goes ((tracer depth).evaluateNode (.call callee line arguments) machine)
          ((evaluate (depth + 1) (.call callee line arguments)).left machine))) ∧
    ∀ (machine : Machine) callable id inner (arguments : List Value),
      machine.Invokes callable id inner → arguments.length = machine.heap.arity callable →
      let function := inner.heap.function id
      let body := function.declaration.body
      let entered := inner.enterCall function arguments
      function.Pairs arguments ∧
      ∀ depth line,
        ((evaluator depth).perform callable arguments line).left machine =
          ((evaluator depth).invoke id arguments).left inner ∧
        (evaluator depth).invoke id arguments inner =
          (match (evaluator depth).executeAll body entered with
          | .ok flow after => Watch.givenBack function flow { after with current := inner.current }
          | .error stop after => .error stop { after with current := inner.current }) ∧
        (tracer depth).perform callable arguments machine =
          (tracer depth).executeAll body entered ∧
        (entered.Stands .everything →
          entered.Goes ((tracer depth).executeAll body entered)
            (((evaluator depth).executeAll body).left entered)) := by
  refine ⟨Session.serveAll_history, fun moments machine history => ?_,
    fun depth callee line arguments machine => ⟨tracer_evaluator depth, ?_, fun stands => ?_⟩,
    fun machine callable id inner arguments invokes counted => ⟨invokes.pairs counted,
      fun depth line => ⟨invokes.left (evaluator depth) arguments line,
        (evaluator depth).invoke_eq id arguments inner,
        invokes.traced (tracer depth) arguments, fun stands => ?_⟩⟩⟩
  · obtain ⟨capacity, clock, goes⟩ := history.goes
    have none := history.callDepth
    refine ⟨⟨capacity, clock, goes⟩,
      List.length_eq_zero_iff.mp ((goes.callDepth rfl).symm.trans none), none,
      fun early moment late split => ?_⟩
    subst split
    obtain ⟨middle, _, follows, upThere, stands, _⟩ := goes.upTo
    refine ⟨stands, upThere.callDepth rfl, upThere.bounded (Nat.zero_le _), ?_⟩
    rintro callable arguments inside rfl
    obtain ⟨rfl, fits, _⟩ := follows
    exact fits
  · have goes := (tracer depth).evaluateNode_calls callee line arguments machine
    rw [tracer_evaluator] at goes
    exact goes
  · have goes := (tracer_accounts depth).evaluateNode (.call callee line arguments) machine stands
    rw [tracer_evaluator] at goes
    exact goes
  · have goes := (tracer_accounts depth).executeAll (inner.heap.function id).declaration.body _
      stands
    rw [tracer_evaluator] at goes
    exact goes

/-- While the body of a function with one parameter runs, one call is in progress. -/
theorem call_protocol_running :
    ∃ moments machine early body inside late, Machine.History moments machine ∧
      moments = early ++ .execution body inside :: late ∧ inside.callDepth = 1 ∧
      (callsInProgress (early ++ [.execution body inside])).length = 1 ∧
      inside.callDepth ≤ 10000 ∧ machine.callDepth = 0 ∧
      ∃ called : Machine, called.Invokes (.function 0) 0 called ∧
        called.heap.arity (.function 0) = 1 ∧
        (called.heap.function 0).Pairs [.boolean true] := by
  let function : FunctionDeclaration :=
    ⟨none, [⟨"a", 1⟩], [.giveBack ⟨"return", 1⟩ (some (.read 0 ⟨"a", 1⟩))]⟩
  let expression : Expression := .call (.function function) 1 [.literal (.boolean true)]
  let machine := Machine.start none ⟨0⟩
  have history := (Machine.History.start none ⟨0⟩).evaluate 4 expression
  let moments := (tracer 4).evaluate expression machine
  obtain ⟨_, counts, _, invocations⟩ := call_protocol
  obtain ⟨_, _, outside, during⟩ := counts moments _ history
  have rest : moments.drop 6 = .execution _ _ :: _ := rfl
  have split : moments = moments.take 6 ++ .execution _ _ :: _ :=
    ((List.take_append_drop 6 moments).symm.trans (congrArg _ rest))
  obtain ⟨_, counted, bounded, _⟩ := during _ _ _ split
  let called := machine.close function
  have invokes : called.Invokes (.function 0) 0 called := .function 0
  exact ⟨moments, _, _, _, _, _, history, split, rfl, counted.symm, bounded, outside, called,
    invokes, rfl, (invocations called _ _ _ [.boolean true] invokes rfl).1⟩

end Lox
