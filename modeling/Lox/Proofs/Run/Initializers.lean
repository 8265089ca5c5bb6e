/-
What initializers give back. The receiver is fetched after the body has run, from the frame that the
method was closed over when it was bound. Only binding a method makes such a frame, and no name that
a program can bind is `this`, so the receiver is there and is the one it was bound with, whatever
the body did; and a class gives back the instance that was made for the call.
-/

import Lox.Proofs.Run.Reached

namespace Lox

section

variable {dialect : Dialect} {machine after : Machine} {evaluator : Evaluator}

/-! ### Calls -/

/-- Something callable gives a value when it is called: by a call in a program, which counts the
arguments and the calls in progress first, or at once. -/
def Evaluator.Gives (evaluator : Evaluator) (callable : Callable) (arguments : List Value)
    (line : Nat) (before : Machine) (value : Value) (after : Machine) : Prop :=
  evaluator.call (.callable callable) arguments line before = .ok value after ∨
    evaluator.perform callable arguments line before = .ok value after

/-- A run in another frame ends as it does there. -/
theorem Run.within_ok {α : Type} {run : Run α} {frame : FrameId} {value : α}
    (ended : run { machine with current := frame } = .ok value after) :
    Run.within frame run machine = .ok value { after with current := machine.current } := by
  unfold Run.within
  dsimp only
  rw [ended]

theorem Run.within_error {α : Type} {run : Run α} {frame : FrameId} {stop : Stop}
    (ended : run { machine with current := frame } = .error stop after) :
    Run.within frame run machine = .error stop { after with current := machine.current } := by
  unfold Run.within
  dsimp only
  rw [ended]

/-- A function is invoked by running its body in a new frame that binds its parameters. Then the
frame is left again, and what the body ended with is given back. -/
theorem Evaluator.invoke_eq (evaluator : Evaluator) (id : FunctionId) (arguments : List Value)
    (machine : Machine) :
    evaluator.invoke id arguments machine =
      match evaluator.executeAll (machine.heap.function id).declaration.body
          (machine.enterCall (machine.heap.function id) arguments) with
      | .ok flow after =>
        Watch.givenBack (machine.heap.function id) flow { after with current := machine.current }
      | .error stop after => .error stop { after with current := machine.current } := by
  let object := machine.heap.function id
  let entered := machine.enterCall object arguments
  let body := Run.within machine.heap.frames.size (evaluator.executeAll object.declaration.body)
  have parts : evaluator.invoke id arguments machine =
      (body >>= Watch.givenBack object) { entered with current := machine.current } := rfl
  rw [parts]
  cases ended : evaluator.executeAll object.declaration.body entered with
  | ok flow after => exact bind_ok (Run.within_ok ended)
  | error stop after => exact bind_error (Run.within_error ended)

/-- A call in a program that gives a value has performed what was called. -/
theorem Evaluator.call_ok {callable : Callable} {arguments : List Value} {line : Nat}
    {value : Value}
    (ended : evaluator.call (.callable callable) arguments line machine = .ok value after) :
    ∃ inside, evaluator.perform callable arguments line machine.countCall = .ok value inside ∧
      after = { inside with callDepth := inside.callDepth - 1 } := by
  have called : (if arguments.length ≠ machine.heap.arity callable then
      Run.fail (.arityMismatch (machine.heap.arity callable) arguments.length) line
    else if maximalCallDepth ≤ machine.callDepth then Run.fail .stackOverflow line
    else Run.inCall (evaluator.perform callable arguments line)) machine = .ok value after := ended
  split at called
  · exact nomatch called
  · split at called
    · exact nomatch called
    · unfold Run.inCall at called
      split at called
      · rename_i inside performed
        cases called
        exact ⟨inside, performed, rfl⟩
      · exact nomatch called

/-! ### The receiver of an initializer -/

theorem Heap.BoundTo.lt_size {heap : Heap} {function : FunctionId} {receiver : InstanceId}
    (bound : heap.BoundTo function receiver) : function < heap.functions.size := by
  obtain ⟨_, found, _⟩ := bound
  exact (Array.getElem?_eq_some_iff.mp found).1

/-- The receiver is found in the frame that a bound method is closed over. -/
theorem Heap.BoundTo.getAt {heap : Heap} {function : FunctionId} {receiver : InstanceId}
    (bound : heap.BoundTo function receiver) (line : Nat) :
    heap.frames.getAt (heap.function function).closure 0 "this" line = .ok (.object receiver) := by
  obtain ⟨object, found, _, isThis⟩ := bound
  rw [Heap.function_of_some found]
  exact Frames.getAt_of_ancestor? rfl isThis

/-- A function does not change. -/
theorem Heap.Extends.function {before after : Heap} (ext : before.Extends dialect after)
    {id : FunctionId} (present : id < before.functions.size) :
    after.function id = before.function id := by
  have found := Array.getElem?_eq_getElem present
  rw [Heap.function_of_some found, Heap.function_of_some (ext.functions found)]

/-- An initializer ends as its body does: when the body ends with a flow, whichever it is, the
receiver is found and given back. -/
theorem Evaluator.Proceeds.invoke_initializer (proceeds : evaluator.Proceeds dialect)
    (noThis : ¬dialect.has (.binding "this")) {id : FunctionId} {receiver : InstanceId}
    {arguments : List Value} (stands : machine.Stands dialect)
    (bound : machine.heap.BoundTo id receiver)
    (isInitializer : (machine.heap.function id).isInitializer = true)
    (areThere : ∀ value ∈ arguments, value.Stands dialect machine.heap) :
    (∀ flow after, evaluator.executeAll (machine.heap.function id).declaration.body
        (machine.enterCall (machine.heap.function id) arguments) = .ok flow after →
      (∀ line, after.heap.frames.getAt (machine.heap.function id).closure 0 "this" line =
        .ok (.object receiver)) ∧
      evaluator.invoke id arguments machine =
        .ok (.object receiver) { after with current := machine.current }) ∧
    ∀ stop after, evaluator.executeAll (machine.heap.function id).declaration.body
        (machine.enterCall (machine.heap.function id) arguments) = .error stop after →
      evaluator.invoke id arguments machine =
        .error stop { after with current := machine.current } := by
  let object := machine.heap.function id
  have areTrees := dialect.body (stands.heap.function bound.lt_size).2
  have enters : machine.Chain dialect (machine.enterCall object arguments) :=
    .enterCall stands bound.lt_size areThere
  refine ⟨fun flow after ended => ?_, fun stop after ended => ?_⟩
  · have ⟨chain, _⟩ := (proceeds.executeAll _ areTrees).ok (enters.stands stands) ended
    have ext := (enters.trans chain).extends
    have isThis (line : Nat) :
        after.heap.frames.getAt object.closure 0 "this" line = .ok (.object receiver) := by
      have found := (bound.later ext noThis).getAt line
      rw [ext.function bound.lt_size] at found
      exact found
    have gives : Watch.givenBack object flow { after with current := machine.current } =
        .ok (.object receiver) { after with current := machine.current } := by
      unfold Watch.givenBack
      rw [if_pos isInitializer, Run.get_bind, isThis]
      rfl
    refine ⟨isThis, ?_⟩
    rw [evaluator.invoke_eq, ended]
    exact gives
  · rw [evaluator.invoke_eq, ended]

/-- A bound initializer that gives a value gives its receiver. -/
theorem Evaluator.Proceeds.gives_receiver (proceeds : evaluator.Proceeds dialect)
    (noThis : ¬dialect.has (.binding "this")) {id : FunctionId} {receiver : InstanceId}
    {arguments : List Value} {line : Nat} {value : Value} (stands : machine.Stands dialect)
    (bound : machine.heap.BoundTo id receiver)
    (isInitializer : (machine.heap.function id).isInitializer = true)
    (areThere : ∀ value ∈ arguments, value.Stands dialect machine.heap)
    (gives : evaluator.Gives (.method id) arguments line machine value after) :
    value = .object receiver := by
  have invoked (before : Machine) {after : Machine} (same : before.heap = machine.heap)
      (standsBefore : before.Stands dialect)
      (ended : evaluator.invoke id arguments before = .ok value after) :
      value = .object receiver := by
    have ⟨ends, stops⟩ := proceeds.invoke_initializer noThis standsBefore
      (same ▸ bound) (same ▸ isInitializer) (same ▸ areThere)
    cases body : evaluator.executeAll (before.heap.function id).declaration.body
      (before.enterCall (before.heap.function id) arguments) with
    | ok flow last =>
      rw [(ends flow last body).2] at ended
      cases ended
      rfl
    | error stop last =>
      rw [stops stop last body] at ended
      exact nomatch ended
  rcases gives with called | performed
  · obtain ⟨inside, performed, _⟩ := Evaluator.call_ok called
    exact invoked machine.countCall rfl ⟨stands.heap, stands.current⟩ performed
  · exact invoked machine rfl stands performed

/-- A class that gives a value gives a new instance of it. -/
theorem Evaluator.Proceeds.gives_instance (proceeds : evaluator.Proceeds dialect) {id : ClassId}
    {arguments : List Value} {line : Nat} {value : Value} (stands : machine.Stands dialect)
    (present : id < machine.heap.classes.size)
    (areThere : ∀ value ∈ arguments, value.Stands dialect machine.heap)
    (gives : evaluator.Gives (.constructor id) arguments line machine value after) :
    ∃ receiver object, value = .object receiver ∧ machine.heap.instances[receiver]? = none ∧
      after.heap.instances[receiver]? = some object ∧ object.classId = id := by
  have absent : machine.heap.instances[machine.heap.instances.size]? = none :=
    Array.getElem?_eq_none (Nat.le_refl _)
  rcases gives with called | performed
  · obtain ⟨inside, performed, rfl⟩ := Evaluator.call_ok called
    have counted : machine.countCall.Stands dialect := ⟨stands.heap, stands.current⟩
    have constructed : (evaluator.construct id arguments).Proceeds dialect machine.countCall _ :=
      proceeds.construct present areThere
    have ⟨_, same, object, isInstance, isClass⟩ := constructed.ok counted performed
    exact ⟨_, object, same, absent, isInstance, isClass⟩
  · have ⟨_, same, object, isInstance, isClass⟩ :=
      (proceeds.construct present areThere).ok stands performed
    exact ⟨_, object, same, absent, isInstance, isClass⟩

end

/-! ### The receiver in sessions -/

/-- No name that is spelled as those in sources are is `this`. -/
theorem Dialect.spelled_noThis : ¬Dialect.spelled.has (.binding "this") :=
  Scope.not_isVariable_this

/-- In every state that a session reaches, between its requests and in the middle of them, values
refer to something that is there, and so do values that are evaluated then. A class that gives a
value when it is called gives an instance of it that did not exist before.

A method has a receiver, and is marked as an initializer just when it is declared as one; it got the
receiver when it was bound, for a new instance, as a property or through `super`, and has no other
one in any later state. An initializer that gives a value when it is called gives its receiver: if
its body ends at all, with whatever flow, then `this` is found and is the receiver. -/
theorem initializer_receiver :
    (∀ capacity clock requests,
      ((Session.start capacity clock).serveAll requests).machine.Reached .spelled) ∧
    (∀ capacity clock event, Happens (.start capacity clock) event →
      event.state.Reached .spelled ∧ event.Stands .spelled) ∧
    (∀ machine : Machine, machine.Reached .spelled → machine.Stands .spelled ∧
      ∀ depth (expression : Expression) value after, expression.Shaped .spelled →
        evaluate depth expression machine = .ok value after →
        after.Reached .spelled ∧ value.Stands .spelled after.heap) ∧
    (∀ machine : Machine, machine.Reached .spelled → ∀ depth (arguments : List Value) line,
      (∀ argument ∈ arguments, argument.Stands .spelled machine.heap) →
      (∀ id value after, id < machine.heap.classes.size →
        (evaluator depth).Gives (.constructor id) arguments line machine value after →
        ∃ receiver object, value = .object receiver ∧ machine.heap.instances[receiver]? = none ∧
          after.heap.instances[receiver]? = some object ∧ object.classId = id) ∧
      ∀ id receiver, machine.heap.BoundTo id receiver →
        (machine.heap.function id).isInitializer = true →
        (∀ value after, (evaluator depth).Gives (.method id) arguments line machine value after →
          value = .object receiver) ∧
        ∀ flow after, (evaluator depth).executeAll (machine.heap.function id).declaration.body
            (machine.enterCall (machine.heap.function id) arguments) = .ok flow after →
          (∀ line, after.heap.frames.getAt (machine.heap.function id).closure 0 "this" line =
            .ok (.object receiver)) ∧
          (evaluator depth).invoke id arguments machine =
            .ok (.object receiver) { after with current := machine.current }) ∧
    (∀ machine : Machine, machine.Reached .spelled →
      (∀ id, (Value.callable (.method id)).Stands .spelled machine.heap →
        (∃ receiver, machine.heap.BoundTo id receiver) ∧
        (machine.heap.function id).isInitializer =
          (machine.heap.function id).declaration.isInitializer) ∧
      (∀ method receiver, machine.heap.IsMethod method →
        receiver < machine.heap.instances.size →
        (machine.bindMethod method receiver).Reached .spelled ∧
        (machine.bindMethod method receiver).heap.BoundTo machine.heap.functions.size receiver) ∧
      (∀ receiver name value after, receiver < machine.heap.instances.size →
        Evaluator.property (.object receiver) name machine = .ok value after →
        after.Reached .spelled ∧
        ((machine.heap.instanceAt receiver).fields.get? name.name = some value ∨
          ∃ id, value = .callable (.method id) ∧ after.heap.BoundTo id receiver)) ∧
      ∀ reference keyword name value after,
        Evaluator.superMethod reference keyword name machine = .ok value after →
        after.Reached .spelled ∧ ∃ distance receiver id,
          machine.distances[reference]? = some distance ∧
          machine.heap.frames.getAt machine.current (distance - 1) "this" keyword.line =
            .ok (.object receiver) ∧
          value = .callable (.method id) ∧ after.heap.BoundTo id receiver) ∧
    ∀ machine later : Machine, machine.Reached .spelled → machine.Chain .spelled later →
      ∀ id receiver, machine.heap.BoundTo id receiver →
        later.heap.BoundTo id receiver ∧
        (∀ other, later.heap.BoundTo id other → other = receiver) ∧
        later.heap.function id = machine.heap.function id := by
  have noThis := Dialect.spelled_noThis
  refine ⟨Session.serveAll_reached, fun _ _ _ happened => happened.reached,
    fun machine reached => ⟨reached.stands, fun depth expression value after isTree ended => ?_⟩,
    fun machine reached depth arguments line areThere => ⟨?_, ?_⟩,
    fun machine reached => ⟨fun id isThere => ?_, fun method receiver isMethod isThere => ?_,
      fun receiver name value after isThere ended => ?_,
      fun reference keyword name value after ended => ?_⟩,
    fun machine later reached chain id receiver bound => ?_⟩
  · have ⟨reachedAfter, _, isThere⟩ := Evaluates.reached ⟨depth, ended⟩ isTree reached
    exact ⟨reachedAfter, isThere⟩
  · exact fun id value after present gives =>
      (evaluator_proceeds .spelled depth).gives_instance reached.stands present areThere gives
  · intro id receiver bound isInitializer
    have proceeds := evaluator_proceeds .spelled depth
    exact ⟨fun value after gives =>
        proceeds.gives_receiver noThis reached.stands bound isInitializer areThere gives,
      (proceeds.invoke_initializer noThis reached.stands bound isInitializer areThere).1⟩
  · obtain ⟨⟨object, found, isMarked⟩, bound⟩ := isThere
    obtain ⟨receiver, _, isBound⟩ := bound.resolve_left noThis
    refine ⟨⟨receiver, isBound⟩, ?_⟩
    rw [Heap.function_of_some found, isMarked]
  · exact ⟨reached.later (.bindMethod reached.stands isMethod isThere),
      Heap.bindMethod_boundTo reached.stands.heap method receiver⟩
  · have ⟨chain, _, found⟩ :=
      (Evaluator.instanceProperty_proceeds name isThere).ok reached.stands ended
    exact ⟨reached.later chain, found⟩
  · have ⟨chain, _, found⟩ :=
      (Evaluator.superMethod_proceeds reference keyword name).ok reached.stands ended
    exact ⟨reached.later chain, found⟩
  · have isBound := bound.later chain.extends noThis
    exact ⟨isBound, fun other also => also.unique isBound, chain.extends.function bound.lt_size⟩

/-- A class with an inherited initializer is called, and so is the initializer of an instance of it,
which another method takes from the superclass. -/
theorem initializer_receiver_inherited :
    ∃ machine made bound inside after last further : Machine, machine.Reached .spelled ∧
      evaluate 1 (.read 2 ⟨"B", 1⟩) machine = .ok (.callable (.constructor 1)) machine ∧
      (evaluator 2).Gives (.constructor 1) [] 1 machine (.object 0) after ∧
      machine.heap.instances[0]? = none ∧
      Evaluator.property (.object 0) ⟨"init", 1⟩ made = .ok (.callable (.method 2)) bound ∧
      bound.heap.BoundTo 2 0 ∧ (evaluator 2).Gives (.method 2) [] 1 bound (.object 0) last ∧
      last.heap.frames.getAt (bound.heap.function 2).closure 0 "this" 1 = .ok (.object 0) ∧
      bound.Chain .spelled inside ∧ inside.heap.BoundTo 2 0 ∧
      Evaluator.superMethod 1 ⟨"super", 1⟩ ⟨"init", 1⟩ inside =
        .ok (.callable (.method 4)) further ∧
      further.heap.BoundTo 4 0 := by
  let plain : FunctionDeclaration := ⟨some ⟨"init", 1⟩, [], [.giveBack ⟨"return", 1⟩ none]⟩
  let own : FunctionDeclaration :=
    ⟨some ⟨"m", 1⟩, [], [.expression (.super 1 ⟨"super", 1⟩ ⟨"init", 1⟩)]⟩
  have read : ((Session.start none ⟨0⟩).after []).readProgram
      "class A { init() { return; } } class B < A { m() { super.init; } } B();" =
      (.ok [.declareClass ⟨"A", 1⟩ none [plain],
        .declareClass ⟨"B", 1⟩ (some (.read 0 ⟨"A", 1⟩)) [own],
        .expression (.call (.read 2 ⟨"B", 1⟩) 1 [])], _) := rfl
  let natives : Array NativeFunction := #[⟨"clock", 0, .clock⟩]
  let known : Scope.Distances := Std.TreeMap.empty.insert 1 2
  -- the machine when there is the first class, and when there are both
  let globals : Bindings Value :=
    ⟨[("clock", .callable (.native 0)), ("A", .callable (.constructor 0))]⟩
  let classA : ClassObject := ⟨"A", ⟨[("init", 0)]⟩, none⟩
  let heap : Heap := ⟨⟨#[⟨globals, none⟩]⟩, #[⟨plain, 0, true⟩], #[classA], #[], natives⟩
  have second : Happens _ (.program _ ⟨heap, 0, 0, known, .empty none, ⟨0⟩⟩) :=
    .programRest (.program read rfl) ⟨1, rfl⟩
  let frames : Frames := ⟨#[⟨globals.write "B" (.callable (.constructor 1)), none⟩,
    ⟨⟨[("super", .callable (.constructor 0))]⟩, some 0⟩]⟩
  let classB : ClassObject := ⟨"B", ⟨[("m", 1)]⟩, some 0⟩
  let machine : Machine := ⟨⟨frames, #[⟨plain, 0, true⟩, ⟨own, 1, false⟩], #[classA, classB], #[],
    natives⟩, 0, 0, known, .empty none, ⟨0⟩⟩
  have third : Happens _ (.program _ machine) := .programRest second ⟨2, rfl⟩
  obtain ⟨_, happen, values, gives, binds, lasts⟩ := initializer_receiver
  have reached : machine.Reached .spelled := (happen _ _ _ third).1
  have nothing (heap : Heap) : ∀ argument ∈ ([] : List Value), argument.Stands .spelled heap :=
    fun _ member => absurd member List.not_mem_nil
  have evaluated : evaluate 1 (.read 2 ⟨"B", 1⟩) machine =
      .ok (.callable (.constructor 1)) machine := rfl
  have isTree : (Expression.read 2 ⟨"B", 1⟩).Shaped .spelled :=
    show Mark.reserved? "B" = none by decide
  have ⟨_, isClass⟩ := (values machine reached).2 1 _ _ _ isTree evaluated
  have gave : (evaluator 2).Gives (.constructor 1) [] 1 machine (.object 0) _ := .inr rfl
  obtain ⟨_, _, isNew, absent, _⟩ :=
    (gives machine reached 2 [] 1 (nothing _)).1 1 _ _ isClass gave
  cases isNew
  -- an instance, its initializer, and its other method
  have reachedMade : (machine.addInstance 1).Reached .spelled :=
    reached.later (.addInstance isClass)
  have isThere : 0 < (machine.addInstance 1).heap.instances.size := Nat.lt_succ_self 0
  let bound := (machine.addInstance 1).bindMethod 0 0
  have isProperty : Evaluator.property (.object 0) ⟨"init", 1⟩ (machine.addInstance 1) =
      .ok (.callable (.method 2)) bound := rfl
  have ⟨reachedBound, found⟩ := (binds _ reachedMade).2.2.1 0 _ _ _ isThere isProperty
  obtain ⟨_, isMethod, boundTo⟩ := found.resolve_left fun isSet => nomatch isSet
  cases isMethod
  have ended : (evaluator 2).executeAll (bound.heap.function 2).declaration.body
      (bound.enterCall (bound.heap.function 2) []) = .ok (.returned .nil) _ := rfl
  have ⟨isFound, gaveReceiver⟩ :=
    ((gives bound reachedBound 2 [] 1 (nothing _)).2 2 0 boundTo rfl).2 _ _ ended
  have ⟨reachedBoth, _⟩ := (binds bound reachedBound).2.1 1 0 ⟨_, rfl, rfl⟩ isThere
  let both := bound.bindMethod 1 0
  let inside := both.enterCall (both.heap.function 3) []
  have entered : both.Chain .spelled inside :=
    .enterCall reachedBoth.stands (show (3 : Nat) < 4 by decide) (nothing _)
  have chain : bound.Chain .spelled inside :=
    Machine.Chain.trans (.bindMethod reachedBound.stands ⟨_, rfl, rfl⟩ isThere) entered
  have taken : Evaluator.superMethod 1 ⟨"super", 1⟩ ⟨"init", 1⟩ inside =
      .ok (.callable (.method 4)) _ := rfl
  obtain ⟨_, distance, receiver, _, isDistance, isThis, isTaken, boundTaken⟩ :=
    (binds inside (reachedBound.later chain)).2.2.2 1 _ _ _ _ taken
  cases isTaken
  cases isDistance
  cases isThis
  exact ⟨machine, machine.addInstance 1, bound, inside, _, _, _, reached, evaluated, gave, absent,
    isProperty, boundTo, .inr gaveReceiver, isFound 1, chain,
    (lasts bound inside reachedBound chain 2 0 boundTo).1, taken, boundTaken⟩

end Lox
