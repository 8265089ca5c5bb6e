/-
Several trees in a row, and calls, given that the trees inside are run as they should be. A body
runs in a frame of its own, around which lies the environment that the function was closed over.
-/

import Lox.Proofs.Machine.Looks
import Lox.Proofs.Run.Names

namespace Lox

open Scope

variable {watch : Watch} {machine : Machine} {environment : Environment}
  {evaluator other : Evaluator}

/-- A flow that gives back a value gives back a good one. -/
def Watch.GoodFlow (watch : Watch) (machine : Machine) : Flow → Prop
  | .returned value => watch.Good machine value
  | _ => True

/-- Trees are run as they should be, where they are part of the history; the other evaluator does
the same there. -/
structure Watch.Trusts (watch : Watch) (evaluator other : Evaluator) : Prop where
  evaluate : ∀ {environment expression machine},
    Happens watch.start (.evaluation environment expression machine) →
    watch.Ready environment machine →
    expression.Placed (machine.table watch.limit) environment.scopes →
    watch.Keeps (evaluator.evaluate expression) (other.evaluate expression) machine
      fun value after => watch.Good after value
  execute : ∀ {environment statement machine},
    Happens watch.start (.execution environment statement machine) →
    watch.Ready environment machine → watch.Confined (environment.after statement) →
    statement.Placed (machine.table watch.limit) environment.scopes →
    watch.Keeps (evaluator.execute statement) (other.execute statement) machine
      fun flow after => watch.GoodFlow after flow ∧
        (environment.after statement).Aligned after.heap after.current
  evaluates : ∀ {expression machine value after},
    evaluator.evaluate expression machine = .ok value after →
    Evaluates expression machine value after
  executes : ∀ {statement machine flow after},
    evaluator.execute statement machine = .ok flow after → Executes statement machine flow after
  passes : other.passes = evaluator.passes

namespace Watch

/-! ### Several trees in a row -/

/-- The innermost frame is not the watched one. -/
def Unwatched (watch : Watch) : Environment → Prop
  | [] => True
  | innermost :: _ => innermost.frame ≠ watch.kept

theorem Unwatched.behind (statement : Statement) (unwatched : watch.Unwatched environment)
    (confined : watch.Confined environment) :
    watch.Unwatched (environment.after statement) ∧
      watch.Confined (environment.after statement) := by
  unfold Environment.after
  split
  · cases environment with
    | nil => exact ⟨unwatched, confined⟩
    | cons innermost outer =>
      refine ⟨unwatched, fun activation member isKept => ?_⟩
      rcases List.mem_cons.mp member with rfl | inOuter
      · exact absurd isKept unwatched
      · exact confined activation (List.mem_cons_of_mem _ inOuter) isKept
  · exact ⟨unwatched, confined⟩

theorem executeAll_keeps (trusts : watch.Trusts evaluator other) (statements : List Statement)
    (happened : Happens watch.start (.statements environment statements machine))
    (ready : watch.Ready environment machine) (unwatched : watch.Unwatched environment)
    (placed : Statement.AllPlaced (machine.table watch.limit) environment.scopes statements) :
    watch.Keeps (evaluator.executeAll statements) (other.executeAll statements) machine
      fun flow after => watch.GoodFlow after flow := by
  induction statements generalizing environment machine with
  | nil => exact .pure ready.sound trivial
  | cons statement others inductionHypothesis =>
    have ⟨stillUnwatched, stillConfined⟩ := unwatched.behind statement ready.confined
    refine (trusts.execute (.first happened) ready stillConfined placed.1).bind ?_
    intro flow after ended leads ⟨good, aligned⟩
    have later : watch.Ready (environment.after statement) after :=
      ⟨leads.sound, aligned, (Environment.parent?_after _ _).trans ready.inside, stillConfined⟩
    cases flow with
    | completed =>
      refine inductionHypothesis (.rest happened (trusts.executes ended)) later stillUnwatched ?_
      rw [leads.table, Environment.scopes_after]
      exact placed.2
    | returned value => exact .pure leads.sound good
    | broke => exact .pure leads.sound trivial
    | continued => exact .pure leads.sound trivial

theorem evaluateAll_keeps (trusts : watch.Trusts evaluator other)
    (expressions : List Expression)
    (happened : Happens watch.start (.operands environment expressions machine))
    (ready : watch.Ready environment machine)
    (placed : Expression.AllPlaced (machine.table watch.limit) environment.scopes expressions) :
    watch.Keeps (evaluator.evaluateAll expressions) (other.evaluateAll expressions) machine
      fun values after => (∀ value ∈ values, watch.Good after value) ∧
        EvaluatesAll expressions machine values after := by
  induction expressions generalizing machine with
  | nil => exact .pure ready.sound ⟨fun _ member => absurd member List.not_mem_nil, .nil _⟩
  | cons expression others inductionHypothesis =>
    refine (trusts.evaluate (.firstOperand happened) ready placed.1).bind ?_
    intro value after ended leads good
    have evaluates := trusts.evaluates ended
    have rest := inductionHypothesis (.otherOperands happened evaluates) (ready.later leads)
      (leads.table ▸ placed.2)
    refine rest.bind fun values last _ further ⟨allGood, all⟩ => ?_
    refine .pure further.sound ⟨fun one member => ?_, .cons evaluates all⟩
    rcases List.mem_cons.mp member with rfl | inRest
    · exact further.good leads.sound good
    · exact allGood one inRest

/-! ### Calls of functions -/

/-- A new frame that holds variables, around which lies an environment. -/
theorem openFrame_aligned {heap : Heap} {enclosing : FrameId} {entries : List (String × Value)}
    {owner : Owner} {names : Names} (room : 0 < heap.frames.size)
    (aligned : environment.Aligned heap enclosing)
    (bound : ∀ name, names.get? name = some true → name ∈ entries.map Prod.fst)
    (holds : owner.Holds (heap.openFrame enclosing entries) environment names heap.frames.size) :
    Environment.Aligned (heap.openFrame enclosing entries)
      (⟨owner, names, heap.frames.size⟩ :: environment) heap.frames.size :=
  ⟨rfl, Nat.ne_of_gt room,
    fun name defined => Heap.openFrame_binds heap enclosing (bound name defined),
    holds, enclosing, Heap.openFrame_enclosing? heap enclosing entries,
    aligned.grow (.openFrame heap enclosing entries)⟩

/-- The body of a function can be run in a new frame. -/
theorem Sound.enterCall {function : FunctionId} {arguments : List Value}
    (sound : watch.Sound machine) (fits : watch.Fits machine environment function)
    (confined : watch.Confined environment)
    (enough : arguments.length = (machine.heap.function function).declaration.arity)
    (good : ∀ value ∈ arguments, watch.Good machine value) :
    watch.Ready (environment.body machine function)
        (machine.enterCall (machine.heap.function function) arguments) ∧
      watch.Unwatched (environment.body machine function) ∧
      Statement.AllPlaced (machine.table watch.limit) (environment.body machine function).scopes
        (machine.heap.function function).declaration.body := by
  obtain ⟨inside, object, found, aligned, placed⟩ := fits
  unfold Environment.body
  rw [Heap.function_of_some found] at enough ⊢
  obtain ⟨⟨name, parameters, body⟩, closure, isInitializer⟩ := object
  obtain ⟨areVariables, placedBody⟩ := placed
  have room := Nat.zero_lt_of_lt sound.room
  have unwatched : machine.heap.frames.size ≠ watch.kept := (Nat.ne_of_lt sound.room).symm
  let entries := (parameters.map Identifier.name).zip arguments
  have named : entries.map Prod.fst = parameters.map Identifier.name :=
    List.map_fst_zip (by rw [List.length_map]; exact Nat.le_of_eq enough.symm)
  have opened : watch.Sound (machine.withHeap (machine.heap.openFrame closure entries)) :=
    sound.openFrame closure entries fun entry member => good entry.2 (List.of_mem_zip member).2
  refine ⟨⟨opened.same rfl rfl, openFrame_aligned room aligned ?_ ⟨inside, ?_⟩, rfl, ?_⟩,
    unwatched, placedBody⟩
  · intro parameter defined
    show parameter ∈ entries.map Prod.fst
    rw [named]
    exact parametersIn_get? defined
  · exact fun word isWord => parametersIn_absent areVariables isWord
  · intro activation member isKept
    rcases List.mem_cons.mp member with rfl | outer
    · exact absurd isKept unwatched
    · exact confined activation outer isKept

theorem GoodFlow.carry {before after : Machine} (sound : watch.Sound before)
    (carries : watch.Carries watch before after) {flow : Flow}
    (good : watch.GoodFlow before flow) : watch.GoodFlow after flow := by
  cases flow with
  | returned value => exact carries.good sound good
  | _ => trivial

/-- What a call of a function gives back, after its body ended with a flow. -/
def givenBack (object : FunctionObject) (flow : Flow) : Run Value := do
  if object.isInitializer then
    let line := (object.declaration.name.map Identifier.line).getD 0
    .ofExcept ((← get).heap.frames.getAt object.closure 0 "this" line)
  else
    match flow with
    | .returned value => return value
    | _ => return .nil

/-- A function is called with as many good arguments as it takes. -/
theorem invoke_keeps (trusts : watch.Trusts evaluator other) {function : FunctionId}
    {arguments : List Value}
    (happened : Happens watch.start (.invocation function arguments machine))
    (sound : watch.Sound machine) (closed : watch.Closed machine function)
    (enough : arguments.length = (machine.heap.function function).declaration.arity)
    (good : ∀ value ∈ arguments, watch.Good machine value) :
    watch.Keeps (evaluator.invoke function arguments) (other.invoke function arguments) machine
      fun value after => watch.Good after value := by
  obtain ⟨around, origin, wasClosed, precedes, fits, confined⟩ := closed
  have ⟨ready, unwatched, placed⟩ := sound.enterCall fits confined enough good
  have body := executeAll_keeps trusts _ (.body happened wasClosed precedes) ready unwatched placed
  let object := machine.heap.function function
  let entries := (object.declaration.parameters.map Identifier.name).zip arguments
  have opened : watch.Leads machine
      (machine.withHeap (machine.heap.openFrame object.closure entries)) :=
    .ofHeap (.openFrame _ _ _) (sound.openFrame _ entries fun entry member =>
      good entry.2 (List.of_mem_zip member).2)
  refine .begin (machine.withHeap (machine.heap.openFrame object.closure entries))
    (Run.within machine.heap.frames.size (evaluator.executeAll object.declaration.body) >>=
      givenBack object)
    (Run.within machine.heap.frames.size (other.executeAll object.declaration.body) >>=
      givenBack object) rfl rfl opened ?_
  refine (Keeps.within body ?_).bind ?_
  · intro flow after sound good
    refine good.carry sound (.same ?_ ?_) <;> rfl
  intro flow after _ leads good
  unfold givenBack
  split
  · refine .get_bind (.ofExcept leads.sound fun value found => ?_)
    obtain ⟨_, bound⟩ := Frames.getAt_read? found
    exact leads.sound.values bound
  · split
    · exact .pure leads.sound good
    · exact .pure leads.sound trivial

end Watch

/-! ### Calls of classes -/

namespace Heap

/-- A class takes the arguments of its initializer, which is looked for in the new instance. -/
theorem arity_constructor {machine : Machine} {id declaring : ClassId} {method : FunctionId}
    (finds : (machine.addInstance id).heap.Finds id initializerName declaring method) :
    machine.heap.arity (.constructor id) =
      ((machine.addInstance id).heap.function method).declaration.arity := by
  have sameClasses : machine.heap.classes = (machine.addInstance id).heap.classes := rfl
  rw [arity, method?_congr sameClasses, finds.found]
  rfl

/-- A bound method is the method, but for what it is closed over. -/
theorem function_bindMethod (heap : Heap) (method : FunctionId) (receiver : InstanceId) :
    (heap.bindMethod method receiver).2.function heap.functions.size =
      { heap.function method with closure := heap.frames.size } := by
  refine function_of_some ?_
  exact Array.getElem?_push_size

end Heap

namespace Watch

theorem construct_keeps (trusts : watch.Trusts evaluator other) {id : ClassId}
    {arguments : List Value} (sound : watch.Sound machine)
    (present : id < machine.heap.classes.size)
    (enough : arguments.length = machine.heap.arity (.constructor id))
    (good : ∀ value ∈ arguments, watch.Good machine value)
    (happened : ∀ {declaring method},
      (machine.addInstance id).heap.Finds id initializerName declaring method →
      Happens watch.start (.construction declaring method machine.heap.instances.size arguments
        (machine.addInstance id))) :
    watch.Keeps (evaluator.construct id arguments) (other.construct id arguments) machine
      fun value after => watch.Good after value := by
  have grown : machine.heap.Precedes (machine.addInstance id).heap :=
    (Heap.Precedes.refl _).addInstance id
  have made : watch.Leads machine (machine.addInstance id) :=
    .ofHeap grown (sound.addInstance present)
  have isInstance : (machine.addInstance id).heap.instances[machine.heap.instances.size]? =
      some ⟨id, .empty⟩ := Array.getElem?_push_size
  have isReceiver : watch.Good (machine.addInstance id) (.object machine.heap.instances.size) :=
    (Array.getElem?_eq_some_iff.mp isInstance).1
  have allocated : watch.Keeps (Run.allocate fun heap => heap.addInstance id)
      (Run.allocate fun heap => heap.addInstance id) machine fun receiver after =>
        receiver = machine.heap.instances.size ∧ after = machine.addInstance id :=
    .step rfl made ⟨rfl, rfl⟩
  refine allocated.bind ?_
  rintro receiver after _ leads ⟨rfl, rfl⟩
  refine .get_bind ?_
  split
  · rename_i initializer isMethod
    obtain ⟨declaring, finds⟩ := Heap.finds_of_method? isMethod
    have constructed := happened finds
    have ⟨bound, closed⟩ := bindMethod_closed leads.sound (.constructBinding constructed)
      (leads.sound.finds (grown.lt_classes present) finds) ⟨_, isInstance, finds.inherits⟩
    let last := (machine.addInstance id).bindMethod initializer machine.heap.instances.size
    have method := Heap.function_bindMethod (machine.addInstance id).heap initializer
      machine.heap.instances.size
    refine .begin last
      (do
        let _ ← evaluator.invoke machine.heap.functions.size arguments
        return .object machine.heap.instances.size)
      (do
        let _ ← other.invoke machine.heap.functions.size arguments
        return .object machine.heap.instances.size) rfl rfl bound ?_
    refine (invoke_keeps trusts (.constructInvocation constructed) bound.sound closed ?_ ?_).bind ?_
    · rw [Heap.arity_constructor finds] at enough
      exact enough.trans (congrArg (fun function => function.declaration.arity) method).symm
    · exact fun value member => bound.good leads.sound (leads.good sound (good value member))
    · intro _ after _ further _
      exact .pure further.sound (further.good bound.sound (bound.good leads.sound isReceiver))
  · exact .pure leads.sound isReceiver

/-! ### Calls of anything -/

/-- What the host can reach from good arguments on is good. -/
theorem Sound.reaches (sound : watch.Sound machine) {arguments : List Value}
    (good : ∀ value ∈ arguments, watch.Good machine value) {value : Value}
    (reaches : machine.heap.view.Reaches arguments value) : watch.Good machine value := by
  induction reaches with
  | @plain value isPlain =>
    cases value with
    | callable _ | object _ => exact isPlain.elim
    | _ => trivial
  | argument member => exact good _ member
  | @field id name value _ isSet isObject =>
    have found := Array.getElem?_eq_getElem isObject
    have isSet : (machine.heap.instanceAt id).fields.get? name = some value := isSet
    rw [Heap.instanceAt_of_some found] at isSet
    exact sound.fields found isSet
  | @classOf id _ isObject =>
    have found := Array.getElem?_eq_getElem isObject
    show (machine.heap.instanceAt id).classId < machine.heap.classes.size
    rw [Heap.instanceAt_of_some found]
    exact sound.instances found
  | @superclass id parent _ isParent isClass =>
    have found := Array.getElem?_eq_getElem isClass
    have isParent : (machine.heap.classAt id).superclass = some parent := isParent
    rw [Heap.classAt_of_some found] at isParent
    exact sound.parents found isParent

theorem storeAll_keeps {stores : List FieldStore} (sound : watch.Sound machine)
    (good : ∀ store ∈ stores, watch.Good machine store.value) :
    watch.Keeps (Evaluator.storeAll stores) (Evaluator.storeAll stores) machine
      fun _ _ => True := by
  induction stores generalizing machine with
  | nil => exact .pure sound trivial
  | cons store others inductionHypothesis =>
    have stored : watch.Leads machine (machine.withHeap
        (machine.heap.setField store.receiver store.name store.value)) :=
      .ofHeap ((Heap.Precedes.refl _).setField _ _ _)
        (sound.setField (good store List.mem_cons_self))
    refine .begin _ (Evaluator.storeAll others) (Evaluator.storeAll others) rfl rfl stored ?_
    exact inductionHypothesis stored.sound fun other member =>
      stored.good sound (good other (List.mem_cons_of_mem store member))

/-- What a host function does with good arguments. -/
theorem carryOut_keeps {effect : HostEffect} {arguments : List Value} {line : Nat}
    (sound : watch.Sound machine) (good : ∀ value ∈ arguments, watch.Good machine value)
    (handsOn : effect.HandsOn machine.heap.view arguments) :
    watch.Keeps (Evaluator.carryOut effect line) (Evaluator.carryOut effect line) machine
      fun value after => watch.Good after value := by
  refine (storeAll_keeps sound fun store member =>
    sound.reaches good (handsOn.values store member)).bind fun _ after _ leads _ => ?_
  split
  · rename_i value isAnswer
    exact .pure leads.sound (leads.good sound (sound.reaches good (handsOn.answer isAnswer)))
  · exact .throw leads.sound

theorem callNative_keeps {id : NativeId} {arguments : List Value} {line : Nat}
    (sound : watch.Sound machine) (good : ∀ value ∈ arguments, watch.Good machine value) :
    watch.Keeps (Evaluator.callNative id arguments line)
      (Evaluator.callNative id arguments line) machine fun value after =>
        watch.Good after value := by
  refine .get_bind ?_
  split
  · refine .step rfl ⟨.refl _, rfl, rfl, ?_⟩ trivial
    exact sound.same rfl rfl
  · exact carryOut_keeps sound good (HostFunction.handsOn _ _ _)

/-- A value is called, as a call in the program does after its operands are evaluated. -/
theorem call_keeps (trusts : watch.Trusts evaluator other) {callee : Expression} {line : Nat}
    {operands : List Expression} {start middle : Machine} {value : Value} {arguments : List Value}
    (happened : Happens watch.start (.evaluation environment (.call callee line operands) start))
    (evaluates : Evaluates callee start value middle)
    (evaluatesAll : EvaluatesAll operands middle arguments machine)
    (sound : watch.Sound machine) (good : watch.Good machine value)
    (allGood : ∀ argument ∈ arguments, watch.Good machine argument) :
    watch.Keeps (evaluator.call value arguments line) (other.call value arguments line) machine
      fun value after => watch.Good after value := by
  unfold Evaluator.call
  split
  · rename_i callable
    refine .get_bind ?_
    dsimp only
    split
    · exact .throw sound
    · rename_i enough
      have enough := Decidable.not_not.mp enough
      split
      · exact .throw sound
      · rename_i shallow
        have shallow := Nat.not_le.mp shallow
        have carries : watch.Carries watch machine machine.countCall := .same rfl rfl
        have counted : watch.Sound machine.countCall := sound.same rfl rfl
        have stillGood : ∀ argument ∈ arguments, watch.Good machine.countCall argument :=
          fun argument member => carries.good sound (allGood argument member)
        have back (value : Value) (after : Machine) (sound : watch.Sound after)
            (good : watch.Good after value) :
            watch.Good { after with callDepth := after.callDepth - 1 } value := by
          have carries :
              watch.Carries watch after { after with callDepth := after.callDepth - 1 } :=
            .same rfl rfl
          exact carries.good sound good
        refine .inCall ?_ back
        cases callable with
        | native id => exact callNative_keeps counted stillGood
        | function id =>
          exact invoke_keeps trusts
            (.call happened evaluates evaluatesAll (.inl rfl) enough shallow) counted
            (carries.closed sound good) enough stillGood
        | method id =>
          exact invoke_keeps trusts
            (.call happened evaluates evaluatesAll (.inr rfl) enough shallow) counted
            (carries.closed sound good) enough stillGood
        | constructor id =>
          exact construct_keeps trusts counted good enough stillGood
            (.construct happened evaluates evaluatesAll enough shallow)
  · exact .throw sound

end Watch

end Lox
