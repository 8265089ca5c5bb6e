/-
What `this` and `super` mean. `this` is an instance of a class that inherits from the one whose
declaration lies around, and `super` looks for methods in the class that was the superclass when
that declaration was executed, whatever the receiver is and whatever the name of the superclass
means by now.
-/

import Lox.Proofs.Run.Occurrences

namespace Lox

open Scope

variable {start : Session} {machine : Machine} {environment : Environment}

/-! ### The class around -/

/-- A class was made by the execution of its declaration, when the class that the declaration names
as superclass, if it names one, was `parent`. What lies around the methods is the environment of the
declaration, with the frame that was made for the superclass. -/
def DeclaresClass (start : Session) (outer : Environment) (declaring : ClassId)
    (parent : Option ClassId) : Prop :=
  ∃ environment name superclass methods before middle table after,
    Happens start (.execution environment (.declareClass name superclass methods) before) ∧
      NamesParent superclass before parent middle ∧
      makeMethods name.name parent methods middle = .ok table after ∧
      declaring = after.heap.classes.size ∧
      outer = (environment.enter name.name true).methods middle parent

theorem Happens.declaresClass {outer : Environment} {declaring : ClassId} {method : FunctionId}
    (happened : Happens start (.method outer declaring method machine)) :
    ∃ parent, DeclaresClass start outer declaring parent := by
  cases happened with
  | method happened names made _ =>
    exact ⟨_, _, _, _, _, _, _, _, _, happened, names, made, rfl, rfl⟩

/-- The frame that lies around the methods of a class tells its superclass. -/
theorem DeclaresClass.parent? {outer : Environment} {declaring : ClassId} {parent : Option ClassId}
    (started : start.Sound start) (declares : DeclaresClass start outer declaring parent) :
    outer.parent? = parent := by
  obtain ⟨environment, _, _, _, _, _, _, _, happened, _, _, _, rfl⟩ := declares
  obtain ⟨_, ready, _⟩ := Session.bears started happened
  exact Watch.parent?_methods _ parent ((Environment.parent?_enter _ _ _).trans ready.inside)

/-! ### The receiver -/

/-- The nearest `this` around is that of a method which a class declares, the class was made by the
declaration around the method, and the object is an instance of a class that inherits from it. -/
structure Receives (start : Session) (environment : Environment) (machine : Machine)
    (distance : Nat) (receiver : InstanceId) (declaring : ClassId) (parent : Option ClassId) :
    Prop where
  isReceiver : environment[distance]?.map Activation.owner = some (.receiver declaring receiver)
  nearest : ∀ nearer ∈ environment.take distance, nearer.names.contains "this" = false
  declares : DeclaresClass start (environment.drop (distance + 1)) declaring parent
  isInstance : machine.heap.InstanceOf receiver declaring

/-- Where `this` is in scope, there is a receiver, and its frame binds it. -/
theorem Happens.receives {expression : Expression} {distance : Nat}
    (started : start.Sound start)
    (happened : Happens start (.evaluation environment expression machine))
    (nearest : distance? environment.scopes "this" = some distance) :
    ∃ receiver declaring parent,
      Receives start environment machine distance receiver declaring parent ∧
        ∀ line, machine.heap.frames.getAt machine.current distance "this" line =
          .ok (.object receiver) := by
  obtain ⟨_, ready, _⟩ := Session.bears started happened
  obtain ⟨activation, declaring, receiver, isActivation, isReceiver, isFrame, _, isThis, isInstance,
    _⟩ := ready.aligned.this nearest
  obtain ⟨_, _, _, nearer⟩ := Environment.nearest nearest
  have opened := happened.opened.activation isActivation
  unfold Activation.Opened at opened
  rw [isReceiver] at opened
  obtain ⟨_, _, _, made, _⟩ := opened
  obtain ⟨parent, declares⟩ := made.declaresClass
  refine ⟨receiver, declaring, parent, ⟨?_, nearer, declares, isInstance⟩, fun line =>
    Frames.getAt_of_ancestor? isFrame isThis⟩
  rw [isActivation, Option.map_some, isReceiver]

/-- Whatever the class of an instance and whatever has been declared since: `this` is the instance,
in a method of a class that its class inherits from; and `super` looks for a method from the class
on that was the superclass when the class of the method was declared, and binds it to the same
instance. Every expression that is evaluated in a session is such a one. -/
theorem receiver_dispatch {capacity : Option Nat} {clock : Clock} {expression : Expression}
    (happened : Happens (.start capacity clock) (.evaluation environment expression machine)) :
    (∀ reference keyword, expression = .this reference keyword →
      ∃ distance receiver declaring parent,
        Receives (.start capacity clock) environment machine distance receiver declaring parent ∧
          ∀ depth, evaluate (depth + 1) expression machine = .ok (.object receiver) machine) ∧
    (∀ reference keyword method, expression = .super reference keyword method →
      ∃ distance receiver declaring parent,
        Receives (.start capacity clock) environment machine distance receiver declaring
            (some parent) ∧
          machine.heap.InstanceOf receiver parent ∧
          ∀ depth, evaluate (depth + 1) expression machine =
            match machine.heap.method? parent method.name with
            | some found => .ok (.callable (.method machine.heap.functions.size))
                (machine.bindMethod found receiver)
            | none => .error
                (.error (.located (.undefinedProperty method.name) method.line)) machine) ∧
    (Session.start capacity clock).OnlyHappens := by
  have started := Session.start_sound (.start capacity clock) capacity clock
  obtain ⟨_, ready, placed⟩ := Session.bears started happened
  refine ⟨?_, ?_, started.onlyHappens⟩
  · rintro reference keyword rfl
    obtain ⟨isThis, distance, nearest, known⟩ := placed
    obtain ⟨receiver, declaring, parent, receives, isObject⟩ := happened.receives started nearest
    refine ⟨distance, receiver, declaring, parent, receives, fun depth => ?_⟩
    show Evaluator.lookUp reference keyword machine = _
    rw [Evaluator.lookUp_local known.2, isThis, isObject]
    rfl
  · rintro reference keyword method rfl
    obtain ⟨distance, _, parent, object, nearest, known, _, isSuperclass, isSuper, isThis, _, _, _,
      isInstance⟩ := ready.super placed
    obtain ⟨receiver, declaring, _, receives, isObject⟩ := happened.receives started nearest
    obtain rfl : object = receiver := by
      cases isThis.symm.trans (isObject keyword.line)
      rfl
    have isParent := (receives.declares.parent? started).symm.trans
      (Environment.parent?_drop isSuperclass)
    refine ⟨distance, object, declaring, parent, isParent ▸ receives, isInstance, fun depth => ?_⟩
    show Evaluator.superMethod reference keyword method machine = _
    rw [Watch.superMethod_eq method known isSuper isThis]
    cases machine.heap.method? parent method.name <;> rfl

/-- An inherited method is called through `super`. -/
theorem receiver_dispatch_inherited :
    ∃ (environment : Environment) (machine : Machine) (distance : Nat) (receiver : InstanceId)
      (declaring parent : ClassId),
      Happens (.start none ⟨0⟩)
          (.evaluation environment (.super 1 ⟨"super", 1⟩ ⟨"m", 1⟩) machine) ∧
        Receives (.start none ⟨0⟩) environment machine distance receiver declaring
          (some parent) ∧
        machine.heap.InstanceOf receiver parent := by
  let plain : FunctionDeclaration := ⟨some ⟨"m", 1⟩, [], []⟩
  let own : FunctionDeclaration :=
    ⟨some ⟨"m", 1⟩, [], [.expression (.super 1 ⟨"super", 1⟩ ⟨"m", 1⟩)]⟩
  have read : ((Session.start none ⟨0⟩).after []).readProgram
      "class A { m() {} } class B < A { m() { super.m; } } B().m();" =
      (.ok [.declareClass ⟨"A", 1⟩ none [plain],
        .declareClass ⟨"B", 1⟩ (some (.read 0 ⟨"A", 1⟩)) [own],
        .expression (.call (.get (.call (.read 2 ⟨"B", 1⟩) 1 []) ⟨"m", 1⟩) 1 [])], _) := rfl
  let natives : Array NativeFunction := #[⟨"clock", 0, .clock⟩]
  let known : Distances := Std.TreeMap.empty.insert 1 2
  -- the machine when there is the first class
  let globals : Bindings Value :=
    ⟨[("clock", .callable (.native 0)), ("A", .callable (.constructor 0))]⟩
  let classA : ClassObject := ⟨"A", ⟨[("m", 0)]⟩, none⟩
  let heap : Heap := ⟨⟨#[⟨globals, none⟩]⟩, #[⟨plain, 0, false⟩], #[classA], #[], natives⟩
  have second : Happens _ (.program _ ⟨heap, 0, 0, known, .empty none, ⟨0⟩⟩) :=
    .programRest (.program read rfl) ⟨1, rfl⟩
  -- the machine when there are both
  let frames : Frames := ⟨#[⟨globals.write "B" (.callable (.constructor 1)), none⟩,
    ⟨⟨[("super", .callable (.constructor 0))]⟩, some 0⟩]⟩
  let classB : ClassObject := ⟨"B", ⟨[("m", 1)]⟩, some 0⟩
  let later : Heap :=
    ⟨frames, #[⟨plain, 0, false⟩, ⟨own, 1, false⟩], #[classA, classB], #[], natives⟩
  have third : Happens _ (.program _ ⟨later, 0, 0, known, .empty none, ⟨0⟩⟩) :=
    .programRest second ⟨2, rfl⟩
  have names : NamesParent (some (.read 0 ⟨"A", 1⟩)) ⟨heap, 0, 0, known, .empty none, ⟨0⟩⟩ (some 0)
      _ := .some ⟨1, rfl⟩
  have method : Happens _ (.method _ 1 1 _) := @Happens.method _ _ _ _ _ _ (some 0) _
    ⟨[("m", 1)]⟩ _ "m" _ (.programFirst second) names rfl rfl
  have called := Happens.statementOperand (.programFirst third) .expression
  have binding : Happens _ (.binding 1 1 0 _) :=
    .get (.operand called .callee) (⟨4, rfl⟩ : Evaluates _ _ (.object 0) _) rfl
      ⟨rfl, .refl _, rfl⟩
  -- since the method was made, the class was bound and the instance was added
  have closing := Happens.bound binding method
    ⟨((Heap.Precedes.refl _).define 0 "B" (.callable (.constructor 1))
      (.inr (.inl rfl))).addInstance 1, fun _ => .refl _ _⟩
  have invoked := Happens.call called (⟨5, rfl⟩ : Evaluates _ _ (.callable (.method 2)) _)
    (.nil _) (.inr rfl) rfl (by decide)
  have entered := Happens.body invoked closing ⟨.refl _, fun _ => .refl _ _⟩
  have happened := Happens.statementOperand (.first entered) .expression
  have dispatched := (receiver_dispatch happened).2.1 1 ⟨"super", 1⟩ ⟨"m", 1⟩ rfl
  obtain ⟨distance, receiver, declaring, parent, receives, isInstance, _⟩ := dispatched
  exact ⟨_, _, distance, receiver, declaring, parent, happened, receives, isInstance⟩

end Lox
