/-
Where the names of a running program lead. The distance that was recorded for an occurrence of a
name counts the frames out to the one that was made, in this run, for the scope that declares the
name.
-/

import Lox.Proofs.Run.Recorded

namespace Lox

open Scope

variable {start : Session} {machine : Machine} {environment : Environment}

/-! ### How frames are made -/

/-- The frame of an activation was the next unused one when it was made: when a block was entered, a
function called that had been closed over the environment around, a method bound that a class
declares in the environment around, or a class with a superclass declared. -/
def Activation.Opened (start : Session) (outer : Environment) (activation : Activation) : Prop :=
  match activation.owner with
  | .block => ∃ statements machine, Happens start (.execution outer (.block statements) machine) ∧
      activation.frame = machine.heap.frames.size
  | .call function => ∃ arguments origin machine,
      Happens start (.closing outer function origin) ∧ origin.Precedes machine ∧
      Happens start (.invocation function arguments machine) ∧
      activation.frame = machine.heap.frames.size
  | .receiver declaring object => ∃ method origin machine,
      Happens start (.method outer declaring method origin) ∧ origin.Precedes machine ∧
      Happens start (.binding declaring method object machine) ∧
      activation.frame = machine.heap.frames.size
  | .superclass parent => ∃ environment name superclass methods before machine,
      Happens start (.execution environment (.declareClass name superclass methods) before) ∧
      NamesParent superclass before (some parent) machine ∧
      outer = environment.enter name.name true ∧ activation.frame = machine.heap.frames.size

/-- The environment of an event. -/
def Event.around : Event → Environment
  | .statements environment _ _ => environment
  | .execution environment _ _ => environment
  | .pass environment _ _ _ _ => environment
  | .evaluation environment _ _ => environment
  | .operands environment _ _ => environment
  | .closing environment _ _ => environment
  | .method environment _ _ _ => environment
  | _ => []

/-- Every activation of the environment has a frame that was made for it. -/
def Environment.Opened (start : Session) : Environment → Prop
  | [] => True
  | activation :: outer => activation.Opened start outer ∧ Environment.Opened start outer

namespace Environment.Opened

theorem enter (opened : environment.Opened start) (name : String) (isDefined : Bool) :
    (environment.enter name isDefined).Opened start := by
  cases environment with
  | nil => exact opened
  | cons innermost outer => exact opened

theorem behind (opened : environment.Opened start) (statement : Statement) :
    (environment.after statement).Opened start := by
  unfold Environment.after
  split
  · exact opened.enter _ true
  · exact opened

/-- The activation at a distance, in the environment around it. -/
theorem activation (opened : environment.Opened start) {distance : Nat}
    {activation : Activation} (isActivation : environment[distance]? = some activation) :
    activation.Opened start (environment.drop (distance + 1)) := by
  induction environment generalizing distance with
  | nil => exact nomatch isActivation
  | cons innermost outer inductionHypothesis =>
    cases distance with
    | zero =>
      cases isActivation
      exact opened.1
    | succ distance => exact inductionHypothesis opened.2 isActivation

end Environment.Opened

theorem Happens.opened {event : Event} (happened : Happens start event) :
    event.around.Opened start := by
  induction happened with
  | program _ _ | loneExpression _ _ | programFirst _ _ | programRest _ _ _ | call _ _ _ _ _ _ _
  | construct _ _ _ _ _ _ _ | constructBinding _ _ | constructInvocation _ _ | get _ _ _ _ _
  | super _ _ _ _ _ _ => exact trivial
  | first _ opened | statementOperand _ _ opened | branch _ _ opened | loop _ opened
  | loopCondition _ opened | loopBody _ _ _ opened | loopIncrement _ _ _ _ _ opened
  | nextPass _ _ _ _ _ opened | nextPassAfter _ _ _ _ _ _ opened | operand _ _ opened
  | arguments _ _ opened | firstOperand _ opened | otherOperands _ _ opened
  | function _ opened => exact opened
  | rest _ _ opened => exact opened.behind _
  | initializer _ opened | superclass _ opened => exact opened.enter _ false
  | declaredFunction _ _ opened => exact opened.enter _ true
  | block happened opened => exact ⟨⟨_, _, happened, rfl⟩, opened⟩
  | bound binding method precedes _ opened =>
    exact ⟨⟨_, _, _, method, precedes, binding, rfl⟩, opened⟩
  | body invocation closing precedes _ opened =>
    exact ⟨⟨_, _, _, closing, precedes, invocation, rfl⟩, opened⟩
  | method happened names _ _ opened =>
    cases names with
    | none => exact opened.enter _ true
    | some ended =>
      exact ⟨⟨_, _, _, _, _, _, happened, .some ended, rfl, rfl⟩, opened.enter _ true⟩

/-! ### Where a name is looked for -/

/-- The reference and the name of an expression that is an occurrence of a name. -/
def Expression.occurrence? : Expression → Option (Reference × Identifier)
  | .read reference name => some (reference, name)
  | .assign reference name _ => some (reference, name)
  | .this reference keyword => some (reference, keyword)
  | .super reference keyword _ => some (reference, keyword)
  | _ => none

/-- A name with a distance is looked for so many frames out. -/
theorem Evaluator.lookUp_local {reference : Reference} {distance : Nat}
    (recorded : machine.distances[reference]? = some distance) (name : Identifier) :
    Evaluator.lookUp reference name machine = Run.ofExcept
      (machine.heap.frames.getAt machine.current distance name.name name.line) machine := by
  unfold lookUp
  rw [Run.get_bind, recorded]

/-- A name without a distance is looked for globally. -/
theorem Evaluator.lookUp_global {reference : Reference}
    (unrecorded : machine.distances[reference]? = none) (name : Identifier) :
    Evaluator.lookUp reference name machine =
      Run.ofExcept (machine.heap.frames.get Heap.globalFrame name.name name.line) machine := by
  unfold lookUp
  rw [Run.get_bind, unrecorded]

theorem Evaluator.holder_local {reference : Reference} {distance : Nat}
    (recorded : machine.distances[reference]? = some distance) (name : Identifier) :
    Evaluator.holder reference name machine = Run.ofExcept
      (machine.heap.frames.holderAt machine.current distance name.name name.line) machine := by
  unfold holder
  rw [Run.get_bind, recorded]

theorem Evaluator.holder_global {reference : Reference}
    (unrecorded : machine.distances[reference]? = none) (name : Identifier) :
    Evaluator.holder reference name machine =
      Run.ofExcept (machine.heap.frames.holder Heap.globalFrame name.name name.line) machine := by
  unfold holder
  rw [Run.get_bind, unrecorded]

/-- What is known of the distance of an occurrence is how many activations out its name is first
found. -/
theorem Expression.Placed.occurrence {table : Table} {scopes : List Names}
    {expression : Expression} {reference : Reference} {name : Identifier}
    (placed : expression.Placed table scopes)
    (occurs : expression.occurrence? = some (reference, name)) :
    table reference (distance? scopes name.name) := by
  cases expression with
  | read _ _ =>
    cases occurs
    exact placed.2.2
  | assign _ _ _ =>
    cases occurs
    exact placed.2.2
  | this _ _ =>
    cases occurs
    obtain ⟨isThis, _, nearest, known⟩ := placed
    rw [isThis, nearest]
    exact known
  | super _ _ _ =>
    cases occurs
    obtain ⟨isSuper, _, _, nearest, known⟩ := placed
    rw [isSuper, nearest]
    exact known
  | _ => exact nomatch occurs

/-- As many frames out as is known of an occurrence is the frame that was made for the innermost
scope around that has the name. -/
theorem Happens.activation {expression : Expression} {reference : Reference} {name : Identifier}
    {distance : Nat} (started : start.Sound start)
    (happened : Happens start (.evaluation environment expression machine))
    (occurs : expression.occurrence? = some (reference, name))
    (recorded : machine.distances[reference]? = some distance) :
    ∃ activation, environment[distance]? = some activation ∧
      activation.names.contains name.name = true ∧
      (∀ nearer ∈ environment.take distance, nearer.names.contains name.name = false) ∧
      activation.Opened start (environment.drop (distance + 1)) ∧
      machine.heap.frames.ancestor? machine.current distance = some activation.frame := by
  obtain ⟨limit, ready, placed⟩ := Session.bears started happened
  have known := (placed.occurrence occurs).2
  obtain ⟨activation, isActivation, contains, nearer⟩ :=
    Environment.nearest (known.symm.trans recorded)
  exact ⟨activation, isActivation, contains, nearer, happened.opened.activation isActivation,
    (ready.aligned.activation isActivation).1⟩

/-- Wherever a name occurs in an accepted program, at whatever time it is evaluated: if a distance
was recorded, then so many frames out is the frame that was made for the innermost scope around that
has the name; and if none was recorded, no scope around has the name, and it is looked for in the
global frame, which lies behind all of them. Every expression that is evaluated in a session is such
a one. -/
theorem occurrence_frame {capacity : Option Nat} {clock : Clock} {expression : Expression}
    {reference : Reference} {name : Identifier}
    (happened : Happens (.start capacity clock) (.evaluation environment expression machine))
    (occurs : expression.occurrence? = some (reference, name)) :
    (∀ distance, machine.distances[reference]? = some distance →
      ∃ activation, environment[distance]? = some activation ∧
        activation.names.contains name.name = true ∧
        (∀ nearer ∈ environment.take distance, nearer.names.contains name.name = false) ∧
        activation.Opened (.start capacity clock) (environment.drop (distance + 1)) ∧
        machine.heap.frames.ancestor? machine.current distance = some activation.frame) ∧
    (machine.distances[reference]? = none →
      (∀ activation ∈ environment, activation.names.contains name.name = false) ∧
        machine.heap.frames.ancestor? machine.current environment.length =
          some Heap.globalFrame ∧
        machine.heap.frames.enclosing? Heap.globalFrame = none ∧
        Evaluator.lookUp reference name machine =
          Run.ofExcept (machine.heap.frames.get Heap.globalFrame name.name name.line) machine ∧
        Evaluator.holder reference name machine =
          Run.ofExcept (machine.heap.frames.holder Heap.globalFrame name.name name.line)
            machine) ∧
    (Session.start capacity clock).OnlyHappens := by
  have started := Session.start_sound (.start capacity clock) capacity clock
  refine ⟨fun distance recorded => happened.activation started occurs recorded,
    fun unrecorded => ?_, started.onlyHappens⟩
  obtain ⟨limit, ready, placed⟩ := Session.bears started happened
  have known := (placed.occurrence occurs).2
  exact ⟨Environment.nowhere (known.symm.trans unrecorded), ready.aligned.outermost,
    ready.sound.outermost, Evaluator.lookUp_global unrecorded name,
    Evaluator.holder_global unrecorded name⟩

/-- A variable of the block around is found one frame out. -/
theorem occurrence_frame_aroundBlock :
    ∃ (environment : Environment) (machine : Machine) (activation : Activation),
      Happens (.start none ⟨0⟩) (.evaluation environment (.read 0 ⟨"a", 1⟩) machine) ∧
        machine.distances[0]? = some 1 ∧ environment[1]? = some activation ∧
        machine.heap.frames.ancestor? machine.current 1 = some activation.frame := by
  let inner : Statement := .expression (.read 0 ⟨"a", 1⟩)
  have read : ((Session.start none ⟨0⟩).after []).readProgram "{ var a; { a; } }" =
      (.ok [.block [.declareVariable ⟨"a", 1⟩ none, .block [inner]]], _) := rfl
  have entered := Happens.block (.programFirst (.program read rfl))
  have happened := Happens.statementOperand
    (.first (.block (.first (.rest entered ⟨1, rfl⟩)))) .expression
  have aligned := (occurrence_frame happened rfl).1 1 rfl
  obtain ⟨activation, isActivation, _, _, _, isFrame⟩ := aligned
  exact ⟨_, _, activation, happened, rfl, isActivation, isFrame⟩

end Lox
