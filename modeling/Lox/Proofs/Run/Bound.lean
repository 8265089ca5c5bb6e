/-
Whether a name is bound where its distance leads. It is, unless its declaration has only been begun:
a variable is not bound yet while its own initializer is evaluated, and a function in the
initializer can be called by then.
-/

import Lox.Proofs.Run.Occurrences

namespace Lox

open Scope

variable {start : Session} {after : Machine} {environment : Environment}
  {machine : Machine}

/-! ### Machines that go on -/

namespace Happens

variable {capacity : Option Nat} {clock : Clock}

theorem evaluates_precedes {expression : Expression} {value : Value}
    (started : start.Sound start)
    (happened : Happens start (.evaluation environment expression machine))
    (ended : Evaluates expression machine value after) : machine.heap.Precedes after.heap := by
  obtain ⟨_, ready, placed⟩ := Session.bears started happened
  exact (ready.evaluates happened placed ended).1.heap

theorem executes_precedes {statement : Statement} {flow : Flow} (started : start.Sound start)
    (happened : Happens start (.execution environment statement machine))
    (ended : Executes statement machine flow after) : machine.heap.Precedes after.heap := by
  obtain ⟨_, ready, placed⟩ := Session.bears started happened
  have ⟨wider, confined⟩ := ready.behind statement
  exact (wider.executes happened confined placed ended).1.heap

theorem operand_precedes {expression inner : Expression} (started : start.Sound start)
    (happened : Happens start (.evaluation environment expression machine))
    (part : Operand expression machine inner after) : machine.heap.Precedes after.heap := by
  cases part with
  | right ended => exact (operand happened .left).evaluates_precedes started ended
  | undecided ended => exact (operand happened .decisive).evaluates_precedes started ended
  | stored ended => exact (operand happened .target).evaluates_precedes started ended
  | _ => exact .refl _

theorem branch_precedes {statement inner : Statement} (started : start.Sound start)
    (happened : Happens start (.execution environment statement machine))
    (part : statement.Branch machine inner after) : machine.heap.Precedes after.heap := by
  cases part with
  | thenBranch ended _ | elseBranch ended _ =>
    exact (statementOperand happened .condition).evaluates_precedes started ended

theorem declareFunction_precedes {declaration : FunctionDeclaration} {name : Identifier}
    (started : start.Sound start)
    (happened : Happens start (.execution environment (.declareFunction declaration) machine))
    (isName : declaration.name = some name) :
    machine.heap.Precedes ((machine.close declaration).define name.name
      (.callable (.function machine.heap.functions.size))).heap := by
  obtain ⟨_, _, _, sameName, isVariable, _⟩ := Session.bears started happened
  cases isName.symm.trans sameName
  exact ((Heap.Precedes.refl _).addFunction _).trans
    (Watch.precedes_define (machine.close declaration) isVariable _)

theorem declareClass_precedes {name : Identifier} {superclass : Option Expression}
    {methods : List FunctionDeclaration} {parent : Option ClassId} {middle : Machine}
    {table : Bindings FunctionId} (started : start.Sound start)
    (happened : Happens start
      (.execution environment (.declareClass name superclass methods) machine))
    (names : NamesParent superclass machine parent middle)
    (made : makeMethods name.name parent methods middle = .ok table after) :
    machine.heap.Precedes after.heap := by
  obtain ⟨_, ready, placed⟩ := Session.bears started happened
  have ⟨wider, confined⟩ := ready.behind (.declareClass name superclass methods)
  have ⟨ledToParent, ledToMethods, _⟩ := wider.makeMethods happened confined placed names made
  exact ledToParent.heap.trans ledToMethods.heap

end Happens

/-! ### Initializers that have begun -/

/-- A variable is about to be initialized in a frame that did not bind its name when that began. -/
structure Begun (start : Session) (frame : FrameId) (name : Identifier) (initializer : Expression)
    (before machine : Machine) : Prop where
  happened : ∃ around,
    Happens start (.execution around (.declareVariable name (some initializer)) before)
  current : before.current = frame
  unbound : before.heap.frames.read? frame name.name = none
  precedes : before.heap.Precedes machine.heap

/-- Every name that is pending in the environment is that of a variable whose initializer has
begun. -/
def Environment.Pending (start : Session) (machine : Machine) (environment : Environment) :
    Prop :=
  ∀ activation ∈ environment, ∀ word, activation.names.get? word = some false →
    ∃ name initializer before, name.name = word ∧
      Begun start activation.frame name initializer before machine

namespace Environment.Pending

theorem later (pending : environment.Pending start machine)
    (precedes : machine.heap.Precedes after.heap) : environment.Pending start after := by
  intro activation member word isPending
  obtain ⟨name, initializer, before, isName, happened, isFrame, unbound, earlier⟩ :=
    pending activation member word isPending
  exact ⟨name, initializer, before, isName, happened, isFrame, unbound, earlier.trans precedes⟩

/-- A new activation in which every name is defined. -/
theorem cons {activation : Activation} (pending : environment.Pending start machine)
    (defined : ∀ name, activation.names.get? name ≠ some false) :
    Environment.Pending start machine (activation :: environment) := by
  intro other member name isPending
  rcases List.mem_cons.mp member with rfl | inOuter
  · exact absurd isPending (defined name)
  · exact pending other inOuter name isPending

/-- A name is entered that is defined or whose declaration has begun. -/
theorem enter (pending : environment.Pending start machine) {name : String} {isDefined : Bool}
    (begun : isDefined = false → ∀ frame ∈ environment.head?.map Activation.frame,
      ∃ identifier initializer before, identifier.name = name ∧
        Begun start frame identifier initializer before machine) :
    (environment.enter name isDefined).Pending start machine := by
  cases environment with
  | nil => exact pending
  | cons innermost outer =>
    intro activation member other isPending
    rcases List.mem_cons.mp member with rfl | inOuter
    · rw [Bindings.get?_write] at isPending
      split at isPending
      · rename_i same
        subst same
        exact begun (Option.some.inj isPending) innermost.frame rfl
      · exact pending innermost List.mem_cons_self other isPending
    · exact pending activation (List.mem_cons_of_mem _ inOuter) other isPending

theorem define (pending : environment.Pending start machine) (name : String) :
    (environment.enter name true).Pending start machine :=
  pending.enter nofun

theorem behind (pending : environment.Pending start machine) (statement : Statement) :
    (environment.after statement).Pending start machine := by
  unfold Environment.after
  split
  · exact pending.define _
  · exact pending

end Environment.Pending

/-- The frame in which a variable is declared does not bind its name before. -/
theorem Happens.begins {name : Identifier} {initializer : Expression}
    (started : start.Sound start)
    (happened : Happens start
      (.execution environment (.declareVariable name (some initializer)) machine)) :
    ∀ frame ∈ environment.head?.map Activation.frame,
      Begun start frame name initializer machine machine := by
  obtain ⟨limit, ready, _, isNew, _⟩ := Session.bears started happened
  intro frame isFrame
  cases environment with
  | nil => cases isFrame
  | cons innermost outer =>
    cases isFrame
    refine ⟨⟨_, happened⟩, ready.aligned.1, ?_, .refl _⟩
    cases bound : machine.heap.frames.read? innermost.frame name.name with
    | none => rfl
    | some value =>
      -- the frame binds no more than the environment tells, and that has no such name
      have allows : innermost.names.contains name.name = true :=
        ready.sound.keeps (Option.isSome_iff_exists.mpr ⟨value, bound⟩)
      have absent : innermost.names.get? name.name = none := isNew
      rw [Bindings.contains, absent] at allows
      cases allows

/-- The activations whose pending names an expression may meet. A name that is read is not pending
in the innermost scope. -/
def Expression.exposes : Expression → Environment → Environment
  | .read _ _, environment => environment.tail
  | _, environment => environment

theorem Environment.Pending.exposed (pending : environment.Pending start machine)
    (expression : Expression) : (expression.exposes environment).Pending start machine := by
  cases expression with
  | read _ _ => exact fun activation member => pending activation (List.mem_of_mem_tail member)
  | _ => exact pending

/-- The activations whose pending names an event may meet. -/
def Event.exposed : Event → Environment
  | .evaluation environment expression _ => expression.exposes environment
  | event => event.around

/-- The machine of an event. -/
def Event.on : Event → Machine
  | .program _ machine => machine
  | .statements _ _ machine => machine
  | .execution _ _ machine => machine
  | .pass _ _ _ _ machine => machine
  | .evaluation _ _ machine => machine
  | .operands _ _ machine => machine
  | .invocation _ _ machine => machine
  | .construction _ _ _ _ machine => machine
  | .binding _ _ _ machine => machine
  | .closing _ _ machine => machine
  | .method _ _ _ machine => machine

theorem Happens.pending {event : Event} (started : start.Sound start)
    (happened : Happens start event) : event.exposed.Pending start event.on := by
  have nowhere (machine : Machine) : Environment.Pending start machine [] :=
    fun _ member => absurd member List.not_mem_nil
  induction happened with
  | program _ _ | programFirst _ _ | programRest _ _ _ | call _ _ _ _ _ _ _
  | construct _ _ _ _ _ _ _ | constructBinding _ _ | constructInvocation _ _ | get _ _ _ _ _
  | super _ _ _ _ _ _ => exact nowhere _
  | loneExpression _ _ => exact (nowhere _).exposed _
  | first _ pending | loop _ pending => exact pending
  | rest happened ended pending =>
    exact (pending.later ((first happened).executes_precedes started ended)).behind _
  | statementOperand _ part pending =>
    cases part <;> exact pending.exposed _
  | branch happened part pending => exact pending.later (happened.branch_precedes started part)
  | initializer happened pending =>
    exact (pending.enter fun _ frame isFrame =>
      ⟨_, _, _, rfl, happened.begins started frame isFrame⟩).exposed _
  | @superclass environment _ superclass _ _ happened pending =>
    -- the superclass is read and does not meet the class, which is pending in the innermost scope
    obtain ⟨_, _, _, _, isRead, _⟩ := Session.bears started happened
    cases superclass with
    | read _ _ =>
      cases environment with
      | nil => exact pending
      | cons innermost outer =>
        exact fun activation member => pending activation (List.mem_cons_of_mem _ member)
    | _ => exact isRead.elim
  | block _ pending =>
    exact (pending.later ((Heap.Precedes.refl _).addFrame _)).cons nofun
  | loopCondition _ pending => exact pending.exposed _
  | loopBody happened tested _ pending =>
    exact pending.later ((loopCondition happened).evaluates_precedes started tested)
  | loopIncrement happened tested holds executed _ pending
  | nextPass happened tested holds executed _ pending =>
    exact (pending.later ((loopCondition happened).evaluates_precedes started tested)).later
      ((loopBody happened tested holds).executes_precedes started executed)
  | nextPassAfter happened tested holds executed isFlow incremented pending =>
    exact ((pending.later ((loopCondition happened).evaluates_precedes started tested)).later
      ((loopBody happened tested holds).executes_precedes started executed)).later
      ((loopIncrement happened tested holds executed isFlow).executes_precedes started incremented)
  | @operand environment _ machine _ _ happened part pending =>
    have whole : environment.Pending start machine := by
      cases part <;> exact pending
    exact (whole.later (happened.operand_precedes started part)).exposed _
  | arguments happened ended pending =>
    exact Environment.Pending.later pending
      ((operand happened .callee).evaluates_precedes started ended)
  | firstOperand _ pending => exact pending.exposed _
  | otherOperands happened ended pending =>
    exact pending.later ((firstOperand happened).evaluates_precedes started ended)
  | function _ pending =>
    exact Environment.Pending.later pending ((Heap.Precedes.refl _).addFunction _)
  | declaredFunction happened isName pending =>
    exact (pending.later (happened.declareFunction_precedes started isName)).define _
  | bound _ _ precedes _ pending =>
    exact ((pending.later precedes.heap).later ((Heap.Precedes.refl _).bindMethod _ _)).cons
      (only_defined "this")
  | body _ _ precedes _ pending =>
    exact ((pending.later precedes.heap).later (.openFrame _ _ _)).cons
      (parametersIn_defined nofun)
  | @method _ name _ _ _ parent _ table last _ _ happened names made _ pending =>
    have grown : last.heap.Precedes (last.addClass ⟨name.name, table, parent⟩).heap :=
      (Heap.Precedes.refl _).addClass _
    have later := (pending.later (happened.declareClass_precedes started names made)).later grown
    cases names with
    | none => exact later.define name.name
    | some ended => exact (later.define name.name).cons (only_defined "super")

/-! ### Variables that are bound -/

/-- The reference and the name of an expression that is an occurrence of a variable. -/
def Expression.variable? : Expression → Option (Reference × Identifier)
  | .read reference name => some (reference, name)
  | .assign reference name _ => some (reference, name)
  | _ => none

theorem Expression.occurrence?_of_variable? {expression : Expression}
    {found : Reference × Identifier} (occurs : expression.variable? = some found) :
    expression.occurrence? = some found := by
  cases expression with
  | read _ _ => exact occurs
  | assign _ _ _ => exact occurs
  | _ => exact nomatch occurs

/-- A declaration that is completed has bound its name. -/
theorem Happens.binds {statement : Statement} {name : String} {flow : Flow} {frame : FrameId}
    (started : start.Sound start)
    (happened : Happens start (.execution environment statement machine))
    (declares : statement.declared? = some name) (isFrame : machine.current = frame)
    (inner : frame ≠ Heap.globalFrame) (ended : Executes statement machine flow after) :
    (after.heap.frames.read? frame name).isSome := by
  obtain ⟨_, ready, placed⟩ := Session.bears started happened
  have ⟨wider, confined⟩ := ready.behind statement
  have ⟨_, aligned⟩ := wider.executes happened confined placed ended
  subst isFrame
  cases environment with
  | nil => exact absurd ready.aligned inner
  | cons innermost outer =>
    have isAfter : Environment.after (innermost :: outer) statement =
        { innermost with names := innermost.names.write name true } :: outer := by
      unfold Environment.after
      rw [declares]
      rfl
    rw [isAfter] at aligned
    obtain ⟨isCurrent, _, bound, _⟩ := aligned
    rw [ready.aligned.1, ← isCurrent]
    exact bound name (by rw [Bindings.get?_write, if_pos rfl])

/-- An occurrence of a variable meets the pending names of the scope that has its name. -/
theorem Expression.Placed.exposes {table : Table} {expression : Expression}
    {reference : Reference} {name : Identifier} {distance : Nat} {activation : Activation}
    (placed : expression.Placed table environment.scopes)
    (occurs : expression.variable? = some (reference, name))
    (isActivation : environment[distance]? = some activation)
    (mark : activation.names.get? name.name = some false) :
    activation ∈ expression.exposes environment := by
  cases expression with
  | read _ _ =>
    cases occurs
    cases environment with
    | nil => exact nomatch isActivation
    | cons innermost outer =>
      cases distance with
      | zero =>
        cases isActivation
        exact absurd mark placed.2.1
      | succ distance => exact List.mem_of_getElem? isActivation
  | assign _ _ _ => exact List.mem_of_getElem? isActivation
  | _ => exact nomatch occurs

/-- What a variable with a distance does is up to whether its name is bound in the frame there. -/
theorem Evaluator.lookUp_ancestor {reference : Reference} {distance : Nat} {frame : FrameId}
    (recorded : machine.distances[reference]? = some distance)
    (isFrame : machine.heap.frames.ancestor? machine.current distance = some frame)
    (name : Identifier) :
    Evaluator.lookUp reference name machine =
      match machine.heap.frames.read? frame name.name with
      | some value => .ok value machine
      | none =>
        .error (.error (.located (.undefinedVariable name.name) name.line)) machine := by
  rw [Evaluator.lookUp_local recorded, Frames.getAt, isFrame, Option.bind_some]
  cases machine.heap.frames.read? frame name.name <;> rfl

theorem Evaluator.holder_ancestor {reference : Reference} {distance : Nat} {frame : FrameId}
    (recorded : machine.distances[reference]? = some distance)
    (isFrame : machine.heap.frames.ancestor? machine.current distance = some frame)
    (name : Identifier) : Evaluator.holder reference name machine = .ok frame machine := by
  rw [Evaluator.holder_local recorded, Frames.holderAt, isFrame]
  rfl

/-- Wherever a variable occurs in an accepted program and has a distance, the frame there binds its
name, so that it can be read and an assignment makes no new binding. The one exception is a name
that is pending there: its declaration has begun, when the frame did not bind it, and is not
completed. -/
theorem variable_bound {capacity : Option Nat} {clock : Clock} {expression : Expression}
    {reference : Reference} {name : Identifier} {distance : Nat}
    (happened : Happens (.start capacity clock) (.evaluation environment expression machine))
    (occurs : expression.variable? = some (reference, name))
    (recorded : machine.distances[reference]? = some distance) :
    ∃ activation, environment[distance]? = some activation ∧
      machine.heap.frames.ancestor? machine.current distance = some activation.frame ∧
      Evaluator.holder reference name machine = .ok activation.frame machine ∧
      ((∃ value, machine.heap.frames.read? activation.frame name.name = some value ∧
          Evaluator.lookUp reference name machine = .ok value machine) ∨
        (machine.heap.frames.read? activation.frame name.name = none ∧
          Evaluator.lookUp reference name machine =
            .error (.error (.located (.undefinedVariable name.name) name.line)) machine ∧
          activation.names.get? name.name = some false ∧
          ∃ declared initializer before, declared.name = name.name ∧
            Begun (.start capacity clock) activation.frame declared initializer before machine ∧
              ∀ flow after, Executes (.declareVariable declared (some initializer)) before flow after →
                ¬after.heap.Precedes machine.heap)) := by
  have started := Session.start_sound (.start capacity clock) capacity clock
  obtain ⟨activation, isActivation, contains, _, _, isFrame⟩ :=
    happened.activation started (Expression.occurrence?_of_variable? occurs) recorded
  refine ⟨activation, isActivation, isFrame, Evaluator.holder_ancestor recorded isFrame name, ?_⟩
  have member := List.mem_of_getElem? isActivation
  have looked := Evaluator.lookUp_ancestor recorded isFrame name
  cases bound : machine.heap.frames.read? activation.frame name.name with
  | some value =>
    rw [bound] at looked
    exact .inl ⟨value, rfl, looked⟩
  | none =>
    rw [bound] at looked
    obtain ⟨_, ready, placed⟩ := Session.bears started happened
    obtain ⟨_, inner, isBound, _⟩ := (ready.aligned.activation isActivation).2
    -- a name that is defined is bound, so this one is pending
    have mark : activation.names.get? name.name = some false := by
      cases mark : activation.names.get? name.name with
      | none =>
        rw [Bindings.contains, mark] at contains
        cases contains
      | some isDefined =>
        cases isDefined with
        | true => exact absurd (isBound name.name mark) (by simp [bound])
        | false => rfl
    obtain ⟨declared, initializer, before, isName, begun⟩ := happened.pending started activation
      (placed.exposes occurs isActivation mark) name.name mark
    refine .inr ⟨rfl, looked, mark, declared, initializer, before, isName, begun, ?_⟩
    intro flow after ended precedes
    obtain ⟨_, executed⟩ := begun.happened
    have isBound := precedes.bound
      (executed.binds started (congrArg some isName) begun.current inner ended)
    rw [bound] at isBound
    cases isBound

/-- A variable that is assigned to behind its declaration. -/
theorem variable_bound_behindDeclaration :
    ∃ (environment : Environment) (machine : Machine) (activation : Activation),
      Happens (.start none ⟨0⟩)
          (.evaluation environment (.assign 1 ⟨"a", 1⟩ (.literal .nil)) machine) ∧
        machine.distances[1]? = some 0 ∧ environment[0]? = some activation ∧
        (machine.heap.frames.read? activation.frame "a").isSome := by
  have read : ((Session.start none ⟨0⟩).after []).readProgram "{ var a; a = nil; }" =
      (.ok [.block [.declareVariable ⟨"a", 1⟩ none,
        .expression (.assign 1 ⟨"a", 1⟩ (.literal .nil))]], _) := rfl
  have entered := Happens.block (.programFirst (.program read rfl))
  have happened := Happens.statementOperand (.first (.rest entered ⟨1, rfl⟩)) .expression
  obtain ⟨activation, isActivation, _, _, bound⟩ := variable_bound happened rfl rfl
  refine ⟨_, _, activation, happened, rfl, isActivation, ?_⟩
  rcases bound with ⟨_, isBound, _⟩ | ⟨unbound, _⟩
  · exact Option.isSome_iff_exists.mpr ⟨_, isBound⟩
  · cases isActivation
    exact nomatch unbound

/-- The initializer of a variable calls a function that reads the variable. -/
theorem variable_bound_notInInitializer :
    ∃ (environment : Environment) (machine : Machine),
      Happens (.start none ⟨0⟩) (.evaluation environment (.read 0 ⟨"a", 1⟩) machine) ∧
        machine.distances[0]? = some 1 ∧
        Evaluator.lookUp 0 ⟨"a", 1⟩ machine =
          .error (.error (.located (.undefinedVariable "a") 1)) machine := by
  let declaration : FunctionDeclaration :=
    ⟨none, [], [.giveBack ⟨"return", 1⟩ (some (.read 0 ⟨"a", 1⟩))]⟩
  have read : ((Session.start none ⟨0⟩).after []).readProgram
      "{ var a = fun () { return a; }(); }" =
      (.ok [.block [.declareVariable ⟨"a", 1⟩ (some (.call (.function declaration) 1 []))]], _) :=
    rfl
  have called := Happens.initializer (.first (.block (.programFirst (.program read rfl))))
  have made := Happens.function (.operand called .callee)
  have invoked := Happens.call called ⟨1, rfl⟩ (.nil _) (.inl rfl) rfl (by decide)
  have entered := Happens.body invoked made ⟨.refl _, fun _ => .refl _ _⟩
  exact ⟨_, _, .statementOperand (.first entered) .returned, rfl, rfl⟩

end Lox
