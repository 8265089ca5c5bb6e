/-
What holds wherever something happens. Of every event there is something to say: where a tree is run
the machine is sound, its current frame is the innermost of the environment and binds no other names
than the environment tells, and the tree is placed rightly. By induction on the history.
-/

import Lox.Proofs.Run.Sessions

namespace Lox

open Scope

variable {start : Session} {watch : Watch} {machine after : Machine} {environment : Environment}

/-! ### The frame that is watched -/

namespace Environment

theorem Allows.enter {wanted : String} (allows : environment.Allows wanted) (name : String)
    (isDefined : Bool) : (environment.enter name isDefined).Allows wanted := by
  cases environment with
  | nil => trivial
  | cons innermost outer =>
    show (innermost.names.write name isDefined).contains wanted = true
    rw [contains_write, show innermost.names.contains wanted = true from allows, Bool.or_true]

theorem current_enter (environment : Environment) (name : String) (isDefined : Bool) :
    (environment.enter name isDefined).current = environment.current := by
  cases environment <;> rfl

end Environment

namespace Watch

/-- Where more is allowed, no less is true. -/
theorem Ready.widen {wider : Watch} (ready : watch.Ready environment machine)
    (start : wider.start = watch.start) (limit : wider.limit = watch.limit)
    (kept : wider.kept = watch.kept) (allowed : ∀ name, watch.allowed name → wider.allowed name) :
    wider.Ready environment machine := by
  have widened {environment : Environment} (confined : watch.Confined environment) :
      wider.Confined environment := fun activation member isKept name contains =>
    allowed name (confined activation member (isKept.trans kept) name contains)
  have carries : watch.Carries wider machine machine :=
    ⟨start, Nat.le_of_eq limit.symm, .refl _, fun _ _ => rfl, fun _ => widened⟩
  have before := ready.sound
  refine ⟨before.carry carries (kept ▸ before.room) ?_ ?_ .inl
    (fun found isSet => .inl ⟨_, found, isSet⟩) (fun found => .inl ⟨_, found, rfl⟩) .inl .inl,
    ready.aligned, ready.inside, widened ready.confined⟩
  · exact fun isGlobal name => allowed name (before.everywhere (kept ▸ isGlobal) name)
  · exact fun bound => allowed _ (before.keeps (kept ▸ bound))

theorem Confined.entered {limit : Reference}
    (confined : (innermost start limit environment).Confined environment) (name : String)
    (isDefined : Bool) : (innermost start limit (environment.enter name isDefined)).Confined
      (environment.enter name isDefined) := by
  cases environment with
  | nil => exact confined
  | cons innermost outer =>
    intro activation member isKept wanted contains
    rcases List.mem_cons.mp member with rfl | inOuter
    · exact contains
    · have allows : Environment.Allows (innermost :: outer) wanted :=
        confined activation (List.mem_cons_of_mem _ inOuter) isKept wanted contains
      exact allows.enter name isDefined

/-- With a name entered the innermost frame may bind that, too. -/
theorem Ready.entering {limit : Reference}
    (ready : (innermost start limit environment).Ready environment machine) (name : String)
    (isDefined : Bool) :
    (innermost start limit (environment.enter name isDefined)).Ready environment machine :=
  ready.widen rfl rfl (environment.current_enter name isDefined)
    fun _ allows => Environment.Allows.enter allows name isDefined

theorem Ready.entered {limit : Reference}
    (ready : (innermost start limit environment).Ready environment machine) {name : String}
    (isVariable : IsVariable name) :
    (innermost start limit (environment.enter name false)).Ready
      (environment.enter name false) machine := by
  have wider := ready.entering name false
  exact ⟨wider.sound, wider.aligned.enter isVariable nofun,
    (Environment.parent?_enter _ _ _).trans wider.inside, ready.confined.entered name false⟩

theorem Ready.behind {limit : Reference}
    (ready : (innermost start limit environment).Ready environment machine)
    (statement : Statement) :
    (innermost start limit (environment.after statement)).Ready environment machine ∧
      (innermost start limit (environment.after statement)).Confined
        (environment.after statement) := by
  unfold Environment.after
  split
  · exact ⟨ready.entering _ true, ready.confined.entered _ true⟩
  · exact ⟨ready, ready.confined⟩

/-- A new frame is not among those of the environment around it. -/
theorem confined_new {limit : Reference} {frame : FrameId}
    (aligned : environment.Aligned machine.heap frame) (owner : Owner) (names : Names) :
    (innermost start limit (⟨owner, names, machine.heap.frames.size⟩ :: environment)).Confined
      (⟨owner, names, machine.heap.frames.size⟩ :: environment) := by
  intro activation member isNew name contains
  rcases List.mem_cons.mp member with rfl | outer
  · exact contains
  · exact absurd isNew (Nat.ne_of_lt (aligned.frame_lt activation outer).1)

/-- When nothing is watched, everything else is as it was. -/
theorem Carries.unwatched (watch : Watch) (machine : Machine) :
    watch.Carries (innermost watch.start watch.limit []) machine machine :=
  ⟨rfl, Nat.le_refl _, .refl _, fun _ _ => rfl, fun _ _ _ _ _ _ _ => trivial⟩

theorem Sound.unwatched (sound : watch.Sound machine) :
    (innermost watch.start watch.limit []).Sound machine :=
  sound.carry (.unwatched watch machine) (Nat.zero_lt_of_lt sound.room) (fun _ _ => trivial)
    (fun _ => trivial) .inl (fun found isSet => .inl ⟨_, found, isSet⟩)
    (fun found => .inl ⟨_, found, rfl⟩) .inl .inl

/-! ### What runs lead to -/

theorem Ready.evaluates {expression : Expression} {value : Value}
    (ready : watch.Ready environment machine)
    (happened : Happens watch.start (.evaluation environment expression machine))
    (placed : expression.Placed (machine.table watch.limit) environment.scopes)
    (ended : Evaluates expression machine value after) :
    watch.Leads machine after ∧ watch.Good after value := by
  obtain ⟨depth, ended⟩ := ended
  exact ((evaluator_trusts watch depth).evaluate happened ready placed).ok ended

theorem Ready.executes {statement : Statement} {flow : Flow}
    (ready : watch.Ready environment machine)
    (happened : Happens watch.start (.execution environment statement machine))
    (confined : watch.Confined (environment.after statement))
    (placed : statement.Placed (machine.table watch.limit) environment.scopes)
    (ended : Executes statement machine flow after) :
    watch.Leads machine after ∧ (environment.after statement).Aligned after.heap after.current := by
  obtain ⟨depth, ended⟩ := ended
  have ⟨leads, _, aligned⟩ :=
    ((evaluator_trusts watch depth).execute happened ready confined placed).ok ended
  exact ⟨leads, aligned⟩

theorem Ready.executesPlain {statement : Statement} {flow : Flow}
    (ready : watch.Ready environment machine)
    (happened : Happens watch.start (.execution environment statement machine))
    (declaresNothing : statement.declared? = none)
    (placed : statement.Placed (machine.table watch.limit) environment.scopes)
    (ended : Executes statement machine flow after) : watch.Leads machine after := by
  refine (ready.executes happened ?_ placed ended).1
  rw [Environment.after_of_none declaresNothing]
  exact ready.confined

theorem Ready.evaluatesAll {expressions : List Expression} {values : List Value}
    (ready : watch.Ready environment machine)
    (happened : Happens watch.start (.operands environment expressions machine))
    (placed : Expression.AllPlaced (machine.table watch.limit) environment.scopes expressions)
    (ended : EvaluatesAll expressions machine values after) :
    watch.Leads machine after ∧ ∀ value ∈ values, watch.Good after value := by
  induction ended with
  | nil machine => exact ⟨.refl ready.sound, fun _ member => absurd member List.not_mem_nil⟩
  | cons first others inductionHypothesis =>
    have ⟨leads, good⟩ := ready.evaluates (.firstOperand happened) placed.1 first
    have ⟨further, allGood⟩ := inductionHypothesis (ready.later leads)
      (.otherOperands happened first) (leads.table ▸ placed.2)
    refine ⟨leads.trans further, fun value member => ?_⟩
    rcases List.mem_cons.mp member with rfl | inOthers
    · exact further.good leads.sound good
    · exact allGood value inOthers

theorem Ready.namesParent {name : Identifier} {superclass : Option Expression}
    {methods : List FunctionDeclaration} {parent : Option ClassId}
    (ready : watch.Ready environment machine)
    (happened : Happens watch.start
      (.execution environment (.declareClass name superclass methods) machine))
    (confined : watch.Confined (environment.enter name.name true))
    (placed : (Statement.declareClass name superclass methods).Placed
      (machine.table watch.limit) environment.scopes)
    (names : NamesParent superclass machine parent after) :
    watch.Leads machine after ∧ ∀ id ∈ parent, id < after.heap.classes.size := by
  cases names with
  | none => exact ⟨.refl ready.sound, nofun⟩
  | some ended =>
    obtain ⟨isVariable, _, _, placedSuperclass, _⟩ := placed
    rw [← Environment.scopes_enter] at placedSuperclass
    have ⟨leads, good⟩ := (ready.pending isVariable confined).evaluates (.superclass happened)
      placedSuperclass ended
    exact ⟨leads, fun _ isParent => Option.mem_some.mp isParent ▸ good⟩

theorem Ready.makeMethods {name : Identifier} {superclass : Option Expression}
    {methods : List FunctionDeclaration} {parent : Option ClassId} {middle : Machine}
    {table : Bindings FunctionId} (ready : watch.Ready environment machine)
    (happened : Happens watch.start
      (.execution environment (.declareClass name superclass methods) machine))
    (confined : watch.Confined (environment.enter name.name true))
    (placed : (Statement.declareClass name superclass methods).Placed
      (machine.table watch.limit) environment.scopes)
    (names : NamesParent superclass machine parent middle)
    (made : Lox.makeMethods name.name parent methods middle = .ok table after) :
    watch.Leads machine middle ∧ watch.Leads middle after ∧
      ∀ object : ClassObject, object.superclass = parent →
        ∀ word id, table.get? word = some id → watch.MethodFits (after.addClass object)
          ((environment.enter name.name true).methods middle parent) after.heap.classes.size id := by
  have ⟨isVariable, allPlaced⟩ := placedMethods placed
  have ⟨leads, present⟩ := ready.namesParent happened confined placed names
  rw [← isSome_of_namesParent names, ← leads.table] at allPlaced
  have ⟨further, _, _, fits⟩ :=
    (makeMethods_keeps (ready.later leads) isVariable confined present allPlaced).ok made
  exact ⟨leads, further, fits⟩

/-! ### What is kept on the way to another machine -/

theorem Fits.later {function : FunctionId} {earlier : Watch} {origin : Machine}
    (fits : earlier.Fits origin environment function) (precedes : origin.Precedes machine)
    (sound : watch.Sound machine) : watch.Fits machine environment function := by
  obtain ⟨inside, object, found, aligned, placed⟩ := fits
  have isThere := precedes.heap.functions found
  refine ⟨inside, object, isThere, aligned.grow precedes.heap, ?_⟩
  refine FunctionDeclaration.Placed.mono _ (fun reference member distance known => ?_) placed
  exact ⟨sound.functions isThere reference member,
    (precedes.distances found reference member).symm.trans known.2⟩

theorem MethodFits.later {declaring : ClassId} {method : FunctionId} {earlier : Watch}
    {origin : Machine} (fits : earlier.MethodFits origin environment declaring method)
    (precedes : origin.Precedes machine) (sound : watch.Sound machine) :
    watch.MethodFits machine environment declaring method := by
  obtain ⟨⟨object, found, aligned, placed⟩, declared, isClass, parent⟩ := fits
  have isThere := precedes.heap.functions found
  refine ⟨⟨object, isThere, aligned.grow precedes.heap, ?_⟩, declared,
    precedes.heap.classes isClass, parent⟩
  refine FunctionDeclaration.Placed.mono _ (fun reference member distance known => ?_) placed
  exact ⟨sound.functions isThere reference member,
    (precedes.distances found reference member).symm.trans known.2⟩

end Watch

/-! ### What holds of events -/

/-- Trees are run in an environment in which they are placed rightly, and the innermost frame binds
no more than the environment tells. -/
def RunsIn (start : Session) (environment : Environment) (machine : Machine)
    (placed : Table → List Names → Prop) : Prop :=
  ∃ limit, (Watch.innermost start limit environment).Ready environment machine ∧
    placed (machine.table limit) environment.scopes

/-- What holds of an event in a session. -/
def Session.Bears (start : Session) : Event → Prop
  | .program statements machine =>
    RunsIn start [] machine fun table scopes => Statement.AllPlaced table scopes statements
  | .statements environment statements machine =>
    RunsIn start environment machine fun table scopes => Statement.AllPlaced table scopes statements
  | .execution environment statement machine =>
    RunsIn start environment machine fun table scopes => statement.Placed table scopes
  | .pass environment condition body increment machine =>
    RunsIn start environment machine fun table scopes =>
      (Statement.loop condition body increment).Placed table scopes
  | .evaluation environment expression machine =>
    RunsIn start environment machine fun table scopes => expression.Placed table scopes
  | .operands environment expressions machine =>
    RunsIn start environment machine fun table scopes =>
      Expression.AllPlaced table scopes expressions
  | .invocation function arguments machine =>
    ∃ limit, (Watch.innermost start limit []).Sound machine ∧
      arguments.length = (machine.heap.function function).declaration.arity ∧
      ∀ value ∈ arguments, (Watch.innermost start limit []).Good machine value
  | .construction declaring method receiver arguments machine =>
    ∃ limit, (Watch.innermost start limit []).Sound machine ∧
      (Watch.innermost start limit []).Made machine declaring method ∧
      machine.heap.InstanceOf receiver declaring ∧
      arguments.length = (machine.heap.function method).declaration.arity ∧
      ∀ value ∈ arguments, (Watch.innermost start limit []).Good machine value
  | .binding declaring method receiver machine =>
    ∃ limit, (Watch.innermost start limit []).Sound machine ∧
      (Watch.innermost start limit []).Made machine declaring method ∧
      machine.heap.InstanceOf receiver declaring
  | .closing environment function machine =>
    ∃ limit, (Watch.innermost start limit []).Fits machine environment function
  | .method environment declaring method machine =>
    ∃ limit, (Watch.innermost start limit []).MethodFits machine environment declaring method

namespace RunsIn

/-! ### Trees in the same environment -/

/-- What is evaluated as part of an expression is placed rightly, too. -/
theorem operand {expression inner : Expression}
    (runs : RunsIn start environment machine fun table scopes => expression.Placed table scopes)
    (happened : Happens start (.evaluation environment expression machine))
    (part : Operand expression machine inner after) :
    RunsIn start environment after fun table scopes => inner.Placed table scopes := by
  obtain ⟨limit, ready, placed⟩ := runs
  cases part with
  | grouping => exact ⟨limit, ready, placed⟩
  | unary => exact ⟨limit, ready, placed⟩
  | left => exact ⟨limit, ready, placed.1⟩
  | right ended =>
    have ⟨leads, _⟩ := ready.evaluates (.operand happened .left) placed.1 ended
    exact ⟨limit, ready.later leads, leads.table ▸ placed.2⟩
  | decisive => exact ⟨limit, ready, placed.1⟩
  | undecided ended =>
    have ⟨leads, _⟩ := ready.evaluates (.operand happened .decisive) placed.1 ended
    exact ⟨limit, ready.later leads, leads.table ▸ placed.2⟩
  | assigned => exact ⟨limit, ready, placed.2.1⟩
  | callee => exact ⟨limit, ready, placed.1⟩
  | object => exact ⟨limit, ready, placed⟩
  | target => exact ⟨limit, ready, placed.1⟩
  | stored ended =>
    have ⟨leads, _⟩ := ready.evaluates (.operand happened .target) placed.1 ended
    exact ⟨limit, ready.later leads, leads.table ▸ placed.2⟩

/-- The same for what is evaluated as part of a statement. -/
theorem statementOperand {statement : Statement} {inner : Expression}
    (runs : RunsIn start environment machine fun table scopes => statement.Placed table scopes)
    (part : statement.Operand machine inner after) :
    RunsIn start environment after fun table scopes => inner.Placed table scopes := by
  obtain ⟨limit, ready, placed⟩ := runs
  cases part with
  | expression => exact ⟨limit, ready, placed⟩
  | print => exact ⟨limit, ready, placed⟩
  | condition => exact ⟨limit, ready, (Watch.placedConditional placed).1⟩
  | returned => exact ⟨limit, ready, placed⟩

/-- The same for a branch that is taken. -/
theorem branch {statement inner : Statement}
    (runs : RunsIn start environment machine fun table scopes => statement.Placed table scopes)
    (happened : Happens start (.execution environment statement machine))
    (part : statement.Branch machine inner after) :
    RunsIn start environment after fun table scopes => inner.Placed table scopes := by
  obtain ⟨limit, ready, placed⟩ := runs
  cases part with
  | thenBranch ended _ =>
    have ⟨placedCondition, ⟨_, placedThen⟩, _⟩ := Watch.placedConditional placed
    have ⟨leads, _⟩ := ready.evaluates (.statementOperand happened .condition) placedCondition ended
    exact ⟨limit, ready.later leads, leads.table ▸ placedThen⟩
  | elseBranch ended _ =>
    have ⟨placedCondition, _, placedElse⟩ := Watch.placedConditional placed
    have ⟨leads, _⟩ := ready.evaluates (.statementOperand happened .condition) placedCondition ended
    exact ⟨limit, ready.later leads, leads.table ▸ (placedElse _ rfl).2⟩

/-! ### Trees in another environment -/

/-- What follows a statement. -/
theorem rest {statement : Statement} {others : List Statement}
    (runs : RunsIn start environment machine fun table scopes =>
      Statement.AllPlaced table scopes (statement :: others))
    (happened : Happens start (.execution environment statement machine))
    {flow : Flow} (ended : Executes statement machine flow after) :
    RunsIn start (environment.after statement) after fun table scopes =>
      Statement.AllPlaced table scopes others := by
  obtain ⟨limit, ready, placed⟩ := runs
  have ⟨wider, confined⟩ := ready.behind statement
  have ⟨leads, aligned⟩ := wider.executes happened confined placed.1 ended
  refine ⟨limit, ⟨leads.sound, aligned, ?_, confined⟩, ?_⟩
  · exact (Environment.parent?_after _ _).trans ready.inside
  · rw [Environment.scopes_after]
    exact leads.table ▸ placed.2

/-- An initializer is evaluated while its variable is pending. -/
theorem initializer {name : Identifier} {initializer : Expression}
    (runs : RunsIn start environment machine fun table scopes =>
      (Statement.declareVariable name (some initializer)).Placed table scopes) :
    RunsIn start (environment.enter name.name false) machine fun table scopes =>
      initializer.Placed table scopes := by
  obtain ⟨limit, ready, isVariable, _, placed⟩ := runs
  refine ⟨limit, ready.entered isVariable, ?_⟩
  rw [Environment.scopes_enter]
  exact placed

/-- A superclass is looked for while its class is pending. -/
theorem superclass {name : Identifier} {superclass : Expression}
    {methods : List FunctionDeclaration}
    (runs : RunsIn start environment machine fun table scopes =>
      (Statement.declareClass name (some superclass) methods).Placed table scopes) :
    RunsIn start (environment.enter name.name false) machine fun table scopes =>
      superclass.Placed table scopes := by
  obtain ⟨limit, ready, isVariable, _, _, placed, _⟩ := runs
  refine ⟨limit, ready.entered isVariable, ?_⟩
  rw [Environment.scopes_enter]
  exact placed

/-- The statements of a block run in a new frame, which binds nothing yet. -/
theorem block {statements : List Statement}
    (runs : RunsIn start environment machine fun table scopes =>
      (Statement.block statements).Placed table scopes) :
    RunsIn start (environment.block machine) machine.enterBlock fun table scopes =>
      Statement.AllPlaced table scopes statements := by
  obtain ⟨limit, ready, placed⟩ := runs
  have ⟨inside, _⟩ := ready.enterBlock
  have watched : (Watch.innermost start limit (environment.block machine)).Sound
      (machine.withHeap (machine.heap.openFrame machine.current [])) :=
    ready.sound.openFrame_watched machine.current [] nofun nofun
  exact ⟨limit, ⟨watched.same rfl rfl, inside.aligned, inside.inside,
    Watch.confined_new ready.aligned _ _⟩, placed⟩

/-- The body of a function runs in a new frame, which binds the parameters. -/
theorem body {function : FunctionId} {arguments : List Value} {limit : Reference}
    (sound : (Watch.innermost start limit []).Sound machine)
    (fits : (Watch.innermost start limit []).Fits machine environment function)
    (enough : arguments.length = (machine.heap.function function).declaration.arity)
    (good : ∀ value ∈ arguments, (Watch.innermost start limit []).Good machine value) :
    RunsIn start (environment.body machine function)
      (machine.enterCall (machine.heap.function function) arguments) fun table scopes =>
        Statement.AllPlaced table scopes (machine.heap.function function).declaration.body := by
  have ⟨inside, _, placed⟩ := sound.enterCall fits (fun _ _ _ _ _ => trivial) enough good
  obtain ⟨_, object, found, aligned, _⟩ := fits
  let names := (machine.heap.function function).declaration.parameters.map Identifier.name
  have watched : (Watch.innermost start limit (environment.body machine function)).Sound
      (machine.withHeap (machine.heap.openFrame (machine.heap.function function).closure
        (names.zip arguments))) := by
    refine sound.openFrame_watched _ _ (fun entry member => good _ (List.of_mem_zip member).2) ?_
    intro entry member
    show (parametersIn .empty _).contains entry.1 = true
    rw [contains_parametersIn, Bool.or_eq_true]
    obtain ⟨parameter, isParameter, same⟩ := List.mem_map.mp (List.of_mem_zip member).1
    exact .inr (List.any_eq_true.mpr ⟨parameter, isParameter, beq_iff_eq.mpr same.symm⟩)
  exact ⟨limit, ⟨watched.same rfl rfl, inside.aligned, inside.inside,
    Watch.confined_new aligned _ _⟩, placed⟩

/-! ### Passes of loops -/

section Loops

variable {condition : Expression} {body : Statement} {increment : Option Statement}

theorem loopCondition
    (runs : RunsIn start environment machine fun table scopes =>
      (Statement.loop condition body increment).Placed table scopes) :
    RunsIn start environment machine fun table scopes => condition.Placed table scopes := by
  obtain ⟨limit, ready, placed⟩ := runs
  exact ⟨limit, ready, (Watch.placedLoop placed).1⟩

theorem loopBody
    (runs : RunsIn start environment machine fun table scopes =>
      (Statement.loop condition body increment).Placed table scopes) :
    RunsIn start environment machine fun table scopes => body.Placed table scopes := by
  obtain ⟨limit, ready, placed⟩ := runs
  exact ⟨limit, ready, (Watch.placedLoop placed).2.2.1⟩

theorem loopIncrement {increment : Statement}
    (runs : RunsIn start environment machine fun table scopes =>
      (Statement.loop condition body (some increment)).Placed table scopes) :
    RunsIn start environment machine fun table scopes => increment.Placed table scopes := by
  obtain ⟨limit, ready, placed⟩ := runs
  exact ⟨limit, ready, ((Watch.placedLoop placed).2.2.2 increment rfl).2⟩

/-- After its condition a loop is still placed rightly. -/
theorem afterCondition
    (runs : RunsIn start environment machine fun table scopes =>
      (Statement.loop condition body increment).Placed table scopes)
    (happened : Happens start (.pass environment condition body increment machine))
    {value : Value} (ended : Evaluates condition machine value after) :
    RunsIn start environment after fun table scopes =>
      (Statement.loop condition body increment).Placed table scopes := by
  obtain ⟨limit, ready, placed⟩ := runs
  have ⟨leads, _⟩ :=
    ready.evaluates (.loopCondition happened) (Watch.placedLoop placed).1 ended
  exact ⟨limit, ready.later leads, leads.table ▸ placed⟩

/-- And after its body. -/
theorem afterBody
    (runs : RunsIn start environment machine fun table scopes =>
      (Statement.loop condition body increment).Placed table scopes)
    (happened : Happens start (.execution environment body machine)) {flow : Flow}
    (ended : Executes body machine flow after) :
    RunsIn start environment after fun table scopes =>
      (Statement.loop condition body increment).Placed table scopes := by
  obtain ⟨limit, ready, placed⟩ := runs
  have ⟨_, declaresNothing, placedBody, _⟩ := Watch.placedLoop placed
  have leads := ready.executesPlain happened declaresNothing placedBody ended
  exact ⟨limit, ready.later leads, leads.table ▸ placed⟩

/-- And after its increment. -/
theorem afterIncrement {increment : Statement}
    (runs : RunsIn start environment machine fun table scopes =>
      (Statement.loop condition body (some increment)).Placed table scopes)
    (happened : Happens start (.execution environment increment machine)) {flow : Flow}
    (ended : Executes increment machine flow after) :
    RunsIn start environment after fun table scopes =>
      (Statement.loop condition body (some increment)).Placed table scopes := by
  obtain ⟨limit, ready, placed⟩ := runs
  have ⟨declaresNothing, placedIncrement⟩ := (Watch.placedLoop placed).2.2.2 increment rfl
  have leads := ready.executesPlain happened declaresNothing placedIncrement ended
  exact ⟨limit, ready.later leads, leads.table ▸ placed⟩

end Loops

end RunsIn

/-! ### Calls -/

namespace Session

/-- The receiver and the arguments of a call. -/
theorem Bears.arguments {callee : Expression} {line : Nat} {arguments : List Expression}
    {value : Value}
    (runs : RunsIn start environment machine fun table scopes =>
      (Expression.call callee line arguments).Placed table scopes)
    (happened : Happens start (.evaluation environment (.call callee line arguments) machine))
    (ended : Evaluates callee machine value after) :
    start.Bears (.operands environment arguments after) := by
  obtain ⟨limit, ready, placed⟩ := runs
  have ⟨leads, _⟩ := ready.evaluates (.operand happened .callee) placed.1 ended
  exact ⟨limit, ready.later leads, leads.table ▸ placed.2⟩

/-- What a call is made of, after all that is in it was evaluated. -/
theorem Bears.called {callee : Expression} {line : Nat} {arguments : List Expression}
    {value : Value} {values : List Value} {middle : Machine}
    (runs : RunsIn start environment machine fun table scopes =>
      (Expression.call callee line arguments).Placed table scopes)
    (happened : Happens start (.evaluation environment (.call callee line arguments) machine))
    (ended : Evaluates callee machine value middle)
    (allEnded : EvaluatesAll arguments middle values after) :
    ∃ limit, (Watch.innermost start limit []).Sound after.countCall ∧
      (Watch.innermost start limit []).Good after.countCall value ∧
      ∀ argument ∈ values, (Watch.innermost start limit []).Good after.countCall argument := by
  obtain ⟨limit, ready, placed⟩ := runs
  have ⟨leads, good⟩ := ready.evaluates (.operand happened .callee) placed.1 ended
  have ⟨further, allGood⟩ := (ready.later leads).evaluatesAll (.arguments happened ended)
    (leads.table ▸ placed.2) allEnded
  have counted : (Watch.innermost start limit environment).Carries
      (Watch.innermost start limit environment) after after.countCall := .same rfl rfl
  have sound : (Watch.innermost start limit environment).Sound after.countCall :=
    further.sound.same rfl rfl
  have unwatched := Watch.Carries.unwatched (Watch.innermost start limit environment) after.countCall
  exact ⟨limit, sound.unwatched,
    unwatched.good sound (counted.good further.sound (further.good leads.sound good)),
    fun argument member => unwatched.good sound (counted.good further.sound (allGood argument member))⟩

/-- A new instance is about to be initialized. -/
theorem Bears.construct {id declaring : ClassId} {method : FunctionId} {values : List Value}
    {limit : Reference} (sound : (Watch.innermost start limit []).Sound machine)
    (present : id < machine.heap.classes.size)
    (good : ∀ value ∈ values, (Watch.innermost start limit []).Good machine value)
    (enough : values.length = machine.heap.arity (.constructor id))
    (finds : (machine.addInstance id).heap.Finds id initializerName declaring method) :
    start.Bears (.construction declaring method machine.heap.instances.size values
      (machine.addInstance id)) := by
  have grown : machine.heap.Precedes (machine.addInstance id).heap :=
    (Heap.Precedes.refl _).addInstance id
  have made : (Watch.innermost start limit []).Sound (machine.addInstance id) :=
    sound.addInstance present
  refine ⟨limit, made, made.finds (grown.lt_classes present) finds,
    ⟨⟨id, .empty⟩, Array.getElem?_push_size, finds.inherits⟩,
    enough.trans (Heap.arity_constructor finds), fun value member => ?_⟩
  exact (Watch.Carries.ofHeap _ grown).good sound (good value member)

/-- An initializer is called with the arguments that its class was called with. -/
theorem Bears.initialize {declaring : ClassId} {method : FunctionId} {receiver : InstanceId}
    {arguments : List Value}
    (happened : Happens start (.construction declaring method receiver arguments machine))
    (bears : start.Bears (.construction declaring method receiver arguments machine)) :
    start.Bears (.invocation machine.heap.functions.size arguments
      (machine.bindMethod method receiver)) := by
  obtain ⟨limit, sound, made, isInstance, enough, good⟩ := bears
  have ⟨leads, _⟩ :=
    Watch.bindMethod_closed sound (.constructBinding happened) made isInstance
  refine ⟨limit, leads.sound, ?_, fun value member => leads.good sound (good value member)⟩
  have same := Heap.function_bindMethod machine.heap method receiver
  exact enough.trans (congrArg (fun function => function.declaration.arity) same).symm

/-! ### Methods -/

/-- A method that is got from an instance is about to be bound to it. -/
theorem Bears.get {object : Expression} {name : Identifier} {receiver : InstanceId}
    {declaring : ClassId} {method : FunctionId}
    (runs : RunsIn start environment machine fun table scopes =>
      (Expression.get object name).Placed table scopes)
    (happened : Happens start (.evaluation environment (.get object name) machine))
    (ended : Evaluates object machine (.object receiver) after)
    (finds : after.heap.Finds (after.heap.instanceAt receiver).classId name.name declaring method) :
    start.Bears (.binding declaring method receiver after) := by
  obtain ⟨limit, ready, placed⟩ := runs
  have ⟨leads, good⟩ := ready.evaluates (.operand happened .object) placed ended
  have sound := leads.sound.unwatched
  obtain ⟨found, isInstance, sameClass, present⟩ := leads.sound.instance good
  rw [sameClass] at present
  exact ⟨limit, sound, sound.finds present finds, found, isInstance,
    sameClass ▸ finds.inherits⟩

/-- A method that is got from the superclass is about to be bound to the receiver. -/
theorem Bears.super {reference : Reference} {keyword name : Identifier} {distance : Nat}
    {parent declaring : ClassId} {receiver : InstanceId} {method : FunctionId}
    (runs : RunsIn start environment machine fun table scopes =>
      (Expression.super reference keyword name).Placed table scopes)
    (known : machine.distances[reference]? = some distance)
    (isSuper : machine.heap.frames.getAt machine.current distance "super" keyword.line =
      .ok (.callable (.constructor parent)))
    (isThis : machine.heap.frames.getAt machine.current (distance - 1) "this" keyword.line =
      .ok (.object receiver))
    (finds : machine.heap.Finds parent name.name declaring method) :
    start.Bears (.binding declaring method receiver machine) := by
  obtain ⟨limit, ready, placed⟩ := runs
  obtain ⟨_, _, _, _, _, sameDistance, _, _, sameSuper, sameThis, _, present, _, isInstance⟩ :=
    ready.super placed
  cases known.symm.trans sameDistance
  cases isSuper.symm.trans sameSuper
  rw [Nat.add_sub_cancel] at isThis
  cases isThis.symm.trans sameThis
  have sound := ready.sound.unwatched
  exact ⟨limit, sound, sound.finds present finds, isInstance.trans finds.inherits⟩

/-- A method of a class that was declared. -/
theorem Bears.method {name : Identifier} {superclass : Option Expression}
    {methods : List FunctionDeclaration} {parent : Option ClassId} {middle : Machine}
    {table : Bindings FunctionId} {word : String} {method : FunctionId}
    (runs : RunsIn start environment machine fun table scopes =>
      (Statement.declareClass name superclass methods).Placed table scopes)
    (happened :
      Happens start (.execution environment (.declareClass name superclass methods) machine))
    (names : NamesParent superclass machine parent middle)
    (made : makeMethods name.name parent methods middle = .ok table after)
    (own : table.get? word = some method) :
    start.Bears (.method ((environment.enter name.name true).methods middle parent)
      after.heap.classes.size method (after.addClass ⟨name.name, table, parent⟩)) := by
  obtain ⟨limit, ready, placed⟩ := runs
  have ⟨wider, confined⟩ := ready.behind (.declareClass name superclass methods)
  have ⟨_, _, fits⟩ := wider.makeMethods happened confined placed names made
  exact ⟨limit, fits ⟨name.name, table, parent⟩ rfl word method own⟩

/-! ### Every event -/

/-- Whatever happens in a session, its event is borne out. -/
theorem bears (started : Sound start start) {event : Event} (happened : Happens start event) :
    start.Bears event := by
  induction happened with
  | program read resolved =>
    have ⟨learned, placed⟩ := (after_sound started _).program read resolved
    exact ⟨_, learned.ready, placed⟩
  | loneExpression read resolved =>
    have ⟨learned, placed⟩ := (after_sound started _).loneExpression read resolved
    exact ⟨_, learned.ready, placed⟩
  | programFirst _ runs | first _ runs =>
    obtain ⟨limit, ready, placed⟩ := runs
    exact ⟨limit, ready, placed.1⟩
  | programRest happened ended runs =>
    have later := runs.rest (.programFirst happened) ended
    rw [Environment.after_nil] at later
    exact later
  | rest happened ended runs => exact runs.rest (.first happened) ended
  | statementOperand _ part runs => exact runs.statementOperand part
  | branch happened part runs => exact runs.branch happened part
  | initializer _ runs => exact runs.initializer
  | block _ runs => exact runs.block
  | loop _ runs => exact runs
  | loopCondition _ runs => exact runs.loopCondition
  | loopBody happened tested _ runs => exact (runs.afterCondition happened tested).loopBody
  | loopIncrement happened tested holds executed _ runs =>
    exact ((runs.afterCondition happened tested).afterBody (.loopBody happened tested holds)
      executed).loopIncrement
  | nextPass happened tested holds executed _ runs =>
    exact (runs.afterCondition happened tested).afterBody (.loopBody happened tested holds) executed
  | nextPassAfter happened tested holds executed isFlow incremented runs =>
    exact ((runs.afterCondition happened tested).afterBody (.loopBody happened tested holds)
      executed).afterIncrement (.loopIncrement happened tested holds executed isFlow) incremented
  | operand happened part runs => exact runs.operand happened part
  | arguments happened ended runs => exact Bears.arguments runs happened ended
  | firstOperand _ runs =>
    obtain ⟨limit, ready, placed⟩ := runs
    exact ⟨limit, ready, placed.1⟩
  | otherOperands happened ended runs =>
    obtain ⟨limit, ready, placed⟩ := runs
    have ⟨leads, _⟩ := ready.evaluates (.firstOperand happened) placed.1 ended
    exact ⟨limit, ready.later leads, leads.table ▸ placed.2⟩
  | call happened ended allEnded isFunction enough _ runs =>
    obtain ⟨limit, sound, _, good⟩ := Bears.called runs happened ended allEnded
    refine ⟨limit, sound, enough.trans ?_, good⟩
    rcases isFunction with rfl | rfl <;> rfl
  | construct happened ended allEnded enough _ finds runs =>
    obtain ⟨limit, sound, present, good⟩ := Bears.called runs happened ended allEnded
    exact Bears.construct sound present good enough finds
  | constructBinding _ bears =>
    obtain ⟨limit, sound, made, isInstance, _⟩ := bears
    exact ⟨limit, sound, made, isInstance⟩
  | constructInvocation happened bears => exact Bears.initialize happened bears
  | get happened ended _ finds runs => exact Bears.get runs happened ended finds
  | super _ known isSuper isThis finds runs => exact Bears.super runs known isSuper isThis finds
  | function _ runs =>
    obtain ⟨limit, ready, placed⟩ := runs
    exact ⟨limit, (ready.close placed).2⟩
  | declaredFunction _ isName runs =>
    obtain ⟨limit, ready, name, sameName, isVariable, _, placed⟩ := runs
    cases isName.symm.trans sameName
    exact ⟨limit, (ready.declareFunction isVariable placed).2⟩
  | bound _ _ precedes binding method =>
    obtain ⟨limit, sound, _, isInstance⟩ := binding
    obtain ⟨_, fits⟩ := method
    exact ⟨limit, (Watch.bindMethod_fits sound (fits.later precedes sound) isInstance).2⟩
  | body _ _ precedes invocation closing =>
    obtain ⟨limit, sound, enough, good⟩ := invocation
    obtain ⟨_, fits⟩ := closing
    exact RunsIn.body sound (fits.later precedes sound) enough good
  | superclass _ runs => exact runs.superclass
  | method happened names made own runs => exact Bears.method runs happened names made own

end Session

end Lox
