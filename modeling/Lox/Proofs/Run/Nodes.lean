/-
Every node keeps the machine sound, given that the trees inside it do where they are part of the
history. By induction on the depth so does every run. The induction is carried out for two
evaluators at once, of which the second need only do the same as the first where something happens:
so nothing but what happens is ever evaluated or executed.
-/

import Lox.Proofs.Evaluation.Operators
import Lox.Proofs.Run.Classes

namespace Lox

open Scope

variable {watch : Watch} {machine : Machine} {environment : Environment}
  {evaluator other : Evaluator}

namespace Watch

/-! ### Operators -/

theorem good_of_isPlain {value : Value} (isPlain : value.IsPlain) : watch.Good machine value := by
  cases value with
  | callable | object => exact isPlain.elim
  | _ => trivial

/-- What an operator gives is good. -/
theorem good_onEveryLine {answers : Nat → Except RuntimeError Value} (every : OnEveryLine answers)
    {line : Nat} {value : Value} (answered : answers line = .ok value) :
    watch.Good machine value := by
  cases every with
  | ok isPlain =>
    cases answered
    exact good_of_isPlain isPlain
  | error => exact nomatch answered

/-! ### Expressions -/

theorem evaluateNode_keeps (trusts : watch.Trusts evaluator other) {expression : Expression}
    (happened : Happens watch.start (.evaluation environment expression machine))
    (ready : watch.Ready environment machine)
    (placed : expression.Placed (machine.table watch.limit) environment.scopes) :
    watch.Keeps (evaluator.evaluateNode expression) (other.evaluateNode expression) machine
      fun value after => watch.Good after value := by
  cases expression with
  | literal literal => exact .pure ready.sound (good_of_isPlain literal.isPlain_value)
  | grouping inner => exact trusts.evaluate (.operand happened .grouping) ready placed
  | unary operator line operand =>
    refine (trusts.evaluate (.operand happened .unary) ready placed).bind ?_
    intro value after _ leads _
    exact .ofExcept leads.sound fun _ applied =>
      good_onEveryLine (operator.onEveryLine _) applied
  | binary operator line left right =>
    refine (trusts.evaluate (.operand happened .left) ready placed.1).bind ?_
    intro leftValue middle ended leads _
    refine (trusts.evaluate (.operand happened (.right (trusts.evaluates ended)))
      (ready.later leads) (leads.table ▸ placed.2)).bind ?_
    intro rightValue after _ further _
    exact .ofExcept further.sound fun _ applied =>
      good_onEveryLine (operator.onEveryLine _ _) applied
  | logical operator left right =>
    refine (trusts.evaluate (.operand happened .decisive) ready placed.1).bind ?_
    intro leftValue middle ended leads good
    split
    · exact .pure leads.sound good
    · rename_i undecided
      have evaluates := trusts.evaluates ended
      exact trusts.evaluate
        (.operand happened (.undecided evaluates (Bool.eq_false_iff.mpr undecided)))
        (ready.later leads) (leads.table ▸ placed.2)
  | read reference name => exact lookUp_keeps ready.sound reference name
  | assign reference name value =>
    refine (trusts.evaluate (.operand happened .assigned) ready placed.2.1).bind ?_
    intro result middle _ leads good
    refine (assign_keeps (ready.later leads) placed.1 (leads.table ▸ placed.2.2) good).bind ?_
    intro _ after _ further _
    exact .pure further.sound (further.good leads.sound good)
  | call callee line arguments =>
    refine (trusts.evaluate (.operand happened .callee) ready placed.1).bind ?_
    intro value middle ended leads good
    have evaluates := trusts.evaluates ended
    refine (evaluateAll_keeps trusts arguments (.arguments happened evaluates)
      (ready.later leads) (leads.table ▸ placed.2)).bind ?_
    intro values after _ further ⟨allGood, evaluatesAll⟩
    exact call_keeps trusts happened evaluates evaluatesAll further.sound
      (further.good leads.sound good) allGood
  | function declaration =>
    have ⟨leads, fits⟩ := ready.close placed
    let value : Value := .callable (.function machine.heap.functions.size)
    exact .begin (machine.close declaration) (return value) (return value) rfl rfl leads
      (.pure leads.sound
        ⟨environment, _, .function happened, .refl _, fits, ready.confined⟩)
  | get object name =>
    refine (trusts.evaluate (.operand happened .object) ready placed).bind ?_
    intro value after ended leads good
    refine property_keeps leads.sound good ?_
    rintro receiver declaring method rfl noField finds
    exact .get happened (trusts.evaluates ended) noField finds
  | set object name value =>
    refine (trusts.evaluate (.operand happened .target) ready placed.1).bind ?_
    intro target middle ended leads _
    split
    · rename_i receiver _
      refine (trusts.evaluate (.operand happened (.stored (trusts.evaluates ended)))
        (ready.later leads) (leads.table ▸ placed.2)).bind ?_
      intro result after _ further good
      have precedes := (Heap.Precedes.refl after.heap).setField receiver name.name result
      have stored : watch.Leads after
          (after.withHeap (after.heap.setField receiver name.name result)) :=
        .ofHeap precedes (further.sound.setField good)
      refine .begin (after.withHeap (after.heap.setField receiver name.name result))
        (return result) (return result) rfl rfl stored
        (.pure stored.sound (stored.good further.sound good))
    · exact .throw leads.sound
  | this reference keyword => exact lookUp_keeps ready.sound reference keyword
  | super reference keyword method => exact superMethod_keeps ready placed happened

/-! ### Loops -/

/-- A statement that declares nothing is executed in an environment and leaves it as it is. -/
theorem executePlain_keeps (trusts : watch.Trusts evaluator other) {statement : Statement}
    (happened : Happens watch.start (.execution environment statement machine))
    (ready : watch.Ready environment machine) (declaresNothing : statement.declared? = none)
    (placed : statement.Placed (machine.table watch.limit) environment.scopes) :
    watch.Keeps (evaluator.execute statement) (other.execute statement) machine
      fun flow after => watch.GoodFlow after flow ∧
        environment.Aligned after.heap after.current := by
  have same := Environment.after_of_none declaresNothing environment
  have confined : watch.Confined (environment.after statement) := by
    rw [same]
    exact ready.confined
  have keeps := trusts.execute happened ready confined placed
  rw [same] at keeps
  exact keeps

/-- The parts of a loop are placed rightly. -/
theorem placedLoop {table : Table} {scopes : List Names} {condition : Expression}
    {body : Statement} {increment : Option Statement}
    (placed : (Statement.loop condition body increment).Placed table scopes) :
    condition.Placed table scopes ∧ body.declared? = none ∧ body.Placed table scopes ∧
      ∀ statement ∈ increment, statement.declared? = none ∧ statement.Placed table scopes := by
  cases increment with
  | none => exact ⟨placed.1, placed.2.1, placed.2.2, nofun⟩
  | some increment =>
    exact ⟨placed.1, placed.2.1, placed.2.2.1,
      fun _ isIncrement => Option.mem_some.mp isIncrement ▸ placed.2.2.2⟩

/-- A pass ends its loop with a good flow, or another one is part of the history. -/
def EndsOrGoesOn (watch : Watch) (next : Machine → Event) (ended : Option Flow)
    (machine : Machine) : Prop :=
  match ended with
  | some flow => watch.GoodFlow machine flow
  | none => Happens watch.start (next machine)

theorem pass_keeps (trusts : watch.Trusts evaluator other) {condition : Expression}
    {body : Statement} {increment : Option Statement}
    (happened : Happens watch.start (.pass environment condition body increment machine))
    (ready : watch.Ready environment machine)
    (placed : (Statement.loop condition body increment).Placed
      (machine.table watch.limit) environment.scopes) :
    watch.Keeps (evaluator.pass condition body increment) (other.pass condition body increment)
      machine (watch.EndsOrGoesOn (.pass environment condition body increment)) := by
  have ⟨placedCondition, bodyDeclaresNothing, placedBody, placedIncrement⟩ := placedLoop placed
  refine (trusts.evaluate (.loopCondition happened) ready placedCondition).bind ?_
  intro value middle tested leads _
  have tested := trusts.evaluates tested
  split
  · rename_i holds
    refine (executePlain_keeps trusts (.loopBody happened tested holds) (ready.later leads)
      bodyDeclaresNothing (leads.table ▸ placedBody)).bind ?_
    intro flow last executed further ⟨good, _⟩
    have executed := trusts.executes executed
    have led := leads.trans further
    -- what follows a body that completes is the same as what follows a `continue`
    cases increment with
    | none =>
      have goesOn (isFlow : flow = .completed ∨ flow = .continued) :
          watch.Keeps (pure none) (pure none) last
            (watch.EndsOrGoesOn (.pass environment condition body none)) :=
        .pure led.sound (.nextPass happened tested holds executed isFlow)
      cases flow with
      | broke => exact .pure led.sound trivial
      | returned value => exact .pure led.sound good
      | completed => exact goesOn (.inl rfl)
      | continued => exact goesOn (.inr rfl)
    | some increment =>
      have ⟨declaresNothing, placedStatement⟩ := placedIncrement increment rfl
      have goesOn (isFlow : flow = .completed ∨ flow = .continued) :
          watch.Keeps (evaluator.execute increment >>= fun _ => pure none)
            (other.execute increment >>= fun _ => pure none) last
            (watch.EndsOrGoesOn (.pass environment condition body (some increment))) := by
        refine (executePlain_keeps trusts (.loopIncrement happened tested holds executed isFlow)
          (ready.later led) declaresNothing (led.table ▸ placedStatement)).bind ?_
        intro incrementFlow after ended last _
        exact .pure last.sound
          (.nextPassAfter happened tested holds executed isFlow (trusts.executes ended))
      cases flow with
      | broke => exact .pure led.sound trivial
      | returned value => exact .pure led.sound good
      | completed => exact goesOn (.inl rfl)
      | continued => exact goesOn (.inr rfl)
  · exact .pure leads.sound trivial

/-- As many passes as there may be. The induction is on their number, and what carries it is that
the next pass is part of the history. -/
theorem repeatPass_keeps (trusts : watch.Trusts evaluator other) {condition : Expression}
    {body : Statement} {increment : Option Statement} (passes : Nat)
    (happened : Happens watch.start (.pass environment condition body increment machine))
    (ready : watch.Ready environment machine)
    (placed : (Statement.loop condition body increment).Placed
      (machine.table watch.limit) environment.scopes) :
    watch.Keeps (Evaluator.repeatPass (evaluator.pass condition body increment) passes)
      (Evaluator.repeatPass (other.pass condition body increment) passes) machine
      fun flow after => watch.GoodFlow after flow := by
  induction passes generalizing machine with
  | zero => exact .throw ready.sound
  | succ passes inductionHypothesis =>
    refine (pass_keeps trusts happened ready placed).bind ?_
    intro ended after _ leads goesOn
    cases ended with
    | some flow => exact .pure leads.sound goesOn
    | none => exact inductionHypothesis goesOn (ready.later leads) (leads.table ▸ placed)

/-! ### Statements -/

/-- The statements of a block can be run in a new frame. -/
theorem Ready.enterBlock (ready : watch.Ready environment machine) :
    watch.Ready (environment.block machine) machine.enterBlock ∧
      watch.Unwatched (environment.block machine) := by
  have opened : watch.Sound (machine.withHeap (machine.heap.openFrame machine.current [])) :=
    ready.sound.openFrame _ [] nofun
  have unwatched : machine.heap.frames.size ≠ watch.kept := (Nat.ne_of_lt ready.sound.room).symm
  have holds : Owner.block.Holds (machine.heap.openFrame machine.current []) environment .empty
      machine.heap.frames.size := ⟨ready.inside, fun _ _ => rfl⟩
  have aligned : (environment.block machine).Aligned machine.enterBlock.heap
      machine.heap.frames.size :=
    openFrame_aligned (Nat.zero_lt_of_lt ready.sound.room) ready.aligned
      (fun name defined => nomatch defined.symm.trans (Bindings.get?_empty name)) holds
  refine ⟨⟨opened.same rfl rfl, aligned, rfl, ?_⟩, unwatched⟩
  intro activation member isKept
  rcases List.mem_cons.mp member with rfl | outer
  · exact absurd isKept unwatched
  · exact ready.confined activation outer isKept

theorem block_keeps (trusts : watch.Trusts evaluator other) {statements : List Statement}
    (happened : Happens watch.start (.execution environment (.block statements) machine))
    (ready : watch.Ready environment machine)
    (placed : (Statement.block statements).Placed (machine.table watch.limit)
      environment.scopes) :
    watch.Keeps (evaluator.executeNode (.block statements))
      (other.executeNode (.block statements)) machine fun flow after =>
        watch.GoodFlow after flow := by
  have opened : watch.Leads machine
      (machine.withHeap (machine.heap.openFrame machine.current [])) :=
    .ofHeap (.openFrame _ _ _) (ready.sound.openFrame _ [] nofun)
  have ⟨inside, unwatched⟩ := ready.enterBlock
  refine .begin (machine.withHeap (machine.heap.openFrame machine.current []))
    (Run.within machine.heap.frames.size (evaluator.executeAll statements))
    (Run.within machine.heap.frames.size (other.executeAll statements)) rfl rfl opened ?_
  refine .within (executeAll_keeps trusts statements (.block happened) inside unwatched placed) ?_
  intro flow after sound good
  refine good.carry sound (.same ?_ ?_) <;> rfl

theorem declareFunction_eq {declaration : FunctionDeclaration} {name : Identifier}
    (isName : declaration.name = some name) :
    evaluator.executeNode (.declareFunction declaration) machine =
      .ok .completed ((machine.close declaration).define name.name
        (.callable (.function machine.heap.functions.size))) := by
  obtain ⟨_, parameters, body⟩ := declaration
  cases isName
  rfl

theorem after_declareFunction {declaration : FunctionDeclaration} {name : Identifier}
    (isName : declaration.name = some name) :
    environment.after (.declareFunction declaration) = environment.enter name.name true := by
  unfold Environment.after
  rw [show (Statement.declareFunction declaration).declared? = some name.name from
    congrArg (Option.map Identifier.name) isName]

/-- A declared function is closed over the frame in which it is bound, and fits the environment
there, which has it as defined. -/
theorem Ready.declareFunction {declaration : FunctionDeclaration} {name : Identifier}
    (ready : watch.Ready environment machine) (isVariable : IsVariable name.name)
    (placed : declaration.Placed (machine.table watch.limit)
      (Scope.enter name.name true environment.scopes)) :
    watch.Leads machine (machine.close declaration) ∧
      watch.Fits ((machine.close declaration).define name.name
        (.callable (.function machine.heap.functions.size)))
        (environment.enter name.name true) machine.heap.functions.size := by
  let object : FunctionObject := ⟨declaration, machine.current, false⟩
  let value : Value := .callable (.function machine.heap.functions.size)
  have small : ∀ reference ∈ declaration.references, reference < watch.limit := by
    intro reference member
    obtain ⟨_, small, _⟩ := FunctionDeclaration.Placed.knows declaration placed reference member
    exact small
  have ledToFunction : watch.Leads machine (machine.close declaration) :=
    .ofHeap ((Heap.Precedes.refl _).addFunction object) (ready.sound.addFunction object small)
  have grown : machine.heap.Precedes ((machine.close declaration).define name.name value).heap :=
    ledToFunction.heap.trans (precedes_define (machine.close declaration) isVariable value)
  refine ⟨ledToFunction, (Environment.parent?_enter _ _ _).trans ready.inside, object,
    Array.getElem?_push_size, ?_, ?_⟩
  · exact (ready.aligned.grow grown).enter isVariable fun _ =>
      (ready.later ledToFunction).isSome_define name.name value
  · rw [Environment.scopes_enter]
    exact placed

theorem declareFunction_keeps {declaration : FunctionDeclaration}
    (happened : Happens watch.start
      (.execution environment (.declareFunction declaration) machine))
    (ready : watch.Ready environment machine)
    (confined : watch.Confined (environment.after (.declareFunction declaration)))
    (placed : (Statement.declareFunction declaration).Placed (machine.table watch.limit)
      environment.scopes) :
    watch.Keeps (evaluator.executeNode (.declareFunction declaration))
      (other.executeNode (.declareFunction declaration)) machine fun flow after =>
        watch.GoodFlow after flow ∧
          (environment.after (.declareFunction declaration)).Aligned after.heap after.current := by
  obtain ⟨name, isName, isVariable, _, placed⟩ := placed
  rw [after_declareFunction isName] at confined ⊢
  have ⟨ledToFunction, fits⟩ := ready.declareFunction isVariable placed
  let value : Value := .callable (.function machine.heap.functions.size)
  have closed : watch.Good ((machine.close declaration).define name.name value) value :=
    ⟨_, _, .declaredFunction happened isName, .refl _, fits, confined⟩
  have ⟨ledToName, readyAfter⟩ :=
    (ready.later ledToFunction).define isVariable confined value closed
  exact .begin _ (return .completed) (return .completed) (declareFunction_eq isName)
    (declareFunction_eq isName) (ledToFunction.trans ledToName)
    (.pure ledToName.sound ⟨trivial, readyAfter.aligned⟩)

/-- The parts of a conditional are placed rightly. -/
theorem placedConditional {table : Table} {scopes : List Names} {condition : Expression}
    {thenBranch : Statement} {elseBranch : Option Statement}
    (placed : (Statement.conditional condition thenBranch elseBranch).Placed table scopes) :
    condition.Placed table scopes ∧
      (thenBranch.declared? = none ∧ thenBranch.Placed table scopes) ∧
      ∀ statement ∈ elseBranch, statement.declared? = none ∧ statement.Placed table scopes := by
  cases elseBranch with
  | none => exact ⟨placed.1, placed.2, nofun⟩
  | some elseBranch =>
    exact ⟨placed.1, ⟨placed.2.1, placed.2.2.1⟩,
      fun _ isBranch => Option.mem_some.mp isBranch ▸ placed.2.2.2⟩

/-- Every statement leaves the environment behind it. -/
theorem executeNode_keeps (trusts : watch.Trusts evaluator other) {statement : Statement}
    (happened : Happens watch.start (.execution environment statement machine))
    (ready : watch.Ready environment machine)
    (confined : watch.Confined (environment.after statement))
    (placed : statement.Placed (machine.table watch.limit) environment.scopes) :
    watch.Keeps (evaluator.executeNode statement) (other.executeNode statement) machine
      fun flow after => watch.GoodFlow after flow ∧
        (environment.after statement).Aligned after.heap after.current := by
  -- most statements declare nothing, and then there is nothing to say about the environment
  have plain (declaresNothing : statement.declared? = none)
      (keeps : watch.Keeps (evaluator.executeNode statement) (other.executeNode statement) machine
        fun flow after => watch.GoodFlow after flow) :
      watch.Keeps (evaluator.executeNode statement) (other.executeNode statement) machine
        fun flow after => watch.GoodFlow after flow ∧
          (environment.after statement).Aligned after.heap after.current := by
    refine keeps.mono fun flow after leads good => ⟨good, ?_⟩
    rw [Environment.after_of_none declaresNothing]
    exact (ready.later leads).aligned
  cases statement with
  | expression expression =>
    refine plain rfl ((trusts.evaluate (.statementOperand happened .expression) ready placed).bind
      fun _ _ _ leads _ => .pure leads.sound trivial)
  | print expression =>
    refine plain rfl ((trusts.evaluate (.statementOperand happened .print) ready placed).bind ?_)
    intro value middle _ leads _
    have writes (text : String) : watch.Keeps (Run.write text) (Run.write text) middle
        fun _ _ => True := .write leads.sound fun _ _ _ _ => trivial
    exact .get_bind ((writes _).bind fun _ _ _ further _ => .pure further.sound trivial)
  | declareVariable name initializer =>
    cases initializer with
    | none =>
      have ⟨leads, readyAfter⟩ := ready.define placed.1 confined .nil trivial
      exact .step rfl leads ⟨trivial, readyAfter.aligned⟩
    | some initializer =>
      obtain ⟨isVariable, _, placedInitializer⟩ := placed
      rw [← Environment.scopes_enter] at placedInitializer
      refine (trusts.evaluate (.initializer happened) (ready.pending isVariable confined)
        placedInitializer).bind ?_
      intro value middle _ leads good
      have grown := (Carries.ofHeap watch (precedes_define middle isVariable value))
      have ⟨further, readyAfter⟩ := (ready.later leads).define isVariable confined value
        (grown.good leads.sound good)
      exact .step rfl further ⟨trivial, readyAfter.aligned⟩
  | block statements => exact plain rfl (block_keeps trusts happened ready placed)
  | conditional condition thenBranch elseBranch =>
    have ⟨placedCondition, placedThen, placedElse⟩ := placedConditional placed
    refine plain rfl ((trusts.evaluate (.statementOperand happened .condition) ready
      placedCondition).bind ?_)
    intro value middle tested leads _
    have tested := trusts.evaluates tested
    split
    · rename_i holds
      exact (executePlain_keeps trusts (.branch happened (.thenBranch tested holds))
        (ready.later leads) placedThen.1 (leads.table ▸ placedThen.2)).mono
        fun _ _ _ ⟨good, _⟩ => good
    · rename_i fails
      split
      · rename_i elseBranch
        have ⟨declaresNothing, placedBranch⟩ := placedElse elseBranch rfl
        exact (executePlain_keeps trusts
          (.branch happened (.elseBranch tested (Bool.eq_false_iff.mpr fails)))
          (ready.later leads) declaresNothing (leads.table ▸ placedBranch)).mono
          fun _ _ _ ⟨good, _⟩ => good
      · exact .pure leads.sound trivial
  | loop condition body increment =>
    refine plain rfl ?_
    unfold Evaluator.executeNode
    rw [trusts.passes]
    exact repeatPass_keeps trusts evaluator.passes (.loop happened) ready placed
  | control control line =>
    cases control <;> exact plain rfl (.pure ready.sound trivial)
  | declareFunction declaration =>
    exact declareFunction_keeps happened ready confined placed
  | giveBack keyword value =>
    cases value with
    | none => exact plain rfl (.pure ready.sound trivial)
    | some value =>
      exact plain rfl ((trusts.evaluate (.statementOperand happened .returned) ready placed).bind
        fun _ _ _ leads good => .pure leads.sound good)
  | declareClass name superclass methods =>
    exact (declareClass_keeps trusts happened ready confined placed).bind
      fun _ _ _ leads aligned => .pure leads.sound ⟨trivial, aligned⟩

/-! ### Every depth -/

/-- Whatever the depth, trees are run as they should be. -/
theorem evaluator_trusts (watch : Watch) (depth : Nat) :
    watch.Trusts (Lox.evaluator depth) (Lox.evaluator depth) := by
  induction depth with
  | zero =>
    refine ⟨fun _ ready _ => .throw ready.sound, fun _ ready _ _ => .throw ready.sound,
      fun ended => ⟨0, ended⟩, fun ended => ⟨0, ended⟩, rfl⟩
  | succ depth inductionHypothesis =>
    exact ⟨evaluateNode_keeps inductionHypothesis, executeNode_keeps inductionHypothesis,
      fun ended => ⟨depth + 1, ended⟩, fun ended => ⟨depth + 1, ended⟩, rfl⟩

end Watch

end Lox
