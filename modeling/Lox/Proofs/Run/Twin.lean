/-
Twins do the same. On a pair of heaps, in frames from which the chains outward run side by side as
the scopes around two trees do, the second tree does what the first one does: one step for every
node, given that the trees inside the first one are followed, and then an induction on the depth of
the first run. Braces cost the run that has them some depth and a frame, also those around the body
of a loop with its increment, and change nothing else.
-/

import Lox.Proofs.Run.Counterparts
import Lox.Proofs.Run.Laps

namespace Lox

open Scope

namespace Pair

variable {known knownToo : Distances} {pair : Pair known knownToo} {alignment : Alignment}
  {current currentToo : FrameId} {name : String} {line lineToo : Nat}

open Follows Evaluator

/-! ### Nodes -/

/-- The trees inside a node are followed by their twins, a block also by a row of statements without
braces, and their flows are told. -/
structure Trusts (known knownToo : Distances) (evaluator : Evaluator) : Prop where
  evaluate : ∀ {pair : Pair known knownToo} {alignment current currentToo}
    {expression expressionToo : Expression}, pair.Linked alignment current currentToo →
    Twin (.known known knownToo) alignment (.expression expression expressionToo) →
    pair.Follows current currentToo SameValue (evaluator.evaluate expression)
      fun depth => Lox.evaluate depth expressionToo
  execute : ∀ {pair : Pair known knownToo} {alignment current currentToo}
    {statement statementToo : Statement}, pair.Linked alignment current currentToo →
    Twin (.known known knownToo) alignment (.statement statement statementToo) →
    pair.Follows current currentToo SameFlow (evaluator.execute statement)
      fun depth => Lox.execute depth statementToo
  row : ∀ {pair : Pair known knownToo} {alignment current currentToo}
    {statements statementsToo : List Statement}, pair.Linked alignment current currentToo →
    Twin (.known known knownToo) alignment.skipLeft (.statements statements statementsToo) →
    pair.Follows current currentToo SameFlow (evaluator.execute (.block statements))
      fun depth => (Lox.evaluator depth).executeAll statementsToo
  flows : evaluator.Flows

namespace Trusts

variable {evaluator : Evaluator}

theorem executeAll (trusts : Trusts known knownToo evaluator)
    {statements statementsToo : List Statement} (linked : pair.Linked alignment current currentToo)
    (twins : Twin (.known known knownToo) alignment (.statements statements statementsToo)) :
    pair.Follows current currentToo SameFlow (evaluator.executeAll statements)
      fun depth => (Lox.evaluator depth).executeAll statementsToo := by
  induction statements generalizing pair statementsToo with
  | nil =>
    cases twins
    exact pure ⟨rfl, nofun⟩
  | cons statement others inductionHypothesis =>
    cases twins with
    | moreStatements twin twins =>
      refine (trusts.execute linked twin).bind ?_
      rintro later _ flow grows ⟨rfl, usable⟩
      cases flow with
      | completed => exact inductionHypothesis (grows.linked linked) twins
      | _ => exact pure ⟨rfl, usable⟩

theorem evaluateAll (trusts : Trusts known knownToo evaluator)
    {expressions expressionsToo : List Expression}
    (linked : pair.Linked alignment current currentToo)
    (twins : Twin (.known known knownToo) alignment (.expressions expressions expressionsToo)) :
    pair.Follows current currentToo SameValues (evaluator.evaluateAll expressions)
      fun depth => (Lox.evaluator depth).evaluateAll expressionsToo := by
  induction expressions generalizing pair expressionsToo with
  | nil =>
    cases twins
    exact pure ⟨rfl, nofun⟩
  | cons expression others inductionHypothesis =>
    cases twins with
    | moreExpressions twin twins =>
      refine (trusts.evaluate linked twin).bind ?_
      rintro middle _ value grows ⟨rfl, usable⟩
      refine (inductionHypothesis (grows.linked linked) twins).bind ?_
      rintro later _ values further ⟨rfl, allUsable⟩
      exact pure ⟨rfl, List.forall_mem_cons.mpr ⟨further.usable usable, allUsable⟩⟩

/-! ### Calls -/

/-- A function runs its own text, in a frame inside the one that it is closed over. -/
theorem invoke (trusts : Trusts known knownToo evaluator) {id : FunctionId}
    {arguments : List Value} (runs : pair.Runs id)
    (usable : ∀ value ∈ arguments, pair.Usable value) :
    pair.Follows current currentToo SameValue (evaluator.invoke id arguments)
      fun depth => (Lox.evaluator depth).invoke id arguments := by
  obtain ⟨alignment, object, objectToo, found, foundToo, linked, twin, here⟩ := runs
  refine get_bind fun joins => ?_
  have resembles := joins.holds.resembles id
  rw [Heap.function_of_some found, Heap.function_of_some foundToo] at resembles
  simp only [joins.left, joins.right, Heap.function_of_some found, Heap.function_of_some foundToo,
    ← twin.parameters, ← resembles.isInitializer]
  refine (Follows.addFrame linked).bind fun grows inside => ?_
  refine (Follows.defineAll (inside.here trivial) _ fun entry member =>
    grows.usable (usable _ (List.of_mem_zip member).2)).bind fun further _ => ?_
  refine (within (trusts.executeAll (further.linked inside) twin.body)).bind ?_
  rintro later _ flow last ⟨rfl, usable⟩
  cases isInitializer : object.isInitializer with
  | true =>
    simp only [↓reduceIte]
    refine get_bind fun joins => ?_
    rw [joins.left, joins.right]
    exact ofExcept (getAt_answers joins.holds
      (last.linked (further.linked (grows.linked linked))) (here isInitializer))
  | false =>
    simp only [Bool.false_eq_true, ↓reduceIte]
    cases flow with
    | returned value => exact pure ⟨rfl, usable value rfl⟩
    | _ => exact pure ⟨rfl, trivial⟩

theorem construct (trusts : Trusts known knownToo evaluator) (id : ClassId)
    {arguments : List Value} (usable : ∀ value ∈ arguments, pair.Usable value) :
    pair.Follows current currentToo SameValue (evaluator.construct id arguments)
      fun depth => (Lox.evaluator depth).construct id arguments := by
  refine (Follows.addInstance id).bind ?_
  rintro middle receiver _ grows ⟨⟩
  refine get_bind fun joins => ?_
  simp only [joins.left, joins.right, joins.holds.looks.method?]
  split
  · rename_i found
    refine (Follows.bindMethod (joins.holds.binds found) receiver).bind ?_
    rintro later _ method further ⟨rfl, runs⟩
    exact (trusts.invoke runs fun value member =>
      further.usable (grows.usable (usable value member))).bind fun _ _ => pure ⟨rfl, trivial⟩
  · exact pure ⟨rfl, trivial⟩

theorem perform (trusts : Trusts known knownToo evaluator) {callable : Callable}
    {arguments : List Value} (runs : pair.Usable (.callable callable))
    (usable : ∀ value ∈ arguments, pair.Usable value) :
    pair.Follows current currentToo SameValue (evaluator.perform callable arguments line)
      fun depth => (Lox.evaluator depth).perform callable arguments lineToo := by
  cases callable with
  | native id => exact callNative_follows id usable
  | function id => exact trusts.invoke runs usable
  | method id => exact trusts.invoke runs usable
  | constructor id => exact trusts.construct id usable

theorem call (trusts : Trusts known knownToo evaluator) {callee : Value} {arguments : List Value}
    (runs : pair.Usable callee) (usable : ∀ value ∈ arguments, pair.Usable value) :
    pair.Follows current currentToo SameValue (evaluator.call callee arguments line)
      fun depth => (Lox.evaluator depth).call callee arguments lineToo := by
  cases callee with
  | callable callable =>
    refine get_bind fun joins => ?_
    simp only [joins.left, joins.right, joins.holds.looks.arity, joins.callDepth]
    split
    · exact fail _ _ _
    · split
      · exact fail _ _ _
      · exact inCall (trusts.perform runs usable)
  | _ => exact fail _ _ _

/-! ### Expressions -/

theorem evaluateNode (trusts : Trusts known knownToo evaluator)
    {expression expressionToo : Expression} (linked : pair.Linked alignment current currentToo)
    (twin : Twin (.known known knownToo) alignment (.expression expression expressionToo)) :
    pair.Follows current currentToo SameValue (evaluator.evaluateNode expression)
      fun depth => Lox.evaluate depth expressionToo := by
  refine .deeper ?_
  show pair.Follows current currentToo SameValue (evaluator.evaluateNode expression)
    fun depth => (Lox.evaluator depth).evaluateNode expressionToo
  cases twin with
  | @literal _ literal => exact pure ⟨rfl, usable_of_isPlain literal.isPlain_value⟩
  | grouping inner => exact trusts.evaluate linked inner
  | @unary _ operator _ _ _ _ operand =>
    refine (trusts.evaluate linked operand).bind ?_
    rintro later _ value grows ⟨rfl, _⟩
    exact ofExcept (everyLine_answers (operator.onEveryLine value))
  | @binary _ operator _ _ _ _ _ _ left right =>
    refine (trusts.evaluate linked left).bind ?_
    rintro middle _ leftValue grows ⟨rfl, _⟩
    refine (trusts.evaluate (grows.linked linked) right).bind ?_
    rintro later _ rightValue _ ⟨rfl, _⟩
    exact ofExcept (everyLine_answers (operator.onEveryLine leftValue rightValue))
  | logical left right =>
    refine (trusts.evaluate linked left).bind ?_
    rintro later _ value grows ⟨rfl, usable⟩
    split
    · exact pure ⟨rfl, usable⟩
    · exact trusts.evaluate (grows.linked linked) right
  | read tied => exact lookUp_follows linked tied
  | assign tied value =>
    refine (trusts.evaluate linked value).bind ?_
    rintro later _ value grows ⟨rfl, usable⟩
    exact (assign_follows (grows.linked linked) tied usable).bind fun further _ =>
      pure ⟨rfl, further.usable usable⟩
  | call callee arguments =>
    refine (trusts.evaluate linked callee).bind ?_
    rintro middle _ callee grows ⟨rfl, usable⟩
    refine (trusts.evaluateAll (grows.linked linked) arguments).bind ?_
    rintro later _ values further ⟨rfl, allUsable⟩
    exact trusts.call (further.usable usable) allUsable
  | anonymous declaration =>
    refine (close_follows linked declaration).bind ?_
    rintro later _ id _ ⟨rfl, runs⟩
    exact pure ⟨rfl, runs⟩
  | get object =>
    refine (trusts.evaluate linked object).bind ?_
    rintro later _ object _ ⟨rfl, _⟩
    exact property_follows object
  | set object value =>
    refine (trusts.evaluate linked object).bind ?_
    rintro middle _ object grows ⟨rfl, _⟩
    cases object with
    | object id =>
      refine (trusts.evaluate (grows.linked linked) value).bind ?_
      rintro later _ value _ ⟨rfl, usable⟩
      exact (Follows.setField id _ usable).bind fun further _ =>
        pure ⟨rfl, further.usable usable⟩
    | _ => exact fail _ _ _
  | this tied => exact lookUp_follows linked tied
  | super tied => exact superMethod_follows linked tied

/-! ### Statements -/

theorem pass (trusts : Trusts known knownToo evaluator) {condition conditionToo : Expression}
    {body bodyToo : Statement} {increment incrementToo : Option Statement}
    (linked : pair.Linked alignment current currentToo)
    (twin : Twin (.known known knownToo) alignment (.expression condition conditionToo))
    (inBody : Twin (.known known knownToo) alignment (.statement body bodyToo))
    (increments : Option.Rel (fun increment incrementToo =>
      Twin (.known known knownToo) alignment (.statement increment incrementToo))
      increment incrementToo) :
    pair.Follows current currentToo SamePass (evaluator.pass condition body increment)
      fun depth => (Lox.evaluator depth).pass conditionToo bodyToo incrementToo := by
  refine (trusts.evaluate linked twin).bind ?_
  rintro middle _ value grows ⟨rfl, _⟩
  split
  · refine (trusts.execute (grows.linked linked) inBody).bind ?_
    rintro later _ flow further ⟨rfl, usable⟩
    cases flow with
    | broke => exact pure ⟨rfl, nofun⟩
    | returned value =>
      refine pure ⟨rfl, ?_⟩
      rintro _ ⟨⟩
      exact usable value rfl
    | completed | continued =>
      cases increments with
      | none => exact pure ⟨rfl, nofun⟩
      | some increment =>
        exact (trusts.execute ((grows.trans further).linked linked) increment).bind fun _ _ =>
          pure ⟨rfl, nofun⟩
  · exact pure ⟨rfl, nofun⟩

/-- A pass whose body is followed by whatever stands for it. -/
theorem lap (trusts : Trusts known knownToo evaluator) {condition conditionToo : Expression}
    {body : Run Flow} {bodies : Nat → Run Flow} (linked : pair.Linked alignment current currentToo)
    (twin : Twin (.known known knownToo) alignment (.expression condition conditionToo))
    (inside : ∀ {later : Pair known knownToo}, pair.Later later →
      later.Follows current currentToo SameFlow body bodies) :
    pair.Follows current currentToo SamePass (evaluator.lap condition body)
      fun depth => (Lox.evaluator depth).lap conditionToo (bodies depth) := by
  refine (trusts.evaluate linked twin).bind ?_
  rintro middle _ value grows ⟨rfl, _⟩
  split
  · refine (inside grows).bind ?_
    rintro later _ flow _ ⟨rfl, usable⟩
    refine pure ⟨rfl, fun value leaves => usable value ?_⟩
    cases flow with
    | returned value => exact congrArg Flow.returned (Flow.returned.inj (Option.some.inj leaves))
    | broke => exact nomatch Option.some.inj leaves
    | completed | continued => exact nomatch leaves
  · exact pure ⟨rfl, nofun⟩

theorem superclass? (trusts : Trusts known knownToo evaluator) {word : Identifier}
    {wordToo : Identifier} {superclass superclassToo : Expression}
    (linked : pair.Linked alignment current currentToo)
    (twin : Twin (.known known knownToo) alignment (.expression superclass superclassToo)) :
    pair.Follows current currentToo
      (fun _ parent parentToo => parentToo = parent ∧ parent.isSome = true)
      (evaluator.superclass? word (some superclass))
      fun depth => (Lox.evaluator depth).superclass? wordToo (some superclassToo) := by
  refine (trusts.evaluate linked twin).bind ?_
  rintro later _ value _ ⟨rfl, _⟩
  split
  · exact pure ⟨rfl, rfl⟩
  · exact fail _ _ _

/-- The methods lie in what is `around` them: the current frame, or that of the superclass. -/
theorem declareClass (trusts : Trusts known knownToo evaluator)
    {superclass superclassToo : Option Expression} {methods methodsToo : List FunctionDeclaration}
    {around : Alignment} (linked : pair.Linked alignment current currentToo)
    (here : alignment 0 0)
    (superclasses : Option.Rel (fun superclass superclassToo =>
      Twin (.known known knownToo) alignment (.expression superclass superclassToo))
      superclass superclassToo)
    (isAround : (if superclass.isSome then alignment.inside else alignment) = around)
    (twins : Twin (.known known knownToo) around.inside (.functions methods methodsToo)) :
    pair.Follows current currentToo Same (evaluator.declareClass ⟨name, line⟩ superclass methods)
      fun depth => (Lox.evaluator depth).declareClass ⟨name, lineToo⟩ superclassToo methodsToo := by
  have parents : pair.Follows current currentToo
      (fun _ parent parentToo => parentToo = parent ∧ parent.isSome = superclass.isSome)
      (evaluator.superclass? ⟨name, line⟩ superclass)
      fun depth => (Lox.evaluator depth).superclass? ⟨name, lineToo⟩ superclassToo := by
    cases superclasses with
    | none => exact pure ⟨rfl, rfl⟩
    | some twin => exact trusts.superclass? linked twin
  refine parents.bind ?_
  rintro first _ parent grows ⟨rfl, sameIsSome⟩
  have linked := grows.linked linked
  refine (Follows.define (linked.here here) name .nil trivial).bind
    fun {second _ _} defined bound => ?_
  have linked := defined.linked linked
  refine (methodFrame_follows linked parent).bind fun {third frame frameToo} framed closed => ?_
  rw [sameIsSome, isAround] at closed
  have noneYet {word : String} {method : FunctionId}
      (found : (Bindings.empty : Bindings FunctionId).get? word = some method) :
      third.Binds method := nomatch found
  refine (methodTable_follows closed twins noneYet).bind ?_
  rintro fourth _ table tabled ⟨rfl, made⟩
  refine (Follows.addClass made).bind ?_
  rintro fifth id _ added ⟨⟩
  have later := framed.trans (tabled.trans added)
  have belong := (later.linked linked).here here
  -- the name is still bound in the frame in which it was defined
  have bound := later.bound bound
  refine get_bind fun joins => ?_
  have boundToo : (fifth.right.frames.read? currentToo name).isSome := by
    rw [joins.holds.reads belong]
    exact bound
  rw [joins.left, joins.right, joins.current, joins.currentToo, Frames.holder_of_bound bound,
    Frames.holder_of_bound boundToo]
  have found : fifth.Answers Pair.frames (.ok current) (.ok currentToo) := .ok belong
  refine (ofExcept found).bind fun {last holder holderToo} _ belong => ?_
  have grows := later_define last holder holderToo name (.callable (.constructor id))
  exact changeHeap grows rfl rfl fun holds => holds.define belong name trivial

/-- Values are written alike. -/
theorem print (trusts : Trusts known knownToo evaluator) {expression expressionToo : Expression}
    (linked : pair.Linked alignment current currentToo)
    (twin : Twin (.known known knownToo) alignment (.expression expression expressionToo)) :
    pair.Follows current currentToo SameFlow (evaluator.executeNode (.print expression))
      fun depth => (Lox.evaluator depth).executeNode (.print expressionToo) := by
  refine (trusts.evaluate linked twin).bind ?_
  rintro later _ value _ ⟨rfl, _⟩
  refine get_bind fun joins => ?_
  rw [joins.left, joins.right, joins.holds.looks.text]
  exact (Follows.write _).bind fun _ _ => pure ⟨rfl, nofun⟩

theorem initialized (trusts : Trusts known knownToo evaluator) {value valueToo : Expression}
    (linked : pair.Linked alignment current currentToo) (here : alignment 0 0)
    (twin : Twin (.known known knownToo) alignment (.expression value valueToo)) :
    pair.Follows current currentToo SameFlow
      (evaluator.executeNode (.declareVariable ⟨name, line⟩ (some value)))
      fun depth =>
        (Lox.evaluator depth).executeNode (.declareVariable ⟨name, lineToo⟩ (some valueToo)) := by
  refine (trusts.evaluate linked twin).bind ?_
  rintro later _ value grows ⟨rfl, usable⟩
  exact (Follows.define ((grows.linked linked).here here) _ value usable).bind fun _ _ =>
    pure ⟨rfl, nofun⟩

theorem conditional (trusts : Trusts known knownToo evaluator)
    {condition conditionToo : Expression} {thenBranch thenToo : Statement}
    {elseBranch elseToo : Option Statement} (linked : pair.Linked alignment current currentToo)
    (twin : Twin (.known known knownToo) alignment (.expression condition conditionToo))
    (inThen : Twin (.known known knownToo) alignment (.statement thenBranch thenToo))
    (branches : Option.Rel (fun branch branchToo =>
      Twin (.known known knownToo) alignment (.statement branch branchToo)) elseBranch elseToo) :
    pair.Follows current currentToo SameFlow
      (evaluator.executeNode (.conditional condition thenBranch elseBranch))
      fun depth =>
        (Lox.evaluator depth).executeNode (.conditional conditionToo thenToo elseToo) := by
  refine (trusts.evaluate linked twin).bind ?_
  rintro later _ value grows ⟨rfl, _⟩
  split
  · exact trusts.execute (grows.linked linked) inThen
  · cases branches with
    | none => exact pure ⟨rfl, nofun⟩
    | some inElse => exact trusts.execute (grows.linked linked) inElse

/-- A declared function is bound to its name, if it has one. -/
theorem declareFunction {declaration declarationToo : FunctionDeclaration}
    (linked : pair.Linked alignment current currentToo) (here : alignment 0 0)
    (twin : Twin (.known known knownToo) alignment (.function declaration declarationToo)) :
    pair.Follows current currentToo SameFlow
      (evaluator.executeNode (.declareFunction declaration))
      fun depth => (Lox.evaluator depth).executeNode (.declareFunction declarationToo) := by
  refine (close_follows linked twin).bind ?_
  rintro later _ id grows ⟨rfl, runs⟩
  obtain ⟨isName, isNameToo⟩ | ⟨word, _, _, isName, isNameToo⟩ := Twin.name_cases twin.name <;>
    rw [isName, isNameToo]
  · show later.Follows _ _ SameFlow (Pure.pure .completed) fun _ => Pure.pure .completed
    exact pure ⟨rfl, nofun⟩
  · have belong := (grows.linked linked).here here
    exact (Follows.define belong word (.callable (.function id)) runs).bind fun _ _ =>
      pure ⟨rfl, nofun⟩

theorem giveBack (trusts : Trusts known knownToo evaluator) {keyword keywordToo : Identifier}
    {value valueToo : Expression} (linked : pair.Linked alignment current currentToo)
    (twin : Twin (.known known knownToo) alignment (.expression value valueToo)) :
    pair.Follows current currentToo SameFlow
      (evaluator.executeNode (.giveBack keyword (some value)))
      fun depth => (Lox.evaluator depth).executeNode (.giveBack keywordToo (some valueToo)) := by
  refine (trusts.evaluate linked twin).bind ?_
  rintro later _ value _ ⟨rfl, usable⟩
  refine pure ⟨rfl, ?_⟩
  rintro _ ⟨⟩
  exact usable

/-- A loop with an increment is followed by one that has it behind the body, in braces. -/
theorem spelledRight (trusts : Trusts known knownToo evaluator)
    {condition conditionToo increment incrementToo : Expression} {body bodyToo : Statement}
    (linked : pair.Linked alignment current currentToo) (quiet : body.continues = false)
    (twin : Twin (.known known knownToo) alignment (.expression condition conditionToo))
    (inBody : Twin (.known known knownToo) alignment.skipRight (.statement body bodyToo))
    (inIncrement : Twin (.known known knownToo) alignment.skipRight
      (.expression increment incrementToo)) :
    pair.Follows current currentToo SameFlow
      (evaluator.executeNode (.loop condition body (some (.expression increment))))
      fun depth => (Lox.evaluator depth).executeNode
        (.loop conditionToo (.block [bodyToo, .expression incrementToo]) none) := by
  refine repeatPass_follows (fun {later} grows => ?_) _ 0
  have linked := grows.linked linked
  show later.Follows current currentToo SamePass _
    fun depth => (Lox.evaluator depth).pass conditionToo _ none
  simp only [pass_bare]
  rw [pass_row trusts.flows condition quiet]
  refine trusts.lap linked twin fun further => .deeper ?_
  exact inBlockRight (further.linked linked) fun _ linked => trusts.executeAll linked
    (.moreStatements inBody (.moreStatements (.evaluation inIncrement) .noStatements))

/-- And such a one is followed by the loop with the increment. -/
theorem spelledLeft (trusts : Trusts known knownToo evaluator)
    {condition conditionToo increment incrementToo : Expression} {body bodyToo : Statement}
    (linked : pair.Linked alignment current currentToo) (quiet : bodyToo.continues = false)
    (twin : Twin (.known known knownToo) alignment (.expression condition conditionToo))
    (inBody : Twin (.known known knownToo) alignment.skipLeft (.statement body bodyToo))
    (inIncrement : Twin (.known known knownToo) alignment.skipLeft
      (.expression increment incrementToo)) :
    pair.Follows current currentToo SameFlow
      (evaluator.executeNode (.loop condition (.block [body, .expression increment]) none))
      fun depth => (Lox.evaluator depth).executeNode
        (.loop conditionToo bodyToo (some (.expression incrementToo))) := by
  refine repeatPass_follows (fun {later} grows => ?_) _ 0
  have linked := grows.linked linked
  have rows (depth : Nat) := pass_row (evaluator_flows depth) conditionToo quiet incrementToo
  show later.Follows current currentToo SamePass _
    fun depth => (Lox.evaluator depth).pass conditionToo bodyToo _
  simp only [rows]
  rw [pass_bare]
  exact trusts.lap linked twin fun further => trusts.row (further.linked linked)
    (.moreStatements inBody (.moreStatements (.evaluation inIncrement) .noStatements))

/-- A statement is followed by its twin: an induction on the braces around them. -/
theorem executeNode (trusts : Trusts known knownToo evaluator)
    {statement statementToo : Statement} (linked : pair.Linked alignment current currentToo)
    (twin : Twin (.known known knownToo) alignment (.statement statement statementToo)) :
    pair.Follows current currentToo SameFlow (evaluator.executeNode statement)
      fun depth => Lox.execute depth statementToo := by
  generalize isParts : Parts.statement statement statementToo = parts at twin
  induction twin generalizing pair current currentToo statement statementToo with
  | bracedRight _ inductionHypothesis =>
    cases isParts
    refine .deeper ?_
    show pair.Follows current currentToo SameFlow (evaluator.executeNode _)
      fun depth => Run.inBlock ((Lox.evaluator depth).executeAll [_])
    simp only [executeAll_singleton]
    exact inBlockRight linked fun _ linked => inductionHypothesis linked rfl
  | bracedLeft _ twin _ =>
    cases isParts
    show pair.Follows current currentToo SameFlow (Run.inBlock (evaluator.executeAll [_])) _
    rw [executeAll_singleton]
    exact inBlockLeft linked fun _ linked => trusts.execute linked twin
  | spelledRight quiet condition inBody inIncrement =>
    cases isParts
    exact .deeper (trusts.spelledRight linked quiet condition inBody inIncrement)
  | spelledLeft _ quiet condition inBody inIncrement =>
    cases isParts
    exact .deeper (trusts.spelledLeft linked quiet condition inBody inIncrement)
  | evaluation expression =>
    cases isParts
    exact .deeper ((trusts.evaluate linked expression).bind fun _ _ => pure ⟨rfl, nofun⟩)
  | print expression =>
    cases isParts
    exact .deeper (trusts.print linked expression)
  | uninitialized here =>
    cases isParts
    exact .deeper ((Follows.define (linked.here here) _ .nil trivial).bind fun _ _ =>
      pure ⟨rfl, nofun⟩)
  | initialized here value =>
    cases isParts
    exact .deeper (trusts.initialized linked here value)
  | block statements =>
    cases isParts
    exact .deeper (inBlock linked fun _ linked => trusts.executeAll linked statements)
  | ifThen condition thenBranch =>
    cases isParts
    exact .deeper (trusts.conditional linked condition thenBranch .none)
  | ifElse condition thenBranch elseBranch =>
    cases isParts
    exact .deeper (trusts.conditional linked condition thenBranch (.some elseBranch))
  | loop condition body =>
    cases isParts
    exact .deeper (repeatPass_follows
      (fun grows => trusts.pass (grows.linked linked) condition body .none) _ 0)
  | loopWith condition body increment =>
    cases isParts
    exact .deeper (repeatPass_follows
      (fun grows => trusts.pass (grows.linked linked) condition body (.some increment)) _ 0)
  | @control _ control =>
    cases isParts
    exact .deeper (pure ⟨rfl, by cases control <;> exact nofun⟩)
  | declareFunction here twin =>
    cases isParts
    exact .deeper (declareFunction linked here twin)
  | giveNothing =>
    cases isParts
    refine .deeper (pure ⟨rfl, ?_⟩)
    rintro _ ⟨⟩
    exact trivial
  | giveBack value =>
    cases isParts
    exact .deeper (trusts.giveBack linked value)
  | declareClass here methods =>
    cases isParts
    exact .deeper ((trusts.declareClass linked here .none rfl methods).bind fun _ _ =>
      pure ⟨rfl, nofun⟩)
  | declareSubclass here superclass methods =>
    cases isParts
    exact .deeper ((trusts.declareClass linked here (.some superclass) rfl methods).bind
      fun _ _ => pure ⟨rfl, nofun⟩)
  | _ => exact nomatch isParts

end Trusts

/-! ### Trees and programs -/

/-- Within any depth a tree is followed by its twin: an induction on the depth. -/
theorem evaluator_trusts (known knownToo : Distances) (depth : Nat) :
    Trusts known knownToo (evaluator depth) := by
  induction depth with
  | zero =>
    exact ⟨fun _ _ => exhausted, fun _ _ => exhausted, fun _ _ => exhausted, evaluator_flows 0⟩
  | succ depth inductionHypothesis =>
    exact ⟨inductionHypothesis.evaluateNode, inductionHypothesis.executeNode,
      fun linked twins => inBlockLeft linked fun _ linked =>
        inductionHypothesis.executeAll linked twins, evaluator_flows (depth + 1)⟩

theorem interpret_follows {statements statementsToo : List Statement} (depth : Nat)
    (linked : pair.Linked alignment current currentToo)
    (twins : Twin (.known known knownToo) alignment (.statements statements statementsToo)) :
    pair.Follows current currentToo Same (interpret depth statements)
      fun depth => interpret depth statementsToo := by
  induction statements generalizing pair statementsToo with
  | nil =>
    cases twins
    exact pure rfl
  | cons statement others inductionHypothesis =>
    cases twins with
    | moreStatements twin twins =>
      exact ((evaluator_trusts known knownToo depth).execute linked twin).bind fun grows _ =>
        inductionHypothesis (grows.linked linked) twins

end Pair

end Lox
