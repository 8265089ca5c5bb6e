/-
What runs are made of. Every run of a tree is put together from a few primitives, and what it reads
of the machine is never the sink. So what the primitives have in common, and what is kept when runs
are put together, holds of the run of any tree.
-/

import Lox.Evaluation.Evaluate

namespace Lox

variable {α β : Type}

/-! ### The primitives -/

/-- The run is put together from the primitives. What goes on after the machine is read does not
depend on the sink. -/
inductive Run.Built : {α : Type} → Run α → Prop
  | pure {α : Type} (value : α) : Built (Pure.pure value : Run α)
  | throw {α : Type} (stop : Stop) : Built (MonadExcept.throw stop : Run α)
  | bind {α β : Type} {run : Run α} {next : α → Run β} :
    run.Built → (∀ value, (next value).Built) → Built (run >>= next)
  | get {β : Type} {next : Machine → Run β} : (∀ machine, (next machine).Built) →
    (∀ machine sink, next { machine with sink } = next machine) →
    Built (MonadState.get >>= next)
  | changeHeap (change : Heap → Heap) : Built (Run.changeHeap change)
  | allocate (add : Heap → Nat × Heap) : Built (Run.allocate add)
  | define (name : String) (value : Value) : Built (Run.define name value)
  | tick : Built (modify fun machine => { machine with clock := machine.clock.next } : Run Unit)
  | write (text : String) : Built (Run.write text)
  | within {α : Type} {run : Run α} (frame : FrameId) : run.Built → Built (Run.within frame run)
  | inCall {α : Type} {run : Run α} : run.Built → Built (Run.inCall run)

namespace Run.Built

theorem fail (problem : RuntimeProblem) (line : Nat) : (Run.fail problem line : Run α).Built :=
  throw _

theorem ofExcept (outcome : Except RuntimeError α) : (Run.ofExcept outcome).Built := by
  cases outcome with
  | ok value => exact pure value
  | error error => exact throw _

end Run.Built

/-! ### Nodes -/

/-- The runs of the trees inside a node are put together from the primitives. -/
structure Evaluator.Built (evaluator : Evaluator) : Prop where
  evaluate : ∀ expression, (evaluator.evaluate expression).Built
  execute : ∀ statement, (evaluator.execute statement).Built

namespace Evaluator

open Run.Built

theorem lookUp_built (reference : Reference) (name : Identifier) :
    (lookUp reference name).Built := by
  refine get (fun machine => ?_) fun _ _ => rfl
  split <;> exact ofExcept _

theorem holder_built (reference : Reference) (name : Identifier) :
    (holder reference name).Built := by
  refine get (fun machine => ?_) fun _ _ => rfl
  split <;> exact ofExcept _

theorem assign_built (reference : Reference) (name : Identifier) (value : Value) :
    (assign reference name value).Built :=
  bind (holder_built reference name) fun _ => changeHeap _

theorem close_built (declaration : FunctionDeclaration) : (close declaration).Built :=
  get (fun _ => allocate _) fun _ _ => rfl

theorem bound_built (method : FunctionId) (receiver : InstanceId) :
    (bound method receiver).Built :=
  bind (allocate _) fun _ => pure _

theorem property_built (object : Value) (name : Identifier) :
    (property object name).Built := by
  cases object with
  | object id =>
    refine get (fun machine => ?_) fun _ _ => rfl
    dsimp only
    split
    · exact pure _
    · split
      · exact bound_built _ _
      · exact fail _ _
  | _ => exact fail _ _

theorem superMethod_built (reference : Reference) (keyword method : Identifier) :
    (superMethod reference keyword method).Built := by
  refine get (fun machine => ?_) fun _ _ => rfl
  dsimp only
  split
  · exact fail _ _
  · refine bind (ofExcept _) fun superclass => bind (ofExcept _) fun receiver => ?_
    split
    · split
      · exact bound_built _ _
      · exact fail _ _
    · exact fail _ _

theorem storeAll_built (stores : List FieldStore) : (storeAll stores).Built := by
  induction stores with
  | nil => exact pure _
  | cons store others inductionHypothesis =>
    exact bind (changeHeap _) fun _ => inductionHypothesis

theorem carryOut_built (effect : HostEffect) (line : Nat) : (carryOut effect line).Built := by
  refine bind (storeAll_built _) fun _ => ?_
  split
  · exact pure _
  · exact fail _ _

theorem callNative_built (id : NativeId) (arguments : List Value) (line : Nat) :
    (callNative id arguments line).Built := by
  refine get (fun machine => ?_) fun _ _ => rfl
  split
  · exact bind tick fun _ => pure _
  · exact carryOut_built _ _

theorem methodFrame_built (parent : Option ClassId) : (methodFrame parent).Built := by
  cases parent with
  | none => exact get (fun _ => pure _) fun _ _ => rfl
  | some parent =>
    exact get (fun _ => bind (allocate _) fun _ => bind (changeHeap _) fun _ => pure _)
      fun _ _ => rfl

theorem methodTable_built (frame : FrameId) (methods : List FunctionDeclaration)
    (table : Bindings FunctionId) : (methodTable frame methods table).Built := by
  induction methods generalizing table with
  | nil => exact pure table
  | cons method others inductionHypothesis =>
    unfold methodTable
    split
    · exact bind (allocate _) fun id => inductionHypothesis _
    · exact inductionHypothesis table

theorem repeatPass_built {pass : Run (Option Flow)} (built : pass.Built) (passes : Nat) :
    (repeatPass pass passes).Built := by
  induction passes with
  | zero => exact throw _
  | succ passes inductionHypothesis =>
    refine bind built fun ended => ?_
    cases ended with
    | some flow => exact pure flow
    | none => exact inductionHypothesis

namespace Built

variable {evaluator : Evaluator}

theorem executeAll (built : evaluator.Built) (statements : List Statement) :
    (evaluator.executeAll statements).Built := by
  induction statements with
  | nil => exact pure _
  | cons statement others inductionHypothesis =>
    refine bind (built.execute statement) fun flow => ?_
    cases flow with
    | completed => exact inductionHypothesis
    | _ => exact pure _

theorem evaluateAll (built : evaluator.Built) (expressions : List Expression) :
    (evaluator.evaluateAll expressions).Built := by
  induction expressions with
  | nil => exact pure _
  | cons expression others inductionHypothesis =>
    exact bind (built.evaluate expression) fun _ => bind inductionHypothesis fun _ => pure _

/-! ### Calls -/

theorem invoke (built : evaluator.Built) (id : FunctionId) (arguments : List Value) :
    (evaluator.invoke id arguments).Built := by
  refine get (fun machine => bind (allocate _) fun frame => bind (changeHeap _) fun _ =>
    bind (within frame (built.executeAll _)) fun flow => ?_) fun _ _ => rfl
  split
  · exact get (fun _ => ofExcept _) fun _ _ => rfl
  · split <;> exact pure _

theorem construct (built : evaluator.Built) (id : ClassId) (arguments : List Value) :
    (evaluator.construct id arguments).Built := by
  refine bind (allocate _) fun receiver => get (fun machine => ?_) fun _ _ => rfl
  split
  · exact bind (allocate _) fun method => bind (built.invoke method arguments) fun _ => pure _
  · exact pure _

theorem perform (built : evaluator.Built) (callable : Callable) (arguments : List Value)
    (line : Nat) : (evaluator.perform callable arguments line).Built := by
  cases callable with
  | native id => exact callNative_built id arguments line
  | function id => exact built.invoke id arguments
  | method id => exact built.invoke id arguments
  | constructor id => exact built.construct id arguments

theorem call (built : evaluator.Built) (callee : Value) (arguments : List Value)
    (line : Nat) : (evaluator.call callee arguments line).Built := by
  cases callee with
  | callable callable =>
    refine get (fun machine => ?_) fun _ _ => rfl
    dsimp only
    split
    · exact fail _ _
    · split
      · exact fail _ _
      · exact inCall (built.perform callable arguments line)
  | _ => exact fail _ _

/-! ### Expressions -/

theorem evaluateNode (built : evaluator.Built) (expression : Expression) :
    (evaluator.evaluateNode expression).Built := by
  cases expression with
  | literal literal => exact pure _
  | grouping inner => exact built.evaluate inner
  | unary operator line operand => exact bind (built.evaluate operand) fun _ => ofExcept _
  | binary operator line left right =>
    exact bind (built.evaluate left) fun _ => bind (built.evaluate right) fun _ => ofExcept _
  | logical operator left right =>
    refine bind (built.evaluate left) fun value => ?_
    split
    · exact pure value
    · exact built.evaluate right
  | read reference name => exact lookUp_built reference name
  | assign reference name value =>
    exact bind (built.evaluate value) fun _ => bind (assign_built _ _ _) fun _ => pure _
  | call callee line arguments =>
    exact bind (built.evaluate callee) fun callee =>
      bind (built.evaluateAll arguments) fun values => built.call callee values line
  | function declaration => exact bind (close_built declaration) fun _ => pure _
  | get object name =>
    exact bind (built.evaluate object) fun object => property_built object name
  | set object name value =>
    refine bind (built.evaluate object) fun object => ?_
    split
    · exact bind (built.evaluate value) fun _ => bind (changeHeap _) fun _ => pure _
    · exact fail _ _
  | this reference keyword => exact lookUp_built reference keyword
  | super reference keyword method => exact superMethod_built reference keyword method

/-! ### Statements -/

theorem pass (built : evaluator.Built) (condition : Expression) (body : Statement)
    (increment : Option Statement) : (evaluator.pass condition body increment).Built := by
  refine bind (built.evaluate condition) fun value => ?_
  split
  · refine bind (built.execute body) fun flow => ?_
    split
    · exact pure _
    · exact pure _
    all_goals
      split
      · exact bind (built.execute _) fun _ => pure _
      · exact pure _
  · exact pure _

theorem superclass? (built : evaluator.Built) (name : Identifier)
    (superclass : Option Expression) : (evaluator.superclass? name superclass).Built := by
  cases superclass with
  | none => exact pure _
  | some expression =>
    refine bind (built.evaluate expression) fun value => ?_
    split
    · exact pure _
    · exact fail _ _

theorem declareClass (built : evaluator.Built) (name : Identifier)
    (superclass : Option Expression) (methods : List FunctionDeclaration) :
    (evaluator.declareClass name superclass methods).Built :=
  bind (built.superclass? name superclass) fun _ => bind (define _ _) fun _ =>
    bind (methodFrame_built _) fun _ => bind (methodTable_built _ _ _) fun _ =>
      bind (allocate _) fun _ => get (fun _ => bind (ofExcept _) fun _ => changeHeap _)
        fun _ _ => rfl

theorem executeNode (built : evaluator.Built) (statement : Statement) :
    (evaluator.executeNode statement).Built := by
  cases statement with
  | expression expression => exact bind (built.evaluate expression) fun _ => pure _
  | print expression =>
    exact bind (built.evaluate expression) fun _ =>
      get (fun _ => bind (write _) fun _ => pure _) fun _ _ => rfl
  | declareVariable name initializer =>
    cases initializer with
    | none => exact bind (define _ _) fun _ => pure _
    | some initializer =>
      exact bind (built.evaluate initializer) fun _ => bind (define _ _) fun _ => pure _
  | block statements =>
    exact get (fun _ => bind (allocate _) fun frame =>
      within frame (built.executeAll statements)) fun _ _ => rfl
  | conditional condition thenBranch elseBranch =>
    refine bind (built.evaluate condition) fun value => ?_
    split
    · exact built.execute thenBranch
    · split
      · exact built.execute _
      · exact pure _
  | loop condition body increment =>
    exact repeatPass_built (built.pass condition body increment) evaluator.passes
  | control control keyword => exact pure _
  | declareFunction declaration =>
    refine bind (close_built declaration) fun id => ?_
    split
    · exact bind (define _ _) fun _ => pure _
    · exact bind (pure _) fun _ => pure _
  | giveBack keyword value =>
    cases value with
    | none => exact pure _
    | some value => exact bind (built.evaluate value) fun _ => pure _
  | declareClass name superclass methods =>
    exact bind (built.declareClass name superclass methods) fun _ => pure _

end Built

end Evaluator

/-! ### Trees and programs -/

/-- The runs of all trees are put together from the primitives: an induction on the depth. -/
theorem evaluator_built (depth : Nat) : (evaluator depth).Built := by
  induction depth with
  | zero => exact ⟨fun _ => .throw _, fun _ => .throw _⟩
  | succ depth inductionHypothesis =>
    exact ⟨inductionHypothesis.evaluateNode, inductionHypothesis.executeNode⟩

theorem interpret_built (depth : Nat) (statements : List Statement) :
    (interpret depth statements).Built := by
  induction statements with
  | nil => exact .pure _
  | cons statement others inductionHypothesis =>
    exact .bind ((evaluator_built depth).execute statement) fun _ => inductionHypothesis

end Lox
