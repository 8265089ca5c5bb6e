/-
Programs on other lines. On machines beside each other a tree does the same on the lines of each
world: one step for every node, given that the trees inside it do, and then an induction on the
depth.
-/

import Lox.Proofs.Evaluation.Operators
import Lox.Proofs.Run.Beside

namespace Lox

namespace Layout

variable {World : Type} {layout : Layout World} {part : Part} {place : Nat}

theorem Agrees.append {first second : List Reference} (agrees : layout.Agrees (first ++ second)) :
    layout.Agrees first ∧ layout.Agrees second :=
  List.forall_mem_append.mp agrees

/-! ### Variables and operators -/

section Answers

variable (present : layout.has part place)

include present

theorem getAt_answers (frames : Frames) (id : FrameId) (distance : Nat) (name : String) :
    layout.Answers (frames.getAt id distance name place) fun world =>
      frames.getAt id distance name (layout.line world part place) := by
  unfold Frames.getAt
  split
  · exact .ok
  · exact .error (.located present)

theorem get_answers (frames : Frames) (id : FrameId) (name : String) :
    layout.Answers (frames.get id name place) fun world =>
      frames.get id name (layout.line world part place) := by
  unfold Frames.get
  split
  · exact .ok
  · exact .error (.located present)

theorem holderAt_answers (frames : Frames) (id : FrameId) (distance : Nat) (name : String) :
    layout.Answers (frames.holderAt id distance name place) fun world =>
      frames.holderAt id distance name (layout.line world part place) := by
  unfold Frames.holderAt
  split
  · exact .ok
  · exact .error (.located present)

theorem holder_answers (frames : Frames) (id : FrameId) (name : String) :
    layout.Answers (frames.holder id name place) fun world =>
      frames.holder id name (layout.line world part place) := by
  unfold Frames.holder
  split
  · exact .ok
  · exact .error (.located present)

/-- What is the same on every line is so on the lines of each world. -/
theorem everyLine_answers {answers : Nat → Except RuntimeError Value}
    (every : OnEveryLine answers) :
    layout.Answers (answers place) fun world => answers (layout.line world part place) := by
  cases every with
  | ok => exact .ok
  | error problem => exact .error (.located present)

end Answers

/-! ### Nodes -/

/-- The trees inside a node do the same on other lines. -/
structure Trusts {World : Type} (layout : Layout World) (evaluator : Evaluator) : Prop where
  evaluate : ∀ {part expression}, expression.Shaped (layout.words part) →
    layout.Agrees expression.references →
    layout.Matches (evaluator.evaluate expression) fun world =>
      evaluator.evaluate (expression.relabel (layout.labels world part))
  execute : ∀ {part statement}, statement.Shaped (layout.words part) →
    layout.Agrees statement.references →
    layout.Matches (evaluator.execute statement) fun world =>
      evaluator.execute (statement.relabel (layout.labels world part))

open Matches Evaluator

theorem lookUp_matches {reference : Reference} {name : Identifier}
    (present : layout.has part name.line) (agrees : layout.Agrees [reference]) :
    layout.Matches (lookUp reference name) fun world =>
      lookUp reference (name.reline (layout.line world part)) := by
  refine get_bind fun {machine beside} alike => ?_
  simp only [alike.distance agrees List.mem_cons_self, alike.frames, alike.current]
  split
  · exact ofExcept (getAt_answers present _ _ _ _)
  · exact ofExcept (get_answers present _ _ _)

theorem assign_matches {reference : Reference} {name : Identifier} (value : Value)
    (present : layout.has part name.line) (agrees : layout.Agrees [reference]) :
    layout.Matches (assign reference name value) fun world =>
      assign reference (name.reline (layout.line world part)) value := by
  have holders : layout.Matches (holder reference name) fun world =>
      holder reference (name.reline (layout.line world part)) := by
    refine get_bind fun {machine beside} alike => ?_
    simp only [alike.distance agrees List.mem_cons_self, alike.frames, alike.current]
    split
    · exact ofExcept (holderAt_answers present _ _ _ _)
    · exact ofExcept (holder_answers present _ _ _)
  exact bind holders fun frame => changeHeap (fun _ _ => rfl) fun _ => rfl

theorem close_matches {declaration : FunctionDeclaration}
    (shaped : declaration.Shaped (layout.words part))
    (agrees : layout.Agrees declaration.references) :
    layout.Matches (close declaration) fun world =>
      close (declaration.relabel (layout.labels world part)) := by
  refine get_bind fun {machine beside} alike => ?_
  simp only [alike.current]
  exact addFunction ⟨shaped, agrees, nofun⟩

theorem bound_matches (method : FunctionId) (receiver : InstanceId) :
    layout.Matches (bound method receiver) fun _ => bound method receiver :=
  bind (bindMethod method receiver) fun _ => pure _

theorem property_matches (object : Value) {name : Identifier}
    (present : layout.has part name.line) :
    layout.Matches (property object name) fun world =>
      property object (name.reline (layout.line world part)) := by
  cases object with
  | object id =>
    refine get_bind fun {machine beside} alike => ?_
    simp only [alike.instanceAt, alike.method?]
    unfold Identifier.reline
    dsimp only
    split
    · exact pure _
    · split
      · exact bound_matches _ id
      · exact fail _ present
  | _ => exact fail _ present

theorem superMethod_matches {reference : Reference} {keyword method : Identifier}
    (presentKeyword : layout.has part keyword.line) (presentMethod : layout.has part method.line)
    (agrees : layout.Agrees [reference]) :
    layout.Matches (superMethod reference keyword method) fun world =>
      superMethod reference (keyword.reline (layout.line world part))
        (method.reline (layout.line world part)) := by
  refine get_bind fun {machine beside} alike => ?_
  simp only [alike.distance agrees List.mem_cons_self, alike.frames, alike.current]
  split
  · exact fail _ presentKeyword
  · refine bind (ofExcept (getAt_answers presentKeyword _ _ _ _)) fun parent =>
      bind (ofExcept (getAt_answers presentKeyword _ _ _ _)) fun receiver => ?_
    split
    · simp only [alike.method?]
      unfold Identifier.reline
      dsimp only
      split
      · exact bound_matches _ _
      · exact fail _ presentMethod
    · exact fail _ presentKeyword

theorem storeAll_matches (stores : List FieldStore) :
    layout.Matches (storeAll stores) fun _ => storeAll stores := by
  induction stores with
  | nil => exact pure _
  | cons store others inductionHypothesis =>
    exact bind (changeHeap (fun _ _ => rfl) fun _ => rfl) fun _ => inductionHypothesis

theorem carryOut_matches (effect : HostEffect) (present : layout.has part place) :
    layout.Matches (carryOut effect place) fun world =>
      carryOut effect (layout.line world part place) := by
  refine bind (storeAll_matches _) fun _ => ?_
  split
  · exact pure _
  · exact fail _ present

theorem callNative_matches (id : NativeId) (arguments : List Value)
    (present : layout.has part place) :
    layout.Matches (callNative id arguments place) fun world =>
      callNative id arguments (layout.line world part place) := by
  refine get_bind fun {machine beside} alike => ?_
  simp only [alike.native, alike.view, alike.clock]
  split
  · exact bind tick fun _ => pure _
  · exact carryOut_matches _ present

theorem methodFrame_matches (parent : Option ClassId) :
    layout.Matches (methodFrame parent) fun _ => methodFrame parent := by
  cases parent with
  | none =>
    refine get_bind fun {machine beside} alike => ?_
    simp only [alike.current]
    exact pure _
  | some parent =>
    refine get_bind fun {machine beside} alike => ?_
    simp only [alike.current]
    exact bind (addFrame _) fun frame => bind (changeHeap (fun _ _ => rfl) fun _ => rfl) fun _ =>
      pure _

theorem methodTable_matches (frame : FrameId) {methods : List FunctionDeclaration}
    (table : Bindings FunctionId)
    (shaped : FunctionDeclaration.AllShaped (layout.words part) methods)
    (agrees : layout.Agrees (FunctionDeclaration.allReferences methods)) :
    layout.Matches (methodTable frame methods table) fun world =>
      methodTable frame (FunctionDeclaration.relabelAll (layout.labels world part) methods)
        table := by
  induction methods generalizing table with
  | nil => exact pure table
  | cons method others inductionHypothesis =>
    obtain ⟨isNamed, shapedMethod, shapedOthers⟩ := shaped
    have ⟨agreesMethod, agreesOthers⟩ := agrees.append
    show layout.Matches (methodTable frame (method :: others) table) fun world =>
      methodTable frame (method.relabel (layout.labels world part) ::
        FunctionDeclaration.relabelAll (layout.labels world part) others) table
    unfold methodTable
    simp only [FunctionDeclaration.name_relabel, FunctionDeclaration.isInitializer_relabel]
    cases name : method.name with
    | none => exact inductionHypothesis table shapedOthers agreesOthers
    | some name =>
      refine bind ?_ fun place => inductionHypothesis _ shapedOthers agreesOthers
      exact addFunction ⟨shapedMethod, agreesMethod, fun _ => isNamed⟩

theorem repeatPass_matches {pass : Run (Option Flow)} {others : World → Run (Option Flow)}
    (inside : layout.Matches pass others) (passes : Nat) :
    layout.Matches (repeatPass pass passes) fun world => repeatPass (others world) passes := by
  induction passes with
  | zero => exact throw .exhausted
  | succ passes inductionHypothesis =>
    refine bind inside fun ended => ?_
    cases ended with
    | some flow => exact pure flow
    | none => exact inductionHypothesis

namespace Trusts

variable {evaluator : Evaluator}

theorem executeAll (trusts : layout.Trusts evaluator) {statements : List Statement}
    (shaped : Statement.AllShaped (layout.words part) statements)
    (agrees : layout.Agrees (Statement.allReferences statements)) :
    layout.Matches (evaluator.executeAll statements) fun world =>
      evaluator.executeAll (Statement.relabelAll (layout.labels world part) statements) := by
  induction statements with
  | nil => exact pure _
  | cons statement others inductionHypothesis =>
    have ⟨agreesStatement, agreesOthers⟩ := agrees.append
    refine bind (trusts.execute shaped.1 agreesStatement) fun flow => ?_
    cases flow with
    | completed => exact inductionHypothesis shaped.2 agreesOthers
    | _ => exact pure _

theorem evaluateAll (trusts : layout.Trusts evaluator) {expressions : List Expression}
    (shaped : Expression.AllShaped (layout.words part) expressions)
    (agrees : layout.Agrees (Expression.allReferences expressions)) :
    layout.Matches (evaluator.evaluateAll expressions) fun world =>
      evaluator.evaluateAll (Expression.relabelAll (layout.labels world part) expressions) := by
  induction expressions with
  | nil => exact pure _
  | cons expression others inductionHypothesis =>
    have ⟨agreesExpression, agreesOthers⟩ := agrees.append
    exact bind (trusts.evaluate shaped.1 agreesExpression) fun _ =>
      bind (inductionHypothesis shaped.2 agreesOthers) fun _ => pure _

/-! ### Calls -/

/-- A function runs its own text, which stands on the lines of its machine. -/
theorem invoke (trusts : layout.Trusts evaluator) (place : FunctionId) (arguments : List Value) :
    layout.Matches (evaluator.invoke place arguments) fun _ =>
      evaluator.invoke place arguments := by
  refine get_bind fun {machine beside} alike => ?_
  obtain ⟨part, tells, isOther, _⟩ := alike.function place
  simp only [isOther]
  generalize machine.heap.function place = object at tells ⊢
  obtain ⟨⟨name, parameters, body⟩, closure, isInitializer⟩ := object
  have names (line : Nat → Nat) : (parameters.map (·.reline line)).map Identifier.name =
      parameters.map Identifier.name := List.map_map
  obtain ⟨⟨presentName, _, _, shapedBody⟩, agrees, named⟩ := tells
  dsimp only [FunctionObject.reline, FunctionDeclaration.relabel, FunctionDeclaration.parameters,
    FunctionDeclaration.body, FunctionDeclaration.name, labels, Relabelling.lines]
  simp only [names]
  refine bind (addFrame closure) fun frame => bind (defineAll frame _) fun _ =>
    bind (within frame (trusts.executeAll shapedBody agrees)) fun flow => ?_
  cases isInitializer with
  | true =>
    obtain ⟨name, rfl⟩ := Option.isSome_iff_exists.mp (named rfl)
    simp only [↓reduceIte]
    refine get_bind fun alike => ?_
    simp only [alike.frames]
    exact ofExcept (getAt_answers (presentName name rfl) _ _ _ _)
  | false =>
    simp only [Bool.false_eq_true, ↓reduceIte]
    split <;> exact pure _

theorem construct (trusts : layout.Trusts evaluator) (id : ClassId) (arguments : List Value) :
    layout.Matches (evaluator.construct id arguments) fun _ =>
      evaluator.construct id arguments := by
  refine bind (addInstance id) fun receiver => get_bind fun {machine beside} alike => ?_
  simp only [alike.method?]
  split
  · exact bind (bindMethod _ receiver) fun method => bind (trusts.invoke method arguments) fun _ =>
      pure _
  · exact pure _

theorem perform (trusts : layout.Trusts evaluator) (callable : Callable) (arguments : List Value)
    (present : layout.has part place) :
    layout.Matches (evaluator.perform callable arguments place) fun world =>
      evaluator.perform callable arguments (layout.line world part place) := by
  cases callable with
  | native id => exact callNative_matches id arguments present
  | function id => exact trusts.invoke id arguments
  | method id => exact trusts.invoke id arguments
  | constructor id => exact trusts.construct id arguments

theorem call (trusts : layout.Trusts evaluator) (callee : Value) (arguments : List Value)
    (present : layout.has part place) :
    layout.Matches (evaluator.call callee arguments place) fun world =>
      evaluator.call callee arguments (layout.line world part place) := by
  cases callee with
  | callable callable =>
    refine get_bind fun {machine beside} alike => ?_
    simp only [alike.arity, alike.callDepth]
    split
    · exact fail _ present
    · split
      · exact fail _ present
      · exact inCall (trusts.perform callable arguments present)
  | _ => exact fail _ present

/-! ### Expressions -/

theorem evaluateNode (trusts : layout.Trusts evaluator) {expression : Expression}
    (shaped : expression.Shaped (layout.words part))
    (agrees : layout.Agrees expression.references) :
    layout.Matches (evaluator.evaluateNode expression) fun world =>
      evaluator.evaluateNode (expression.relabel (layout.labels world part)) := by
  cases expression with
  | literal literal => exact pure _
  | grouping inner => exact trusts.evaluate shaped agrees
  | unary operator place operand =>
    exact bind (trusts.evaluate shaped.2 agrees) fun _ =>
      ofExcept (everyLine_answers shaped.1 (operator.onEveryLine _))
  | binary operator place left right =>
    have ⟨agreesLeft, agreesRight⟩ := agrees.append
    exact bind (trusts.evaluate shaped.2.1 agreesLeft) fun _ =>
      bind (trusts.evaluate shaped.2.2 agreesRight) fun _ =>
        ofExcept (everyLine_answers shaped.1 (operator.onEveryLine _ _))
  | logical operator left right =>
    have ⟨agreesLeft, agreesRight⟩ := agrees.append
    refine bind (trusts.evaluate shaped.1 agreesLeft) fun value => ?_
    split
    · exact pure value
    · exact trusts.evaluate shaped.2 agreesRight
  | read reference name => exact lookUp_matches shaped agrees
  | assign reference name value =>
    have ⟨agreesValue, agreesName⟩ := agrees.append
    exact bind (trusts.evaluate shaped.2 agreesValue) fun value =>
      bind (assign_matches value shaped.1 agreesName) fun _ => pure _
  | call callee place arguments =>
    obtain ⟨present, shapedCallee, _, shapedArguments⟩ := shaped
    have ⟨agreesCallee, agreesArguments⟩ := agrees.append
    exact bind (trusts.evaluate shapedCallee agreesCallee) fun callee =>
      bind (trusts.evaluateAll shapedArguments agreesArguments) fun values =>
        trusts.call callee values present
  | function declaration => exact bind (close_matches shaped.2 agrees) fun _ => pure _
  | get object name =>
    exact bind (trusts.evaluate shaped.2 agrees) fun object => property_matches object shaped.1
  | set object name value =>
    obtain ⟨present, shapedObject, shapedValue⟩ := shaped
    have ⟨agreesObject, agreesValue⟩ := agrees.append
    refine bind (trusts.evaluate shapedObject agreesObject) fun object => ?_
    cases object with
    | object id =>
      exact bind (trusts.evaluate shapedValue agreesValue) fun value =>
        bind (changeHeap (fun _ _ => rfl) fun _ => rfl) fun _ => pure _
    | _ => exact fail _ present
  | this reference keyword => exact lookUp_matches shaped agrees
  | super reference keyword method => exact superMethod_matches shaped.1 shaped.2 agrees

/-! ### Statements -/

theorem pass (trusts : layout.Trusts evaluator) {condition : Expression} {body : Statement}
    {increment : Option Statement}
    (shaped : (Statement.loop condition body increment).Shaped (layout.words part))
    (agrees : layout.Agrees (Statement.loop condition body increment).references) :
    layout.Matches (evaluator.pass condition body increment) fun world =>
      evaluator.pass (condition.relabel (layout.labels world part))
        (body.relabel (layout.labels world part))
        (increment.map (·.relabel (layout.labels world part))) := by
  cases increment with
  | none =>
    refine bind (trusts.evaluate shaped.1 agrees.append.1) fun value => ?_
    split
    · refine bind (trusts.execute shaped.2.2 agrees.append.2) fun flow => ?_
      cases flow <;> exact pure _
    · exact pure _
  | some increment =>
    obtain ⟨shapedCondition, _, shapedBody, _, shapedIncrement⟩ := shaped
    have ⟨agreesCondition, agreesOthers⟩ := agrees.append
    have ⟨agreesBody, agreesIncrement⟩ := agreesOthers.append
    have goesOn : layout.Matches
        (evaluator.execute increment >>= fun _ => (return none : Run (Option Flow))) fun world =>
        evaluator.execute (increment.relabel (layout.labels world part)) >>= fun _ => return none :=
      bind (trusts.execute shapedIncrement agreesIncrement) fun _ => pure _
    refine bind (trusts.evaluate shapedCondition agreesCondition) fun value => ?_
    split
    · refine bind (trusts.execute shapedBody agreesBody) fun flow => ?_
      cases flow with
      | broke | returned => exact pure _
      | completed | continued => exact goesOn
    · exact pure _

theorem superclass? (trusts : layout.Trusts evaluator) {name : Identifier}
    {superclass : Option Expression} {methods : List FunctionDeclaration}
    (shaped : (Statement.declareClass name superclass methods).Shaped (layout.words part))
    (agrees : layout.Agrees (Statement.declareClass name superclass methods).references) :
    layout.Matches (evaluator.superclass? name superclass) fun world =>
      evaluator.superclass? (name.reline (layout.line world part))
        (superclass.map (·.relabel (layout.labels world part))) := by
  cases superclass with
  | none => exact pure _
  | some parent =>
    obtain ⟨_, isRead, shapedParent, _⟩ := shaped
    refine bind (trusts.evaluate shapedParent agrees.append.1) fun value => ?_
    cases parent with
    | read reference parent =>
      split
      · exact pure _
      · exact fail _ shapedParent
    | _ => exact isRead.elim

theorem declareClass (trusts : layout.Trusts evaluator) {name : Identifier}
    {superclass : Option Expression} {methods : List FunctionDeclaration}
    (shaped : (Statement.declareClass name superclass methods).Shaped (layout.words part))
    (agrees : layout.Agrees (Statement.declareClass name superclass methods).references) :
    layout.Matches (evaluator.declareClass name superclass methods) fun world =>
      evaluator.declareClass (name.reline (layout.line world part))
        (superclass.map (·.relabel (layout.labels world part)))
        (FunctionDeclaration.relabelAll (layout.labels world part) methods) := by
  have present : layout.has part name.line := by cases superclass <;> exact shaped.1
  have inside : FunctionDeclaration.AllShaped (layout.words part) methods ∧
      layout.Agrees (FunctionDeclaration.allReferences methods) := by
    cases superclass with
    | none => exact ⟨shaped.2, agrees⟩
    | some parent => exact ⟨shaped.2.2.2, agrees.append.2⟩
  refine bind (trusts.superclass? shaped agrees) fun parent => bind (define _ _) fun _ =>
    bind (methodFrame_matches parent) fun frame =>
      bind (methodTable_matches frame .empty inside.1 inside.2) fun table =>
        bind (addClass _) fun place => get_bind fun {machine beside} alike => ?_
  simp only [alike.frames, alike.current]
  exact bind (ofExcept (holder_answers present _ _ _)) fun _ =>
    changeHeap (fun _ _ => rfl) fun _ => rfl

theorem conditional (trusts : layout.Trusts evaluator) {condition : Expression}
    {thenBranch : Statement} {elseBranch : Option Statement}
    (shaped : (Statement.conditional condition thenBranch elseBranch).Shaped (layout.words part))
    (agrees : layout.Agrees (Statement.conditional condition thenBranch elseBranch).references) :
    layout.Matches (evaluator.executeNode (.conditional condition thenBranch elseBranch))
      fun world => evaluator.executeNode
        ((Statement.conditional condition thenBranch elseBranch).relabel
          (layout.labels world part)) := by
  cases elseBranch with
  | none =>
    refine bind (trusts.evaluate shaped.1 agrees.append.1) fun value => ?_
    split
    · exact trusts.execute shaped.2.2 agrees.append.2
    · exact pure _
  | some elseBranch =>
    refine bind (trusts.evaluate shaped.1 agrees.append.1) fun value => ?_
    split
    · exact trusts.execute shaped.2.2.1 agrees.append.2.append.1
    · exact trusts.execute shaped.2.2.2.2 agrees.append.2.append.2

theorem executeNode (trusts : layout.Trusts evaluator) {statement : Statement}
    (shaped : statement.Shaped (layout.words part))
    (agrees : layout.Agrees statement.references) :
    layout.Matches (evaluator.executeNode statement) fun world =>
      evaluator.executeNode (statement.relabel (layout.labels world part)) := by
  cases statement with
  | expression expression => exact bind (trusts.evaluate shaped agrees) fun _ => pure _
  | print expression =>
    refine bind (trusts.evaluate shaped agrees) fun value =>
      get_bind fun {machine beside} alike => ?_
    simp only [alike.text]
    exact bind (write _) fun _ => pure _
  | declareVariable name initializer =>
    cases initializer with
    | none => exact bind (define _ _) fun _ => pure _
    | some initializer =>
      exact bind (trusts.evaluate shaped.2 agrees) fun _ => bind (define _ _) fun _ => pure _
  | block statements =>
    refine get_bind fun {machine beside} alike => ?_
    simp only [alike.current]
    exact bind (addFrame _) fun frame => within frame (trusts.executeAll shaped agrees)
  | conditional condition thenBranch elseBranch => exact trusts.conditional shaped agrees
  | loop condition body increment =>
    have passes := repeatPass_matches (trusts.pass shaped agrees) evaluator.passes
    cases increment <;> exact passes
  | control control keyword => exact pure _
  | declareFunction declaration =>
    refine bind (close_matches shaped.2 agrees) fun place => ?_
    simp only [FunctionDeclaration.name_relabel]
    cases declaration.name with
    | none => exact bind (pure _) fun _ => pure _
    | some name => exact bind (define _ _) fun _ => pure _
  | giveBack keyword value =>
    cases value with
    | none => exact pure _
    | some value => exact bind (trusts.evaluate shaped.2 agrees) fun _ => pure _
  | declareClass name superclass methods =>
    have declares := trusts.declareClass shaped agrees
    cases superclass <;> exact bind declares fun _ => pure _

end Trusts

/-! ### Trees and programs -/

/-- Within any depth a tree does the same on other lines: an induction on the depth. -/
theorem evaluator_trusts {World : Type} (layout : Layout World) (depth : Nat) :
    layout.Trusts (evaluator depth) := by
  induction depth with
  | zero => exact ⟨fun _ _ => throw .exhausted, fun _ _ => throw .exhausted⟩
  | succ depth inductionHypothesis =>
    exact ⟨fun shaped agrees => inductionHypothesis.evaluateNode shaped agrees,
      fun shaped agrees => inductionHypothesis.executeNode shaped agrees⟩

theorem interpret_matches {World : Type} (layout : Layout World) (depth : Nat)
    {statements : List Statement}
    (shaped : Statement.AllShaped (layout.words part) statements)
    (agrees : layout.Agrees (Statement.allReferences statements)) :
    layout.Matches (interpret depth statements) fun world =>
      interpret depth (Statement.relabelAll (layout.labels world part) statements) := by
  induction statements with
  | nil => exact pure _
  | cons statement others inductionHypothesis =>
    have ⟨agreesStatement, agreesOthers⟩ := agrees.append
    exact bind ((layout.evaluator_trusts depth).execute shaped.1 agreesStatement) fun _ =>
      inductionHypothesis shaped.2 agreesOthers

end Layout

/-- Programs one behind the other are interpreted one after the other. -/
theorem interpret_append (depth : Nat) (first second : List Statement) :
    interpret depth (first ++ second) =
      (do interpret depth first; interpret depth second) := by
  induction first with
  | nil => rfl
  | cons statement others inductionHypothesis =>
    show (execute depth statement >>= fun _ => interpret depth (others ++ second)) =
      ((execute depth statement >>= fun _ => interpret depth others) >>= fun _ =>
        interpret depth second)
    rw [inductionHypothesis, bind_assoc]

end Lox
