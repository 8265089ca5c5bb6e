/-
A trace accounts for its run: the moments that are written down lead from the machine on which a
tree is run to whatever the run leaves. This holds of the run of every tree from a standing machine
on, whatever its end, and so of whole histories, in which trees are run one after another.
-/

import Lox.Proofs.Run.Traced

namespace Lox

variable {α : Type} {machine before after : Machine} {moments early : List Moment}

/-! ### New instances -/

namespace Evaluator

variable {evaluator : Evaluator} {id : ClassId} {arguments : List Value}

/-- An instance of a class without initializer is made, and nothing else. -/
theorem construct_plain
    (absent : (machine.addInstance id).heap.method? id initializerName = none) :
    evaluator.construct id arguments machine =
      .ok (.object machine.heap.instances.size) (machine.addInstance id) := by
  have made : Run.allocate (fun heap => heap.addInstance id) machine =
      .ok machine.heap.instances.size (machine.addInstance id) := rfl
  unfold construct
  rw [bind_ok made, Run.get_bind, absent]
  rfl

/-- The initializer of an instance is bound to it and invoked. -/
theorem construct_initialized {initializer : FunctionId}
    (found : (machine.addInstance id).heap.method? id initializerName = some initializer) :
    evaluator.construct id arguments machine =
      (evaluator.invoke machine.heap.functions.size arguments >>= fun _ =>
        Pure.pure (.object machine.heap.instances.size))
        ((machine.addInstance id).bindMethod initializer machine.heap.instances.size) := by
  have made : Run.allocate (fun heap => heap.addInstance id) machine =
      .ok machine.heap.instances.size (machine.addInstance id) := rfl
  unfold construct
  rw [bind_ok made, Run.get_bind, found]
  rfl

end Evaluator

/-! ### Native functions -/

section Natives

open Run

variable {arguments : List Value}

/-- Each field of an instance that is there is written down when it is set. -/
theorem storeAll_traced {stores : List FieldStore}
    (receivers : ∀ store ∈ stores, store.receiver < machine.heap.instances.size)
    (areThere : ∀ store ∈ stores, store.value.Stands .everything machine.heap) :
    (Evaluator.storeAll stores).Traced machine (Tracer.storeAll stores machine) := by
  induction stores generalizing machine with
  | nil => exact (Quiet.pure _).traced
  | cons store others inductionHypothesis =>
    intro stands
    have chain : machine.Chain .everything
        (machine.setField store.receiver store.name store.value) :=
      .ofHeap (.single (.setField (areThere store List.mem_cons_self)))
    refine .note ⟨receivers store List.mem_cons_self, rfl⟩ (chain.stands stands) ?_
    refine inductionHypothesis (fun other member => ?_) (fun other member => ?_)
      (chain.stands stands)
    · exact Nat.lt_of_lt_of_le (receivers other (List.mem_cons_of_mem store member))
        chain.extends.instances_size
    · exact (areThere other (List.mem_cons_of_mem store member)).later chain.extends

theorem carryOut_traced {effect : HostEffect} (line : Nat)
    (areThere : ∀ value ∈ arguments, value.Stands .everything machine.heap)
    (handsOn : effect.HandsOn machine.heap.view arguments) :
    (Evaluator.carryOut effect line).Traced machine
      (Tracer.storeAll effect.stores machine) := by
  intro stands
  have stored : (Evaluator.storeAll effect.stores).Traced machine _ :=
    storeAll_traced
      (fun store member => stands.heap.reaches areThere (handsOn.receivers store member))
      fun store member => stands.heap.reaches areThere (handsOn.values store member)
  refine stored.bind_quiet (fun _ => ?_) stands
  split
  · exact .pure _
  · exact .fail _ _

theorem callNative_traced (id : NativeId) (line : Nat)
    (areThere : ∀ value ∈ arguments, value.Stands .everything machine.heap) :
    (Evaluator.callNative id arguments line).Traced machine
      (Tracer.callNative id arguments machine) := by
  refine Traced.get_bind ?_
  unfold Tracer.callNative
  generalize (machine.heap.native id).body = body
  cases body with
  | clock => exact (Quiet.bind .tick fun _ => .pure _).traced
  | host function => exact carryOut_traced line areThere (function.handsOn _ _)

end Natives

/-! ### Nodes -/

/-- The traces of the trees inside a node account for their runs. -/
structure Tracer.Accounts (tracer : Tracer) : Prop where
  built : tracer.evaluator.Built
  proceeds : tracer.evaluator.Proceeds .everything
  evaluate : ∀ expression machine,
    (tracer.evaluator.evaluate expression).Traced machine (tracer.evaluate expression machine)
  execute : ∀ statement machine,
    (tracer.evaluator.execute statement).Traced machine (tracer.execute statement machine)

namespace Tracer.Accounts

open Run Run.Traced

variable {tracer : Tracer}

theorem executeAll (accounts : tracer.Accounts) (statements : List Statement)
    (machine : Machine) : (tracer.evaluator.executeAll statements).Traced machine
      (tracer.executeAll statements machine) := by
  induction statements generalizing machine with
  | nil => exact (Quiet.pure _).traced
  | cons statement others inductionHypothesis =>
    refine (accounts.execute statement machine).bind (accounts.proceeds.execute trivial)
      fun flow after _ _ => ?_
    cases flow with
    | completed => exact inductionHypothesis after
    | _ => exact (Quiet.pure _).traced

theorem evaluateAll (accounts : tracer.Accounts) (expressions : List Expression)
    (machine : Machine) : (tracer.evaluator.evaluateAll expressions).Traced machine
      (tracer.evaluateAll expressions machine) := by
  induction expressions generalizing machine with
  | nil => exact (Quiet.pure _).traced
  | cons expression others inductionHypothesis =>
    exact (accounts.evaluate expression machine).bind (accounts.proceeds.evaluate trivial)
      fun _ after _ _ => (inductionHypothesis after).bind_quiet fun _ => .pure _

/-! ### Calls -/

theorem invoke (accounts : tracer.Accounts) {id : FunctionId} {arguments : List Value}
    (stands : machine.Stands .everything) (present : id < machine.heap.functions.size)
    (areThere : ∀ value ∈ arguments, value.Stands .everything machine.heap) :
    (tracer.evaluator.invoke id arguments).Traced machine
      (tracer.invoke id arguments machine) := by
  let object := machine.heap.function id
  let entries := (object.declaration.parameters.map Identifier.name).zip arguments
  let opened := machine.withHeap (machine.heap.openFrame object.closure entries)
  have room : machine.heap.frames.size < opened.heap.frames.size :=
    Nat.lt_of_lt_of_eq (Nat.lt_succ_self _) (Heap.openFrame_size _ _ _).symm
  have body : (Run.within machine.heap.frames.size
      (tracer.evaluator.executeAll object.declaration.body) >>= Watch.givenBack object).Traced
      opened (tracer.invoke id arguments machine) :=
    (within room (accounts.executeAll _ _)).bind_quiet (Evaluator.givenBack_quiet object)
  exact begin opened _ rfl (.of_instances rfl (Heap.openFrame_instances _ _ _))
    (.ofHeap (Heap.openCall_chain stands.heap present areThere)) body

theorem construct (accounts : tracer.Accounts) {id : ClassId} {arguments : List Value}
    (stands : machine.Stands .everything) (present : id < machine.heap.classes.size)
    (areThere : ∀ value ∈ arguments, value.Stands .everything machine.heap) :
    (tracer.evaluator.construct id arguments).Traced machine
      (tracer.construct id arguments machine) := by
  let receiver := machine.heap.instances.size
  let made := machine.addInstance id
  have added : machine.Chain .everything made := .addInstance present
  have silent : machine.Silent made := machine.silent_addInstance id
  unfold Tracer.construct
  dsimp only
  split
  · rename_i initializer found
    have isMethod := (added.stands stands).heap.isMethod found
    have isThere : receiver < made.heap.instances.size :=
      Nat.lt_of_lt_of_eq (Nat.lt_succ_self _) (Array.size_push _).symm
    let bound := made.bindMethod initializer receiver
    have toBound : made.Chain .everything bound :=
      .bindMethod (added.stands stands) isMethod isThere
    have isStanding := Heap.bindMethod_stands (added.stands stands).heap isMethod isThere
    have invoked := accounts.invoke ((added.trans toBound).stands stands) isStanding.1.lt_size
      fun value member => (areThere value member).later (added.trans toBound).extends
    exact begin bound _ (Evaluator.construct_initialized found)
      (silent.trans (.of_instances rfl rfl)) (added.trans toBound)
      (invoked.bind_quiet fun _ => .pure _)
  · rename_i absent
    exact begin made (pure (.object receiver)) (Evaluator.construct_plain absent) silent added
      (Quiet.pure _).traced

theorem perform (accounts : tracer.Accounts) {callable : Callable} {arguments : List Value}
    (line : Nat) (stands : machine.Stands .everything)
    (isThere : (Value.callable callable).Stands .everything machine.heap)
    (areThere : ∀ value ∈ arguments, value.Stands .everything machine.heap) :
    (tracer.evaluator.perform callable arguments line).Traced machine
      (tracer.perform callable arguments machine) := by
  cases callable with
  | native id => exact callNative_traced id line areThere
  | function id =>
    obtain ⟨_, found, _⟩ := isThere
    exact accounts.invoke stands (Array.getElem?_eq_some_iff.mp found).1 areThere
  | method id => exact accounts.invoke stands isThere.1.lt_size areThere
  | constructor id => exact accounts.construct stands isThere areThere

/-- A call is counted while its callable runs, and no longer when that is over. -/
theorem counted (accounts : tracer.Accounts) {callable : Callable} {arguments : List Value}
    (line : Nat) (isThere : (Value.callable callable).Stands .everything machine.heap)
    (areThere : ∀ value ∈ arguments, value.Stands .everything machine.heap)
    (fits : arguments.length = machine.heap.arity callable)
    (free : machine.callDepth < maximalCallDepth) :
    (Run.inCall (tracer.evaluator.perform callable arguments line)).Traced machine
      (.begun callable arguments machine.countCall ::
        tracer.perform callable arguments machine.countCall ++
          [.finished ((Run.inCall (tracer.evaluator.perform callable arguments line)).left
            machine)]) := by
  intro stands
  let run := tracer.evaluator.perform callable arguments line
  have counted : machine.countCall.Stands .everything := ⟨stands.heap, stands.current⟩
  have inside := accounts.perform line counted isThere areThere counted
  have depth : (run.left machine.countCall).callDepth = machine.callDepth + 1 :=
    (accounts.built.perform callable arguments line).restores.callDepth machine.countCall
  have performs : run.Proceeds .everything machine.countCall _ :=
    accounts.proceeds.perform line isThere areThere
  have standsInside := (performs.chain counted).stands counted
  have finished : (run.left machine.countCall).Goes
      [.finished ((Run.inCall run).left machine)] ((Run.inCall run).left machine) := by
    rw [left_inCall]
    refine .note ⟨?_, rfl⟩ ⟨standsInside.heap, standsInside.current⟩ (.refl _)
    exact depth ▸ Nat.succ_pos _
  exact .note ⟨rfl, fits, free⟩ counted (inside.trans finished)

theorem call (accounts : tracer.Accounts) {callee : Value} {arguments : List Value} (line : Nat)
    (isThere : callee.Stands .everything machine.heap)
    (areThere : ∀ value ∈ arguments, value.Stands .everything machine.heap) :
    (tracer.evaluator.call callee arguments line).Traced machine
      (tracer.call callee arguments line machine) := by
  cases callee with
  | callable callable =>
    have fails (problem : RuntimeProblem) (same : tracer.evaluator.call (.callable callable)
        arguments line machine = Run.fail problem line machine) :
        (tracer.evaluator.call (.callable callable) arguments line).Traced machine [] :=
      begin machine (Run.fail problem line) same (.refl _) (.refl _) (Quiet.fail _ _).traced
    unfold Tracer.call
    dsimp only
    split
    · rename_i differs
      exact fails _ ((bind_ok rfl).trans (by rw [if_pos differs]))
    · rename_i fits
      split
      · rename_i full
        exact fails _ ((bind_ok rfl).trans (by rw [if_neg fits, if_pos full]))
      · rename_i free
        refine begin machine (Run.inCall (tracer.evaluator.perform callable arguments line))
          ((bind_ok rfl).trans (by rw [if_neg fits, if_neg free])) (.refl _) (.refl _) ?_
        exact accounts.counted line isThere areThere (Decidable.not_not.mp fits)
          (Nat.not_le.mp free)
  | _ => exact (Quiet.fail _ _).traced

/-! ### Expressions -/

theorem evaluateNode (accounts : tracer.Accounts) (expression : Expression)
    (machine : Machine) : (tracer.evaluator.evaluateNode expression).Traced machine
      (tracer.evaluateNode expression machine) := by
  have proceeds {expression : Expression} {machine : Machine} :
      (tracer.evaluator.evaluate expression).Proceeds .everything machine
        fun value heap => value.Stands .everything heap :=
    accounts.proceeds.evaluate trivial
  cases expression with
  | literal literal => exact (Quiet.pure _).traced
  | grouping inner => exact accounts.evaluate inner machine
  | unary operator line operand =>
    exact (accounts.evaluate operand machine).bind_quiet fun _ => .ofExcept _
  | binary operator line left right =>
    exact (accounts.evaluate left machine).bind proceeds fun _ after _ _ =>
      (accounts.evaluate right after).bind_quiet fun _ => .ofExcept _
  | logical operator left right =>
    refine (accounts.evaluate left machine).bind proceeds fun value after _ _ => ?_
    split
    · exact (Quiet.pure _).traced
    · exact accounts.evaluate right after
  | read reference name => exact (Evaluator.lookUp_quiet reference name).traced
  | assign reference name value =>
    exact (accounts.evaluate value machine).bind_quiet fun _ =>
      .bind (Evaluator.assign_quiet _ _ _) fun _ => .pure _
  | call callee line arguments =>
    refine (accounts.evaluate callee machine).bind proceeds fun value middle _ isThere => ?_
    refine (accounts.evaluateAll arguments middle).bind
      (accounts.proceeds.evaluateAll arguments fun _ _ => trivial)
      fun values after chain areThere => ?_
    exact accounts.call line (isThere.later chain.extends) areThere
  | function declaration =>
    exact (Quiet.bind (Evaluator.close_quiet declaration) fun _ => .pure _).traced
  | get object name =>
    exact (accounts.evaluate object machine).bind_quiet fun object =>
      Evaluator.property_quiet object name
  | set object name value =>
    refine (accounts.evaluate object machine).bind proceeds fun object middle _ isThere => ?_
    cases object with
    | object id =>
      refine (accounts.evaluate value middle).bind proceeds fun value after chain isValue => ?_
      refine fun stands => .note ⟨isThere.later chain.extends, rfl⟩ ?_ (.refl _)
      have stored : after.Chain .everything (after.setField id name.name value) :=
        .ofHeap (.single (.setField isValue))
      exact stored.stands stands
    | _ => exact (Quiet.fail _ _).traced
  | this reference keyword => exact (Evaluator.lookUp_quiet reference keyword).traced
  | super reference keyword method =>
    exact (Evaluator.superMethod_quiet reference keyword method).traced

/-! ### Statements -/

theorem pass (accounts : tracer.Accounts) (condition : Expression) (body : Statement)
    (increment : Option Statement) (machine : Machine) :
    (tracer.evaluator.pass condition body increment).Traced machine
      (tracer.pass condition body increment machine) := by
  refine (accounts.evaluate condition machine).bind (accounts.proceeds.evaluate trivial)
    fun value middle _ _ => ?_
  split
  · refine (accounts.execute body middle).bind (accounts.proceeds.execute trivial)
      fun flow after _ _ => ?_
    cases flow with
    | broke | returned value => exact (Quiet.pure _).traced
    | completed | continued =>
      cases increment with
      | none => exact (Quiet.pure _).traced
      | some increment => exact (accounts.execute increment after).bind_quiet fun _ => .pure _
  · exact (Quiet.pure _).traced

/-- A pass whose trace accounts for it may be repeated. -/
theorem repeatPass {pass : Run (Option Flow)} {trace : Machine → List Moment}
    {result : Option Flow → Heap → Prop}
    (traced : ∀ machine, pass.Traced machine (trace machine))
    (proceeds : ∀ machine, pass.Proceeds .everything machine result) (passes : Nat)
    (machine : Machine) : (Evaluator.repeatPass pass passes).Traced machine
      (Tracer.repeatPass pass trace passes machine) := by
  induction passes generalizing machine with
  | zero => exact (Quiet.throw _).traced
  | succ passes inductionHypothesis =>
    refine (traced machine).bind (proceeds machine) fun ended after _ _ => ?_
    cases ended with
    | some flow => exact (Quiet.pure _).traced
    | none => exact inductionHypothesis after

/-- Behind the superclass, a class declaration runs no trees. -/
theorem declareClass (accounts : tracer.Accounts) (name : Identifier)
    (superclass : Option Expression) (methods : List FunctionDeclaration) (machine : Machine) :
    (tracer.evaluator.declareClass name superclass methods).Traced machine
      (tracer.executeNode (.declareClass name superclass methods) machine) := by
  have rest (parent : Option ClassId) : Run.Quiet (do
      Run.define name.name .nil
      let table ← Evaluator.methodTable (← Evaluator.methodFrame parent) methods .empty
      let id ← Run.allocate fun heap => heap.addClass ⟨name.name, table, parent⟩
      let machine ← MonadState.get
      let frame ← .ofExcept (machine.heap.frames.holder machine.current name.name name.line)
      Run.changeHeap fun heap => heap.define frame name.name (.callable (.constructor id))) :=
    .bind (.define _ _) fun _ => .bind (Evaluator.methodFrame_quiet parent) fun _ =>
      .bind (Evaluator.methodTable_quiet _ _ _) fun _ => .bind (.allocate fun _ => rfl) fun _ =>
        .bind .get fun _ => .bind (.ofExcept _) fun _ => .changeHeap fun _ => rfl
  have parent : (tracer.evaluator.superclass? name superclass).Traced machine
      (tracer.executeNode (.declareClass name superclass methods) machine) := by
    cases superclass with
    | none => exact (Quiet.pure _).traced
    | some expression =>
      refine (accounts.evaluate expression machine).bind_quiet fun value => ?_
      split
      · exact .pure _
      · exact .fail _ _
  exact parent.bind_quiet rest

theorem executeNode (accounts : tracer.Accounts) (statement : Statement) (machine : Machine) :
    (tracer.evaluator.executeNode statement).Traced machine
      (tracer.executeNode statement machine) := by
  cases statement with
  | expression expression =>
    exact (accounts.evaluate expression machine).bind_quiet fun _ => .pure _
  | print expression =>
    exact (accounts.evaluate expression machine).bind_quiet fun _ =>
      .bind .get fun _ => .bind (.write _) fun _ => .pure _
  | declareVariable name initializer =>
    cases initializer with
    | none => exact (Quiet.bind (.define _ _) fun _ => .pure _).traced
    | some initializer =>
      exact (accounts.evaluate initializer machine).bind_quiet fun _ =>
        .bind (.define _ _) fun _ => .pure _
  | block statements =>
    let opened := machine.withHeap (machine.heap.addFrame machine.current).2
    have inside : (Run.within machine.heap.frames.size
        (tracer.evaluator.executeAll statements)).Traced opened
        (tracer.executeNode (.block statements) machine) :=
      within (Heap.lt_size_addFrame _ _) (accounts.executeAll statements machine.enterBlock)
    exact fun stands => begin opened _ rfl (.of_instances rfl rfl)
      (.ofHeap (.single (.addFrame stands.current))) inside stands
  | conditional condition thenBranch elseBranch =>
    refine (accounts.evaluate condition machine).bind (accounts.proceeds.evaluate trivial)
      fun value after _ _ => ?_
    split
    · exact accounts.execute thenBranch after
    · cases elseBranch with
      | some elseBranch => exact accounts.execute elseBranch after
      | none => exact (Quiet.pure _).traced
  | loop condition body increment =>
    exact repeatPass (accounts.pass condition body increment)
      (accounts.proceeds.pass trivial) tracer.evaluator.passes machine
  | control control keyword => exact (Quiet.pure _).traced
  | declareFunction declaration =>
    refine (Quiet.bind (Evaluator.close_quiet declaration) fun id => ?_).traced
    split
    · exact .bind (.define _ _) fun _ => .pure _
    · exact .bind (.pure _) fun _ => .pure _
  | giveBack keyword value =>
    cases value with
    | none => exact (Quiet.pure _).traced
    | some value => exact (accounts.evaluate value machine).bind_quiet fun _ => .pure _
  | declareClass name superclass methods =>
    exact (accounts.declareClass name superclass methods machine).bind_quiet fun _ => .pure _

end Tracer.Accounts

/-! ### Trees -/

/-- A tree that is noted when it begins and when it ends. -/
theorem Run.Traced.noted {run : Run α} {result : α → Heap → Prop} {first : Machine → Moment}
    {last : Machine → Moment} (traced : run.Traced machine moments)
    (proceeds : run.Proceeds .everything machine result)
    (begins : ∀ machine, (first machine).machine = machine ∧ (first machine).Follows machine)
    (ends : ∀ machine, (last machine).machine = machine ∧ (last machine).Follows machine) :
    run.Traced machine (first machine :: moments ++ [last (run.left machine)]) := by
  intro stands
  have ⟨isFirst, follows⟩ := begins machine
  have ⟨isLast, followsLast⟩ := ends (run.left machine)
  have left := (proceeds.chain stands).stands stands
  have end' : (run.left machine).Goes [last (run.left machine)] (run.left machine) :=
    .note followsLast (isLast.symm ▸ left) (isLast.symm ▸ .refl _)
  exact .note follows (isFirst.symm ▸ stands) (isFirst.symm ▸ (traced stands).trans end')

/-- The trace of every tree accounts for its run: an induction on the depth. -/
theorem tracer_accounts (depth : Nat) : (tracer depth).Accounts := by
  induction depth with
  | zero =>
    exact ⟨evaluator_built 0, evaluator_proceeds .everything 0,
      fun _ _ => (Run.Quiet.throw _).traced, fun _ _ => (Run.Quiet.throw _).traced⟩
  | succ depth inductionHypothesis =>
    have proceeds := evaluator_proceeds .everything (depth + 1)
    have same := tracer_evaluator depth
    refine ⟨evaluator_built (depth + 1), proceeds, fun expression machine => ?_,
      fun statement machine => ?_⟩
    · have node := inductionHypothesis.evaluateNode expression machine
      rw [same] at node
      exact node.noted (proceeds.evaluate trivial) (fun _ => ⟨rfl, rfl⟩) fun _ => ⟨rfl, rfl⟩
    · have node := inductionHypothesis.executeNode statement machine
      rw [same] at node
      exact node.noted (proceeds.execute trivial) (fun _ => ⟨rfl, rfl⟩) fun _ => ⟨rfl, rfl⟩

/-! ### Histories -/

/-- The machine is reached from one before its first program with these moments behind it: trees
have been run one after another, whichever and whatever their ends, and in between distances were
learned and native functions added. -/
inductive Machine.History : List Moment → Machine → Prop
  | start (capacity : Option Nat) (clock : Clock) : History [] (Machine.start capacity clock)
  | native {moments : List Moment} {machine : Machine} (native : NativeFunction) :
    History moments machine →
    History moments (machine.withHeap (machine.heap.defineNative native))
  | learn {moments : List Moment} {machine : Machine} (distances : Scope.Distances) :
    History moments machine → History moments (machine.learn distances)
  | evaluate {moments : List Moment} {machine : Machine} (depth : Nat) (expression : Expression) :
    History moments machine →
    History (moments ++ (tracer depth).evaluate expression machine)
      ((Lox.evaluate depth expression).left machine)
  | execute {moments : List Moment} {machine : Machine} (depth : Nat) (statement : Statement) :
    History moments machine →
    History (moments ++ (tracer depth).execute statement machine)
      ((Lox.execute depth statement).left machine)

/-- Running a tree on a machine that stands keeps what is there. -/
theorem Machine.Stands.evaluate_chain (stands : machine.Stands .everything) (depth : Nat)
    (expression : Expression) :
    machine.Chain .everything ((Lox.evaluate depth expression).left machine) :=
  have proceeds : (Lox.evaluate depth expression).Proceeds .everything machine _ :=
    (evaluator_proceeds .everything depth).evaluate trivial
  proceeds.chain stands

theorem Machine.Stands.execute_chain (stands : machine.Stands .everything) (depth : Nat)
    (statement : Statement) :
    machine.Chain .everything ((Lox.execute depth statement).left machine) :=
  have proceeds : (Lox.execute depth statement).Proceeds .everything machine _ :=
    (evaluator_proceeds .everything depth).execute trivial
  proceeds.chain stands

namespace Machine.History

theorem stands (history : Machine.History moments machine) : machine.Stands .everything := by
  induction history with
  | start capacity clock => exact start_stands capacity clock
  | native native _ stands =>
    exact (Chain.ofHeap (Heap.defineNative_chain native stands.heap.outermost)).stands stands
  | learn distances _ stands => exact (learn_chain _ distances).stands stands
  | evaluate depth expression _ stands =>
    exact (stands.evaluate_chain depth expression).stands stands
  | execute depth statement _ stands =>
    exact (stands.execute_chain depth statement).stands stands

/-- The moments of a history account for it. -/
theorem goes (history : Machine.History moments machine) :
    ∃ capacity clock, (Machine.start capacity clock).Goes moments machine := by
  induction history with
  | start capacity clock => exact ⟨capacity, clock, .refl _⟩
  | native native _ before =>
    obtain ⟨capacity, clock, goes⟩ := before
    exact ⟨capacity, clock, goes.then_silent (.of_instances rfl rfl)⟩
  | learn distances _ before =>
    obtain ⟨capacity, clock, goes⟩ := before
    exact ⟨capacity, clock, goes.then_silent (.of_instances rfl rfl)⟩
  | evaluate depth expression history before =>
    obtain ⟨capacity, clock, goes⟩ := before
    have traced := (tracer_accounts depth).evaluate expression _ history.stands
    rw [tracer_evaluator] at traced
    exact ⟨capacity, clock, goes.trans traced⟩
  | execute depth statement history before =>
    obtain ⟨capacity, clock, goes⟩ := before
    have traced := (tracer_accounts depth).execute statement _ history.stands
    rw [tracer_evaluator] at traced
    exact ⟨capacity, clock, goes.trans traced⟩

theorem ran {dialect : Dialect} (history : Machine.History early before)
    (ran : Machine.Ran dialect before after) : ∃ moments, Machine.History moments after := by
  induction ran with
  | refl => exact ⟨early, history⟩
  | native native _ inductionHypothesis =>
    obtain ⟨moments, history⟩ := inductionHypothesis
    exact ⟨moments, history.native native⟩
  | @evaluate _ expression depth _ _ inductionHypothesis =>
    obtain ⟨moments, history⟩ := inductionHypothesis
    exact ⟨_, history.evaluate depth expression⟩
  | @execute _ statement depth _ _ inductionHypothesis =>
    obtain ⟨moments, history⟩ := inductionHypothesis
    exact ⟨_, history.execute depth statement⟩

end Machine.History

/-- Whatever has been asked of a session, its machine has a history. -/
theorem Session.serveAll_history (capacity : Option Nat) (clock : Clock)
    (requests : List Request) :
    ∃ moments, Machine.History moments ((start capacity clock).serveAll requests).machine := by
  have served (session : Session) (moments : List Moment)
      (history : Machine.History moments session.machine) :
      ∃ moments, Machine.History moments (session.serveAll requests).machine := by
    induction requests generalizing session moments with
    | nil => exact ⟨moments, history⟩
    | cons request others inductionHypothesis =>
      obtain ⟨later, history⟩ :=
        (history.learn (session.recorded request)).ran (session.serve_ran request)
      exact inductionHypothesis (session.serve request) later history
  exact served _ [] (.start capacity clock)

end Lox
