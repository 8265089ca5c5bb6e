/-
Which tree is to blame for an error. A tree that is stopped by a problem at a line may only hand on
what stopped a tree inside it. But at some moment of the trace a tree begins that is stopped by the
problem although every tree that is run inside it succeeds; then the problem is one that its node
raises, and the line is that of the token that its node keeps for this. No tree is to blame for what
a call does after the body: the receiver that an initializer gives back is always there.
-/

import Lox.Proofs.Run.Accounts
import Lox.Proofs.Run.Initializers
import Lox.Proofs.Run.Raises

namespace Lox

variable {α β : Type} {dialect : Dialect} {own : RuntimeProblem → Nat → Prop}
  {machine : Machine} {moments early : List Moment} {line : Nat}

/-! ### Blame -/

namespace Moment

/-- If a tree begins at the moment, it ends without an error, within some depth. -/
def Succeeds : Moment → Prop
  | .evaluation expression machine => ∃ value after, Evaluates expression machine value after
  | .execution statement machine => ∃ flow after, Executes statement machine flow after
  | _ => True

/-- The tree that begins at the moment is stopped by the problem at the line, and every tree that is
run inside it until then succeeds. -/
inductive Breaks : Moment → Constituent → RuntimeProblem → Nat → Prop
  | evaluation {expression : Expression} {machine after : Machine} {depth : Nat}
    {problem : RuntimeProblem} {line : Nat} :
    evaluate (depth + 1) expression machine = .error (.error (.located problem line)) after →
    (∀ moment ∈ (tracer depth).evaluateNode expression machine, moment.Succeeds) →
    Breaks (.evaluation expression machine) (.expression expression) problem line
  | execution {statement : Statement} {machine after : Machine} {depth : Nat}
    {problem : RuntimeProblem} {line : Nat} :
    execute (depth + 1) statement machine = .error (.error (.located problem line)) after →
    (∀ moment ∈ (tracer depth).executeNode statement machine, moment.Succeeds) →
    Breaks (.execution statement machine) (.statement statement) problem line

/-- The tree that begins at the moment is one of the dialect and is to blame for the problem at the
line. -/
def IsToBlame (dialect : Dialect) (problem : RuntimeProblem) (line : Nat) (moment : Moment) :
    Prop :=
  ∃ part, dialect.has part ∧ moment.Breaks part problem line ∧ part.RaisesOn problem line

theorem mem_between {moment first last : Moment} :
    moment ∈ first :: moments ++ [last] ↔ moment = first ∨ moment ∈ moments ∨ moment = last := by
  rw [List.mem_append, List.mem_cons, List.mem_singleton, or_assoc]

end Moment

/-- If a problem at a line stopped the run, a tree that began at one of the moments is to blame, or
every such tree succeeds and the problem is the run's own. -/
def Stop.Blames (dialect : Dialect) (own : RuntimeProblem → Nat → Prop) (moments : List Moment)
    (stop : Stop) : Prop :=
  ∀ problem line, stop = .error (.located problem line) →
    (∃ moment ∈ moments, moment.IsToBlame dialect problem line) ∨
      (∀ moment ∈ moments, moment.Succeeds) ∧ own problem line

namespace Stop

variable {stop : Stop}

/-- Where every tree succeeded, the problem is the run's own. -/
theorem IsOf.blames (isOwn : stop.IsOf own) (succeed : ∀ moment ∈ moments, moment.Succeeds) :
    stop.Blames dialect own moments := by
  rintro problem line rfl
  exact .inr ⟨succeed, isOwn⟩

/-- The moments may be among others, at which no tree begins that fails. -/
theorem Blames.among {all : List Moment} (blames : stop.Blames dialect own moments)
    (areAmong : moments ⊆ all) (others : ∀ moment ∈ all, moment ∈ moments ∨ moment.Succeeds) :
    stop.Blames dialect own all := by
  intro problem line isError
  rcases blames problem line isError with ⟨moment, member, isToBlame⟩ | ⟨succeed, isOwn⟩
  · exact .inl ⟨moment, areAmong member, isToBlame⟩
  · exact .inr ⟨fun moment member => (others moment member).elim (succeed moment) id, isOwn⟩

end Stop

/-! ### Runs -/

namespace Run

/-- From the machine on, if it stands, every tree that begins at one of the moments succeeds, or the
run stops and can tell which tree is to blame. -/
def Blames (dialect : Dialect) (own : RuntimeProblem → Nat → Prop) (run : Run α)
    (machine : Machine) (moments : List Moment) : Prop :=
  machine.Stands dialect →
    Ensures run machine (fun _ _ => ∀ moment ∈ moments, moment.Succeeds)
      fun stop _ => stop.Blames dialect own moments

namespace Blames

variable {run : Run α} {next : α → Run β} {rest : α → Machine → List Moment}
  {result : α → Heap → Prop}

/-- Where no tree fails, the problems are the run's own. -/
theorem of_succeed (failsOnly : run.FailsOnly own machine)
    (succeed : ∀ moment ∈ moments, moment.Succeeds) : run.Blames dialect own machine moments :=
  fun _ => failsOnly.mono (fun _ _ _ => succeed) fun _ _ isOwn => isOwn.blames succeed

theorem of_failsOnly (failsOnly : run.FailsOnly own machine) :
    run.Blames dialect own machine [] :=
  of_succeed failsOnly nofun

theorem pure {value : α} : (Pure.pure value : Run α).Blames dialect own machine [] :=
  of_failsOnly .pure

theorem bind (first : run.Blames dialect own machine early)
    (proceeds : run.Proceeds dialect machine result)
    (goesOn : ∀ value after, machine.Chain dialect after → result value after.heap →
      (next value).Blames dialect own after (rest value after)) :
    (run >>= next).Blames dialect own machine (early ++ run.thereafter machine rest) := by
  intro stands
  unfold thereafter Ensures
  cases ended : run machine with
  | ok value after =>
    have ⟨chain, holds⟩ := proceeds.ok stands ended
    have succeed := (first stands).ok ended
    rw [bind_ok ended]
    exact (goesOn value after chain holds (chain.stands stands)).mono
      (fun _ _ succeedToo => List.forall_mem_append.mpr ⟨succeed, succeedToo⟩)
      fun _ _ blames => blames.among (List.subset_append_right _ _) fun moment member =>
        (List.mem_append.mp member).symm.imp_right (succeed moment)
  | error stop after =>
    rw [bind_error ended, List.append_nil]
    exact (first stands).error ended

/-- What goes on without running trees stops with problems of its own only. -/
theorem bind_failsOnly (first : run.Blames dialect own machine moments)
    (goesOn : ∀ value after, run machine = .ok value after → (next value).FailsOnly own after) :
    (run >>= next).Blames dialect own machine moments := by
  intro stands
  exact (first stands).bind fun value after ended succeed =>
    (goesOn value after ended).mono (fun _ _ _ => succeed) fun _ _ isOwn => isOwn.blames succeed

/-- The first steps of a run, which change the machine in a known way and run no trees. -/
theorem begin (middle : Machine) (following : Run α) (same : run machine = following middle)
    (chain : machine.Chain dialect middle)
    (blames : following.Blames dialect own middle moments) :
    run.Blames dialect own machine moments := by
  intro stands
  have ensured := blames (chain.stands stands)
  unfold Ensures at ensured ⊢
  rwa [same]

/-- A run in another frame, which is left again. -/
theorem within {frame : FrameId} (present : frame < machine.heap.frames.size)
    (blames : run.Blames dialect own { machine with current := frame } moments) :
    (Run.within frame run).Blames dialect own machine moments := by
  intro stands
  have ensured := blames ⟨stands.heap, present⟩
  unfold Ensures Run.within
  dsimp only
  cases ended : run { machine with current := frame } with
  | ok value after => exact ensured.ok ended
  | error stop after => exact ensured.error ended

/-- A run with one more call in progress, between the moments at which that is noted. -/
theorem inCall {first last : Moment} (blames : run.Blames dialect own machine.countCall moments)
    (isFirst : first.Succeeds) (isLast : last.Succeeds) :
    (Run.inCall run).Blames dialect own machine (first :: moments ++ [last]) := by
  intro stands
  have ensured := blames ⟨stands.heap, stands.current⟩
  have others (moment : Moment) (member : moment ∈ first :: moments ++ [last]) :
      moment ∈ moments ∨ moment.Succeeds := by
    rcases Moment.mem_between.mp member with rfl | inside | rfl
    · exact .inr isFirst
    · exact .inl inside
    · exact .inr isLast
  unfold Ensures Run.inCall
  cases ended : run { machine with callDepth := machine.callDepth + 1 } with
  | ok value after =>
    exact fun moment member => (others moment member).elim (ensured.ok ended moment) id
  | error stop after =>
    exact Stop.Blames.among (ensured.error ended)
      (fun _ member => Moment.mem_between.mpr (.inr (.inl member))) others

/-- A tree that is noted when it begins and when it ends. For the problems of its node it is to
blame itself. -/
theorem noted {part : Constituent} {first last : Moment}
    (blames : run.Blames dialect part.RaisesOn machine moments) (isTree : dialect.has part)
    (succeeds : ∀ value after, run machine = .ok value after → first.Succeeds)
    (breaks : ∀ problem line after, run machine = .error (.error (.located problem line)) after →
      (∀ moment ∈ moments, moment.Succeeds) → first.Breaks part problem line)
    (isLast : last.Succeeds) :
    run.Blames dialect own machine (first :: moments ++ [last]) := by
  intro stands
  have ensured := blames stands
  unfold Ensures
  cases ended : run machine with
  | ok value after =>
    intro moment member
    rcases Moment.mem_between.mp member with rfl | inside | rfl
    · exact succeeds value after ended
    · exact ensured.ok ended moment inside
    · exact isLast
  | error stop after =>
    rintro problem line rfl
    rcases ensured.error ended problem line rfl with
      ⟨moment, member, isToBlame⟩ | ⟨succeed, raises⟩
    · exact .inl ⟨moment, Moment.mem_between.mpr (.inr (.inl member)), isToBlame⟩
    · exact .inl ⟨first, List.mem_cons_self, part, isTree,
        breaks problem line after ended succeed, raises⟩

end Blames

end Run

/-! ### Nodes -/

/-- The traces of the trees inside a node tell which of them is to blame. The trees are spelled as
those are that are read from sources. -/
structure Tracer.Blames (dialect : Dialect) (tracer : Tracer) : Prop where
  spelled : ∀ {part : Constituent}, dialect.has part → Dialect.spelled.has part
  proceeds : tracer.evaluator.Proceeds dialect
  evaluate : ∀ {expression}, dialect.has (.expression expression) → ∀ {own machine},
    (tracer.evaluator.evaluate expression).Blames dialect own machine
      (tracer.evaluate expression machine)
  execute : ∀ {statement}, dialect.has (.statement statement) → ∀ {own machine},
    (tracer.evaluator.execute statement).Blames dialect own machine
      (tracer.execute statement machine)

namespace Tracer.Blames

open Run Run.Blames

variable {tracer : Tracer}

theorem noThis (blames : tracer.Blames dialect) : ¬dialect.has (.binding "this") :=
  fun isName => Dialect.spelled_noThis (blames.spelled isName)

theorem executeAll (blames : tracer.Blames dialect) (statements : List Statement)
    (areTrees : ∀ statement ∈ statements, dialect.has (.statement statement)) :
    (tracer.evaluator.executeAll statements).Blames dialect own machine
      (tracer.executeAll statements machine) := by
  induction statements generalizing machine with
  | nil => exact pure
  | cons statement others inductionHypothesis =>
    have isTree := areTrees statement List.mem_cons_self
    refine (blames.execute isTree).bind (blames.proceeds.execute isTree) fun flow after _ _ => ?_
    cases flow with
    | completed =>
      exact inductionHypothesis fun other member =>
        areTrees other (List.mem_cons_of_mem statement member)
    | _ => exact pure

theorem evaluateAll (blames : tracer.Blames dialect) (expressions : List Expression)
    (areTrees : ∀ expression ∈ expressions, dialect.has (.expression expression)) :
    (tracer.evaluator.evaluateAll expressions).Blames dialect own machine
      (tracer.evaluateAll expressions machine) := by
  induction expressions generalizing machine with
  | nil => exact pure
  | cons expression others inductionHypothesis =>
    have isTree := areTrees expression List.mem_cons_self
    refine (blames.evaluate isTree).bind (blames.proceeds.evaluate isTree) fun _ after _ _ => ?_
    exact (inductionHypothesis fun other member =>
      areTrees other (List.mem_cons_of_mem expression member)).bind_failsOnly fun _ _ _ => .pure

/-! ### Calls -/

/-- What a call does after the body stops with nothing, since an initializer is bound. -/
theorem invoke (blames : tracer.Blames dialect) {id : FunctionId} {arguments : List Value}
    (present : id < machine.heap.functions.size)
    (isBound : (machine.heap.function id).isInitializer = true →
      ∃ receiver, machine.heap.BoundTo id receiver)
    (areThere : ∀ value ∈ arguments, value.Stands dialect machine.heap) :
    (tracer.evaluator.invoke id arguments).Blames dialect own machine
      (tracer.invoke id arguments machine) := by
  intro stands
  let object := machine.heap.function id
  let entries := (object.declaration.parameters.map Identifier.name).zip arguments
  let opened := machine.withHeap (machine.heap.openFrame object.closure entries)
  have opens : machine.Chain dialect opened :=
    .ofHeap (Heap.openCall_chain stands.heap present areThere)
  have room : machine.heap.frames.size < opened.heap.frames.size :=
    Nat.lt_of_lt_of_eq (Nat.lt_succ_self _) (Heap.openFrame_size _ _ _).symm
  have areTrees := dialect.body (stands.heap.function present).2
  have body : (Run.within machine.heap.frames.size
      (tracer.evaluator.executeAll object.declaration.body) >>= Watch.givenBack object).Blames
      dialect own opened (tracer.invoke id arguments machine) := by
    refine (within room (blames.executeAll _ areTrees)).bind_failsOnly fun flow after ended => ?_
    unfold Watch.givenBack
    split
    · rename_i isInitializer
      have proceeds := Run.Proceeds.within room (blames.proceeds.executeAll _ areTrees)
      have ext := (opens.trans (proceeds.ok (opens.stands stands) ended).1).extends
      obtain ⟨receiver, bound⟩ := isBound isInitializer
      refine .get_bind (.ofExcept fun error failed => ?_)
      have found := (bound.later ext blames.noThis).getAt
        ((object.declaration.name.map Identifier.line).getD 0)
      rw [ext.function present] at found
      exact nomatch found.symm.trans failed
    · split <;> exact .pure
  exact begin opened _ rfl opens body stands

theorem construct (blames : tracer.Blames dialect) {id : ClassId} {arguments : List Value}
    (present : id < machine.heap.classes.size)
    (areThere : ∀ value ∈ arguments, value.Stands dialect machine.heap) :
    (tracer.evaluator.construct id arguments).Blames dialect own machine
      (tracer.construct id arguments machine) := by
  intro stands
  let receiver := machine.heap.instances.size
  let made := machine.addInstance id
  have added : machine.Chain dialect made := .addInstance present
  have standsMade := added.stands stands
  unfold Tracer.construct
  dsimp only
  split
  · rename_i initializer found
    have isMethod := standsMade.heap.isMethod found
    have isThere : receiver < made.heap.instances.size :=
      Nat.lt_of_lt_of_eq (Nat.lt_succ_self _) (Array.size_push _).symm
    have toBound : made.Chain dialect (made.bindMethod initializer receiver) :=
      .bindMethod standsMade isMethod isThere
    have isStanding := Heap.bindMethod_stands standsMade.heap isMethod isThere
    have invoked : (tracer.evaluator.invoke made.heap.functions.size arguments).Blames dialect own
        (made.bindMethod initializer receiver) _ :=
      blames.invoke isStanding.1.lt_size
        (fun _ => ⟨receiver, Heap.bindMethod_boundTo standsMade.heap initializer receiver⟩)
        fun value member => (areThere value member).later (added.trans toBound).extends
    exact begin _ _ (Evaluator.construct_initialized found) (added.trans toBound)
      (invoked.bind_failsOnly fun _ _ _ => .pure) stands
  · rename_i absent
    exact begin made (Pure.pure (.object receiver)) (Evaluator.construct_plain absent) added pure
      stands

/-- A native function runs no trees. -/
theorem callNative_succeed (id : NativeId) (arguments : List Value) (machine : Machine) :
    ∀ moment ∈ Tracer.callNative id arguments machine, moment.Succeeds := by
  have stored (stores : List FieldStore) :
      ∀ moment ∈ Tracer.storeAll stores machine, moment.Succeeds := by
    induction stores generalizing machine with
    | nil => exact nofun
    | cons store others inductionHypothesis =>
      exact List.forall_mem_cons.mpr ⟨trivial, inductionHypothesis _⟩
  unfold Tracer.callNative
  split
  · exact nofun
  · exact stored _

theorem perform (blames : tracer.Blames dialect) {callable : Callable} {arguments : List Value}
    (isOwn : ∀ problem : RuntimeProblem, problem.IsOfCall → own problem line)
    (isThere : (Value.callable callable).Stands dialect machine.heap)
    (areThere : ∀ value ∈ arguments, value.Stands dialect machine.heap) :
    (tracer.evaluator.perform callable arguments line).Blames dialect own machine
      (tracer.perform callable arguments machine) := by
  cases callable with
  | native id =>
    exact of_succeed (Evaluator.callNative_failsOnly id arguments fun _ => isOwn _ trivial)
      (callNative_succeed id arguments machine)
  | function id =>
    obtain ⟨object, found, isPlain⟩ := isThere
    refine blames.invoke (Array.getElem?_eq_some_iff.mp found).1 (fun isInitializer => ?_) areThere
    rw [Heap.function_of_some found, isPlain] at isInitializer
    exact nomatch isInitializer
  | method id =>
    obtain ⟨receiver, _, isBound⟩ := isThere.2.resolve_left blames.noThis
    exact blames.invoke isThere.1.lt_size (fun _ => ⟨receiver, isBound⟩) areThere
  | constructor id => exact blames.construct isThere areThere

theorem call (blames : tracer.Blames dialect) {callee : Value} {arguments : List Value}
    (isOwn : ∀ problem : RuntimeProblem, problem.IsOfCall → own problem line)
    (isThere : callee.Stands dialect machine.heap)
    (areThere : ∀ value ∈ arguments, value.Stands dialect machine.heap) :
    (tracer.evaluator.call callee arguments line).Blames dialect own machine
      (tracer.call callee arguments line machine) := by
  cases callee with
  | callable callable =>
    have fails (problem : RuntimeProblem) (isOfCall : problem.IsOfCall)
        (same : tracer.evaluator.call (.callable callable) arguments line machine =
          Run.fail problem line machine) :
        (tracer.evaluator.call (.callable callable) arguments line).Blames dialect own machine
          [] :=
      begin machine (Run.fail problem line) same (.refl _)
        (of_failsOnly (.fail (isOwn problem isOfCall)))
    unfold Tracer.call
    dsimp only
    split
    · rename_i differs
      exact fails (.arityMismatch _ _) trivial ((bind_ok rfl).trans (by rw [if_pos differs]))
    · rename_i fits
      split
      · rename_i full
        exact fails .stackOverflow trivial ((bind_ok rfl).trans (by rw [if_neg fits, if_pos full]))
      · rename_i free
        exact begin machine (Run.inCall (tracer.evaluator.perform callable arguments line))
          ((bind_ok rfl).trans (by rw [if_neg fits, if_neg free])) (.refl _)
          (inCall (blames.perform isOwn isThere areThere) trivial trivial)
  | _ => exact of_failsOnly (.fail (isOwn _ trivial))

/-! ### Expressions -/

/-- An expression stops with the problems of its node, or a tree inside it is to blame. -/
theorem evaluateNode (blames : tracer.Blames dialect) {expression : Expression}
    (isTree : dialect.has (.expression expression)) (machine : Machine) :
    (tracer.evaluator.evaluateNode expression).Blames dialect
      (Constituent.expression expression).RaisesOn machine
      (tracer.evaluateNode expression machine) := by
  have part {constituent : Constituent}
      (isPart : constituent ∈ (Constituent.expression expression).parts) :
      dialect.has constituent := dialect.closed isTree isPart
  have proceeds {inner : Expression} (isTree : dialect.has (.expression inner))
      {machine : Machine} : (tracer.evaluator.evaluate inner).Proceeds dialect machine
        fun value heap => value.Stands dialect heap :=
    blames.proceeds.evaluate isTree
  cases expression with
  | literal literal => exact pure
  | grouping inner => exact blames.evaluate (part (.head _))
  | unary operator line operand =>
    refine (blames.evaluate (part (.head _))).bind_failsOnly fun value after _ =>
      .ofExcept fun error failed => ?_
    obtain ⟨rfl, rfl⟩ := UnaryOperator.apply_error failed
    exact ⟨_, .negate, rfl⟩
  | binary operator line left right =>
    have isRight := part (.tail _ (.head _))
    refine (blames.evaluate (part (.head _))).bind (proceeds (part (.head _))) fun _ after _ _ => ?_
    refine (blames.evaluate isRight).bind_failsOnly fun _ _ _ => .ofExcept fun error failed => ?_
    obtain ⟨problem, isOne, rfl⟩ := BinaryOperator.apply_error failed
    exact ⟨_, .binary isOne, rfl⟩
  | logical operator left right =>
    refine (blames.evaluate (part (.head _))).bind (proceeds (part (.head _)))
      fun value after _ _ => ?_
    split
    · exact pure
    · exact blames.evaluate (part (.tail _ (.head _)))
  | read reference name => exact of_failsOnly (Evaluator.lookUp_failsOnly _ ⟨_, .read, rfl⟩)
  | assign reference name value =>
    exact (blames.evaluate (part (.head _))).bind_failsOnly fun _ _ _ =>
      (Evaluator.assign_failsOnly _ _ ⟨_, .assign, rfl⟩).bind fun _ _ => .pure
  | call callee line arguments =>
    have areTrees (argument : Expression) (member : argument ∈ arguments) :
        dialect.has (.expression argument) :=
      part (.tail _ (List.mem_map_of_mem member))
    refine (blames.evaluate (part (.head _))).bind (proceeds (part (.head _)))
      fun value middle _ isThere => ?_
    refine (blames.evaluateAll arguments areTrees).bind
      (blames.proceeds.evaluateAll arguments areTrees) fun values after chain areThere => ?_
    exact blames.call (fun _ isOfCall => ⟨_, .call isOfCall, rfl⟩)
      (isThere.later chain.extends) areThere
  | function declaration =>
    exact of_failsOnly ((Evaluator.close_failsOnly declaration).bind fun _ _ => .pure)
  | get object name =>
    exact (blames.evaluate (part (.head _))).bind_failsOnly fun object _ _ =>
      Evaluator.property_failsOnly object ⟨_, .notAnInstance, rfl⟩ ⟨_, .property, rfl⟩
  | set object name value =>
    refine (blames.evaluate (part (.head _))).bind (proceeds (part (.head _)))
      fun object middle _ _ => ?_
    cases object with
    | object id =>
      have isValue := part (.tail _ (.head _))
      exact (blames.evaluate isValue).bind (proceeds isValue) fun value after _ _ _ =>
        .of_ok rfl (List.forall_mem_singleton.mpr trivial)
    | _ => exact of_failsOnly (.fail ⟨_, .noFields, rfl⟩)
  | this reference keyword => exact of_failsOnly (Evaluator.lookUp_failsOnly _ ⟨_, .this, rfl⟩)
  | super reference keyword method =>
    exact of_failsOnly (Evaluator.superMethod_failsOnly _ (fun _ isOne => ⟨_, .super isOne, rfl⟩)
      ⟨_, .superOutsideMethod, rfl⟩ ⟨_, .superMethod, rfl⟩)

/-! ### Statements -/

theorem pass (blames : tracer.Blames dialect) {condition : Expression} {body : Statement}
    {increment : Option Statement}
    (isTree : dialect.has (.statement (.loop condition body increment))) (machine : Machine) :
    (tracer.evaluator.pass condition body increment).Blames dialect own machine
      (tracer.pass condition body increment machine) := by
  have isCondition := dialect.closed isTree (.head _)
  have isBody := dialect.closed isTree (.tail _ (.head _))
  refine (blames.evaluate isCondition).bind (blames.proceeds.evaluate isCondition)
    fun value middle _ _ => ?_
  split
  · refine (blames.execute isBody).bind (blames.proceeds.execute isBody) fun flow after _ _ => ?_
    cases flow with
    | broke | returned value => exact pure
    | completed | continued =>
      cases increment with
      | none => exact pure
      | some increment =>
        exact (blames.execute (dialect.closed isTree (.tail _ (.tail _ (.head _))))).bind_failsOnly
          fun _ _ _ => .pure
  · exact pure

/-- A pass whose trace tells which tree is to blame may be repeated. -/
theorem repeatPass {pass : Run (Option Flow)} {trace : Machine → List Moment}
    {result : Option Flow → Heap → Prop}
    (blames : ∀ machine, pass.Blames dialect own machine (trace machine))
    (proceeds : ∀ machine, pass.Proceeds dialect machine result) (passes : Nat) :
    (Evaluator.repeatPass pass passes).Blames dialect own machine
      (Tracer.repeatPass pass trace passes machine) := by
  induction passes generalizing machine with
  | zero => exact of_failsOnly .exhausted
  | succ passes inductionHypothesis =>
    refine (blames machine).bind (proceeds machine) fun ended after _ _ => ?_
    cases ended with
    | some flow => exact pure
    | none => exact inductionHypothesis

/-- The superclass that a class declaration names is read; what else it does runs no trees. -/
theorem declareClass (blames : tracer.Blames dialect) {name : Identifier}
    {superclass : Option Expression} {methods : List FunctionDeclaration}
    (isTree : dialect.has (.statement (.declareClass name superclass methods))) :
    (tracer.evaluator.declareClass name superclass methods).Blames dialect
      (Constituent.statement (.declareClass name superclass methods)).RaisesOn machine
      (tracer.executeNode (.declareClass name superclass methods) machine) := by
  rw [Watch.declareClass_eq]
  have parent : (tracer.evaluator.superclass? name superclass).Blames dialect
      (Constituent.statement (.declareClass name superclass methods)).RaisesOn machine
      (tracer.executeNode (.declareClass name superclass methods) machine) := by
    cases superclass with
    | none => exact pure
    | some superclass =>
      have isRead : superclass.IsRead := (blames.spelled isTree).2.1
      refine (blames.evaluate (dialect.superclass isTree _ rfl)).bind_failsOnly fun value _ _ => ?_
      split
      · exact .pure
      · cases superclass with
        | read reference parent => exact .fail ⟨_, .superclass, rfl⟩
        | _ => exact isRead.elim
  exact parent.bind_failsOnly fun _ _ _ => (Evaluator.makeMethods_failsOnly _ _ _).bind
    fun _ _ => Evaluator.finishClass_failsOnly _ _ ⟨_, .declareClass, rfl⟩

/-- A statement stops with the problems of its node, or a tree inside it is to blame. -/
theorem executeNode (blames : tracer.Blames dialect) {statement : Statement}
    (isTree : dialect.has (.statement statement)) (machine : Machine) :
    (tracer.evaluator.executeNode statement).Blames dialect
      (Constituent.statement statement).RaisesOn machine
      (tracer.executeNode statement machine) := by
  have part {constituent : Constituent}
      (isPart : constituent ∈ (Constituent.statement statement).parts) :
      dialect.has constituent := dialect.closed isTree isPart
  cases statement with
  | expression expression =>
    exact (blames.evaluate (part (.head _))).bind_failsOnly fun _ _ _ => .pure
  | print expression =>
    exact (blames.evaluate (part (.head _))).bind_failsOnly fun _ _ _ =>
      .get_bind (.bind .write fun _ _ => .pure)
  | declareVariable name initializer =>
    cases initializer with
    | none => exact of_failsOnly (.bind .define fun _ _ => .pure)
    | some initializer =>
      exact (blames.evaluate (part (.tail _ (.head _)))).bind_failsOnly fun _ _ _ =>
        .bind .define fun _ _ => .pure
  | block statements =>
    intro stands
    let opened := machine.withHeap (machine.heap.addFrame machine.current).2
    have opens : machine.Chain dialect opened := .ofHeap (.single (.addFrame stands.current))
    have areTrees (inner : Statement) (member : inner ∈ statements) :
        dialect.has (.statement inner) :=
      part (List.mem_map_of_mem member)
    exact begin opened (Run.within machine.heap.frames.size _) rfl opens
      (within (Heap.lt_size_addFrame _ _) (blames.executeAll statements areTrees)) stands
  | conditional condition thenBranch elseBranch =>
    refine (blames.evaluate (part (.head _))).bind (blames.proceeds.evaluate (part (.head _)))
      fun value after _ _ => ?_
    split
    · exact blames.execute (part (.tail _ (.head _)))
    · cases elseBranch with
      | some elseBranch => exact blames.execute (part (.tail _ (.tail _ (.head _))))
      | none => exact pure
  | loop condition body increment =>
    exact repeatPass (blames.pass isTree) (blames.proceeds.pass isTree) tracer.evaluator.passes
  | control control keyword => exact pure
  | declareFunction declaration =>
    refine of_failsOnly ((Evaluator.close_failsOnly declaration).bind fun id after => ?_)
    split
    · exact .bind .define fun _ _ => .pure
    · exact .bind .pure fun _ _ => .pure
  | giveBack keyword value =>
    cases value with
    | none => exact pure
    | some value => exact (blames.evaluate (part (.head _))).bind_failsOnly fun _ _ _ => .pure
  | declareClass name superclass methods =>
    exact (blames.declareClass isTree).bind_failsOnly fun _ _ _ => .pure

end Tracer.Blames

/-! ### Trees -/

/-- The trace of every tree tells which tree is to blame for an error: an induction on the depth. -/
theorem tracer_blames (spelled : ∀ {part : Constituent}, dialect.has part →
    Dialect.spelled.has part) (depth : Nat) : (tracer depth).Blames dialect := by
  induction depth with
  | zero =>
    exact ⟨spelled, evaluator_proceeds dialect 0, fun _ => .of_failsOnly .exhausted,
      fun _ => .of_failsOnly .exhausted⟩
  | succ depth inductionHypothesis =>
    refine ⟨spelled, evaluator_proceeds dialect (depth + 1), ?_, ?_⟩
    · intro expression isTree own machine
      have node := inductionHypothesis.evaluateNode isTree machine
      rw [tracer_evaluator] at node
      exact node.noted isTree (fun _ _ ended => ⟨_, _, depth + 1, ended⟩)
        (fun _ _ _ => .evaluation) trivial
    · intro statement isTree own machine
      have node := inductionHypothesis.executeNode isTree machine
      rw [tracer_evaluator] at node
      exact node.noted isTree (fun _ _ ended => ⟨_, _, depth + 1, ended⟩)
        (fun _ _ _ => .execution) trivial

end Lox
