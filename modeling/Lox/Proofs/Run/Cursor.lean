/-
Every run leaves the machine in the frame in which it found it and with as many calls in progress.
The two are moved in one place each, around the statements of a block or body and around a call, and
moved back there; so it is enough to follow what runs are made of, whatever the tree, the machine
and the end of the run. Between the sources of a session the machine is always at the top level.
-/

import Lox.Proofs.Ensures
import Lox.Proofs.Run.Built
import Lox.Proofs.Run.History

namespace Lox

variable {α β : Type}

/-! ### The machine that a run leaves -/

namespace Run

/-- The machine that a run leaves, however it ends. -/
def left (run : Run α) (machine : Machine) : Machine :=
  match run machine with
  | .ok _ after => after
  | .error _ after => after

theorem left_ok {run : Run α} {machine after : Machine} {value : α}
    (ended : run machine = .ok value after) : run.left machine = after := by
  unfold left
  rw [ended]

theorem left_error {run : Run α} {machine after : Machine} {stop : Stop}
    (ended : run machine = .error stop after) : run.left machine = after := by
  unfold left
  rw [ended]

theorem left_within (frame : FrameId) (run : Run α) (machine : Machine) :
    (Run.within frame run).left machine =
      { run.left { machine with current := frame } with current := machine.current } := by
  unfold left Run.within
  dsimp only
  cases run { machine with current := frame } <;> rfl

theorem left_inCall (run : Run α) (machine : Machine) :
    (Run.inCall run).left machine =
      let after := run.left { machine with callDepth := machine.callDepth + 1 }
      { after with callDepth := after.callDepth - 1 } := by
  unfold left Run.inCall
  cases run { machine with callDepth := machine.callDepth + 1 } <;> rfl

/-- The run leaves every machine in its frame, with as many calls in progress. -/
structure Restores (run : Run α) : Prop where
  current : ∀ machine, (run.left machine).current = machine.current
  callDepth : ∀ machine, (run.left machine).callDepth = machine.callDepth

namespace Restores

variable {run : Run α} {next : α → Run β}

theorem pure (value : α) : Restores (Pure.pure value) :=
  ⟨fun _ => rfl, fun _ => rfl⟩

theorem throw (stop : Stop) : Restores (MonadExcept.throw stop : Run α) :=
  ⟨fun _ => rfl, fun _ => rfl⟩

theorem get : Restores MonadState.get :=
  ⟨fun _ => rfl, fun _ => rfl⟩

/-- What goes on after a first part starts on the machine that the first part left. -/
theorem left_bind (run : Run α) (next : α → Run β) (machine : Machine) :
    (∃ value, (run >>= next).left machine = (next value).left (run.left machine)) ∨
      (run >>= next).left machine = run.left machine := by
  cases ended : run machine with
  | ok value after =>
    rw [left_ok ended]
    exact .inl ⟨value, by unfold left; rw [bind_ok ended]⟩
  | error stop after =>
    rw [left_error ended, left_error (bind_error ended)]
    exact .inr rfl

theorem bind (first : run.Restores) (rest : ∀ value, (next value).Restores) :
    (run >>= next).Restores := by
  refine ⟨fun machine => ?_, fun machine => ?_⟩ <;>
    rcases left_bind run next machine with ⟨value, left⟩ | left <;> rw [left]
  · exact ((rest value).current _).trans (first.current machine)
  · exact first.current machine
  · exact ((rest value).callDepth _).trans (first.callDepth machine)
  · exact first.callDepth machine

/-- Changes that keep away from the frame and from the calls in progress. -/
theorem changeHeap (change : Heap → Heap) : (Run.changeHeap change).Restores :=
  ⟨fun _ => rfl, fun _ => rfl⟩

theorem allocate (add : Heap → Nat × Heap) : (Run.allocate add).Restores :=
  ⟨fun _ => rfl, fun _ => rfl⟩

theorem define (name : String) (value : Value) : (Run.define name value).Restores :=
  ⟨fun _ => rfl, fun _ => rfl⟩

theorem tick : Restores (modify fun machine => { machine with clock := machine.clock.next }) :=
  ⟨fun _ => rfl, fun _ => rfl⟩

theorem write (text : String) : (Run.write text).Restores := by
  refine ⟨fun machine => ?_, fun machine => ?_⟩ <;>
    obtain ⟨heap, current, callDepth, distances, sink, clock⟩ := machine <;>
    unfold left Run.write <;> dsimp only <;>
    cases sink.write text.toUTF8 with
    | mk problem sink => cases problem <;> rfl

/-- Whatever happens in another frame, that frame is left again. -/
theorem within (frame : FrameId) (restores : run.Restores) : (Run.within frame run).Restores := by
  refine ⟨fun machine => ?_, fun machine => ?_⟩
  · unfold left Run.within
    dsimp only
    cases run { machine with current := frame } <;> rfl
  · have inside := restores.callDepth { machine with current := frame }
    unfold left at inside ⊢
    unfold Run.within
    dsimp only
    cases ended : run { machine with current := frame } <;> rw [ended] at inside <;> exact inside

/-- A call that is counted is no longer counted when it is over, since the calls inside it are over
by then, too. -/
theorem inCall (restores : run.Restores) : (Run.inCall run).Restores := by
  refine ⟨fun machine => ?_, fun machine => ?_⟩
  · have inside := restores.current machine.countCall
    unfold left at inside ⊢
    unfold Run.inCall
    cases ended : run { machine with callDepth := machine.callDepth + 1 } <;>
      rw [show run machine.countCall = _ from ended] at inside <;> exact inside
  · have inside := restores.callDepth machine.countCall
    unfold left at inside ⊢
    unfold Run.inCall
    cases ended : run { machine with callDepth := machine.callDepth + 1 } <;>
      rw [show run machine.countCall = _ from ended] at inside <;>
      exact congrArg (· - 1) inside

end Restores

/-- The primitives put the frame and the calls back, and so does what is put together from them. -/
theorem Built.restores {run : Run α} (built : run.Built) : run.Restores := by
  induction built with
  | pure value => exact .pure value
  | throw stop => exact .throw stop
  | bind _ _ first rest => exact .bind first rest
  | get _ _ rest => exact .bind .get rest
  | changeHeap change => exact .changeHeap change
  | allocate add => exact .allocate add
  | define name value => exact .define name value
  | tick => exact .tick
  | write text => exact .write text
  | within frame _ inside => exact .within frame inside
  | inCall _ inside => exact .inCall inside

end Run

/-! ### Trees and programs -/

/-- Trees are run so that the machine is left as it was found. -/
structure Evaluator.Restores (evaluator : Evaluator) : Prop where
  evaluate : ∀ expression, (evaluator.evaluate expression).Restores
  execute : ∀ statement, (evaluator.execute statement).Restores

theorem evaluator_restores (depth : Nat) : (evaluator depth).Restores :=
  ⟨fun expression => ((evaluator_built depth).evaluate expression).restores,
    fun statement => ((evaluator_built depth).execute statement).restores⟩

theorem interpret_restores (depth : Nat) (statements : List Statement) :
    (interpret depth statements).Restores :=
  (interpret_built depth statements).restores

theorem executeAll_restores (depth : Nat) (statements : List Statement) :
    ((evaluator depth).executeAll statements).Restores :=
  ((evaluator_built depth).executeAll statements).restores

/-! ### Sessions -/

namespace Session

/-- The next statement runs in the global frame, and no call is in progress. -/
structure AtTop (session : Session) : Prop where
  current : session.machine.current = Heap.globalFrame
  callDepth : session.machine.callDepth = 0

/-- A run on the machine of a session leaves the session with the machine that the run left. -/
theorem perform_machine (session : Session) (run : Run α) :
    (session.perform run).2.machine = run.left session.machine := by
  unfold perform Run.left
  split <;> rename_i ended <;> rw [ended]

theorem perform_nextReference (session : Session) (run : Run α) :
    (session.perform run).2.nextReference = session.nextReference := by
  unfold perform
  split <;> rfl

theorem AtTop.perform {session : Session} {run : Run α} (atTop : session.AtTop)
    (restores : run.Restores) : (session.perform run).2.AtTop := by
  refine ⟨?_, ?_⟩ <;> rw [perform_machine]
  · exact (restores.current _).trans atTop.current
  · exact (restores.callDepth _).trans atTop.callDepth

/-- Reading a source is no business of the machine. -/
theorem readProgram_machine (session : Session) (source : String) :
    (session.readProgram source).2.machine = session.machine := by
  unfold readProgram
  dsimp only
  split <;> rfl

theorem readExpression_machine (session : Session) (source : String) :
    (session.readExpression source).2.machine = session.machine := by
  unfold readExpression
  dsimp only
  split
  · split <;> rfl
  · rfl

theorem AtTop.run {session : Session} (atTop : session.AtTop) (depth : Nat) (source : String) :
    (session.run depth source).2.AtTop := by
  have same := readProgram_machine session source
  have unrun : (session.readProgram source).2.AtTop :=
    ⟨same ▸ atTop.current, same ▸ atTop.callDepth⟩
  rcases run_cases depth session source with
    ⟨_, _, rejected⟩ | ⟨statements, distances, read, isRead, _, accepted⟩
  · rw [rejected]
    exact unrun
  · rw [isRead] at unrun
    have learned : (read.learn distances).AtTop := ⟨unrun.current, unrun.callDepth⟩
    rw [accepted]
    exact learned.perform (interpret_restores depth statements)

theorem AtTop.evaluate {session : Session} (atTop : session.AtTop) (depth : Nat)
    (source : String) : (session.evaluate depth source).2.AtTop := by
  have same := readExpression_machine session source
  have unrun : (session.readExpression source).2.AtTop :=
    ⟨same ▸ atTop.current, same ▸ atTop.callDepth⟩
  rcases evaluate_cases depth session source with
    ⟨_, _, rejected⟩ | ⟨expression, distances, read, isRead, _, accepted⟩
  · rw [rejected]
    exact unrun
  · rw [isRead] at unrun
    have learned : (read.learn distances).AtTop := ⟨unrun.current, unrun.callDepth⟩
    rw [accepted]
    exact learned.perform ((evaluator_restores depth).evaluate expression)

theorem AtTop.step {session : Session} (atTop : session.AtTop) (step : Step) :
    (session.step step).AtTop := by
  cases step with
  | defineNative native => exact ⟨atTop.current, atTop.callDepth⟩
  | run depth source => exact atTop.run depth source
  | evaluate depth source => exact atTop.evaluate depth source

theorem AtTop.after {session : Session} (atTop : session.AtTop) (steps : List Step) :
    (session.after steps).AtTop := by
  induction steps generalizing session with
  | nil => exact atTop
  | cons step others inductionHypothesis => exact inductionHypothesis (atTop.step step)

end Session

/-- Whatever is run on whatever machine, and however that ends, with a result, an error or for want
of depth: the next statement would run in the same frame as before, and as many calls are in
progress. So after each step of a session, a source that failed included, the machine is at the top
level. -/
theorem cursor_restored :
    (∀ depth expression machine, ((evaluate depth expression).left machine).current =
        machine.current ∧
      ((evaluate depth expression).left machine).callDepth = machine.callDepth) ∧
    (∀ depth statement machine, ((execute depth statement).left machine).current =
        machine.current ∧
      ((execute depth statement).left machine).callDepth = machine.callDepth) ∧
    (∀ depth frame statements machine,
      ((Run.within frame ((evaluator depth).executeAll statements)).left machine).current =
        machine.current ∧
      ((Run.within frame ((evaluator depth).executeAll statements)).left machine).callDepth =
        machine.callDepth) ∧
    (∀ depth statements machine, ((interpret depth statements).left machine).current =
        machine.current ∧
      ((interpret depth statements).left machine).callDepth = machine.callDepth) ∧
    (∀ capacity clock steps,
      ((Session.start capacity clock).after steps).machine.current = Heap.globalFrame ∧
      ((Session.start capacity clock).after steps).machine.callDepth = 0) := by
  have both {α : Type} {run : Run α} (restores : run.Restores) (machine : Machine) :
      (run.left machine).current = machine.current ∧
        (run.left machine).callDepth = machine.callDepth :=
    ⟨restores.current machine, restores.callDepth machine⟩
  refine ⟨?_, ?_, ?_, ?_, ?_⟩
  · exact fun depth expression => both ((evaluator_restores depth).evaluate expression)
  · exact fun depth statement => both ((evaluator_restores depth).execute statement)
  · exact fun depth frame statements =>
      both (.within frame (executeAll_restores depth statements))
  · exact fun depth statements => both (interpret_restores depth statements)
  · intro capacity clock steps
    have started : (Session.start capacity clock).AtTop := ⟨rfl, rfl⟩
    have atTop := started.after steps
    exact ⟨atTop.current, atTop.callDepth⟩

end Lox
