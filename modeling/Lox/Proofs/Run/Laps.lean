/-
What passes of loops do. An increment runs once behind every pass whose body completed or was cut
short by `continue`, and never behind another one. Where no `continue` cuts the body short, this is
to run the increment as the last statement of the body.
-/

import Lox.Proofs.Run.Signals
import Lox.Proofs.Run.Trace
import Lox.Proofs.Tree.Twin

namespace Lox

variable {α β : Type} {machine : Machine}

/-! ### Flows that do not come -/

/-- What goes on behind a run has to be the same for its results only. -/
theorem Run.Yields.bind_congr {run : Run α} {holds : α → Prop} (yields : run.Yields holds)
    {next other : α → Run β} (same : ∀ value, holds value → next value = other value) :
    run >>= next = run >>= other := by
  funext machine
  have told := yields machine
  cases ended : run machine with
  | ok value after =>
    rw [bind_ok ended, bind_ok ended, same value (told.ok ended)]
  | error stop after => rw [bind_error ended, bind_error ended]

/-- Statements without a `continue` for a loop around them never end with one, and the evaluation of
an expression never ends but completely. -/
structure Evaluator.Flows (evaluator : Evaluator) : Prop where
  quiet : ∀ {statement : Statement}, statement.continues = false →
    (evaluator.execute statement).Yields (· ≠ .continued)
  completes : ∀ value, (evaluator.execute (.expression value)).Yields (· = .completed)

namespace Evaluator

open Run.Yields

/-- A loop never ends with a `continue`, whatever its body does. -/
theorem pass_notContinued (evaluator : Evaluator) (condition : Expression) (body : Statement)
    (increment : Option Statement) : (evaluator.pass condition body increment).Yields
      fun ended => ∀ flow ∈ ended, flow ≠ .continued := by
  refine after _ fun value => ?_
  split
  · refine after _ fun flow => ?_
    split
    · exact pure fun ended isEnd => Option.mem_some.mp isEnd ▸ nofun
    · exact pure fun ended isEnd => Option.mem_some.mp isEnd ▸ nofun
    all_goals
      split
      · exact after _ fun _ => pure nofun
      · exact pure nofun
  · exact pure fun ended isEnd => Option.mem_some.mp isEnd ▸ nofun

namespace Flows

variable {evaluator : Evaluator}

theorem executeAll (flows : evaluator.Flows) {statements : List Statement}
    (quiet : Statement.anyContinues statements = false) :
    (evaluator.executeAll statements).Yields (· ≠ .continued) := by
  induction statements with
  | nil => exact pure nofun
  | cons statement others inductionHypothesis =>
    have ⟨quietFirst, quietOthers⟩ := Bool.or_eq_false_iff.mp quiet
    refine (flows.quiet quietFirst).bind fun flow notContinued => ?_
    cases flow with
    | completed => exact inductionHypothesis quietOthers
    | _ => exact pure notContinued

theorem executeNode (flows : evaluator.Flows) {statement : Statement}
    (quiet : statement.continues = false) :
    (evaluator.executeNode statement).Yields (· ≠ .continued) := by
  cases statement with
  | expression expression => exact after _ fun _ => pure nofun
  | print expression => exact after _ fun _ => after _ fun _ => after _ fun _ => pure nofun
  | declareVariable name initializer =>
    cases initializer with
    | none => exact after _ fun _ => pure nofun
    | some initializer => exact after _ fun _ => after _ fun _ => pure nofun
  | block statements =>
    exact after _ fun _ => after _ fun frame => within frame (flows.executeAll quiet)
  | conditional condition thenBranch elseBranch =>
    refine after _ fun value => ?_
    cases elseBranch with
    | none =>
      split
      · exact flows.quiet quiet
      · exact pure nofun
    | some elseBranch =>
      have ⟨quietThen, quietElse⟩ := Bool.or_eq_false_iff.mp quiet
      split
      · exact flows.quiet quietThen
      · exact flows.quiet quietElse
  | loop condition body increment =>
    exact repeatPass_yields (pass_notContinued evaluator condition body increment) evaluator.passes
  | control control keyword =>
    cases control with
    | «break» => exact pure nofun
    | «continue» => exact nomatch quiet
  | declareFunction declaration =>
    refine after _ fun id => ?_
    split
    · exact after _ fun _ => pure nofun
    · exact pure nofun
  | giveBack keyword value =>
    cases value with
    | none => exact pure nofun
    | some value => exact after _ fun _ => pure nofun
  | declareClass name superclass methods => exact after _ fun _ => pure nofun

end Flows

end Evaluator

/-- At no depth is there another flow: an induction on the depth. -/
theorem evaluator_flows (depth : Nat) : (evaluator depth).Flows := by
  induction depth with
  | zero => exact ⟨fun _ _ => trivial, fun _ _ => trivial⟩
  | succ depth inductionHypothesis =>
    exact ⟨inductionHypothesis.executeNode, fun value => .after _ fun _ => .pure rfl⟩

/-! ### Passes without increment -/

/-- The flow with which a loop ends when its body ends with a flow, or none if the loop goes on. -/
def Flow.leaves : Flow → Option Flow
  | .completed => none
  | .continued => none
  | .broke => some .completed
  | .returned value => some (.returned value)

namespace Evaluator

variable (evaluator : Evaluator)

/-- A pass of a loop whose body is any run, without increment. -/
def lap (condition : Expression) (body : Run Flow) : Run (Option Flow) := do
  if (← evaluator.evaluate condition).isTruthy then
    return (← body).leaves
  else
    return some .completed

/-- One statement in a row of its own. -/
theorem executeAll_singleton (statement : Statement) :
    evaluator.executeAll [statement] = evaluator.execute statement := by
  funext machine
  show EStateM.bind (evaluator.execute statement) _ machine = _
  unfold EStateM.bind
  cases evaluator.execute statement machine with
  | ok flow after => cases flow <;> rfl
  | error stop after => rfl

theorem pass_bare (condition : Expression) (body : Statement) :
    evaluator.pass condition body none = evaluator.lap condition (evaluator.execute body) := by
  unfold pass lap
  refine bind_congr fun value => ?_
  split
  · refine bind_congr fun flow => ?_
    cases flow <;> rfl
  · rfl

/-- An increment behind a body that no `continue` cuts short is the last statement of the body. -/
theorem pass_row {evaluator : Evaluator} (flows : evaluator.Flows) (condition : Expression)
    {body : Statement} (quiet : body.continues = false) (increment : Expression) :
    evaluator.pass condition body (some (.expression increment)) =
      evaluator.lap condition (evaluator.executeAll [body, .expression increment]) := by
  have last : (evaluator.execute (.expression increment) >>= fun _ => Pure.pure none) =
      evaluator.executeAll [.expression increment] >>= fun flow => Pure.pure flow.leaves := by
    rw [executeAll_singleton]
    exact (flows.completes increment).bind_congr fun _ completed => completed ▸ rfl
  unfold pass lap
  refine bind_congr fun value => ?_
  split
  · rw [executeAll, bind_assoc]
    refine (flows.quiet quiet).bind_congr fun flow notContinued => ?_
    cases flow with
    | completed => exact last
    | continued => exact absurd rfl notContinued
    | broke | returned _ => rfl
  · rfl

end Evaluator

/-! ### Passes with an increment -/

namespace Tracer

variable (tracer : Tracer) (condition : Expression) (body : Statement) (increment : Expression)

/-- The ways in which a pass of a loop goes, with what is written down meanwhile. Behind a body that
completed or was cut short by `continue`, the increment is run once; it is not run when the
condition stops or does not hold, nor behind a body that broke, returned or stopped. -/
inductive Lap (machine : Machine) :
    EStateM.Result Stop Machine (Option Flow) → List Moment → Prop
  | conditionStops {stop : Stop} {after : Machine} :
    tracer.evaluator.evaluate condition machine = .error stop after →
    Lap machine (.error stop after) (tracer.evaluate condition machine)
  | fails {value : Value} {after : Machine} :
    tracer.evaluator.evaluate condition machine = .ok value after → value.isTruthy = false →
    Lap machine (.ok (some .completed) after) (tracer.evaluate condition machine)
  | bodyStops {value : Value} {middle : Machine} {stop : Stop} {after : Machine} :
    tracer.evaluator.evaluate condition machine = .ok value middle → value.isTruthy = true →
    tracer.evaluator.execute body middle = .error stop after →
    Lap machine (.error stop after)
      (tracer.evaluate condition machine ++ tracer.execute body middle)
  | broke {value : Value} {middle after : Machine} :
    tracer.evaluator.evaluate condition machine = .ok value middle → value.isTruthy = true →
    tracer.evaluator.execute body middle = .ok .broke after →
    Lap machine (.ok (some .completed) after)
      (tracer.evaluate condition machine ++ tracer.execute body middle)
  | returned {value result : Value} {middle after : Machine} :
    tracer.evaluator.evaluate condition machine = .ok value middle → value.isTruthy = true →
    tracer.evaluator.execute body middle = .ok (.returned result) after →
    Lap machine (.ok (some (.returned result)) after)
      (tracer.evaluate condition machine ++ tracer.execute body middle)
  | incrementStops {value : Value} {flow : Flow} {middle after last : Machine} {stop : Stop} :
    tracer.evaluator.evaluate condition machine = .ok value middle → value.isTruthy = true →
    tracer.evaluator.execute body middle = .ok flow after →
    flow = .completed ∨ flow = .continued →
    tracer.evaluator.execute (.expression increment) after = .error stop last →
    Lap machine (.error stop last) (tracer.evaluate condition machine ++
      (tracer.execute body middle ++ tracer.execute (.expression increment) after))
  | goesOn {value : Value} {flow ended : Flow} {middle after last : Machine} :
    tracer.evaluator.evaluate condition machine = .ok value middle → value.isTruthy = true →
    tracer.evaluator.execute body middle = .ok flow after →
    flow = .completed ∨ flow = .continued →
    tracer.evaluator.execute (.expression increment) after = .ok ended last →
    Lap machine (.ok none last) (tracer.evaluate condition machine ++
      (tracer.execute body middle ++ tracer.execute (.expression increment) after))

/-- The passes of a loop, at most so many: one after the other, up to the first that stops or ends
the loop. -/
inductive Laps : Nat → Machine → EStateM.Result Stop Machine Flow → List Moment → Prop
  | exhausted {machine : Machine} : Laps 0 machine (.error .exhausted machine) []
  | stops {passes : Nat} {machine after : Machine} {stop : Stop} {moments : List Moment} :
    tracer.Lap condition body increment machine (.error stop after) moments →
    Laps (passes + 1) machine (.error stop after) moments
  | ends {passes : Nat} {machine after : Machine} {flow : Flow} {moments : List Moment} :
    tracer.Lap condition body increment machine (.ok (some flow) after) moments →
    Laps (passes + 1) machine (.ok flow after) moments
  | again {passes : Nat} {machine after : Machine} {ending : EStateM.Result Stop Machine Flow}
    {moments others : List Moment} :
    tracer.Lap condition body increment machine (.ok none after) moments →
    Laps passes after ending others → Laps (passes + 1) machine ending (moments ++ others)

theorem pass_lap (machine : Machine) : tracer.Lap condition body increment machine
    (tracer.evaluator.pass condition body (some (.expression increment)) machine)
    (tracer.pass condition body (some (.expression increment)) machine) := by
  unfold Evaluator.pass pass
  cases decided : tracer.evaluator.evaluate condition machine with
  | error stop after =>
    rw [bind_error decided, Run.thereafter, decided, List.append_nil]
    exact .conditionStops decided
  | ok value middle =>
    rw [bind_ok decided, Run.thereafter, decided]
    dsimp only
    by_cases holds : value.isTruthy = true
    · rw [if_pos holds, if_pos holds]
      cases ended : tracer.evaluator.execute body middle with
      | error stop after =>
        rw [bind_error ended, Run.thereafter, ended, List.append_nil]
        exact .bodyStops decided holds ended
      | ok flow after =>
        rw [bind_ok ended, Run.thereafter, ended]
        have behind (goesOn : flow = .completed ∨ flow = .continued) :
            tracer.Lap condition body increment machine
              ((tracer.evaluator.execute (.expression increment) >>= fun _ => Pure.pure none) after)
              (tracer.evaluate condition machine ++
                (tracer.execute body middle ++ tracer.execute (.expression increment) after)) := by
          cases incremented : tracer.evaluator.execute (.expression increment) after with
          | error stop last =>
            rw [bind_error incremented]
            exact .incrementStops decided holds ended goesOn incremented
          | ok flow last =>
            rw [bind_ok incremented]
            exact .goesOn decided holds ended goesOn incremented
        cases flow with
        | broke =>
          dsimp only
          rw [List.append_nil]
          exact .broke decided holds ended
        | returned result =>
          dsimp only
          rw [List.append_nil]
          exact .returned decided holds ended
        | completed => exact behind (.inl rfl)
        | continued => exact behind (.inr rfl)
    · rw [if_neg holds, if_neg holds, List.append_nil]
      exact .fails decided (Bool.eq_false_iff.mpr holds)

/-- The loop goes through its passes: an induction on how many it may make. -/
theorem repeatPass_laps (passes : Nat) (machine : Machine) :
    let pass := tracer.evaluator.pass condition body (some (.expression increment))
    tracer.Laps condition body increment passes machine (Evaluator.repeatPass pass passes machine)
      (repeatPass pass (tracer.pass condition body (some (.expression increment))) passes
        machine) := by
  intro pass
  induction passes generalizing machine with
  | zero => exact .exhausted
  | succ passes inductionHypothesis =>
    have lap : tracer.Lap condition body increment machine (pass machine) _ :=
      tracer.pass_lap condition body increment machine
    unfold Evaluator.repeatPass repeatPass
    cases ended : pass machine with
    | error stop after =>
      rw [bind_error ended, Run.thereafter, ended, List.append_nil]
      exact .stops (ended ▸ lap)
    | ok flow after =>
      rw [bind_ok ended, Run.thereafter, ended]
      rw [ended] at lap
      cases flow with
      | none => exact .again lap (inductionHypothesis after)
      | some flow =>
        dsimp only
        rw [List.append_nil]
        exact .ends lap

theorem executeNode_laps (machine : Machine) :
    let loop : Statement := .loop condition body (some (.expression increment))
    tracer.Laps condition body increment tracer.evaluator.passes machine
      (tracer.evaluator.executeNode loop machine) (tracer.executeNode loop machine) :=
  tracer.repeatPass_laps condition body increment tracer.evaluator.passes machine

end Tracer

end Lox
