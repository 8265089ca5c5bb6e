/-
Everything that can be asked of a session: its steps, and the runs of trees that have not been
resolved. Whatever is asked, at most one parse draws references, at most one table is learned, and
after that trees are run that were read from the source.
-/

import Lox.Proofs.Grammar.Parses
import Lox.Proofs.Run.Cursor
import Lox.Proofs.Run.Sessions
import Lox.Proofs.Tree.Parts

namespace Lox

open Scope

/-! ### Requests -/

/-- Something that is asked of a session. -/
inductive Request where
  | step (step : Step)
  | executeUnresolved (depth : Nat) (source : String)
  | interpretUnresolved (depth : Nat) (source : String)
  | evaluateAt (depth : Nat) (source : String) (distance : Nat)

/-- The parse that is made for a request. A lone expression is parsed only if its tokens are without
errors. -/
def Request.parse? : Request → Option Grammar.Parse
  | .step (.defineNative _) => none
  | .step (.run _ source) => some (.program (Source.scan source).1)
  | .step (.evaluate _ source) =>
    if (Source.scan source).2.isEmpty then some (.expression (Source.scan source).1) else none
  | .executeUnresolved _ source => some (.program (Source.scan source).1)
  | .interpretUnresolved _ source => some (.program (Source.scan source).1)
  | .evaluateAt _ source _ =>
    if (Source.scan source).2.isEmpty then some (.expression (Source.scan source).1) else none

namespace Session

/-- The session after a request. -/
def serve (session : Session) : Request → Session
  | .step step => session.step step
  | .executeUnresolved depth source => (session.executeUnresolved depth source).2
  | .interpretUnresolved depth source => (session.interpretUnresolved depth source).2
  | .evaluateAt depth source distance => (session.evaluateAt depth source distance).2

/-- The session after some requests. -/
def serveAll (session : Session) (requests : List Request) : Session :=
  requests.foldl Session.serve session

/-- The table of a program that was read, empty where there is none. -/
def programTable : Except (List Fault) (List Statement) → Distances
  | .ok statements => (resolveProgram statements).toOption.getD ∅
  | .error _ => ∅

/-- The table of a lone expression that was read, empty where there is none. -/
def expressionTable : Except (List Fault) Expression → Distances
  | .ok expression => (resolveExpression expression).toOption.getD ∅
  | .error _ => ∅

/-- The table that gives the outermost occurrence of a name the distance. -/
def outermostTable (distance : Nat) : Except (List Fault) Expression → Distances
  | .ok expression =>
    ((reference? expression).map fun reference => {(reference, distance)}).getD ∅
  | .error _ => ∅

/-- The table that is learned for a request. -/
def recorded (session : Session) : Request → Distances
  | .step (.defineNative _) => ∅
  | .step (.run _ source) => programTable (session.readProgram source).1
  | .step (.evaluate _ source) => expressionTable (session.readExpression source).1
  | .executeUnresolved _ _ => ∅
  | .interpretUnresolved _ _ => ∅
  | .evaluateAt _ source distance => outermostTable distance (session.readExpression source).1

/-- In the step a source is accepted, and the tree, which is the lone expression or one of the
statements that were read from it, is taken up to be run. -/
inductive Takes (session : Session) : Step → String → Constituent → Prop
  | statement {depth : Nat} {source : String} {statements : List Statement} {read : Session}
    {distances : Distances} {statement : Statement} :
    session.readProgram source = (.ok statements, read) →
    resolveProgram statements = .ok distances → statement ∈ statements →
    Takes session (.run depth source) source (.statement statement)
  | expression {depth : Nat} {source : String} {expression : Expression} {read : Session}
    {distances : Distances} :
    session.readExpression source = (.ok expression, read) →
    resolveExpression expression = .ok distances →
    Takes session (.evaluate depth source) source (.expression expression)

theorem Takes.spelled {session : Session} {step : Step} {source : String} {tree : Constituent}
    (takes : session.Takes step source tree) : Dialect.spelled.has tree := by
  cases takes with
  | statement read _ member =>
    obtain ⟨_, _, shaped, _⟩ := readProgram_read read
    exact shaped.of_mem member
  | expression read _ =>
    obtain ⟨_, _, shaped, _⟩ := readExpression_read read
    exact shaped

end Session

/-! ### Runs of trees -/

/-- A machine has gone on to another one by runs of trees of a dialect, whatever the depth and the
end of each, and by new native functions. -/
inductive Machine.Ran (dialect : Dialect) : Machine → Machine → Prop
  | refl (machine : Machine) : Ran dialect machine machine
  | native {before after : Machine} (native : NativeFunction) : Ran dialect before after →
    Ran dialect before (after.withHeap (after.heap.defineNative native))
  | evaluate {before after : Machine} {expression : Expression} (depth : Nat) :
    Ran dialect before after → dialect.has (.expression expression) →
    Ran dialect before ((Lox.evaluate depth expression).left after)
  | execute {before after : Machine} {statement : Statement} (depth : Nat) :
    Ran dialect before after → dialect.has (.statement statement) →
    Ran dialect before ((Lox.execute depth statement).left after)

namespace Machine.Ran

variable {dialect : Dialect} {before after : Machine}

/-- A program is a run of its statements, up to the first error. -/
theorem interpret (ran : Ran dialect before after) (depth : Nat) {statements : List Statement}
    (within : ∀ statement ∈ statements, dialect.has (.statement statement)) :
    Ran dialect before ((Lox.interpret depth statements).left after) := by
  induction statements generalizing after with
  | nil => exact ran
  | cons statement others inductionHypothesis =>
    have first := ran.execute depth (within statement List.mem_cons_self)
    rcases Run.Restores.left_bind (Lox.execute depth statement)
      (fun _ => Lox.interpret depth others) after with ⟨_, left⟩ | left
    · rw [Lox.interpret, left]
      exact inductionHypothesis first fun other member =>
        within other (List.mem_cons_of_mem statement member)
    · rw [Lox.interpret, left]
      exact first

end Machine.Ran

/-! ### What a request does -/

namespace Session

variable {session : Session}

theorem executeEach_next (depth : Nat) (session : Session) (statements : List Statement) :
    (session.executeEach depth statements).2.nextReference = session.nextReference := by
  induction statements generalizing session with
  | nil => rfl
  | cons statement others inductionHypothesis =>
    exact (inductionHypothesis _).trans
      (perform_nextReference session (execute depth statement))

theorem executeEach_ran {dialect : Dialect} {before : Machine} (depth : Nat) (session : Session)
    {statements : List Statement}
    (within : ∀ statement ∈ statements, dialect.has (.statement statement))
    (ran : Machine.Ran dialect before session.machine) :
    Machine.Ran dialect before (session.executeEach depth statements).2.machine := by
  induction statements generalizing session with
  | nil => exact ran
  | cons statement others inductionHypothesis =>
    have first := ran.execute depth (within statement List.mem_cons_self)
    rw [← perform_machine] at first
    exact inductionHypothesis _ (fun other member =>
      within other (List.mem_cons_of_mem statement member)) first

theorem readProgram_nextReference (session : Session) (source : String) :
    (session.readProgram source).2.nextReference =
      Grammar.Parse.next session.nextReference (.program (Source.scan source).1) := by
  unfold readProgram
  dsimp only
  split <;> rfl

theorem readExpression_nextReference (session : Session) (source : String) :
    (session.readExpression source).2.nextReference =
      ((if (Source.scan source).2.isEmpty then
        some (Grammar.Parse.expression (Source.scan source).1) else none).map
          (Grammar.Parse.next session.nextReference)).getD session.nextReference := by
  unfold readExpression
  dsimp only
  split
  · rename_i noErrors
    rw [noErrors]
    split <;> rfl
  · rename_i someErrors
    rw [if_neg (mt List.isEmpty_iff.mp someErrors)]
    rfl

/-- Serving a request draws the references of its parse. -/
theorem serve_next (session : Session) (request : Request) :
    (session.serve request).nextReference =
      (request.parse?.map (Grammar.Parse.next session.nextReference)).getD
        session.nextReference := by
  cases request with
  | step step =>
    cases step with
    | defineNative native => rfl
    | run depth source =>
      refine Eq.trans ?_ (readProgram_nextReference session source)
      show (session.run depth source).2.nextReference = _
      rcases run_cases depth session source with
        ⟨_, _, rejected⟩ | ⟨_, _, _, isRead, _, accepted⟩
      · rw [rejected]
      · rw [accepted, isRead]
        exact perform_nextReference _ _
    | evaluate depth source =>
      refine Eq.trans ?_ (readExpression_nextReference session source)
      show (session.evaluate depth source).2.nextReference = _
      rcases evaluate_cases depth session source with
        ⟨_, _, rejected⟩ | ⟨_, _, _, isRead, _, accepted⟩
      · rw [rejected]
      · rw [accepted, isRead]
        exact perform_nextReference _ _
  | executeUnresolved depth source =>
    refine Eq.trans ?_ (readProgram_nextReference session source)
    show (session.executeUnresolved depth source).2.nextReference = _
    unfold executeUnresolved
    cases read : session.readProgram source with
    | mk program after =>
      cases program with
      | error faults => rfl
      | ok statements => exact executeEach_next depth after statements
  | interpretUnresolved depth source =>
    show (session.interpretUnresolved depth source).2.nextReference =
      (Grammar.parseProgram (Source.scan source).1 session.nextReference).2
    unfold interpretUnresolved
    cases parsed : Grammar.parseProgram (Source.scan source).1 session.nextReference with
    | mk program high =>
      cases program with
      | error errors => rfl
      | ok statements => exact perform_nextReference _ _
  | evaluateAt depth source distance =>
    refine Eq.trans ?_ (readExpression_nextReference session source)
    show (session.evaluateAt depth source distance).2.nextReference = _
    unfold evaluateAt
    cases read : session.readExpression source with
    | mk result after =>
      cases result with
      | error faults => rfl
      | ok expression =>
        dsimp only
        cases reference? expression with
        | none => exact perform_nextReference _ _
        | some reference => exact perform_nextReference _ _

theorem unchanged {dialect : Dialect} (machine : Machine) :
    Machine.Ran dialect (machine.learn ∅) machine :=
  .refl machine

/-- A step learns the table of its source and then runs the trees that it takes up. -/
theorem step_ran {dialect : Dialect} (session : Session) (step : Step)
    (taken : ∀ source tree, session.Takes step source tree → dialect.has tree) :
    Machine.Ran dialect (session.machine.learn (session.recorded (.step step)))
      (session.step step).machine := by
  cases step with
  | defineNative native => exact (unchanged session.machine).native native
  | run depth source =>
    have same := readProgram_machine session source
    show Machine.Ran dialect
      (session.machine.learn (programTable (session.readProgram source).1))
      (session.run depth source).2.machine
    unfold run
    cases read : session.readProgram source with
    | mk program after =>
      rw [read] at same
      rw [← show after.machine = session.machine from same]
      cases program with
      | error faults => exact unchanged after.machine
      | ok statements =>
        unfold programTable
        dsimp only
        cases resolved : resolveProgram statements with
        | error errors => exact unchanged after.machine
        | ok distances =>
          dsimp only
          rw [perform_machine]
          exact (Machine.Ran.refl _).interpret depth fun statement member =>
            taken source _ (.statement read resolved member)
  | evaluate depth source =>
    have same := readExpression_machine session source
    show Machine.Ran dialect
      (session.machine.learn (expressionTable (session.readExpression source).1))
      (session.evaluate depth source).2.machine
    unfold evaluate
    cases read : session.readExpression source with
    | mk result after =>
      rw [read] at same
      rw [← show after.machine = session.machine from same]
      cases result with
      | error faults => exact unchanged after.machine
      | ok expression =>
        unfold expressionTable
        dsimp only
        cases resolved : resolveExpression expression with
        | error errors => exact unchanged after.machine
        | ok distances =>
          dsimp only
          rw [perform_machine]
          exact (Machine.Ran.refl _).evaluate depth (taken source _ (.expression read resolved))

theorem executeUnresolved_ran (session : Session) (depth : Nat) (source : String) :
    Machine.Ran .spelled session.machine (session.executeUnresolved depth source).2.machine := by
  have same := readProgram_machine session source
  unfold executeUnresolved
  cases read : session.readProgram source with
  | mk program after =>
    rw [read] at same
    rw [← show after.machine = session.machine from same]
    cases program with
    | error faults => exact .refl after.machine
    | ok statements =>
      obtain ⟨_, _, shaped, _⟩ := readProgram_read read
      exact executeEach_ran depth after (fun statement member => shaped.of_mem member)
        (.refl after.machine)

theorem interpretUnresolved_ran (session : Session) (depth : Nat) (source : String) :
    Machine.Ran .spelled session.machine
      (session.interpretUnresolved depth source).2.machine := by
  unfold interpretUnresolved
  cases parsed : Grammar.parseProgram (Source.scan source).1 session.nextReference with
  | mk program high =>
    cases program with
    | error errors => exact .refl session.machine
    | ok statements =>
      have ⟨shaped, _⟩ := Grammar.parseProgram_read (Source.scan_admitted source) parsed
      dsimp only
      rw [perform_machine]
      exact (Machine.Ran.refl _).interpret depth fun statement member => shaped.of_mem member

theorem evaluateAt_ran (session : Session) (depth : Nat) (source : String) (distance : Nat) :
    Machine.Ran .spelled
      (session.machine.learn (outermostTable distance (session.readExpression source).1))
      (session.evaluateAt depth source distance).2.machine := by
  have same := readExpression_machine session source
  unfold evaluateAt
  cases read : session.readExpression source with
  | mk result after =>
    rw [read] at same
    rw [← show after.machine = session.machine from same]
    cases result with
    | error faults => exact unchanged after.machine
    | ok expression =>
      obtain ⟨_, _, shaped, _⟩ := readExpression_read read
      unfold outermostTable
      dsimp only
      rw [perform_machine]
      cases reference? expression with
      | none => exact (unchanged after.machine).evaluate depth shaped
      | some reference => exact (Machine.Ran.refl _).evaluate depth shaped

/-- Serving a request learns the table of the request and then runs trees that were read. -/
theorem serve_ran (session : Session) (request : Request) :
    Machine.Ran .spelled (session.machine.learn (session.recorded request))
      (session.serve request).machine := by
  cases request with
  | step step => exact session.step_ran step fun _ _ takes => takes.spelled
  | executeUnresolved depth source => exact session.executeUnresolved_ran depth source
  | interpretUnresolved depth source => exact session.interpretUnresolved_ran depth source
  | evaluateAt depth source distance => exact session.evaluateAt_ran depth source distance

end Session

end Lox
