/-
Where runtime errors point. The trees that a session runs are those of the sources that were
accepted in it, and so are the functions that it keeps from one source to the next. A problem that
stops a run is led back to the tree that is to blame, which stands in one of these sources, and to
the token of that source at which its node reports it. Only errors of the output have no place.
-/

import Lox.Proofs.Run.Blames
import Lox.Proofs.Source.Seam

namespace Lox

open Constituent (Throughout Within)
open Scope

/-! ### Accepted sources -/

namespace Session

/-- In one of the steps the source is accepted, and the tree, which was read from it, is taken up to
be run. -/
inductive Accepts : Session → List Step → String → Constituent → Prop
  | now {session : Session} {step : Step} {others : List Step} {source : String}
    {tree : Constituent} : session.Takes step source tree →
    Accepts session (step :: others) source tree
  | later {session : Session} {step : Step} {others : List Step} {source : String}
    {tree : Constituent} : Accepts (session.step step) others source tree →
    Accepts session (step :: others) source tree

variable {session : Session} {step : Step} {steps : List Step} {source : String}
  {tree : Constituent}

/-- What is taken up after some steps is accepted when that is the next one. -/
theorem Takes.accepts (takes : (session.after steps).Takes step source tree) :
    session.Accepts (steps ++ [step]) source tree := by
  induction steps generalizing session with
  | nil => exact .now takes
  | cons first others inductionHypothesis => exact .later (inductionHypothesis takes)

theorem Accepts.append (accepts : session.Accepts steps source tree) (others : List Step) :
    session.Accepts (steps ++ others) source tree := by
  induction accepts with
  | now takes => exact .now takes
  | later _ inductionHypothesis => exact .later inductionHypothesis

/-- What is accepted in some steps is taken up in one of them. -/
theorem Accepts.taken (accepts : session.Accepts steps source tree) :
    ∃ before step, Takes before step source tree := by
  induction accepts with
  | now takes => exact ⟨_, _, takes⟩
  | later _ inductionHypothesis => exact inductionHypothesis

/-- The trees that are accepted in the steps, with everything inside them. -/
def accepted (session : Session) (steps : List Step) : Dialect where
  has part := ∃ source tree, session.Accepts steps source tree ∧ Within tree part
  closed := fun ⟨source, tree, accepts, within⟩ isPart =>
    ⟨source, tree, accepts, within.tail isPart⟩

theorem accepted_spelled {part : Constituent} (isAccepted : (session.accepted steps).has part) :
    Dialect.spelled.has part := by
  obtain ⟨source, tree, accepts, within⟩ := isAccepted
  obtain ⟨_, _, takes⟩ := accepts.taken
  induction within with
  | refl => exact takes.spelled
  | tail _ isPart inductionHypothesis => exact Dialect.spelled.closed inductionHypothesis isPart

/-- Every token that is kept in an accepted tree is one of the tokens of its source. -/
theorem Takes.keeps (takes : session.Takes step source tree) :
    Throughout (Constituent.Keeps fun token =>
      token ∈ (Source.scan source).1 ∧ token.IsSpelled) tree := by
  have spelled (token : Token) (isToken : token ∈ (Source.scan source).1 ∧ token.IsSpelled) :
      token.IsSpelled := isToken.2
  have all (token : Token) (member : token ∈ (Source.scan source).1) :
      token ∈ (Source.scan source).1 ∧ token.IsSpelled :=
    ⟨member, Source.scan_lexeme member⟩
  cases takes with
  | statement read _ member =>
    obtain ⟨_, _, _, parsed⟩ := readProgram_parsed read
    exact Grammar.parseProgram_keeps spelled all parsed _ (List.mem_map_of_mem member)
  | expression read _ =>
    obtain ⟨_, _, parsed⟩ := readExpression_parsed read
    exact Grammar.parseExpression_keeps spelled all parsed

/-- A session whose trees are of a dialect goes on to stand in it. -/
theorem after_stands {dialect : Dialect} (stands : session.machine.Stands dialect)
    (areTrees : ∀ source tree, session.Accepts steps source tree → dialect.has tree) :
    (session.after steps).machine.Stands dialect := by
  induction steps generalizing session with
  | nil => exact stands
  | cons step others inductionHypothesis =>
    have learned : session.machine.Chain dialect
        (session.machine.learn (session.recorded (.step step))) :=
      Machine.learn_chain _ _
    have ran := session.step_ran step fun source tree takes => areTrees source tree (.now takes)
    exact inductionHypothesis ((ran.chain (learned.stands stands)).stands (learned.stands stands))
      fun source tree accepts => areTrees source tree (.later accepts)

end Session

/-! ### Programs -/

/-- The moments of a program, up to the first error. -/
def programTrace (depth : Nat) : List Statement → Machine → List Moment
  | [], _ => []
  | statement :: others, machine =>
    (tracer depth).execute statement machine ++
      (execute depth statement).thereafter machine fun _ after => programTrace depth others after

theorem interpret_blames {dialect : Dialect} (spelled : ∀ {part : Constituent},
    dialect.has part → Dialect.spelled.has part) {own : RuntimeProblem → Nat → Prop} (depth : Nat)
    {statements : List Statement}
    (areTrees : ∀ statement ∈ statements, dialect.has (.statement statement)) {machine : Machine} :
    (interpret depth statements).Blames dialect own machine
      (programTrace depth statements machine) := by
  induction statements generalizing machine with
  | nil => exact .pure
  | cons statement others inductionHypothesis =>
    have isTree := areTrees statement List.mem_cons_self
    have first : ((tracer depth).evaluator.execute statement).Blames dialect own machine _ :=
      (tracer_blames spelled depth).execute isTree
    rw [tracer_evaluator] at first
    exact first.bind ((evaluator_proceeds dialect depth).execute isTree) fun _ _ _ _ =>
      inductionHypothesis fun other member => areTrees other (List.mem_cons_of_mem statement member)

namespace Session

/-- The moments of the run of a source. -/
def trace (depth : Nat) (session : Session) (source : String) : List Moment :=
  match session.readProgram source with
  | (.error _, _) => []
  | (.ok statements, read) =>
    match resolveProgram statements with
    | .error _ => []
    | .ok distances => programTrace depth statements (read.learn distances).machine

variable {session after : Session} {source : String} {depth : Nat} {error : RuntimeError}

/-- A runtime error is an error of the program. -/
theorem run_error (failed : session.run depth source = (.failed [.runtime error], after)) :
    ∃ statements read distances stopped,
      session.readProgram source = (.ok statements, read) ∧
      resolveProgram statements = .ok distances ∧
      interpret depth statements (read.learn distances).machine =
        .error (.error error) stopped := by
  rcases run_cases depth session source with
    ⟨faults, unrun, rejected⟩ | ⟨statements, distances, read, isRead, resolved, accepted⟩
  · cases rejected.symm.trans failed
    exact absurd List.mem_cons_self (unrun error)
  · rw [accepted] at failed
    unfold perform at failed
    split at failed
    · cases failed
    · rename_i stopped ended
      cases failed
      exact ⟨statements, read, distances, stopped, isRead, resolved, ended⟩
    · cases failed

/-! ### Runtime errors -/

variable {steps : List Step} {problem : RuntimeProblem} {line : Nat}

/-- A tree of an accepted source that is to blame reports at one of the tokens of the source. -/
theorem reports_token {moment : Moment}
    (isToBlame : moment.IsToBlame (session.accepted steps) problem line) :
    ∃ text tree part token, session.Accepts steps text tree ∧ Within tree part ∧
      moment.Breaks part problem line ∧ part.Raises problem token ∧ token.line = line ∧
      token ∈ (Source.scan text).1 := by
  obtain ⟨part, ⟨text, tree, accepts, within⟩, breaks, token, raises, isLine⟩ := isToBlame
  obtain ⟨_, _, takes⟩ := accepts.taken
  have keeps : Throughout (Constituent.Keeps _) part :=
    fun inner withinPart => takes.keeps inner (within.trans withinPart)
  exact ⟨text, tree, part, token, accepts, within, breaks, raises, isLine, (raises.holds keeps).1⟩

/-- Where a run is stopped by a problem at a line, a tree is to blame that was accepted in the
session. -/
theorem run_blames {capacity : Option Nat} {clock : Clock}
    (failed : ((start capacity clock).after steps).run depth source =
      (.failed [.runtime (.located problem line)], after)) :
    ∃ moment ∈ ((start capacity clock).after steps).trace depth source,
      moment.IsToBlame ((start capacity clock).accepted (steps ++ [.run depth source])) problem
        line := by
  obtain ⟨statements, read, distances, stopped, isRead, resolved, ended⟩ := run_error failed
  let dialect := (start capacity clock).accepted (steps ++ [.run depth source])
  have stands : ((start capacity clock).after steps).machine.Stands dialect :=
    after_stands (Machine.start_stands capacity clock) fun text tree accepts =>
      ⟨text, tree, accepts.append _, .refl⟩
  have standsRead : (read.learn distances).machine.Stands dialect := by
    obtain ⟨_, _, rfl, _⟩ := readProgram_parsed isRead
    exact (Machine.learn_chain _ distances).stands stands
  have areTrees (statement : Statement) (member : statement ∈ statements) :
      dialect.has (.statement statement) :=
    ⟨source, _, Takes.accepts (.statement isRead resolved member), .refl⟩
  let moments := programTrace depth statements (read.learn distances).machine
  have isTrace : ((start capacity clock).after steps).trace depth source = moments := by
    unfold trace
    rw [isRead]
    dsimp only
    rw [resolved]
  have blames : (interpret depth statements).Blames dialect (fun _ _ => False)
      (read.learn distances).machine moments :=
    interpret_blames accepted_spelled depth areTrees
  rw [isTrace]
  exact ((blames standsRead).error ended problem line rfl).resolve_right And.right

/-- Only an error of the output has no line. A problem at a line stopped a tree that began at some
moment of the run, and none of the trees inside it. The tree stands in a source that was accepted in
the session, in this step or before, and the line is that of a token of that source: of the token
which the node of the tree keeps for the problem. -/
theorem run_located {capacity : Option Nat} {clock : Clock}
    (failed : ((start capacity clock).after steps).run depth source =
      (.failed [.runtime error], after)) :
    (error.line = 0 ↔ ∃ problem, error = .output problem) ∧
    ∀ problem line, error = .located problem line → 1 ≤ line ∧
      ∃ moment ∈ ((start capacity clock).after steps).trace depth source,
        ∃ text tree part token,
          (start capacity clock).Accepts (steps ++ [.run depth source]) text tree ∧
          Within tree part ∧ moment.Breaks part problem line ∧ part.Raises problem token ∧
          token.line = line ∧ token ∈ (Source.scan text).1 := by
  cases error with
  | output problem => exact ⟨⟨fun _ => ⟨problem, rfl⟩, fun _ => rfl⟩, nofun⟩
  | located problem line =>
    obtain ⟨moment, member, isToBlame⟩ := run_blames failed
    obtain ⟨text, tree, part, token, accepts, within, breaks, raises, rfl, isToken⟩ :=
      reports_token isToBlame
    have isLine : 1 ≤ token.line := Source.scan_line_pos isToken
    refine ⟨⟨fun isZero => absurd isZero (Nat.ne_of_gt isLine), nofun⟩, ?_⟩
    rintro _ _ ⟨⟩
    exact ⟨isLine, moment, member, text, tree, part, token, accepts, within, breaks, raises, rfl,
      isToken⟩

/-- A function of an earlier source fails when it is called in a later one. -/
theorem run_located_closure :
    ∃ steps after, steps = [.run 9 "fun f(x)\x7b\nreturn -x;\x7d"] ∧
      ((start none ⟨0⟩).after steps).run 9 "f(nil);" =
        (.failed [.runtime (.located (.type .operand) 2)], after) ∧
      ∃ moment ∈ ((start none ⟨0⟩).after steps).trace 9 "f(nil);",
        ∃ text tree part token,
          (start none ⟨0⟩).Accepts (steps ++ [.run 9 "f(nil);"]) text tree ∧
          Within tree part ∧ moment.Breaks part (.type .operand) 2 ∧
          part.Raises (.type .operand) token ∧ token.line = 2 ∧
          token ∈ (Source.scan text).1 := by
  have failed : ((start none ⟨0⟩).after [.run 9 "fun f(x)\x7b\nreturn -x;\x7d"]).run 9 "f(nil);" =
      (.failed [.runtime (.located (.type .operand) 2)], _) := rfl
  exact ⟨_, _, rfl, failed, ((run_located failed).2 _ _ rfl).2⟩

end Session

end Lox
