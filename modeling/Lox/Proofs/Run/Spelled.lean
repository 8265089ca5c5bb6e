/-
A `for` loop does what its spelling with `while` does. A source with `for` loops spelled out is
accepted if it was accepted before, and in a session both do the same, unless a `continue` would
pass the increment by, which stands in the body then. Where there is such a `continue`, too, the
increment of a `for` loop runs once behind every pass that goes on, and behind no other one.
-/

import Lox.Proofs.Run.Braces
import Lox.Proofs.Run.Laps

namespace Lox

open Grammar

/-- Every accepted source is derived by the grammar. Spell out whatever `for` loops of it whose
bodies have no `continue` for them, and put braces around whatever statements: the source is still
accepted, and after whatever steps of a session both do the same. Whichever of them ends, the other
one ends, too, and both write the same and end in the same way, but for the line of an error.

Every `for` loop, with an initializer or without one and whatever its body, goes through its passes
one after the other: behind each body that completed or was cut short by `continue` the increment is
evaluated once, and it is not evaluated behind one that broke, returned or stopped. -/
theorem session_spelled {source : String} (accepted : Source.Accepted source) :
    (∃ program, Source.Derives source program) ∧
    (∀ {program programToo : Derivation .program} {other : String},
      Source.Derives source program → program.Spelled programToo →
      Source.scan other = (programToo.tokens, []) →
      Source.Accepted other ∧ ∀ capacity clock steps,
        ((Session.start capacity clock).after steps).Matched source other ∧
        ((Session.start capacity clock).after steps).Matched other source) ∧
    ∀ condition increment body,
      let loop := desugared none condition (some increment) body
      (∀ first, desugared (some first) condition (some increment) body = .block [first, loop]) ∧
      ∀ depth machine, (tracer depth).evaluator = evaluator depth ∧
        (tracer depth).Laps (condition.getD (.literal (.boolean true))) body increment depth machine
          (execute (depth + 1) loop machine) ((tracer depth).executeNode loop machine) ∧
        (tracer (depth + 1)).execute (.expression increment) machine =
          .execution (.expression increment) machine ::
            (tracer depth).evaluate increment machine ++ [.executed (.expression increment)
              ((execute (depth + 1) (.expression increment)).left machine)] := by
  refine ⟨accepted.derives, fun {program programToo other} derives spelled scanned => ⟨?_, ?_⟩,
    fun condition increment body => ⟨fun _ => rfl, fun depth machine =>
      ⟨tracer_evaluator depth, ?_, rfl⟩⟩⟩
  · obtain ⟨_, _, _, reading⟩ := accepted
    obtain ⟨_, distancesToo, readingToo⟩ := reading.spelled derives spelled scanned
    exact ⟨_, _, distancesToo, readingToo⟩
  · intro capacity clock steps
    have sound : Session.Sound _ ((Session.start capacity clock).after steps) :=
      Session.after_sound (Session.start_sound _ capacity clock) steps
    obtain ⟨_, _, _, reading⟩ :=
      accepted.reading ((Session.start capacity clock).after steps).nextReference
    obtain ⟨loose, _, readingToo⟩ := reading.spelled derives spelled scanned
    have twins := loose.tied id .top
      ⟨Session.placed_learn sound reading, Session.placed_learn sound readingToo⟩
    refine ⟨Session.matched_of_twins sound reading readingToo twins,
      Session.matched_of_twins sound readingToo reading ?_⟩
    rw [← Alignment.swap_same]
    exact twins.swap_known
  · have laps := (tracer depth).executeNode_laps (condition.getD (.literal (.boolean true))) body
      increment machine
    rw [tracer_evaluator] at laps
    exact laps

/-- The program `var b;` with something behind it. -/
def behindVariable (statement : Derivation .statement) : Derivation .program :=
  .wholeProgram
    (.moreDeclarations
      (.variableDeclaration (.uninitialized ⟨"var", 1⟩ ⟨"b", 1⟩ ⟨";", 1⟩))
      (.moreDeclarations (.statementDeclaration statement) .noDeclarations))
    ⟨"", 1⟩

/-- A loop that prints its own variable once. -/
theorem session_spelled_onePass :
    ∃ source other program programToo,
      (Source.Accepted source ∧ Source.Derives source program ∧ program.Spelled programToo ∧
        Source.scan other = (programToo.tokens, [])) ∧
      Source.Accepted other ∧ (Session.start none ⟨0⟩).Matched source other ∧
      (Session.start none ⟨0⟩).Matched other source := by
  let initializer : Derivation .loopInitializer :=
    .variableInitializer (.initialized ⟨"var", 1⟩ ⟨"a", 1⟩ ⟨"=", 1⟩
      (.orAlways ⟨"true", 1⟩ .noExpression) ⟨";", 1⟩)
  let condition : Derivation .optionalExpression := .someExpression (.bareName ⟨"a", 1⟩)
  let increment : Derivation .optionalExpression :=
    .someExpression (.assignVariable ⟨"a", 1⟩ ⟨"=", 1⟩ (.bareName ⟨"b", 1⟩))
  let body : Derivation .statement :=
    .printStatement ⟨"print", 1⟩ (.bareName ⟨"a", 1⟩) ⟨";", 1⟩
  let program := behindVariable (.forStatement ⟨"for", 1⟩ ⟨"(", 1⟩ initializer condition ⟨";", 1⟩
    increment ⟨")", 1⟩ body)
  let spelling : Spelling := ⟨⟨"\x7b", 1⟩, ⟨"while", 1⟩, ⟨"(", 1⟩, ⟨"true", 1⟩, ⟨")", 1⟩,
    ⟨"\x7b", 1⟩, ⟨";", 1⟩, ⟨"\x7d", 1⟩, ⟨"\x7d", 1⟩⟩
  let programToo := behindVariable (.spelledOut spelling initializer condition increment body)
  have accepted : Source.Accepted "var b;for(var a=true;a;a=b)print a;" :=
    ⟨5, program.tree 0, _, rfl, rfl, rfl⟩
  have derives : Source.Derives "var b;for(var a=true;a;a=b)print a;" program :=
    ⟨rfl, trivial, ⟨trivial, trivial, trivial, trivial⟩, trivial⟩
  have spelled : program.Spelled programToo :=
    .wholeProgram (.moreDeclarations (.refl _) (.moreDeclarations (.statementDeclaration
      (.spelledOut (fun _ => rfl) (.refl _) (.refl _) (.refl _) (.refl _))) (.refl _)))
  have scanned : Source.scan "var b;\x7bvar a=true;while(a)\x7bprint a;a=b;\x7d\x7d" =
      (programToo.tokens, []) := rfl
  have ⟨acceptedToo, matched⟩ := (session_spelled accepted).2.1 derives spelled scanned
  exact ⟨_, _, program, programToo, ⟨accepted, derives, spelled, scanned⟩, acceptedToo,
    (matched none ⟨0⟩ []).1, (matched none ⟨0⟩ []).2⟩

end Lox
