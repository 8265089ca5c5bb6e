/-
Every program that is read from tokens has its shape, and its references are fresh: an induction on
the depth to which phrases nest, and one on the declarations of the program.
-/

import Lox.Grammar.Program
import Lox.Proofs.Grammar.Statement

namespace Lox.Grammar

variable {words : Vocabulary}

/-! ### Nested phrases -/

/-- The parsers of every depth read what they should. -/
theorem nested_read (depth : Nat) :
    ReadsExpression words (expression depth) ∧ ReadsBranch words (statement depth) ∧
      ReadsStatement words (declaration depth) := by
  induction depth with
  | zero => exact ⟨fun _ _ => Goes.failHere, fun _ _ => Goes.failHere, fun _ _ => Goes.failHere⟩
  | succ depth inductionHypothesis =>
    obtain ⟨expressions, statements, declarations⟩ := inductionHypothesis
    have read : Phrases.Read words
        ⟨depth + 1, expression depth, statement depth, declaration depth⟩ :=
      ⟨expressions, statements, declarations⟩
    exact ⟨read.wholeExpression, read.wholeStatement, read.wholeDeclaration⟩

/-! ### Programs -/

theorem attempts_read (depth limit : Nat) (state : State) (admitted : words.AdmitsAll state.rest) :
    Statement.AllShaped words (statementsOf (attempts depth limit state).1) ∧
      Fresh state.nextReference (attempts depth limit state).2
        (Statement.allReferences (statementsOf (attempts depth limit state).1)) := by
  induction limit generalizing state with
  | zero => exact ⟨trivial, .nil (Nat.le_refl _)⟩
  | succ limit inductionHypothesis =>
    unfold attempts
    split
    · exact ⟨trivial, .nil (Nat.le_refl _)⟩
    · have reads := (nested_read depth).2.2 state admitted
      cases ended : declaration depth state with
      | ok statement after =>
        have ⟨later, _, grown⟩ := reads.ok ended
        have ⟨shaped, fresh⟩ := inductionHypothesis after (later.admits admitted)
        exact ⟨⟨grown.shaped, shaped⟩, grown.fresh.append fresh⟩
      | error error after =>
        have later := reads.error ended
        have ⟨shaped, fresh⟩ := inductionHypothesis after (later.admits admitted)
        exact ⟨shaped, fresh.widen later.references (Nat.le_refl _)⟩

/-- A program that is read from tokens has its shape, its words are words of the tokens, and its
references are fresh. -/
theorem parseProgram_read {tokens : List Token} {nextReference high : Reference}
    {statements : List Statement} (admitted : words.AdmitsAll tokens)
    (parsed : parseProgram tokens nextReference = (.ok statements, high)) :
    Statement.AllShaped words statements ∧
      Fresh nextReference high (Statement.allReferences statements) := by
  have read := attempts_read (depthOf tokens) tokens.length ⟨tokens, nextReference⟩ admitted
  unfold parseProgram parseItems at parsed
  dsimp only at parsed
  split at parsed
  · cases parsed
    exact read
  · exact nomatch parsed

theorem loneExpression_read (depth : Nat) (state : State) (admitted : words.AdmitsAll state.rest) :
    Goes (loneExpression depth) state fun found after =>
      found.Shaped words ∧ Fresh state.nextReference after.nextReference found.references := by
  refine ((nested_read _).1 _ admitted).bind fun found after _ ⟨_, grown⟩ => ?_
  refine Goes.get_bind ?_
  split
  · exact Goes.pure ⟨grown.shaped, grown.fresh⟩
  · exact Goes.failHere

/-- A lone expression that is read from tokens likewise. -/
theorem parseExpression_read {tokens : List Token} {nextReference high : Reference}
    {expression : Expression} (admitted : words.AdmitsAll tokens)
    (parsed : parseExpression tokens nextReference = (.ok expression, high)) :
    expression.Shaped words ∧ Fresh nextReference high expression.references := by
  have read := loneExpression_read (depthOf tokens) ⟨tokens, nextReference⟩ admitted
  unfold parseExpression at parsed
  cases ended : loneExpression (depthOf tokens) ⟨tokens, nextReference⟩ with
  | ok found after =>
    rw [ended] at parsed
    cases parsed
    exact (read.ok ended).2
  | error error after =>
    rw [ended] at parsed
    exact nomatch parsed

/-- References are only drawn, also by a program with errors. -/
theorem parseProgram_references (tokens : List Token) (nextReference : Reference) :
    nextReference ≤ (parseProgram tokens nextReference).2 := by
  have read := attempts_read (depthOf tokens) tokens.length
    ⟨tokens, nextReference⟩ (Vocabulary.any_admitsAll tokens)
  unfold parseProgram parseItems
  dsimp only
  split <;> exact read.2.ordered

theorem parseExpression_references (tokens : List Token) (nextReference : Reference) :
    nextReference ≤ (parseExpression tokens nextReference).2 := by
  have read := loneExpression_read (depthOf tokens)
    ⟨tokens, nextReference⟩ (Vocabulary.any_admitsAll tokens)
  unfold parseExpression
  cases ended : loneExpression (depthOf tokens) ⟨tokens, nextReference⟩ with
  | ok found after => exact (read.ok ended).2.2.ordered
  | error error after => exact (read.error ended).references

end Lox.Grammar
