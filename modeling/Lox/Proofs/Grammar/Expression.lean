/-
Every expression that is read from tokens has its shape, and its references are fresh. The parsers
of this file follow the levels of the grammar, so there is one theorem for each of them.
-/

import Lox.Grammar.Expression
import Lox.Proofs.Grammar.Reads

namespace Lox.Grammar

variable {words : Vocabulary} {α : Type}

/-! ### Nested phrases -/

/-- The parsers of nested phrases read what they should. -/
structure Phrases.Read (words : Vocabulary) (phrases : Phrases) : Prop where
  expression : ReadsExpression words phrases.expression
  statement : ReadsBranch words phrases.statement
  declaration : ReadsStatement words phrases.declaration

namespace Phrases.Read

variable {phrases : Phrases}

/-! ### Blocks and functions -/

theorem block (read : phrases.Read words) :
    Reads words phrases.block (Statement.AllShaped words) Statement.allReferences := by
  intro state admitted
  refine (untilBrace_grows read.declaration phrases.limit state admitted).bind ?_
  intro statements second secondLater grown
  refine (Goes.expect .rightBrace _).bind fun _ third _ ⟨drawn, shorter, _⟩ => ?_
  refine Goes.pure ⟨?_, ?_, ?_⟩
  · have := secondLater.length_le
    omega
  · exact (statementAllShaped_iff statements).mpr grown.shaped
  · rw [statementAllReferences_eq]
    exact drawn ▸ grown.fresh

theorem functionTail (read : phrases.Read words) (kind role : String) (name : Option Identifier)
    (named : ∀ word ∈ name, words.name word) :
    Reads words (phrases.functionTail kind role name)
      (fun declaration => declaration.name = name ∧ declaration.Shaped words)
      FunctionDeclaration.references := by
  intro state admitted
  refine (Goes.expect .leftParen role).bind fun _ second secondLater ⟨drawn, shorter, _⟩ => ?_
  have admittedSecond := secondLater.admits admitted
  refine (parenthesised_reads "parameters" (expectName_reads _) second admittedSecond).bind ?_
  rintro ⟨parameters, closing⟩ third thirdLater ⟨_, grown⟩
  have admittedThird := thirdLater.admits admittedSecond
  refine (Goes.expect .leftBrace _).bind fun _ fourth fourthLater ⟨drawnBrace, _, _⟩ => ?_
  refine (read.block fourth (fourthLater.admits admittedThird)).bind ?_
  intro body fifth fifthLater ⟨_, grownBody⟩
  refine Goes.pure ⟨?_, ⟨rfl, named, grown.shaped.1.1, grown.shaped.1.2, grownBody.shaped⟩, ?_⟩
  · have := thirdLater.length_le
    have := fourthLater.length_le
    have := fifthLater.length_le
    omega
  · refine grownBody.fresh.widen ?_ (Nat.le_refl _)
    exact (secondLater.trans (thirdLater.trans fourthLater)).references

/-! ### Primary expressions and calls -/

theorem primary (read : phrases.Read words) : ReadsExpression words phrases.primary := by
  intro state admitted
  refine Goes.peek_bind ?_
  have taken (more : (firstToken state.rest).isEnd = false) {after : State}
      (rest : after.rest = state.rest.tail) : after.rest.length < state.rest.length := by
    rw [rest]
    exact tail_length_lt more
  cases kind : (firstToken state.rest).kind with
  | number value =>
    refine Goes.advance.bind fun _ second _ ⟨rest, drawn⟩ => Goes.pure ⟨taken ?_ rest, trivial, ?_⟩
    · simp [Token.isEnd, kind]
    · exact .nil (Nat.le_of_eq drawn.symm)
  | string contents =>
    refine Goes.advance.bind fun _ second _ ⟨rest, drawn⟩ => Goes.pure ⟨taken ?_ rest, trivial, ?_⟩
    · simp [Token.isEnd, kind]
    · exact .nil (Nat.le_of_eq drawn.symm)
  | identifier =>
    have isIdentifier := isIdentifier_of_kind kind
    have more := not_end_of_isIdentifier isIdentifier
    refine Goes.advance.bind fun _ second _ ⟨rest, drawn⟩ => ?_
    refine Goes.freshReference.bind fun reference third _ ⟨isNext, drawnNext, same⟩ => ?_
    refine Goes.pure ⟨taken more (same.trans rest), ?_, ?_⟩
    · exact (admitted _ (firstToken_mem more)).name isIdentifier
    · exact .next isNext (Nat.le_of_eq drawn.symm) drawnNext
  | endOfInput => exact Goes.throw
  | mark mark =>
    have isMark := isMark_of_kind kind
    have more := not_end_of_isMark isMark
    have admittedFirst := admitted _ (firstToken_mem more)
    cases mark with
    | falseWord | trueWord | nilWord =>
      refine Goes.advance.bind fun _ second _ ⟨rest, drawn⟩ => ?_
      exact Goes.pure ⟨taken more rest, trivial, .nil (Nat.le_of_eq drawn.symm)⟩
    | thisWord =>
      refine Goes.advance.bind fun _ second _ ⟨rest, drawn⟩ => ?_
      refine Goes.freshReference.bind fun reference third _ ⟨isNext, drawnNext, same⟩ => ?_
      refine Goes.pure ⟨taken more (same.trans rest), admittedFirst.this isMark, ?_⟩
      exact .next isNext (Nat.le_of_eq drawn.symm) drawnNext
    | superWord =>
      refine Goes.advance.bind fun _ second secondLater ⟨rest, drawn⟩ => ?_
      refine (Goes.expect .dot _).bind fun _ third thirdLater ⟨drawnDot, _, _⟩ => ?_
      have admittedThird := (secondLater.trans thirdLater).admits admitted
      refine (expectName_reads _ third admittedThird).bind ?_
      intro method fourth fourthLater ⟨_, grown⟩
      refine Goes.freshReference.bind fun reference fifth _ ⟨isNext, drawnNext, same⟩ => ?_
      have := fourthLater.length_le
      have := thirdLater.length_le
      have := taken more rest
      refine Goes.pure ⟨?_, ⟨admittedFirst.super isMark, grown.shaped⟩, ?_⟩
      · rw [same]
        omega
      · exact .next isNext (secondLater.trans (thirdLater.trans fourthLater)).references drawnNext
    | funWord =>
      refine Goes.advance.bind fun _ second secondLater ⟨rest, drawn⟩ => ?_
      refine (read.functionTail _ _ none (fun _ absent => nomatch absent) second
        (secondLater.admits admitted)).bind fun declaration third thirdLater ⟨_, grown⟩ => ?_
      refine Goes.pure ⟨?_, grown.shaped, drawn ▸ grown.fresh⟩
      have := thirdLater.length_le
      have := taken more rest
      omega
    | leftParen =>
      refine Goes.advance.bind fun _ second secondLater ⟨rest, drawn⟩ => ?_
      refine (read.expression second (secondLater.admits admitted)).bind ?_
      intro inner third thirdLater ⟨_, grown⟩
      refine (Goes.expect .rightParen _).bind fun _ fourth fourthLater ⟨drawnParen, _, _⟩ => ?_
      refine Goes.pure ⟨?_, grown.shaped, ?_⟩
      · have := thirdLater.length_le
        have := fourthLater.length_le
        have := taken more rest
        omega
      · show Fresh _ _ inner.references
        rw [drawnParen, ← drawn]
        exact grown.fresh
    | _ => exact Goes.throw

/-- What follows a callee keeps the shape, and its references follow those of the callee. -/
theorem calls (read : phrases.Read words) (limit : Nat) (callee : Expression) (low : Reference)
    (state : State) (admitted : words.AdmitsAll state.rest) (shaped : callee.Shaped words)
    (fresh : Fresh low state.nextReference callee.references) :
    Goes (phrases.calls limit callee) state fun expression after =>
      expression.Shaped words ∧ Fresh low after.nextReference expression.references := by
  induction limit generalizing callee state with
  | zero => exact Goes.pure ⟨shaped, fresh⟩
  | succ limit inductionHypothesis =>
    refine (Goes.accept .leftParen).bind fun accepted second secondLater ⟨drawn, _, kept⟩ => ?_
    have admittedSecond := secondLater.admits admitted
    cases accepted with
    | true =>
      refine (parenthesised_reads "arguments" read.expression second admittedSecond).bind ?_
      rintro ⟨arguments, closing⟩ third thirdLater ⟨_, grown⟩
      refine inductionHypothesis _ third (thirdLater.admits admittedSecond) ?_ ?_
      · exact ⟨grown.shaped.2, shaped, grown.shaped.1.2,
          (expressionAllShaped_iff arguments).mpr grown.shaped.1.1⟩
      · rw [Expression.references, expressionAllReferences_eq]
        exact fresh.append (drawn ▸ grown.fresh)
    | false =>
      obtain rfl := kept rfl
      refine (Goes.accept .dot).bind fun accepted third thirdLater ⟨drawnDot, _, keptDot⟩ => ?_
      cases accepted with
      | true =>
        have admittedThird := thirdLater.admits admittedSecond
        refine (expectName_reads _ third admittedThird).bind ?_
        intro name fourth fourthLater ⟨_, grown⟩
        refine inductionHypothesis _ fourth (fourthLater.admits admittedThird)
          ⟨grown.shaped, shaped⟩ ?_
        exact fresh.widen (Nat.le_refl _) (thirdLater.trans fourthLater).references
      | false =>
        obtain rfl := keptDot rfl
        exact Goes.pure ⟨shaped, fresh⟩

theorem call (read : phrases.Read words) : ReadsExpression words phrases.call := by
  intro state admitted
  refine (read.primary state admitted).bind fun callee second secondLater ⟨shorter, grown⟩ => ?_
  refine (read.calls phrases.limit callee state.nextReference second
    (secondLater.admits admitted) grown.shaped grown.fresh).mono ?_
  intro expression third thirdLater ⟨shaped, fresh⟩
  exact ⟨Nat.lt_of_le_of_lt thirdLater.length_le shorter, shaped, fresh⟩

/-! ### Operators -/

theorem not_end_of_unaryOperator {token : Token} {operator : UnaryOperator}
    (isOperator : unaryOperator? token = some operator) : token.isEnd = false := by
  unfold unaryOperator? at isOperator
  unfold Token.isEnd
  split at isOperator <;> simp_all

theorem unaryWithin (read : phrases.Read words) (limit : Nat) :
    ReadsExpression words (phrases.unaryWithin limit) := by
  induction limit with
  | zero => exact read.call
  | succ limit inductionHypothesis =>
    intro state admitted
    refine Goes.peek_bind ?_
    split
    · rename_i operator isOperator
      have more := not_end_of_unaryOperator isOperator
      refine Goes.advance.bind fun _ second secondLater ⟨rest, drawn⟩ => ?_
      refine (inductionHypothesis second (secondLater.admits admitted)).bind ?_
      intro operand third thirdLater ⟨_, grown⟩
      refine Goes.pure ⟨?_, ⟨(admitted _ (firstToken_mem more)).line, grown.shaped⟩, ?_⟩
      · have := thirdLater.length_le
        have := tail_length_lt more
        rw [← rest] at this
        omega
      · exact drawn ▸ grown.fresh
    · exact read.call state admitted

/-- An operator token is none that ends the input, and what it joins are its two operands. -/
structure Joins (words : Vocabulary)
    (operator? : Token → Option (Expression → Expression → Expression)) : Prop where
  more : ∀ {token join}, operator? token = some join → token.isEnd = false
  shaped : ∀ {token join}, operator? token = some join → words.Admits token →
    ∀ {left right : Expression}, left.Shaped words → right.Shaped words →
      (join left right).Shaped words
  references : ∀ {token join}, operator? token = some join → ∀ left right : Expression,
    (join left right).references = left.references ++ right.references

/-- Operators of a level join, provided that the level takes no token that ends the input. -/
theorem joins_level {level : Level} (noEnd : level .endOfInput = none) :
    Joins words (Level.join? level) where
  more := by
    intro token join isJoin
    unfold Token.isEnd
    split
    · rename_i isEnd
      simp [Level.join?, isEnd, noEnd] at isJoin
    · rfl
  shaped := by
    intro token join isJoin admitted left right leftShaped rightShaped
    obtain ⟨operator, _, rfl⟩ := Option.map_eq_some_iff.mp isJoin
    exact ⟨admitted.line, leftShaped, rightShaped⟩
  references := by
    intro token join isJoin left right
    obtain ⟨operator, _, rfl⟩ := Option.map_eq_some_iff.mp isJoin
    rfl

theorem joins_logical (mark : Mark) (operator : LogicalOperator) :
    Joins words (logicalJoin? mark operator) where
  more := by
    intro token join isJoin
    unfold logicalJoin? at isJoin
    split at isJoin
    · rename_i isMark
      exact not_end_of_isMark isMark
    · exact nomatch isJoin
  shaped := by
    intro token join isJoin _ left right leftShaped rightShaped
    unfold logicalJoin? at isJoin
    split at isJoin
    · cases isJoin
      exact ⟨leftShaped, rightShaped⟩
    · exact nomatch isJoin
  references := by
    intro token join isJoin left right
    unfold logicalJoin? at isJoin
    split at isJoin
    · cases isJoin
      rfl
    · exact nomatch isJoin

/-- Further operands keep the shape, and their references follow those of the left operand. -/
theorem continueFrom {operand : Parser Expression}
    {operator? : Token → Option (Expression → Expression → Expression)}
    (reads : ReadsExpression words operand) (joins : Joins words operator?) (limit : Nat)
    (left : Expression) (low : Reference) (state : State) (admitted : words.AdmitsAll state.rest)
    (shaped : left.Shaped words) (fresh : Fresh low state.nextReference left.references) :
    Goes (leftAssociative.continueFrom operand operator? limit left) state fun expression after =>
      expression.Shaped words ∧ Fresh low after.nextReference expression.references := by
  induction limit generalizing left state with
  | zero => exact Goes.pure ⟨shaped, fresh⟩
  | succ limit inductionHypothesis =>
    refine Goes.peek_bind ?_
    split
    · rename_i join isJoin
      have admittedFirst := admitted _ (firstToken_mem (joins.more isJoin))
      refine Goes.advance.bind fun _ second secondLater ⟨_, drawn⟩ => ?_
      have admittedSecond := secondLater.admits admitted
      refine (reads second admittedSecond).bind fun right third thirdLater ⟨_, grown⟩ => ?_
      refine inductionHypothesis _ third (thirdLater.admits admittedSecond)
        (joins.shaped isJoin admittedFirst shaped grown.shaped) ?_
      rw [joins.references isJoin]
      exact fresh.append (drawn ▸ grown.fresh)
    · exact Goes.pure ⟨shaped, fresh⟩

theorem leftAssociative {operand : Parser Expression}
    {operator? : Token → Option (Expression → Expression → Expression)} (limit : Nat)
    (reads : ReadsExpression words operand) (joins : Joins words operator?) :
    ReadsExpression words (Grammar.leftAssociative operand operator? limit) := by
  intro state admitted
  refine (reads state admitted).bind fun left second secondLater ⟨shorter, grown⟩ => ?_
  refine (continueFrom reads joins limit left state.nextReference second
    (secondLater.admits admitted) grown.shaped grown.fresh).mono ?_
  intro expression third thirdLater ⟨shaped, fresh⟩
  exact ⟨Nat.lt_of_le_of_lt thirdLater.length_le shorter, shaped, fresh⟩

theorem disjunction (read : phrases.Read words) :
    ReadsExpression words phrases.disjunction := by
  have factor : ReadsExpression words phrases.factor :=
    leftAssociative _ (read.unaryWithin phrases.limit) (joins_level rfl)
  have term : ReadsExpression words phrases.term :=
    leftAssociative _ factor (joins_level rfl)
  have comparison : ReadsExpression words phrases.comparison :=
    leftAssociative _ term (joins_level rfl)
  have equality : ReadsExpression words phrases.equality :=
    leftAssociative _ comparison (joins_level rfl)
  have conjunction : ReadsExpression words phrases.conjunction :=
    leftAssociative _ equality (joins_logical .andWord .and)
  exact leftAssociative _ conjunction (joins_logical .orWord .or)

/-! ### Assignment -/

/-- What an assignment makes of a target and a value. -/
theorem assignTo (equals : Token) {target value : Expression} {low middle : Reference}
    (state : State) (targetShaped : target.Shaped words) (valueShaped : value.Shaped words)
    (targetFresh : Fresh low middle target.references)
    (valueFresh : Fresh middle state.nextReference value.references) :
    Goes (Phrases.assignTo equals value target) state fun expression after =>
      expression.Shaped words ∧ Fresh low after.nextReference expression.references := by
  unfold Phrases.assignTo
  split
  · refine Goes.freshReference.bind fun reference after _ ⟨isNext, drawn, _⟩ => ?_
    refine Goes.pure ⟨⟨targetShaped, valueShaped⟩, ?_⟩
    refine (valueFresh.append (.next isNext (Nat.le_refl _) drawn)).widen ?_ (Nat.le_refl _)
    exact targetFresh.ordered
  · exact Goes.pure ⟨⟨targetShaped.1, targetShaped.2, valueShaped⟩,
      targetFresh.append valueFresh⟩
  · exact Goes.throw

theorem wholeExpression (read : phrases.Read words) :
    ReadsExpression words phrases.wholeExpression := by
  intro state admitted
  refine (read.disjunction state admitted).bind fun target second secondLater ⟨shorter, grown⟩ => ?_
  refine Goes.peek_bind ?_
  split
  · have admittedSecond := secondLater.admits admitted
    refine Goes.advance.bind fun _ third thirdLater ⟨_, drawn⟩ => ?_
    refine (read.expression third (thirdLater.admits admittedSecond)).bind ?_
    intro value fourth fourthLater ⟨_, grownValue⟩
    refine (assignTo _ fourth grown.shaped grownValue.shaped grown.fresh
      (drawn ▸ grownValue.fresh)).mono ?_
    intro expression fifth fifthLater ⟨shaped, fresh⟩
    refine ⟨?_, shaped, fresh⟩
    have := (thirdLater.trans (fourthLater.trans fifthLater)).length_le
    omega
  · exact Goes.pure ⟨shorter, grown⟩

end Phrases.Read

end Lox.Grammar
