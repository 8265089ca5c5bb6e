/-
Every statement that is read from tokens has its shape, and its references are fresh. A `for` loop
is the one phrase that becomes a tree of other nodes, and the only one whose parts do not stand in
the order in which they are read.
-/

import Lox.Grammar.Statement
import Lox.Proofs.Grammar.Expression

namespace Lox.Grammar

variable {words : Vocabulary} {α : Type}

/-! ### Recovery -/

theorem skipToStatement_suffix (previous : Token) (tokens : List Token) :
    skipToStatement previous tokens <:+ tokens := by
  induction tokens generalizing previous with
  | nil => exact List.suffix_refl _
  | cons token rest inductionHypothesis =>
    rw [skipToStatement]
    split
    · exact List.suffix_refl _
    · exact (inductionHypothesis token).trans (List.suffix_cons token rest)

/-- Recovery leaves a part of the tokens that there were. -/
theorem synchronize_suffix (tokens : List Token) : synchronize tokens <:+ tokens := by
  cases tokens with
  | nil => exact List.suffix_refl _
  | cons token rest =>
    rw [synchronize]
    split
    · exact List.suffix_refl _
    · exact (skipToStatement_suffix token rest).trans (List.suffix_cons token rest)

/-- Recovery changes nothing about what is found. -/
theorem Goes.recovering {parser : Parser α} {state : State} {found : α → State → Prop}
    (goes : Goes parser state found) : Goes (Grammar.recovering parser) state found := by
  cases ended : parser state with
  | ok value after =>
    refine Ensures.of_ok ?_ (goes.ok ended)
    rw [Grammar.recovering, ended]
  | error error after =>
    have later := goes.error ended
    have recovered : Grammar.recovering parser state =
        .error error ⟨synchronize after.rest, after.nextReference⟩ := by
      rw [Grammar.recovering, ended]
    exact Ensures.of_error recovered
      ⟨(synchronize_suffix after.rest).trans later.rest, later.references⟩

namespace Phrases.Read

variable {phrases : Phrases}

/-! ### Statements -/

theorem expressionUntilSemicolon (read : phrases.Read words) (role : String) :
    ReadsExpression words (phrases.expressionUntilSemicolon role) := by
  intro state admitted
  refine (read.wholeExpression state admitted).bind fun expression second _ ⟨shorter, grown⟩ => ?_
  refine (Goes.expect .semicolon role).bind fun _ third thirdLater ⟨drawn, _, _⟩ => ?_
  refine Goes.pure ⟨Nat.lt_of_le_of_lt thirdLater.length_le shorter, grown.shaped, ?_⟩
  exact drawn ▸ grown.fresh

/-- An expression that may be missing is read. -/
abbrev GrowsOptional (words : Vocabulary) (parser : Parser (Option Expression)) : Prop :=
  Grows words parser (fun found => ∀ one ∈ found, one.Shaped words)
    fun found => found.elim [] Expression.references

theorem expressionUnless (read : phrases.Read words) (mark : Mark) :
    GrowsOptional words (phrases.expressionUnless mark) := by
  intro state admitted
  refine Goes.nextIs_bind ?_
  split
  · exact Goes.pure ⟨nofun, .nil (Nat.le_refl _)⟩
  · refine (read.wholeExpression state admitted).bind fun expression after _ ⟨_, grown⟩ => ?_
    exact Goes.pure ⟨fun _ isOne => Option.mem_some.mp isOne ▸ grown.shaped, grown.fresh⟩

theorem initialValue (read : phrases.Read words) : GrowsOptional words phrases.initialValue := by
  intro state admitted
  refine (Goes.accept .equal).bind fun accepted second secondLater ⟨drawn, _, kept⟩ => ?_
  cases accepted with
  | true =>
    refine (read.wholeExpression second (secondLater.admits admitted)).bind ?_
    intro expression after _ ⟨_, grown⟩
    exact Goes.pure
      ⟨fun _ isOne => Option.mem_some.mp isOne ▸ grown.shaped, drawn ▸ grown.fresh⟩
  | false => exact Goes.pure ⟨nofun, .nil (Nat.le_of_eq drawn.symm)⟩

theorem condition (read : phrases.Read words) (word : String) :
    ReadsExpression words (phrases.condition word) := by
  intro state admitted
  refine (Goes.expect .leftParen _).bind fun _ second secondLater ⟨drawn, shorter, _⟩ => ?_
  refine (read.wholeExpression second (secondLater.admits admitted)).bind ?_
  intro expression third thirdLater ⟨_, grown⟩
  refine (Goes.expect .rightParen _).bind fun _ fourth fourthLater ⟨drawnParen, _, _⟩ => ?_
  refine Goes.pure ⟨?_, grown.shaped, drawnParen ▸ drawn ▸ grown.fresh⟩
  exact Nat.lt_of_le_of_lt (thirdLater.trans fourthLater).length_le shorter

theorem variableDeclaration (read : phrases.Read words) :
    ReadsStatement words phrases.variableDeclaration := by
  intro state admitted
  refine (expectName_reads _ state admitted).bind fun name second secondLater ⟨shorter, named⟩ => ?_
  refine (read.initialValue second (secondLater.admits admitted)).bind ?_
  intro initializer third thirdLater grown
  refine (Goes.expect .semicolon _).bind fun _ fourth fourthLater ⟨drawn, _, _⟩ => ?_
  have fewer : fourth.rest.length < state.rest.length :=
    Nat.lt_of_le_of_lt (thirdLater.trans fourthLater).length_le shorter
  have fresh : Fresh state.nextReference fourth.nextReference _ :=
    grown.fresh.widen secondLater.references (Nat.le_of_eq drawn.symm)
  cases initializer with
  | none => exact Goes.pure ⟨fewer, named.shaped, fresh⟩
  | some initializer => exact Goes.pure ⟨fewer, ⟨named.shaped, grown.shaped _ rfl⟩, fresh⟩

theorem expressionStatement (read : phrases.Read words) :
    ReadsBranch words phrases.expressionStatement := by
  intro state admitted
  refine (read.expressionUntilSemicolon _ state admitted).bind ?_
  intro expression after _ ⟨shorter, grown⟩
  exact Goes.pure ⟨shorter, ⟨rfl, grown.shaped⟩, grown.fresh⟩

/-! ### Loops and conditionals -/

/-- The loop itself that a `for` loop stands for. Its body is read last but stands before the
increment. -/
theorem bareLoop {condition increment : Option Expression} {body : Statement}
    {low second third high : Reference}
    (conditionShaped : ∀ one ∈ condition, one.Shaped words)
    (incrementShaped : ∀ one ∈ increment, one.Shaped words)
    (bodyShaped : body.isDeclaration = false ∧ body.Shaped words)
    (conditionFresh : Fresh low second (condition.elim [] Expression.references))
    (incrementFresh : Fresh second third (increment.elim [] Expression.references))
    (bodyFresh : Fresh third high body.references) :
    (Phrases.forLoop none condition increment body).Shaped words ∧
      Fresh low high (Phrases.forLoop none condition increment body).references := by
  have shaped : (condition.getD (.literal (.boolean true))).Shaped words := by
    cases condition with
    | none => trivial
    | some condition => exact conditionShaped condition rfl
  have fresh : Fresh low second (condition.getD (.literal (.boolean true))).references := by
    cases condition with
    | none => exact conditionFresh
    | some condition => exact conditionFresh
  cases increment with
  | none => exact ⟨⟨shaped, bodyShaped⟩, fresh.append (bodyFresh.widen incrementFresh.ordered
      (Nat.le_refl _))⟩
  | some increment =>
    exact ⟨⟨shaped, bodyShaped.1, bodyShaped.2, trivial, incrementShaped increment rfl⟩,
      fresh.append (incrementFresh.appendBefore bodyFresh)⟩

/-- What a `for` loop stands for declares nothing: a variable of its own is declared in a block. -/
theorem forLoop {initializer : Option Statement} {condition increment : Option Expression}
    {body : Statement} {low first second third high : Reference}
    (initializerShaped : ∀ one ∈ initializer, one.Shaped words)
    (conditionShaped : ∀ one ∈ condition, one.Shaped words)
    (incrementShaped : ∀ one ∈ increment, one.Shaped words)
    (bodyShaped : body.isDeclaration = false ∧ body.Shaped words)
    (initializerFresh : Fresh low first (initializer.elim [] Statement.references))
    (conditionFresh : Fresh first second (condition.elim [] Expression.references))
    (incrementFresh : Fresh second third (increment.elim [] Expression.references))
    (bodyFresh : Fresh third high body.references) :
    ((Phrases.forLoop initializer condition increment body).isDeclaration = false ∧
      (Phrases.forLoop initializer condition increment body).Shaped words) ∧
    Fresh low high (Phrases.forLoop initializer condition increment body).references := by
  have ⟨shaped, fresh⟩ := bareLoop conditionShaped incrementShaped bodyShaped conditionFresh
    incrementFresh bodyFresh
  cases initializer with
  | none => exact ⟨⟨rfl, shaped⟩, fresh.widen initializerFresh.ordered (Nat.le_refl _)⟩
  | some initializer =>
    refine ⟨⟨rfl, initializerShaped initializer rfl, shaped, trivial⟩, ?_⟩
    exact initializerFresh.append (fresh.append (.nil (Nat.le_refl _)))

theorem forInitializer (read : phrases.Read words) :
    Grows words phrases.forInitializer (fun found => ∀ one ∈ found, one.Shaped words)
      fun found => found.elim [] Statement.references := by
  intro state admitted
  refine (Goes.accept .semicolon).bind fun accepted second secondLater ⟨drawn, _, _⟩ => ?_
  have admittedSecond := secondLater.admits admitted
  cases accepted with
  | true => exact Goes.pure ⟨nofun, .nil (Nat.le_of_eq drawn.symm)⟩
  | false =>
    refine (Goes.accept .varWord).bind fun accepted third thirdLater ⟨drawnVar, _, _⟩ => ?_
    have admittedThird := thirdLater.admits admittedSecond
    cases accepted with
    | true =>
      refine (read.variableDeclaration third admittedThird).bind fun found after _ ⟨_, grown⟩ => ?_
      exact Goes.pure ⟨fun _ isOne => Option.mem_some.mp isOne ▸ grown.shaped,
        drawn ▸ drawnVar ▸ grown.fresh⟩
    | false =>
      refine (read.expressionStatement third admittedThird).bind fun found after _ ⟨_, grown⟩ => ?_
      exact Goes.pure ⟨fun _ isOne => Option.mem_some.mp isOne ▸ grown.shaped.2,
        drawn ▸ drawnVar ▸ grown.fresh⟩

theorem forStatement (read : phrases.Read words) : ReadsBranch words phrases.forStatement := by
  intro state admitted
  refine (Goes.expect .leftParen _).bind fun _ second secondLater ⟨drawn, shorter, _⟩ => ?_
  have admittedSecond := secondLater.admits admitted
  refine (read.forInitializer second admittedSecond).bind ?_
  intro initializer third thirdLater grown
  have admittedThird := thirdLater.admits admittedSecond
  refine (read.expressionUnless .semicolon third admittedThird).bind ?_
  intro condition fourth fourthLater grownCondition
  have admittedFourth := fourthLater.admits admittedThird
  refine (Goes.expect .semicolon _).bind fun _ fifth fifthLater ⟨drawnMark, _, _⟩ => ?_
  have admittedFifth := fifthLater.admits admittedFourth
  refine (read.expressionUnless .rightParen fifth admittedFifth).bind ?_
  intro increment sixth sixthLater grownIncrement
  have admittedSixth := sixthLater.admits admittedFifth
  refine (Goes.expect .rightParen _).bind fun _ seventh seventhLater ⟨drawnParen, _, _⟩ => ?_
  refine (read.statement seventh (seventhLater.admits admittedSixth)).bind ?_
  intro body eighth eighthLater ⟨_, grownBody⟩
  have ⟨shaped, fresh⟩ := forLoop grown.shaped grownCondition.shaped grownIncrement.shaped
    grownBody.shaped grown.fresh grownCondition.fresh (drawnMark ▸ grownIncrement.fresh)
    (drawnParen ▸ grownBody.fresh)
  refine Goes.pure ⟨?_, shaped, drawn ▸ fresh⟩
  have later := thirdLater.trans (fourthLater.trans (fifthLater.trans (sixthLater.trans
    (seventhLater.trans eighthLater))))
  exact Nat.lt_of_le_of_lt later.length_le shorter

theorem elseBranch (read : phrases.Read words) :
    Grows words phrases.elseBranch
      (fun found => ∀ one ∈ found, one.isDeclaration = false ∧ one.Shaped words)
      fun found => found.elim [] Statement.references := by
  intro state admitted
  refine (Goes.accept .elseWord).bind fun accepted second secondLater ⟨drawn, _, _⟩ => ?_
  cases accepted with
  | true =>
    refine (read.statement second (secondLater.admits admitted)).bind ?_
    intro branch after _ ⟨_, grown⟩
    exact Goes.pure ⟨fun _ isOne => Option.mem_some.mp isOne ▸ grown.shaped, drawn ▸ grown.fresh⟩
  | false => exact Goes.pure ⟨nofun, .nil (Nat.le_of_eq drawn.symm)⟩

theorem ifStatement (read : phrases.Read words) : ReadsBranch words phrases.ifStatement := by
  intro state admitted
  refine (read.condition "if" state admitted).bind ?_
  intro condition second secondLater ⟨shorter, grown⟩
  have admittedSecond := secondLater.admits admitted
  refine (read.statement second admittedSecond).bind ?_
  intro thenBranch third thirdLater ⟨_, grownThen⟩
  refine (read.elseBranch third (thirdLater.admits admittedSecond)).bind ?_
  intro elseBranch fourth fourthLater grownElse
  have fewer : fourth.rest.length < state.rest.length :=
    Nat.lt_of_le_of_lt (thirdLater.trans fourthLater).length_le shorter
  cases elseBranch with
  | none =>
    refine Goes.pure ⟨fewer, ⟨rfl, grown.shaped, grownThen.shaped⟩, ?_⟩
    exact (grown.fresh.append grownThen.fresh).widen (Nat.le_refl _) fourthLater.references
  | some elseBranch =>
    have shaped := grownElse.shaped elseBranch rfl
    refine Goes.pure ⟨fewer,
      ⟨rfl, grown.shaped, grownThen.shaped.1, grownThen.shaped.2, shaped.1, shaped.2⟩, ?_⟩
    exact grown.fresh.append (grownThen.fresh.append grownElse.fresh)

theorem whileStatement (read : phrases.Read words) :
    ReadsBranch words phrases.whileStatement := by
  intro state admitted
  refine (read.condition "while" state admitted).bind ?_
  intro condition second secondLater ⟨shorter, grown⟩
  refine (read.statement second (secondLater.admits admitted)).bind ?_
  intro body third thirdLater ⟨_, grownBody⟩
  refine Goes.pure ⟨?_, ⟨rfl, grown.shaped, grownBody.shaped⟩, ?_⟩
  · exact Nat.lt_of_le_of_lt thirdLater.length_le shorter
  · exact grown.fresh.append grownBody.fresh

theorem returnStatement (read : phrases.Read words) (keyword : Identifier)
    (onLine : words.line keyword.line) : ReadsBranch words (phrases.returnStatement keyword) := by
  intro state admitted
  refine (read.expressionUnless .semicolon state admitted).bind ?_
  intro value second secondLater grown
  refine (Goes.expect .semicolon _).bind fun _ third _ ⟨drawn, shorter, _⟩ => ?_
  have fewer := Nat.lt_of_lt_of_le shorter secondLater.length_le
  cases value with
  | none => exact Goes.pure ⟨fewer, ⟨rfl, onLine⟩, drawn ▸ grown.fresh⟩
  | some value =>
    exact Goes.pure ⟨fewer, ⟨rfl, onLine, grown.shaped value rfl⟩, drawn ▸ grown.fresh⟩

theorem controlStatement (control : LoopControl) (keyword : Identifier)
    (onLine : words.line keyword.line) :
    ReadsBranch words (Phrases.controlStatement control keyword) := by
  intro state admitted
  refine (Goes.expect .semicolon _).bind fun _ after _ ⟨drawn, shorter, _⟩ => ?_
  exact Goes.pure ⟨shorter, ⟨rfl, onLine⟩, .nil (Nat.le_of_eq drawn.symm)⟩

/-- A phrase behind its first word, which is taken. -/
theorem behindWord {parser : Parser α} {shaped : α → Prop} {references : α → List Reference}
    (reads : Reads words parser shaped references) {state : State}
    (admitted : words.AdmitsAll state.rest) :
    Goes (do advance; parser) state fun value after =>
      after.rest.length < state.rest.length ∧
        Grown state after (shaped value) (references value) := by
  refine Goes.advance.bind fun _ second secondLater ⟨_, drawn⟩ => ?_
  refine (reads second (secondLater.admits admitted)).mono fun value after _ ⟨shorter, grown⟩ => ?_
  exact ⟨Nat.lt_of_lt_of_le shorter secondLater.length_le, grown.shaped, drawn ▸ grown.fresh⟩

theorem wholeStatement (read : phrases.Read words) :
    ReadsBranch words phrases.wholeStatement := by
  intro state admitted
  refine Goes.peek_bind ?_
  have onLine {mark : Mark} (kind : (firstToken state.rest).kind = .mark mark) :
      words.line (firstToken state.rest).line :=
    (admitted _ (firstToken_mem (not_end_of_isMark (isMark_of_kind kind)))).line
  split
  · exact behindWord read.forStatement admitted
  · exact behindWord read.ifStatement admitted
  · exact behindWord read.whileStatement admitted
  · rename_i kind
    exact behindWord (read.returnStatement _ (onLine kind)) admitted
  · rename_i kind
    exact behindWord (controlStatement .break _ (onLine kind)) admitted
  · rename_i kind
    exact behindWord (controlStatement .continue _ (onLine kind)) admitted
  · refine Goes.advance.bind fun _ second secondLater ⟨_, drawn⟩ => ?_
    refine (read.block second (secondLater.admits admitted)).bind ?_
    intro statements after _ ⟨shorter, grown⟩
    exact Goes.pure ⟨Nat.lt_of_lt_of_le shorter secondLater.length_le, ⟨rfl, grown.shaped⟩,
      drawn ▸ grown.fresh⟩
  · refine Goes.advance.bind fun _ second secondLater ⟨_, drawn⟩ => ?_
    refine (read.expressionUntilSemicolon _ second (secondLater.admits admitted)).bind ?_
    intro value after _ ⟨shorter, grown⟩
    exact Goes.pure ⟨Nat.lt_of_lt_of_le shorter secondLater.length_le, ⟨rfl, grown.shaped⟩,
      drawn ▸ grown.fresh⟩
  · exact read.expressionStatement state admitted

/-! ### Declarations -/

theorem namedFunction (read : phrases.Read words) (kind : String) :
    Reads words (phrases.namedFunction kind)
      (fun declaration => declaration.name.isSome ∧ declaration.Shaped words)
      FunctionDeclaration.references := by
  intro state admitted
  refine (expectName_reads _ state admitted).bind fun name second secondLater ⟨shorter, named⟩ => ?_
  have namedSome : ∀ word ∈ some name, words.name word :=
    fun _ isName => Option.mem_some.mp isName ▸ named.shaped
  refine (read.functionTail _ _ _ namedSome second (secondLater.admits admitted)).mono ?_
  intro declaration third thirdLater ⟨_, grown⟩
  refine ⟨Nat.lt_of_le_of_lt thirdLater.length_le shorter, ⟨?_, grown.shaped.2⟩, ?_⟩
  · rw [grown.shaped.1]
    rfl
  · exact grown.fresh.widen secondLater.references (Nat.le_refl _)

theorem superclass : Grows words Phrases.superclass
    (fun found => ∀ one ∈ found, one.IsRead ∧ one.Shaped words)
    fun found => found.elim [] Expression.references := by
  intro state admitted
  refine (Goes.accept .less).bind fun accepted second secondLater ⟨drawn, _, _⟩ => ?_
  cases accepted with
  | true =>
    refine (expectName_reads _ second (secondLater.admits admitted)).bind ?_
    intro name third thirdLater ⟨_, named⟩
    refine Goes.freshReference.bind fun reference after _ ⟨isNext, drawnNext, _⟩ => ?_
    refine Goes.pure ⟨?_, .next isNext (secondLater.trans thirdLater).references drawnNext⟩
    exact fun _ isOne => Option.mem_some.mp isOne ▸ ⟨trivial, named.shaped⟩
  | false => exact Goes.pure ⟨nofun, .nil (Nat.le_of_eq drawn.symm)⟩

theorem classDeclaration (read : phrases.Read words) :
    ReadsStatement words phrases.classDeclaration := by
  intro state admitted
  refine (expectName_reads _ state admitted).bind fun name second secondLater ⟨shorter, named⟩ => ?_
  have admittedSecond := secondLater.admits admitted
  refine (superclass second admittedSecond).bind fun superclass third thirdLater grown => ?_
  have admittedThird := thirdLater.admits admittedSecond
  refine (Goes.expect .leftBrace _).bind fun _ fourth fourthLater ⟨drawn, _, _⟩ => ?_
  have admittedFourth := fourthLater.admits admittedThird
  have methods := untilBrace_grows (read.namedFunction "method") phrases.limit fourth admittedFourth
  refine methods.bind ?_
  intro methods fifth fifthLater grownMethods
  refine (Goes.expect .rightBrace _).bind fun _ sixth sixthLater ⟨drawnBrace, _, _⟩ => ?_
  have fewer : sixth.rest.length < state.rest.length :=
    Nat.lt_of_le_of_lt (thirdLater.trans (fourthLater.trans (fifthLater.trans
      sixthLater))).length_le shorter
  have methodsShaped := (methodAllShaped_iff methods).mpr grownMethods.shaped
  have methodsFresh : Fresh third.nextReference fifth.nextReference
      (FunctionDeclaration.allReferences methods) := by
    rw [methodAllReferences_eq]
    exact drawn ▸ grownMethods.fresh
  have fresh := (grown.fresh.append methodsFresh).widen secondLater.references
    (Nat.le_of_eq drawnBrace.symm)
  cases superclass with
  | none => exact Goes.pure ⟨fewer, ⟨named.shaped, methodsShaped⟩, fresh⟩
  | some superclass =>
    have shaped := grown.shaped superclass rfl
    exact Goes.pure ⟨fewer, ⟨named.shaped, shaped.1, shaped.2, methodsShaped⟩, fresh⟩

theorem wholeDeclaration (read : phrases.Read words) :
    ReadsStatement words phrases.wholeDeclaration := by
  intro state admitted
  refine Goes.recovering ?_
  refine (Goes.accept .classWord).bind fun accepted second secondLater ⟨drawn, shorter, kept⟩ => ?_
  have admittedSecond := secondLater.admits admitted
  cases accepted with
  | true =>
    refine (read.classDeclaration second admittedSecond).mono fun found after _ ⟨fewer, grown⟩ => ?_
    exact ⟨Nat.lt_trans fewer (shorter rfl), grown.shaped, drawn ▸ grown.fresh⟩
  | false =>
    obtain rfl := kept rfl
    refine Goes.get_bind ?_
    split
    · refine Goes.advance.bind fun _ third thirdLater ⟨_, drawnFun⟩ => ?_
      refine (read.namedFunction "function" third (thirdLater.admits admitted)).bind ?_
      intro declaration after _ ⟨fewer, grown⟩
      exact Goes.pure ⟨Nat.lt_of_lt_of_le fewer thirdLater.length_le, grown.shaped,
        drawnFun ▸ grown.fresh⟩
    · refine (Goes.accept .varWord).bind ?_
      intro accepted third thirdLater ⟨drawnVar, less, keptVar⟩
      cases accepted with
      | true =>
        refine (read.variableDeclaration third (thirdLater.admits admitted)).mono ?_
        intro found after _ ⟨fewer, grown⟩
        exact ⟨Nat.lt_trans fewer (less rfl), grown.shaped, drawnVar ▸ grown.fresh⟩
      | false =>
        obtain rfl := keptVar rfl
        refine (read.wholeStatement _ admitted).mono fun found after _ ⟨fewer, grown⟩ => ?_
        exact ⟨fewer, grown.shaped.2, grown.fresh⟩

end Phrases.Read

end Lox.Grammar
