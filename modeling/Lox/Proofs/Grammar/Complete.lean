/-
Whatever program the grammar derives is read. Of two statements after an `if` the one behind `else`
belongs to the nearest; so a derivation is read only if none of its `if` statements without `else`
is followed by that word, and neither is a list read that is too long. All other derivations are, by
induction.
-/

import Lox.Proofs.Grammar.Operands

namespace Lox.Grammar

namespace Derivation

variable {depth : Nat} {rest : List Token} {low : Reference}

/-! ### Statements -/

theorem expressionUntilSemicolon_read {inner : Derivation .expression} (read : inner.Read)
    (semicolon : Sign .semicolon) (role : String)
    (short : (inner.write (semicolon.token :: rest)).length ≤ depth)
    (regular : inner.Regular (semicolon.token :: rest)) :
    (nested depth).expressionUntilSemicolon role ⟨inner.write (semicolon.token :: rest), low⟩ =
      .ok (inner.tree low) ⟨rest, low + inner.drawn⟩ :=
  (bind_ok (read depth _ low short regular Nat.one_pos)).trans
    (bind_ok (expect_sign semicolon role rest _))

theorem condition_read {inner : Derivation .expression} (read : inner.Read) (word : String)
    (opening : Sign .leftParen) (closing : Sign .rightParen)
    (short : (inner.write (closing.token :: rest)).length ≤ depth)
    (regular : inner.Regular (closing.token :: rest)) :
    (nested depth).condition word
        ⟨opening.token :: inner.write (closing.token :: rest), low⟩ =
      .ok (inner.tree low) ⟨rest, low + inner.drawn⟩ :=
  (bind_ok (expect_sign opening _ _ low)).trans
    ((bind_ok (read depth _ low short regular Nat.one_pos)).trans
      (bind_ok (expect_sign closing _ rest _)))

theorem terminated_read {inner : Derivation .expression} (read : inner.Read)
    (semicolon : Sign .semicolon) : (terminated inner semicolon).Read := by
  intro depth rest low short regular
  exact bind_ok (expressionUntilSemicolon_read read semicolon _ short regular)

theorem noExpression_read : noExpression.Read := by
  intro depth mark rest low _ _ _ isMark _
  refine (bind_ok (nextIs_eq mark rest low)).trans ?_
  rw [isMark]
  rfl

theorem someExpression_read {inner : Derivation .expression} (read : inner.Read) :
    (someExpression inner).Read := by
  intro depth mark rest low short regular ends _ other
  have notMark := not_mark_of_beginsExpression (inner.beginsExpression rfl rest) other
  refine (bind_ok (nextIs_eq mark _ low)).trans ?_
  rw [show (firstToken ((someExpression inner).write rest)).isMark mark = false from notMark]
  exact bind_ok (read depth rest low short regular ends)

theorem uninitialized_read (word : Sign .varWord) (name : Identifier)
    (semicolon : Sign .semicolon) : (uninitialized word name semicolon).Read := by
  intro depth rest low _ _
  refine ⟨word, name.token :: semicolon.token :: rest, rfl, ?_⟩
  have initialValue : (nested depth).initialValue ⟨semicolon.token :: rest, low⟩ =
      .ok none ⟨semicolon.token :: rest, low⟩ := bind_ok (accept_other rfl)
  refine (bind_ok (expectName_name name _ (semicolon.token :: rest) low)).trans ?_
  exact (bind_ok initialValue).trans (bind_ok (expect_sign semicolon _ rest low))

theorem initialized_read {value : Derivation .expression} (read : value.Read)
    (word : Sign .varWord) (name : Identifier) (equals : Sign .equal)
    (semicolon : Sign .semicolon) : (initialized word name equals value semicolon).Read := by
  intro depth rest low short regular
  refine ⟨word, name.token :: equals.token :: value.write (semicolon.token :: rest), rfl, ?_⟩
  have fits : (value.write (semicolon.token :: rest)).length + 3 ≤ depth := short
  have inside := read depth (semicolon.token :: rest) low (by omega) regular Nat.one_pos
  have initialValue : (nested depth).initialValue
        ⟨equals.token :: value.write (semicolon.token :: rest), low⟩ =
      .ok (some (value.tree low)) ⟨semicolon.token :: rest, low + value.drawn⟩ :=
    (bind_ok (accept_sign equals _ low)).trans (bind_ok inside)
  refine (bind_ok (expectName_name name _ _ low)).trans ?_
  exact (bind_ok initialValue).trans (bind_ok (expect_sign semicolon _ rest _))

theorem variableInitializer_read {declared : Derivation .variable} (read : declared.Read) :
    (variableInitializer declared).Read := by
  intro depth rest low short regular
  obtain ⟨word, tail, isTail, ended⟩ := read depth rest low short regular
  have accepted : (nested depth).forInitializer ⟨word.token :: tail, low⟩ =
      (do return some (← (nested depth).variableDeclaration) : Parser (Option Statement))
        ⟨tail, low⟩ :=
    rfl
  show (nested depth).forInitializer ⟨declared.write rest, low⟩ = _
  rw [isTail]
  exact accepted.trans (bind_ok ended)

theorem plainInitializer_read {statement : Derivation .expressionStatement}
    (read : statement.Read) : (plainInitializer statement).Read := by
  intro depth rest low short regular
  have begins := statement.beginsExpression rfl rest
  refine (bind_ok (accept_other (not_mark_of_beginsExpression begins rfl))).trans ?_
  refine (bind_ok (accept_other (not_mark_of_beginsExpression begins rfl))).trans ?_
  exact bind_ok (read depth rest low short regular)

/-- Where an expression begins, no statement with a word of its own does. -/
theorem wholeStatement_expression {phrases : Phrases} {tokens : List Token}
    (begins : Grammar.beginsExpression tokens = true) :
    phrases.wholeStatement ⟨tokens, low⟩ = phrases.expressionStatement ⟨tokens, low⟩ := by
  cases tokens with
  | nil => exact absurd begins Bool.false_ne_true
  | cons first rest =>
    obtain ⟨kind, lexeme, line⟩ := first
    cases kind with
    | mark mark => cases mark <;> first | rfl | exact absurd begins Bool.false_ne_true
    | _ => rfl

theorem evaluationStatement_read {statement : Derivation .expressionStatement}
    (read : statement.Read) : (evaluationStatement statement).Read := by
  intro depth rest low short regular
  refine (wholeStatement_expression (statement.beginsExpression rfl rest)).trans ?_
  exact read depth rest low short regular

theorem forStatement_read {initializer : Derivation .loopInitializer}
    {condition increment : Derivation .optionalExpression} {body : Derivation .statement}
    (readInitializer : initializer.Read) (readCondition : condition.Read)
    (readIncrement : increment.Read) (readBody : body.Read) (word : Sign .forWord)
    (opening : Sign .leftParen) (semicolon : Sign .semicolon) (closing : Sign .rightParen) :
    (forStatement word opening initializer condition semicolon increment closing body).Read := by
  intro depth rest low short ⟨regular, regularCondition, regularIncrement, regularBody⟩
  have fits : (initializer.write (condition.write (semicolon.token :: increment.write
      (closing.token :: body.write rest)))).length + 2 ≤ depth := short
  simp only [length_write, List.length_cons] at fits
  have first := readInitializer depth _ low
    (by simp only [length_write, List.length_cons]; omega) regular
  have second := readCondition depth .semicolon _ (low + initializer.drawn)
    (by simp only [length_write, List.length_cons]; omega) regularCondition Nat.one_pos rfl rfl
  have third := readIncrement depth .rightParen _ (low + initializer.drawn + condition.drawn)
    (by simp only [length_write, List.length_cons]; omega) regularIncrement Nat.one_pos rfl rfl
  have last : statement depth
      ⟨body.write rest, low + initializer.drawn + condition.drawn + increment.drawn⟩ = _ :=
    readBody.nestedStatement (by simp only [length_write]; omega) regularBody
  have taken (tail : List Token) : (nested depth).wholeStatement ⟨word.token :: tail, low⟩ =
      (nested depth).forStatement ⟨tail, low⟩ := rfl
  show _ = EStateM.Result.ok _ (State.mk rest
    (low + (initializer.drawn + condition.drawn + increment.drawn + body.drawn)))
  simp only [← Nat.add_assoc]
  refine (taken _).trans ?_
  refine (bind_ok (expect_sign opening _ _ low)).trans ((bind_ok first).trans ?_)
  refine (bind_ok second).trans ((bind_ok (expect_sign semicolon _ _ _)).trans ?_)
  refine (bind_ok third).trans ((bind_ok (expect_sign closing _ _ _)).trans ?_)
  exact bind_ok last

theorem ifStatement_read {condition : Derivation .expression}
    {thenBranch : Derivation .statement} (read : condition.Read) (readThen : thenBranch.Read)
    (word : Sign .ifWord) (opening : Sign .leftParen) (closing : Sign .rightParen) :
    (ifStatement word opening condition closing thenBranch).Read := by
  intro depth rest low short ⟨regular, regularThen, noElse⟩
  have fits : (condition.write (closing.token :: thenBranch.write rest)).length + 2 ≤ depth := short
  simp only [length_write, List.length_cons] at fits
  have first : (nested depth).condition "if"
      ⟨opening.token :: condition.write (closing.token :: thenBranch.write rest), low⟩ = _ :=
    condition_read read "if" opening closing
      (by simp only [length_write, List.length_cons]; omega) regular
  have second : statement depth ⟨thenBranch.write rest, low + condition.drawn⟩ = _ :=
    readThen.nestedStatement (by simp only [length_write]; omega) regularThen
  have notElse : (firstToken rest).isMark .elseWord = false := by
    cases rest with
    | nil => rfl
    | cons following _ => exact noElse following rfl
  have last : (nested depth).elseBranch ⟨rest, low + condition.drawn + thenBranch.drawn⟩ =
      .ok none ⟨rest, low + condition.drawn + thenBranch.drawn⟩ := bind_ok (accept_other notElse)
  have taken (tail : List Token) : (nested depth).wholeStatement ⟨word.token :: tail, low⟩ =
      (nested depth).ifStatement ⟨tail, low⟩ := rfl
  show _ = EStateM.Result.ok _ (State.mk rest (low + (condition.drawn + thenBranch.drawn)))
  rw [← Nat.add_assoc]
  exact (taken _).trans ((bind_ok first).trans ((bind_ok second).trans (bind_ok last)))

theorem ifElseStatement_read {condition : Derivation .expression}
    {thenBranch elseBranch : Derivation .statement} (read : condition.Read)
    (readThen : thenBranch.Read) (readElse : elseBranch.Read) (word : Sign .ifWord)
    (opening : Sign .leftParen) (closing : Sign .rightParen) (otherwise : Sign .elseWord) :
    (ifElseStatement word opening condition closing thenBranch otherwise elseBranch).Read := by
  intro depth rest low short ⟨regular, regularThen, regularElse⟩
  have fits : (condition.write (closing.token :: thenBranch.write (otherwise.token ::
      elseBranch.write rest))).length + 2 ≤ depth := short
  simp only [length_write, List.length_cons] at fits
  have first : (nested depth).condition "if" ⟨opening.token :: condition.write (closing.token ::
      thenBranch.write (otherwise.token :: elseBranch.write rest)), low⟩ = _ :=
    condition_read read "if" opening closing
      (by simp only [length_write, List.length_cons]; omega) regular
  have second : statement depth
      ⟨thenBranch.write (otherwise.token :: elseBranch.write rest), low + condition.drawn⟩ = _ :=
    readThen.nestedStatement (by simp only [length_write, List.length_cons]; omega) regularThen
  have third : statement depth
      ⟨elseBranch.write rest, low + condition.drawn + thenBranch.drawn⟩ = _ :=
    readElse.nestedStatement (by simp only [length_write]; omega) regularElse
  have last : (nested depth).elseBranch ⟨otherwise.token :: elseBranch.write rest,
        low + condition.drawn + thenBranch.drawn⟩ =
      .ok (some (elseBranch.tree (low + condition.drawn + thenBranch.drawn)))
        ⟨rest, low + condition.drawn + thenBranch.drawn + elseBranch.drawn⟩ :=
    (bind_ok (accept_sign otherwise _ _)).trans (bind_ok third)
  have taken (tail : List Token) : (nested depth).wholeStatement ⟨word.token :: tail, low⟩ =
      (nested depth).ifStatement ⟨tail, low⟩ := rfl
  show _ = EStateM.Result.ok _ (State.mk rest
    (low + (condition.drawn + thenBranch.drawn + elseBranch.drawn)))
  simp only [← Nat.add_assoc]
  exact (taken _).trans ((bind_ok first).trans ((bind_ok second).trans (bind_ok last)))

theorem whileStatement_read {condition : Derivation .expression} {body : Derivation .statement}
    (read : condition.Read) (readBody : body.Read) (word : Sign .whileWord)
    (opening : Sign .leftParen) (closing : Sign .rightParen) :
    (whileStatement word opening condition closing body).Read := by
  intro depth rest low short ⟨regular, regularBody⟩
  have fits : (condition.write (closing.token :: body.write rest)).length + 2 ≤ depth := short
  simp only [length_write, List.length_cons] at fits
  have first : (nested depth).condition "while"
      ⟨opening.token :: condition.write (closing.token :: body.write rest), low⟩ = _ :=
    condition_read read "while" opening closing
      (by simp only [length_write, List.length_cons]; omega) regular
  have second : statement depth ⟨body.write rest, low + condition.drawn⟩ = _ :=
    readBody.nestedStatement (by simp only [length_write]; omega) regularBody
  have taken (tail : List Token) : (nested depth).wholeStatement ⟨word.token :: tail, low⟩ =
      (nested depth).whileStatement ⟨tail, low⟩ := rfl
  show _ = EStateM.Result.ok _ (State.mk rest (low + (condition.drawn + body.drawn)))
  rw [← Nat.add_assoc]
  exact (taken _).trans ((bind_ok first).trans (bind_ok second))

theorem printStatement_read {value : Derivation .expression} (read : value.Read)
    (word : Sign .printWord) (semicolon : Sign .semicolon) :
    (printStatement word value semicolon).Read := by
  intro depth rest low short regular
  have inside : (nested depth).expressionUntilSemicolon "after value"
      ⟨value.write (semicolon.token :: rest), low⟩ = _ :=
    expressionUntilSemicolon_read read semicolon _ (Nat.le_of_succ_le short) regular
  exact bind_ok inside

theorem returnStatement_read {value : Derivation .optionalExpression} (read : value.Read)
    (word : Sign .returnWord) (semicolon : Sign .semicolon) :
    (returnStatement word value semicolon).Read := by
  intro depth rest low short regular
  have inside := read depth .semicolon (semicolon.token :: rest) low (Nat.le_of_succ_le short)
    regular Nat.one_pos rfl rfl
  exact (bind_ok inside).trans (bind_ok (expect_sign semicolon _ rest _))

theorem breakStatement_read (word : Sign .breakWord) (semicolon : Sign .semicolon) :
    (breakStatement word semicolon).Read := by
  intro depth rest low _ _
  have taken : (nested depth).wholeStatement ⟨word.token :: semicolon.token :: rest, low⟩ =
      Phrases.controlStatement .break word.identifier ⟨semicolon.token :: rest, low⟩ := rfl
  exact taken.trans (bind_ok (expect_sign semicolon _ rest low))

theorem continueStatement_read (word : Sign .continueWord) (semicolon : Sign .semicolon) :
    (continueStatement word semicolon).Read := by
  intro depth rest low _ _
  have taken : (nested depth).wholeStatement ⟨word.token :: semicolon.token :: rest, low⟩ =
      Phrases.controlStatement .continue word.identifier ⟨semicolon.token :: rest, low⟩ := rfl
  exact taken.trans (bind_ok (expect_sign semicolon _ rest low))

theorem blockStatement_read {block : Derivation .block} (read : block.Read) :
    (blockStatement block).Read := by
  intro depth rest low short regular
  obtain ⟨opening, tail, isTail, ended⟩ := read depth rest low short regular
  show (nested depth).wholeStatement ⟨block.write rest, low⟩ = _
  rw [isTail]
  exact bind_ok ended

/-! ### Declarations -/

theorem namedFunction_read {body : Derivation .block} (read : body.Read) (name : Identifier)
    (opening : Sign .leftParen) (parameters : Option Parameters) (closing : Sign .rightParen) :
    (namedFunction name opening parameters closing body).Read := by
  intro depth kind rest low short ⟨enough, regular⟩
  have inside := length_le_writeParameters parameters (closing.token :: body.write rest)
  have fits : (writeParameters (closing.token :: body.write rest) parameters).length + 2 ≤ depth :=
    short
  rw [List.length_cons] at inside
  refine (bind_ok (expectName_name name _ _ low)).trans ?_
  exact functionTail_read read kind _ (some name) opening parameters closing enough (by omega)
    regular

theorem functionDeclaration_read {function : Derivation .function} (read : function.Read)
    (word : Sign .funWord) : (functionDeclaration word function).Read := by
  intro depth rest low short regular
  have inside := read depth "function" rest low (Nat.le_of_succ_le short) regular
  have begins : Phrases.beginsFunction ((functionDeclaration word function).write rest) = true := by
    cases function
    rfl
  refine recovering_ok ?_
  refine (bind_ok (accept_other rfl)).trans ?_
  show (if Phrases.beginsFunction ((functionDeclaration word function).write rest) then _
    else _ : Parser Statement) _ = _
  rw [begins]
  exact bind_ok inside

theorem variableDeclaration_read {declared : Derivation .variable} (read : declared.Read) :
    (variableDeclaration declared).Read := by
  intro depth rest low short regular
  obtain ⟨word, tail, isTail, ended⟩ := read depth rest low short regular
  have begins : Phrases.beginsFunction (word.token :: tail) = false := beginsFunction_of_other rfl
  show (nested depth).wholeDeclaration ⟨declared.write rest, low⟩ = _
  rw [isTail]
  refine recovering_ok ((bind_ok (accept_other rfl)).trans ?_)
  show (if Phrases.beginsFunction (word.token :: tail) then _ else _ : Parser Statement) _ = _
  rw [begins]
  exact (bind_ok (accept_sign word tail low)).trans ended

theorem statementDeclaration_read {statement : Derivation .statement} (read : statement.Read) :
    (statementDeclaration statement).Read := by
  intro depth rest low short regular
  have begins := statement.beginsStatement rest
  refine recovering_ok ((bind_ok (accept_other begins.notClass)).trans ?_)
  show (if Phrases.beginsFunction (statement.write rest) then _ else _ : Parser Statement) _ = _
  rw [begins.notFunction]
  exact (bind_ok (accept_other begins.notVariable)).trans (read depth rest low short regular)

/-- No declaration begins with what closes a list of declarations. -/
theorem not_closes (derivation : Derivation .declaration) (rest : List Token) :
    ((firstToken (derivation.write rest)).isMark .rightBrace ||
      atEnd (derivation.write rest)) = false := by
  cases derivation with
  | statementDeclaration statement =>
    have begins := statement.beginsStatement rest
    exact Bool.or_eq_false_iff.mpr ⟨begins.notClosing, begins.more⟩
  | variableDeclaration declared => cases declared <;> rfl
  | _ => rfl

/-- A list that is at its end. -/
theorem untilBrace_nothing {Entry : Type} {entry : Parser Entry} (limit : Nat)
    (closes : Closes rest) : untilBrace entry limit ⟨rest, low⟩ = .ok [] ⟨rest, low⟩ := by
  cases limit with
  | zero => rfl
  | succ limit =>
    have looked : untilBrace entry (limit + 1) ⟨rest, low⟩ =
        (if ((firstToken rest).isMark .rightBrace || atEnd rest) then return []
          else do return (← entry) :: (← untilBrace entry limit) : Parser (List Entry))
        ⟨rest, low⟩ := rfl
    rw [looked, show ((firstToken rest).isMark .rightBrace || atEnd rest) = true from closes]
    rfl

/-- Unless a list is at its end, an entry is read, and then the others. -/
theorem untilBrace_step {Entry : Type} {entry : Parser Entry} {tokens : List Token} (limit : Nat)
    (more : ((firstToken tokens).isMark .rightBrace || atEnd tokens) = false) :
    untilBrace entry (limit + 1) ⟨tokens, low⟩ =
      (do return (← entry) :: (← untilBrace entry limit) : Parser (List Entry)) ⟨tokens, low⟩ := by
  have looked : untilBrace entry (limit + 1) ⟨tokens, low⟩ =
      (if ((firstToken tokens).isMark .rightBrace || atEnd tokens) then return []
        else do return (← entry) :: (← untilBrace entry limit) : Parser (List Entry))
      ⟨tokens, low⟩ := rfl
  rw [looked, more]
  rfl

/-- A list that goes on. -/
theorem untilBrace_more {Entry : Type} {entry : Parser Entry} {tokens : List Token} {first : Entry}
    {others : List Entry} {middle after : State} (limit : Nat)
    (more : ((firstToken tokens).isMark .rightBrace || atEnd tokens) = false)
    (read : entry ⟨tokens, low⟩ = .ok first middle)
    (readOthers : untilBrace entry limit middle = .ok others after) :
    untilBrace entry (limit + 1) ⟨tokens, low⟩ = .ok (first :: others) after :=
  (untilBrace_step limit more).trans ((bind_ok read).trans (bind_ok readOthers))

theorem noDeclarations_read : noDeclarations.Read :=
  fun _ limit _ _ _ _ _ closes => untilBrace_nothing limit closes

/-- A declaration has a token. -/
theorem declaration_length (derivation : Derivation .declaration) (rest : List Token) :
    rest.length < (derivation.write rest).length := by
  have some : 0 < derivation.tokens.length := by
    have more := derivation.not_closes []
    unfold tokens
    cases written : derivation.write [] with
    | nil => exact absurd (written ▸ more) (by decide)
    | cons first others => exact Nat.succ_pos _
  rw [length_write]
  omega

theorem moreDeclarations_read {first : Derivation .declaration}
    {others : Derivation .declarations} (read : first.Read) (readOthers : others.Read) :
    (moreDeclarations first others).Read := by
  intro depth limit rest low short few ⟨regular, regularOthers⟩ closes
  have longer := declaration_length first (others.write rest)
  have fits : (first.write (others.write rest)).length < depth := short
  have fitsLimit : (first.write (others.write rest)).length ≤ limit := few
  cases limit with
  | zero => omega
  | succ limit =>
    show _ = EStateM.Result.ok _ (State.mk rest (low + (first.drawn + others.drawn)))
    rw [← Nat.add_assoc]
    refine untilBrace_more limit (first.not_closes _) (read.nestedDeclaration short regular) ?_
    exact readOthers depth limit rest (low + first.drawn) (by omega) (by omega) regularOthers closes

theorem function_length (derivation : Derivation .function) (rest : List Token) :
    rest.length < (derivation.write rest).length ∧
      ((firstToken (derivation.write rest)).isMark .rightBrace ||
        atEnd (derivation.write rest)) = false := by
  cases derivation with
  | namedFunction name opening parameters closing body =>
    refine ⟨?_, rfl⟩
    have inside := length_le_writeParameters parameters (closing.token :: body.write rest)
    show _ < (writeParameters (closing.token :: body.write rest) parameters).length + 2
    simp only [List.length_cons, length_write] at inside
    omega

theorem moreMethods_read {first : Derivation .function} {others : Derivation .methods}
    (read : first.Read) (readOthers : others.Read) : (moreMethods first others).Read := by
  intro depth limit rest low short few ⟨regular, regularOthers⟩ closes
  have ⟨longer, more⟩ := function_length first (others.write rest)
  have fits : (first.write (others.write rest)).length ≤ depth := short
  have fitsLimit : (first.write (others.write rest)).length ≤ limit := few
  cases limit with
  | zero => omega
  | succ limit =>
    show _ = EStateM.Result.ok _ (State.mk rest (low + (first.drawn + others.drawn)))
    rw [← Nat.add_assoc]
    refine untilBrace_more limit more (read depth "method" _ low short regular) ?_
    exact readOthers depth limit rest (low + first.drawn) (by omega) (by omega) regularOthers closes

theorem braces_read {declarations : Derivation .declarations} (read : declarations.Read)
    (opening : Sign .leftBrace) (closing : Sign .rightBrace) :
    (braces opening declarations closing).Read := by
  intro depth rest low short regular
  refine ⟨opening, declarations.write (closing.token :: rest), rfl, ?_⟩
  have inside := read depth (depth + 1) (closing.token :: rest) low short
    (Nat.le_of_lt (Nat.lt_succ_of_lt short)) regular rfl
  exact (bind_ok inside).trans (bind_ok (expect_sign closing _ rest _))

theorem classDeclaration_read {methods : Derivation .methods} (read : methods.Read)
    (word : Sign .classWord) (name : Identifier) (opening : Sign .leftBrace)
    (closing : Sign .rightBrace) : (classDeclaration word name opening methods closing).Read := by
  intro depth rest low short regular
  have fits : (methods.write (closing.token :: rest)).length + 3 ≤ depth := short
  have inside := read depth (depth + 1) (closing.token :: rest) low (by omega) (by omega)
    regular rfl
  have superclass : Phrases.superclass
        ⟨opening.token :: methods.write (closing.token :: rest), low⟩ =
      .ok none ⟨opening.token :: methods.write (closing.token :: rest), low⟩ :=
    bind_ok (accept_other rfl)
  refine recovering_ok ((bind_ok (accept_sign word _ low)).trans ?_)
  refine (bind_ok (expectName_name name _ _ low)).trans ((bind_ok superclass).trans ?_)
  refine (bind_ok (expect_sign opening _ _ low)).trans ((bind_ok inside).trans ?_)
  exact bind_ok (expect_sign closing _ rest _)

theorem subclassDeclaration_read {methods : Derivation .methods} (read : methods.Read)
    (word : Sign .classWord) (name : Identifier) (less : Sign .less) (parent : Identifier)
    (opening : Sign .leftBrace) (closing : Sign .rightBrace) :
    (subclassDeclaration word name less parent opening methods closing).Read := by
  intro depth rest low short regular
  have fits : (methods.write (closing.token :: rest)).length + 5 ≤ depth := short
  have inside := read depth (depth + 1) (closing.token :: rest) (low + 1) (by omega) (by omega)
    regular rfl
  have superclass : Phrases.superclass ⟨less.token :: parent.token :: opening.token ::
        methods.write (closing.token :: rest), low⟩ =
      .ok (some (.read low parent))
        ⟨opening.token :: methods.write (closing.token :: rest), low + 1⟩ :=
    bind_ok (accept_sign less _ low)
  show _ = EStateM.Result.ok _ (State.mk rest (low + (1 + methods.drawn)))
  rw [← Nat.add_assoc]
  refine recovering_ok ((bind_ok (accept_sign word _ low)).trans ?_)
  refine (bind_ok (expectName_name name _ _ low)).trans ((bind_ok superclass).trans ?_)
  refine (bind_ok (expect_sign opening _ _ _)).trans ((bind_ok inside).trans ?_)
  exact bind_ok (expect_sign closing _ rest _)

/-! ### Every derivation -/

/-- Whatever is derived is read: an induction on the derivation. -/
theorem read {symbol : Symbol} (derivation : Derivation symbol) : derivation.Read := by
  induction derivation with
  | wholeProgram | wholeExpression => trivial
  | noDeclarations => exact noDeclarations_read
  | moreDeclarations _ _ read readOthers => exact moreDeclarations_read read readOthers
  | classDeclaration word name opening _ closing read =>
    exact classDeclaration_read read word name opening closing
  | subclassDeclaration word name less parent opening _ closing read =>
    exact subclassDeclaration_read read word name less parent opening closing
  | functionDeclaration word _ read => exact functionDeclaration_read read word
  | variableDeclaration _ read => exact variableDeclaration_read read
  | statementDeclaration _ read => exact statementDeclaration_read read
  | noMethods => exact fun _ limit _ _ _ _ _ closes => untilBrace_nothing limit closes
  | moreMethods _ _ read readOthers => exact moreMethods_read read readOthers
  | namedFunction name opening parameters closing _ read =>
    exact namedFunction_read read name opening parameters closing
  | braces opening _ closing read => exact braces_read read opening closing
  | uninitialized word name semicolon => exact uninitialized_read word name semicolon
  | initialized word name equals _ semicolon read =>
    exact initialized_read read word name equals semicolon
  | evaluationStatement _ read => exact evaluationStatement_read read
  | forStatement word opening _ _ semicolon _ closing _ readInitializer readCondition
      readIncrement readBody =>
    exact forStatement_read readInitializer readCondition readIncrement readBody word opening
      semicolon closing
  | ifStatement word opening _ closing _ read readThen =>
    exact ifStatement_read read readThen word opening closing
  | ifElseStatement word opening _ closing _ otherwise _ read readThen readElse =>
    exact ifElseStatement_read read readThen readElse word opening closing otherwise
  | whileStatement word opening _ closing _ read readBody =>
    exact whileStatement_read read readBody word opening closing
  | printStatement word _ semicolon read => exact printStatement_read read word semicolon
  | returnStatement word _ semicolon read => exact returnStatement_read read word semicolon
  | breakStatement word semicolon => exact breakStatement_read word semicolon
  | continueStatement word semicolon => exact continueStatement_read word semicolon
  | blockStatement _ read => exact blockStatement_read read
  | terminated _ semicolon read => exact terminated_read read semicolon
  | noInitializer semicolon => exact fun _ rest low _ _ => bind_ok (accept_sign semicolon rest low)
  | variableInitializer _ read => exact variableInitializer_read read
  | plainInitializer _ read => exact plainInitializer_read read
  | noExpression => exact noExpression_read
  | someExpression _ read => exact someExpression_read read
  | assignVariable name equals _ read => exact assignVariable_read read name equals
  | assignProperty _ dot name equals _ readObject read =>
    exact assignProperty_read readObject read dot name equals
  | plainExpression _ read => exact plainExpression_read read
  | soleOperand _ read => exact soleOperand_read read
  | joinedOperands _ operator sign _ read readRight =>
    exact joinedOperands_read read readRight operator sign
  | plainCall _ read => exact plainCall_read read
  | unaryOperation operator sign _ read => exact unaryOperation_read read operator sign
  | plainPrimary _ read => exact plainPrimary_read read
  | callWithout _ opening closing read => exact callWithout_read read opening closing
  | callWith _ opening _ closing read readArguments =>
    exact callWith_read read readArguments opening closing
  | property _ dot name read => exact property_read read dot name
  | lastArgument _ read => exact lastArgument_read read
  | moreArguments _ comma _ read readOthers => exact moreArguments_read read readOthers comma
  | numberLiteral | stringLiteral | trueLiteral | falseLiteral | nilLiteral | receiver
  | variableName => exact fun _ _ _ _ _ => rfl
  | superMethod word dot method => exact superMethod_read word dot method
  | grouping opening _ closing read => exact grouping_read read opening closing
  | anonymousFunction word opening parameters closing _ read =>
    exact anonymousFunction_read read word opening parameters closing

end Derivation

/-! ### Programs and lone expressions -/

/-- Declarations read up to the end of the tokens are the attempts at them, none of which fails. -/
theorem attempts_of_untilBrace {depth limit : Nat} {state after : State} {found : List Statement}
    (read : untilBrace (declaration depth) limit state = .ok found after)
    (ended : atEnd after.rest = true) :
    attempts depth limit state = (found.map .ok, after.nextReference) := by
  induction limit generalizing state found with
  | zero =>
    cases read
    rfl
  | succ limit inductionHypothesis =>
    have looked : untilBrace (declaration depth) (limit + 1) state =
        (if ((firstToken state.rest).isMark .rightBrace || atEnd state.rest) then return []
          else do return (← declaration depth) :: (← untilBrace (declaration depth) limit) :
          Parser (List Statement)) state := rfl
    rw [looked] at read
    unfold attempts
    split at read
    · cases read
      rw [if_pos ended]
      rfl
    · rename_i goesOn
      rw [if_neg fun ends => goesOn (Bool.or_eq_true_iff.mpr (.inr ends))]
      cases first : declaration depth state with
      | ok statement middle =>
        rw [bind_ok first] at read
        cases others : untilBrace (declaration depth) limit middle with
        | ok found after =>
          rw [bind_ok others] at read
          cases read
          simp only [inductionHypothesis others, List.map_cons]
        | error error after => exact nomatch (bind_error others).symm.trans read
      | error error middle => exact nomatch (bind_error first).symm.trans read

theorem errorsOf_map_ok (statements : List Statement) : errorsOf (statements.map .ok) = [] := by
  induction statements with
  | nil => rfl
  | cons first others inductionHypothesis => exact inductionHypothesis

theorem statementsOf_map_ok (statements : List Statement) :
    statementsOf (statements.map .ok) = statements := by
  induction statements with
  | nil => rfl
  | cons first others inductionHypothesis => exact congrArg (first :: ·) inductionHypothesis

/-- Declarations that take all tokens up to the end are a program. -/
theorem parseProgram_of_untilBrace {tokens : List Token} {low : Reference}
    {statements : List Statement} {after : State}
    (read : untilBrace (declaration (depthOf tokens)) tokens.length ⟨tokens, low⟩ =
      .ok statements after) (ended : atEnd after.rest = true) :
    parseProgram tokens low = (.ok statements, after.nextReference) := by
  have items : parseItems tokens low = (statements.map .ok, after.nextReference) :=
    attempts_of_untilBrace read ended
  unfold parseProgram
  simp only [items, errorsOf_map_ok, statementsOf_map_ok]

/-- An expression that takes all tokens up to the end is a lone one. -/
theorem parseExpression_of_expression {tokens : List Token} {low : Reference}
    {found : Expression} {after : State}
    (read : expression (depthOf tokens) ⟨tokens, low⟩ = .ok found after)
    (ended : atEnd after.rest = true) :
    parseExpression tokens low = (.ok found, after.nextReference) := by
  have lone : loneExpression (depthOf tokens) ⟨tokens, low⟩ = .ok found after := by
    refine (bind_ok read).trans ?_
    show (if atEnd after.rest then return found else failHere .missingEnd : Parser Expression)
      after = _
    rw [if_pos ended]
    rfl
  unfold parseExpression
  simp only [lone]

/-- A program is read as the tree of its derivation. -/
theorem Derivation.parseProgram_tokens (program : Derivation .program) (low : Reference)
    (regular : program.Regular []) :
    parseProgram program.tokens low = (.ok (program.tree low), low + program.drawn) := by
  cases program with
  | wholeProgram declarations ending =>
    have read := declarations.read _ _ [ending.token] low (Nat.lt_succ_self _) (Nat.le_refl _)
      regular rfl
    exact parseProgram_of_untilBrace read rfl

/-- A lone expression is read as the tree of its derivation. -/
theorem Derivation.parseExpression_tokens (lone : Derivation .loneExpression) (low : Reference)
    (regular : lone.Regular []) :
    parseExpression lone.tokens low = (.ok (lone.tree low), low + lone.drawn) := by
  cases lone with
  | wholeExpression expression ending =>
    have short : (expression.write [ending.token]).length <
        depthOf (expression.write [ending.token]) := Nat.lt_succ_self _
    exact parseExpression_of_expression
      (expression.read.nestedExpression short regular Nat.one_pos) rfl

/-- Every program that the grammar derives is read as the tree of its derivation, and so is every
expression, provided that no list in it is too long and no `if` without `else` has that word behind
it. So no tokens have two such derivations with different trees. -/
theorem derivations_parsed (low : Reference) :
    (∀ program : Derivation .program, program.Regular [] →
      parseProgram program.tokens low = (.ok (program.tree low), low + program.drawn)) ∧
    (∀ lone : Derivation .loneExpression, lone.Regular [] →
      parseExpression lone.tokens low = (.ok (lone.tree low), low + lone.drawn)) ∧
    (∀ one other : Derivation .program, one.Regular [] → other.Regular [] →
      one.tokens = other.tokens → one.tree low = other.tree low) ∧
    ∀ one other : Derivation .loneExpression, one.Regular [] → other.Regular [] →
      one.tokens = other.tokens → one.tree low = other.tree low := by
  refine ⟨fun program => program.parseProgram_tokens low,
    fun lone => lone.parseExpression_tokens low, ?_, ?_⟩
  · intro one other regular otherRegular same
    have read := one.parseProgram_tokens low regular
    rw [same, other.parseProgram_tokens low otherRegular] at read
    exact (Except.ok.inj (Prod.mk.inj read).1).symm
  · intro one other regular otherRegular same
    have read := one.parseExpression_tokens low regular
    rw [same, other.parseExpression_tokens low otherRegular] at read
    exact (Except.ok.inj (Prod.mk.inj read).1).symm

/-- The expression that is a name and nothing else. -/
def Derivation.bareName (name : Identifier) : Derivation .expression :=
  .plainExpression (.soleOperand (.soleOperand (.soleOperand (.soleOperand (.soleOperand
    (.soleOperand (.plainCall (.plainPrimary (.variableName name)))))))))

/-- The program `if (a) if (b) print a; else print b;`, whose inner `if` has the `else`. -/
def danglingElse : Derivation .program :=
  .wholeProgram
    (.moreDeclarations
      (.statementDeclaration
        (.ifStatement ⟨"if", 1⟩ ⟨"(", 1⟩ (.bareName ⟨"a", 1⟩) ⟨")", 1⟩
          (.ifElseStatement ⟨"if", 1⟩ ⟨"(", 1⟩ (.bareName ⟨"b", 1⟩) ⟨")", 1⟩
            (.printStatement ⟨"print", 1⟩ (.bareName ⟨"a", 1⟩) ⟨";", 1⟩) ⟨"else", 1⟩
            (.printStatement ⟨"print", 1⟩ (.bareName ⟨"b", 1⟩) ⟨";", 1⟩))))
      .noDeclarations)
    ⟨"", 1⟩

theorem danglingElse_regular : danglingElse.Regular [] := by
  refine ⟨⟨trivial, ⟨trivial, trivial, trivial⟩, ?_⟩, trivial⟩
  rintro following ⟨⟩
  rfl

/-- That program and the expression `a`. -/
theorem derivations_parsed_danglingElse :
    danglingElse.Regular [] ∧
      parseProgram danglingElse.tokens 0 =
        (.ok [.conditional (.read 0 ⟨"a", 1⟩)
          (.conditional (.read 1 ⟨"b", 1⟩) (.print (.read 2 ⟨"a", 1⟩))
            (some (.print (.read 3 ⟨"b", 1⟩)))) none], 4) ∧
      parseExpression [⟨.identifier, "a", 1⟩, ⟨.endOfInput, "", 1⟩] 0 =
        (.ok (.read 0 ⟨"a", 1⟩), 1) :=
  ⟨danglingElse_regular, (derivations_parsed 0).1 danglingElse danglingElse_regular,
    (derivations_parsed 0).2.1 (.wholeExpression (.bareName ⟨"a", 1⟩) ⟨"", 1⟩) trivial⟩

end Lox.Grammar
