/-
Whatever program is read is derived by the grammar: all its tokens are those of a derivation, in
order, and its statements are the tree of that derivation. The one thing that a parser has to look
for behind a statement is the word `else`, and it takes the word if it is there; so no `if` without
`else` is followed by that word.
-/

import Lox.Proofs.Grammar.Complete
import Lox.Proofs.Grammar.Derived

namespace Lox.Grammar

variable {tokens rest : List Token} {low high : Reference}

/-- A function begins with the word `fun`. -/
theorem eq_fun_cons (begins : Phrases.beginsFunction tokens = true) :
    ∃ (word : Sign .funWord) (rest : List Token), tokens = word.token :: rest := by
  cases isFun : (firstToken tokens).isMark .funWord with
  | true => exact eq_sign_cons isFun
  | false => exact absurd (begins.symm.trans (beginsFunction_of_other isFun)) (by decide)

namespace Phrases.Sound

variable {phrases : Phrases}

/-! ### Parts of statements -/

theorem expressionUntilSemicolon_found (sound : phrases.Sound) (role : String)
    (tokens : List Token) (low : Reference) :
    Finds (phrases.expressionUntilSemicolon role) tokens low fun found rest high =>
      ∃ semicolon : Sign .semicolon,
        Derives .expression tokens low found (semicolon.token :: rest) high := by
  refine (sound.wholeExpression_found tokens low).bind fun _ _ _ derived => .expect_bind ?_
  rintro semicolon rest rfl
  exact ⟨semicolon, derived⟩

theorem expressionUnless_found (sound : phrases.Sound) (mark : Mark) :
    Grammar.Sound .optionalExpression (phrases.expressionUnless mark) := by
  intro tokens low
  refine .bind_of_ok (nextIs_eq mark tokens low) ?_
  split
  · exact ⟨.noExpression, rfl, rfl, rfl, trivial⟩
  · refine (sound.wholeExpression_found tokens low).bind ?_
    rintro _ rest high ⟨expression, rfl, rfl, rfl, regular⟩
    exact ⟨.someExpression expression, rfl, rfl, rfl, regular⟩

/-- A condition between its parentheses. -/
theorem condition_found (sound : phrases.Sound) (word : String) (tokens : List Token)
    (low : Reference) :
    Finds (phrases.condition word) tokens low fun found rest high =>
      ∃ (opening : Sign .leftParen) (inside : List Token) (closing : Sign .rightParen),
        tokens = opening.token :: inside ∧
        Derives .expression inside low found (closing.token :: rest) high := by
  refine .expect_bind fun opening inside isTokens => ?_
  refine (sound.wholeExpression_found inside low).bind fun _ _ _ derived => .expect_bind ?_
  rintro closing rest rfl
  exact ⟨opening, inside, closing, isTokens, derived⟩

/-- A variable declaration whose first word is taken. -/
theorem variableDeclaration_found (sound : phrases.Sound) (word : Sign .varWord)
    (tokens : List Token) (low : Reference) :
    Finds phrases.variableDeclaration tokens low
      (Derives .variable (word.token :: tokens) low) := by
  refine .expectName_bind ?_
  rintro name afterName rfl
  have initialValue : Finds phrases.initialValue afterName low fun found rest high =>
      (found = none ∧ rest = afterName ∧ high = low) ∨
        ∃ (equals : Sign .equal) (value : Derivation .expression),
          afterName = equals.token :: value.write rest ∧
          found = some (value.tree low : Expression) ∧ high = low + value.drawn ∧
          value.Regular rest := by
    refine .accept_bind ?_ fun _ => .inl ⟨rfl, rfl, rfl⟩
    rintro equals afterEquals rfl
    refine (sound.wholeExpression_found afterEquals low).bind ?_
    rintro _ rest high ⟨value, rfl, rfl, rfl, regular⟩
    exact .inr ⟨equals, value, rfl, rfl, rfl, regular⟩
  refine initialValue.bind fun found rest high holds => .expect_bind ?_
  rintro semicolon rest rfl
  rcases holds with ⟨rfl, rfl, rfl⟩ | ⟨equals, value, rfl, rfl, rfl, regular⟩
  · exact ⟨.uninitialized word name semicolon, rfl, rfl, rfl, trivial⟩
  · exact ⟨.initialized word name equals value semicolon, rfl, rfl, rfl, regular⟩

theorem expressionStatement_found (sound : phrases.Sound) :
    Grammar.Sound .expressionStatement phrases.expressionStatement := by
  intro tokens low
  refine (sound.expressionUntilSemicolon_found _ tokens low).bind ?_
  rintro _ rest high ⟨semicolon, expression, rfl, rfl, rfl, regular⟩
  exact ⟨.terminated expression semicolon, rfl, rfl, rfl, regular⟩

theorem forInitializer_found (sound : phrases.Sound) :
    Grammar.Sound .loopInitializer phrases.forInitializer := by
  intro tokens low
  refine .accept_bind ?_ fun _ => .accept_bind ?_ fun _ => ?_
  · rintro semicolon rest rfl
    exact ⟨.noInitializer semicolon, rfl, rfl, rfl, trivial⟩
  · rintro word rest rfl
    refine (sound.variableDeclaration_found word rest low).bind ?_
    rintro _ rest high ⟨declared, isDeclared, rfl, rfl, regular⟩
    exact ⟨.variableInitializer declared, isDeclared, rfl, rfl, regular⟩
  · refine (sound.expressionStatement_found tokens low).bind ?_
    rintro _ rest high ⟨statement, rfl, rfl, rfl, regular⟩
    exact ⟨.plainInitializer statement, rfl, rfl, rfl, regular⟩

/-! ### Statements -/

theorem forStatement_found (sound : phrases.Sound) (word : Sign .forWord) (tokens : List Token)
    (low : Reference) :
    Finds phrases.forStatement tokens low (Derives .statement (word.token :: tokens) low) := by
  refine .expect_bind ?_
  rintro opening rest rfl
  refine (sound.forInitializer_found rest low).bind ?_
  rintro _ rest high ⟨initializer, rfl, rfl, rfl, regularInitializer⟩
  refine (sound.expressionUnless_found .semicolon rest _).bind ?_
  rintro _ rest high ⟨condition, rfl, rfl, rfl, regularCondition⟩
  refine .expect_bind ?_
  rintro semicolon rest rfl
  refine (sound.expressionUnless_found .rightParen rest _).bind ?_
  rintro _ rest high ⟨increment, rfl, rfl, rfl, regularIncrement⟩
  refine .expect_bind ?_
  rintro closing rest rfl
  refine (sound.statement rest _).bind ?_
  rintro _ rest high ⟨body, rfl, rfl, rfl, regular⟩
  refine ⟨.forStatement word opening initializer condition semicolon increment closing body, rfl,
    rfl, ?_, regularInitializer, regularCondition, regularIncrement, regular⟩
  show low + initializer.drawn + condition.drawn + increment.drawn + body.drawn =
    low + (initializer.drawn + condition.drawn + increment.drawn + body.drawn)
  simp only [Nat.add_assoc]

/-- The branch behind `else`, or no such word. -/
theorem elseBranch_found (sound : phrases.Sound) (tokens : List Token) (low : Reference) :
    Finds phrases.elseBranch tokens low fun found rest high =>
      (found = none ∧ (firstToken tokens).isMark .elseWord = false ∧ rest = tokens ∧ high = low) ∨
        ∃ (otherwise : Sign .elseWord) (branch : Derivation .statement),
          tokens = otherwise.token :: branch.write rest ∧
          found = some (branch.tree low : Statement) ∧ high = low + branch.drawn ∧
          branch.Regular rest := by
  refine .accept_bind ?_ fun other => .inl ⟨rfl, other, rfl, rfl⟩
  rintro otherwise afterElse rfl
  refine (sound.statement afterElse _).bind ?_
  rintro _ rest high ⟨branch, rfl, rfl, rfl, regular⟩
  exact .inr ⟨otherwise, branch, rfl, rfl, rfl, regular⟩

theorem ifStatement_found (sound : phrases.Sound) (word : Sign .ifWord) (tokens : List Token)
    (low : Reference) :
    Finds phrases.ifStatement tokens low (Derives .statement (word.token :: tokens) low) := by
  refine (sound.condition_found "if" tokens low).bind ?_
  rintro _ rest high ⟨opening, _, closing, rfl, condition, rfl, rfl, rfl, regularCondition⟩
  refine (sound.statement rest _).bind ?_
  rintro _ rest high ⟨thenBranch, rfl, rfl, rfl, regularThen⟩
  refine (sound.elseBranch_found rest _).bind ?_
  rintro _ after high (⟨rfl, other, rfl, rfl⟩ | ⟨otherwise, elseBranch, rfl, rfl, rfl, regular⟩)
  · refine ⟨.ifStatement word opening condition closing thenBranch, rfl, rfl, Nat.add_assoc _ _ _,
      regularCondition, regularThen, ?_⟩
    cases after with
    | nil => exact nofun
    | cons first others => exact fun following isFirst => Option.some.inj isFirst ▸ other
  · refine ⟨.ifElseStatement word opening condition closing thenBranch otherwise elseBranch, rfl,
      rfl, ?_, regularCondition, regularThen, regular⟩
    show low + condition.drawn + thenBranch.drawn + elseBranch.drawn =
      low + (condition.drawn + thenBranch.drawn + elseBranch.drawn)
    simp only [Nat.add_assoc]

theorem whileStatement_found (sound : phrases.Sound) (word : Sign .whileWord)
    (tokens : List Token) (low : Reference) :
    Finds phrases.whileStatement tokens low (Derives .statement (word.token :: tokens) low) := by
  refine (sound.condition_found "while" tokens low).bind ?_
  rintro _ rest high ⟨opening, _, closing, rfl, condition, rfl, rfl, rfl, regularCondition⟩
  refine (sound.statement rest _).bind ?_
  rintro _ rest high ⟨body, rfl, rfl, rfl, regular⟩
  exact ⟨.whileStatement word opening condition closing body, rfl, rfl, Nat.add_assoc _ _ _,
    regularCondition, regular⟩

theorem returnStatement_found (sound : phrases.Sound) (word : Sign .returnWord)
    (tokens : List Token) (low : Reference) :
    Finds (phrases.returnStatement word.identifier) tokens low
      (Derives .statement (word.token :: tokens) low) := by
  refine (sound.expressionUnless_found .semicolon tokens low).bind ?_
  rintro _ rest high ⟨value, rfl, rfl, rfl, regular⟩
  refine .expect_bind ?_
  rintro semicolon rest rfl
  exact ⟨.returnStatement word value semicolon, rfl, rfl, rfl, regular⟩

theorem wholeStatement_found (sound : phrases.Sound) :
    Grammar.Sound .statement phrases.wholeStatement := by
  intro tokens low
  have plain : Finds phrases.expressionStatement tokens low (Derives .statement tokens low) := by
    refine (sound.expressionStatement_found tokens low).mono ?_
    rintro _ rest high ⟨statement, rfl, rfl, rfl, regular⟩
    exact ⟨.evaluationStatement statement, rfl, rfl, rfl, regular⟩
  match tokens with
  | [] => exact plain
  | ⟨kind, lexeme, line⟩ :: rest =>
    cases kind with
    | mark mark =>
      cases mark with
      | forWord => exact sound.forStatement_found ⟨lexeme, line⟩ rest low
      | ifWord => exact sound.ifStatement_found ⟨lexeme, line⟩ rest low
      | whileWord => exact sound.whileStatement_found ⟨lexeme, line⟩ rest low
      | returnWord => exact sound.returnStatement_found ⟨lexeme, line⟩ rest low
      | breakWord =>
        show Finds (controlStatement .break ⟨lexeme, line⟩) rest low _
        refine .expect_bind ?_
        rintro semicolon rest rfl
        exact ⟨.breakStatement ⟨lexeme, line⟩ semicolon, rfl, rfl, rfl, trivial⟩
      | continueWord =>
        show Finds (controlStatement .continue ⟨lexeme, line⟩) rest low _
        refine .expect_bind ?_
        rintro semicolon rest rfl
        exact ⟨.continueStatement ⟨lexeme, line⟩ semicolon, rfl, rfl, rfl, trivial⟩
      | leftBrace =>
        show Finds (do return .block (← phrases.block) : Parser Statement) rest low _
        refine (sound.block_found ⟨lexeme, line⟩ rest low).bind ?_
        rintro _ rest high ⟨block, isBlock, rfl, rfl, regular⟩
        exact ⟨.blockStatement block, isBlock, rfl, rfl, regular⟩
      | printWord =>
        show Finds (do
          return .print (← phrases.expressionUntilSemicolon "after value") : Parser Statement)
          rest low _
        refine (sound.expressionUntilSemicolon_found _ rest low).bind ?_
        rintro _ rest high ⟨semicolon, value, rfl, rfl, rfl, regular⟩
        exact ⟨.printStatement ⟨lexeme, line⟩ value semicolon, rfl, rfl, rfl, regular⟩
      | _ => exact plain
    | _ => exact plain

/-! ### Declarations -/

theorem namedFunction_found (sound : phrases.Sound) (kind : String) :
    Grammar.Sound .function (phrases.namedFunction kind) := by
  intro tokens low
  refine .expectName_bind ?_
  rintro name rest rfl
  refine (sound.functionTail_found _ _ (some name) rest low).mono ?_
  rintro _ rest high ⟨opening, parameters, closing, body, rfl, rfl, rfl, enough, regular⟩
  exact ⟨.namedFunction name opening parameters closing body, rfl, rfl, rfl, enough, regular⟩

theorem methods_found (sound : phrases.Sound) (kind : String) (limit : Nat) :
    Grammar.Sound .methods (untilBrace (phrases.namedFunction kind) limit) := by
  induction limit with
  | zero => exact fun _ _ => ⟨.noMethods, rfl, rfl, rfl, trivial⟩
  | succ limit inductionHypothesis =>
    intro tokens low
    refine .bind_of_ok (nextIs_eq .rightBrace tokens low) ?_
    show Finds (if ((firstToken tokens).isMark .rightBrace || atEnd tokens) then return []
      else _) _ _ _
    split
    · exact ⟨.noMethods, rfl, rfl, rfl, trivial⟩
    · refine (sound.namedFunction_found kind tokens low).bind ?_
      rintro _ rest high ⟨first, rfl, rfl, rfl, regular⟩
      refine (inductionHypothesis rest _).bind ?_
      rintro _ rest high ⟨others, rfl, rfl, rfl, regularOthers⟩
      exact ⟨.moreMethods first others, rfl, rfl, Nat.add_assoc _ _ _, regular, regularOthers⟩

theorem classDeclaration_found (sound : phrases.Sound) (word : Sign .classWord)
    (tokens : List Token) (low : Reference) :
    Finds phrases.classDeclaration tokens low
      (Derives .declaration (word.token :: tokens) low) := by
  refine .expectName_bind ?_
  rintro name afterName rfl
  have superclass : Finds superclass afterName low fun found rest high =>
      (found = none ∧ rest = afterName ∧ high = low) ∨
        ∃ (less : Sign .less) (parent : Identifier),
          afterName = less.token :: parent.token :: rest ∧ found = some (.read low parent) ∧
          high = low + 1 := by
    refine .accept_bind ?_ fun _ => .inl ⟨rfl, rfl, rfl⟩
    rintro less afterLess rfl
    refine .expectName_bind ?_
    rintro parent rest rfl
    exact .inr ⟨less, parent, rfl, rfl, rfl⟩
  refine superclass.bind fun found rest high holds => .expect_bind ?_
  rintro opening rest rfl
  refine (sound.methods_found "method" _ rest high).bind ?_
  rintro _ rest high ⟨methods, rfl, rfl, rfl, regular⟩
  refine .expect_bind ?_
  rintro closing rest rfl
  rcases holds with ⟨rfl, rfl, rfl⟩ | ⟨less, parent, rfl, rfl, rfl⟩
  · exact ⟨.classDeclaration word name opening methods closing, rfl, rfl, rfl, regular⟩
  · exact ⟨.subclassDeclaration word name less parent opening methods closing, rfl, rfl,
      Nat.add_assoc _ _ _, regular⟩

theorem wholeDeclaration_found (sound : phrases.Sound) :
    Grammar.Sound .declaration phrases.wholeDeclaration := by
  intro tokens low
  refine .recovering (.accept_bind ?_ fun _ => ?_)
  · rintro word rest rfl
    exact sound.classDeclaration_found word rest low
  show Finds (if beginsFunction tokens then _ else _) _ _ _
  cases begins : beginsFunction tokens with
  | true =>
    obtain ⟨word, rest, rfl⟩ := eq_fun_cons begins
    refine Finds.bind_of_ok rfl ((sound.namedFunction_found "function" rest low).bind ?_)
    rintro _ rest high ⟨function, rfl, rfl, rfl, regular⟩
    exact ⟨.functionDeclaration word function, rfl, rfl, rfl, regular⟩
  | false =>
    refine .accept_bind ?_ fun _ => ?_
    · rintro word rest rfl
      refine (sound.variableDeclaration_found word rest low).mono ?_
      rintro _ rest high ⟨declared, isDeclared, rfl, rfl, regular⟩
      exact ⟨.variableDeclaration declared, isDeclared, rfl, rfl, regular⟩
    · refine (sound.wholeStatement_found tokens low).mono ?_
      rintro _ rest high ⟨statement, rfl, rfl, rfl, regular⟩
      exact ⟨.statementDeclaration statement, rfl, rfl, rfl, regular⟩

end Phrases.Sound

/-- Whatever is found at any depth is derived. -/
theorem nested_sound (depth : Nat) : (nested depth).Sound := by
  induction depth with
  | zero => exact ⟨fun _ _ => trivial, fun _ _ => trivial, fun _ _ => trivial⟩
  | succ depth sound =>
    exact ⟨sound.wholeExpression_found, sound.wholeStatement_found, sound.wholeDeclaration_found⟩

/-! ### Programs and lone expressions -/

/-- Attempts none of which fails, as many as there are tokens at most, are declarations up to the
end. -/
theorem attempts_sound (depth limit : Nat) (tokens : List Token) (low : Reference)
    (short : tokens.length ≤ limit)
    (flawless : errorsOf (attempts depth limit ⟨tokens, low⟩).1 = []) :
    ∃ rest, atEnd rest = true ∧
      Derives .declarations tokens low (statementsOf (attempts depth limit ⟨tokens, low⟩).1) rest
        (attempts depth limit ⟨tokens, low⟩).2 := by
  induction limit generalizing tokens low with
  | zero =>
    obtain rfl := List.eq_nil_of_length_eq_zero (Nat.le_zero.mp short)
    exact ⟨[], rfl, .noDeclarations, rfl, rfl, rfl, trivial⟩
  | succ limit inductionHypothesis =>
    unfold attempts at flawless ⊢
    split
    · rename_i ended
      exact ⟨tokens, ended, .noDeclarations, rfl, rfl, rfl, trivial⟩
    · rename_i more
      rw [if_neg more] at flawless
      cases ended : declaration depth ⟨tokens, low⟩ with
      | ok statement after =>
        rw [ended] at flawless
        obtain ⟨middle, drawn⟩ := after
        obtain ⟨first, rfl, rfl, rfl, regular⟩ :=
          ((nested_sound depth).declaration tokens low).ok ended
        have shorter := Derivation.declaration_length first middle
        have fits : (first.write middle).length ≤ limit + 1 := short
        obtain ⟨rest, atRest, others, isMiddle, isTree, isHigh, regularOthers⟩ :=
          inductionHypothesis middle _ (by omega) flawless
        refine ⟨rest, atRest, .moreDeclarations first others, ?_, ?_, ?_, ?_⟩
        · exact congrArg first.write isMiddle
        · exact congrArg (first.tree low :: ·) isTree
        · exact isHigh.trans (Nat.add_assoc _ _ _)
        · exact ⟨isMiddle ▸ regular, regularOthers⟩
      | error error after =>
        rw [ended] at flawless
        cases flawless

/-- A program that is read is declarations up to the end. -/
theorem parseProgram_sound {statements : List Statement}
    (parsed : parseProgram tokens low = (.ok statements, high)) :
    ∃ rest, atEnd rest = true ∧ Derives .declarations tokens low statements rest high := by
  have sound := attempts_sound (depthOf tokens) tokens.length tokens low (Nat.le_refl _)
  unfold parseProgram parseItems at parsed
  dsimp only at parsed
  split at parsed
  · rename_i flawless
    cases parsed
    exact sound flawless
  · cases parsed

/-- A lone expression that is read is an expression up to the end. -/
theorem parseExpression_sound {found : Expression}
    (parsed : parseExpression tokens low = (.ok found, high)) :
    ∃ rest, atEnd rest = true ∧ Derives .expression tokens low found rest high := by
  have sound : Finds (loneExpression (depthOf tokens)) tokens low fun found rest high =>
      atEnd rest = true ∧ Derives .expression tokens low found rest high := by
    refine ((nested_sound (depthOf tokens)).expression tokens low).bind ?_
    intro found rest high derived
    refine .bind_of_ok rfl ?_
    split
    · rename_i atRest
      exact ⟨atRest, derived⟩
    · exact trivial
  unfold parseExpression at parsed
  split at parsed
  · rename_i ended
    cases parsed
    exact ⟨_, sound.ok ended⟩
  · cases parsed

/-- Where only the last of the tokens is an end, whatever takes all tokens up to the end leaves just
that one. -/
theorem rest_of_atEnd {symbol : Symbol} {derivation : Derivation symbol} {body : List Token}
    {last : Token} (inner : symbol.isWhole = false) (isEnd : last.isEnd = true)
    (others : ∀ token ∈ body, token.isEnd = false)
    (whole : body ++ [last] = derivation.write rest) (ended : atEnd rest = true) :
    ∃ ending : Ending, rest = [ending.token] := by
  cases rest with
  | nil =>
    have none := derivation.any_isEnd_write []
    rw [← whole, inner, List.any_append, List.any_cons, isEnd] at none
    exact absurd none (by simp)
  | cons first rest =>
    cases rest with
    | nil =>
      obtain ⟨kind, lexeme, line⟩ := first
      cases kind with
      | endOfInput => exact ⟨⟨lexeme, line⟩, rfl⟩
      | _ => exact nomatch ended
    | cons second rest =>
      obtain ⟨between, final, isRest⟩ :=
        (List.eq_nil_or_concat' (second :: rest)).resolve_left (List.cons_ne_nil second rest)
      rw [derivation.write_eq, isRest, ← List.cons_append, ← List.append_assoc] at whole
      have member : first ∈ body := by
        rw [(List.append_inj' whole rfl).1]
        exact List.mem_append_right _ List.mem_cons_self
      exact absurd ended (Bool.eq_false_iff.mp (others first member))

/-- Tokens of which only the last is an end. -/
structure OnlyEnd (body : List Token) (last : Token) : Prop where
  isEnd : last.isEnd = true
  others : ∀ token ∈ body, token.isEnd = false

theorem OnlyEnd.program {body : List Token} {last : Token} (onlyEnd : OnlyEnd body last)
    {statements : List Statement}
    (parsed : parseProgram (body ++ [last]) low = (.ok statements, high)) :
    ∃ program : Derivation .program, program.tokens = body ++ [last] ∧
      statements = program.tree low ∧ high = low + program.drawn ∧ program.Regular [] := by
  obtain ⟨rest, ended, derivation, whole, isTree, isHigh, regular⟩ := parseProgram_sound parsed
  obtain ⟨ending, rfl⟩ := rest_of_atEnd rfl onlyEnd.isEnd onlyEnd.others whole ended
  exact ⟨.wholeProgram derivation ending, whole.symm, isTree, isHigh, regular⟩

theorem OnlyEnd.loneExpression {body : List Token} {last : Token} (onlyEnd : OnlyEnd body last)
    {expression : Expression}
    (parsed : parseExpression (body ++ [last]) low = (.ok expression, high)) :
    ∃ lone : Derivation .loneExpression, lone.tokens = body ++ [last] ∧
      expression = lone.tree low ∧ high = low + lone.drawn ∧ lone.Regular [] := by
  obtain ⟨rest, ended, derivation, whole, isTree, isHigh, regular⟩ := parseExpression_sound parsed
  obtain ⟨ending, rfl⟩ := rest_of_atEnd rfl onlyEnd.isEnd onlyEnd.others whole ended
  exact ⟨.wholeExpression derivation ending, whole.symm, isTree, isHigh, regular⟩

/-- If only the last of the tokens is an end, then a program that is read from them is the tree of a
derivation of them, every token of which is there, and so is an expression. -/
theorem parsed_derived (body : List Token) (last : Token) (low : Reference)
    (isEnd : last.isEnd = true) (others : ∀ token ∈ body, token.isEnd = false) :
    (∀ statements high, parseProgram (body ++ [last]) low = (.ok statements, high) →
      ∃ program : Derivation .program, program.tokens = body ++ [last] ∧
        statements = program.tree low ∧ high = low + program.drawn ∧ program.Regular []) ∧
    ∀ expression high, parseExpression (body ++ [last]) low = (.ok expression, high) →
      ∃ lone : Derivation .loneExpression, lone.tokens = body ++ [last] ∧
        expression = lone.tree low ∧ high = low + lone.drawn ∧ lone.Regular [] :=
  ⟨fun _ _ => OnlyEnd.program ⟨isEnd, others⟩, fun _ _ => OnlyEnd.loneExpression ⟨isEnd, others⟩⟩

/-- The program `a = b;` and the expression `a`. -/
theorem parsed_derived_assignment :
    (∃ program : Derivation .program,
      program.tokens = [⟨.identifier, "a", 1⟩, ⟨.mark .equal, "=", 1⟩, ⟨.identifier, "b", 1⟩,
        ⟨.mark .semicolon, ";", 1⟩, ⟨.endOfInput, "", 1⟩] ∧
      [.expression (.assign 2 ⟨"a", 1⟩ (.read 1 ⟨"b", 1⟩))] = program.tree 0 ∧
      3 = 0 + program.drawn ∧ program.Regular []) ∧
    ∃ lone : Derivation .loneExpression,
      lone.tokens = [⟨.identifier, "a", 1⟩, ⟨.endOfInput, "", 1⟩] ∧
      .read 0 ⟨"a", 1⟩ = lone.tree 0 ∧ 1 = 0 + lone.drawn ∧ lone.Regular [] :=
  ⟨(parsed_derived [⟨.identifier, "a", 1⟩, ⟨.mark .equal, "=", 1⟩, ⟨.identifier, "b", 1⟩,
      ⟨.mark .semicolon, ";", 1⟩] ⟨.endOfInput, "", 1⟩ 0 rfl (by decide)).1 _ _ rfl,
    (parsed_derived [⟨.identifier, "a", 1⟩] ⟨.endOfInput, "", 1⟩ 0 rfl (by decide)).2 _ _ rfl⟩

end Lox.Grammar
