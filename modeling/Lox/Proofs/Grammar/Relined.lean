/-
Derivations on other lines. A derivation whose tokens are moved to other lines is one of the moved
tokens, and its tree is the tree on other lines, whatever reference it is numbered from. Behind
other tokens it is as regular as before, unless the first of them is the word `else`; so a program
can be put behind another one.
-/

import Lox.Proofs.Grammar.Sound
import Lox.Proofs.Tree.Relabelled

namespace Lox

/-- The token on its new line. -/
def Token.reline (line : Nat → Nat) (token : Token) : Token :=
  ⟨token.kind, token.lexeme, line token.line⟩

namespace Grammar

/-! ### Derivations on other lines -/

/-- The sign on its new line. -/
def Sign.reline {mark : Mark} (line : Nat → Nat) (sign : Sign mark) : Sign mark :=
  ⟨sign.lexeme, line sign.line⟩

/-- The end on its new line. -/
def Ending.reline (line : Nat → Nat) (ending : Ending) : Ending :=
  ⟨ending.lexeme, line ending.line⟩

/-- The parameters on new lines. -/
def Parameters.reline (line : Nat → Nat) : Parameters → Parameters
  | .last name => .last (name.reline line)
  | .more name comma others => .more (name.reline line) (comma.reline line) (others.reline line)

/-- The derivation with its tokens on new lines. -/
def Derivation.reline (line : Nat → Nat) : {symbol : Symbol} → Derivation symbol →
    Derivation symbol
  | _, wholeProgram declarations ending =>
    wholeProgram (declarations.reline line) (ending.reline line)
  | _, wholeExpression expression ending =>
    wholeExpression (expression.reline line) (ending.reline line)
  | _, noDeclarations => noDeclarations
  | _, moreDeclarations first others => moreDeclarations (first.reline line) (others.reline line)
  | _, classDeclaration word name opening methods closing =>
    classDeclaration (word.reline line) (name.reline line) (opening.reline line)
      (methods.reline line) (closing.reline line)
  | _, subclassDeclaration word name less superclass opening methods closing =>
    subclassDeclaration (word.reline line) (name.reline line) (less.reline line)
      (superclass.reline line) (opening.reline line) (methods.reline line) (closing.reline line)
  | _, functionDeclaration word function =>
    functionDeclaration (word.reline line) (function.reline line)
  | _, variableDeclaration declared => variableDeclaration (declared.reline line)
  | _, statementDeclaration statement => statementDeclaration (statement.reline line)
  | _, noMethods => noMethods
  | _, moreMethods first others => moreMethods (first.reline line) (others.reline line)
  | _, namedFunction name opening parameters closing body =>
    namedFunction (name.reline line) (opening.reline line) (parameters.map (·.reline line))
      (closing.reline line) (body.reline line)
  | _, braces opening declarations closing =>
    braces (opening.reline line) (declarations.reline line) (closing.reline line)
  | _, uninitialized word name semicolon =>
    uninitialized (word.reline line) (name.reline line) (semicolon.reline line)
  | _, initialized word name equals value semicolon =>
    initialized (word.reline line) (name.reline line) (equals.reline line) (value.reline line)
      (semicolon.reline line)
  | _, evaluationStatement statement => evaluationStatement (statement.reline line)
  | _, forStatement word opening initializer condition semicolon increment closing body =>
    forStatement (word.reline line) (opening.reline line) (initializer.reline line)
      (condition.reline line) (semicolon.reline line) (increment.reline line) (closing.reline line)
      (body.reline line)
  | _, ifStatement word opening condition closing thenBranch =>
    ifStatement (word.reline line) (opening.reline line) (condition.reline line)
      (closing.reline line) (thenBranch.reline line)
  | _, ifElseStatement word opening condition closing thenBranch otherwise elseBranch =>
    ifElseStatement (word.reline line) (opening.reline line) (condition.reline line)
      (closing.reline line) (thenBranch.reline line) (otherwise.reline line)
      (elseBranch.reline line)
  | _, whileStatement word opening condition closing body =>
    whileStatement (word.reline line) (opening.reline line) (condition.reline line)
      (closing.reline line) (body.reline line)
  | _, printStatement word value semicolon =>
    printStatement (word.reline line) (value.reline line) (semicolon.reline line)
  | _, returnStatement word value semicolon =>
    returnStatement (word.reline line) (value.reline line) (semicolon.reline line)
  | _, breakStatement word semicolon => breakStatement (word.reline line) (semicolon.reline line)
  | _, continueStatement word semicolon =>
    continueStatement (word.reline line) (semicolon.reline line)
  | _, blockStatement block => blockStatement (block.reline line)
  | _, terminated expression semicolon =>
    terminated (expression.reline line) (semicolon.reline line)
  | _, noInitializer semicolon => noInitializer (semicolon.reline line)
  | _, variableInitializer declared => variableInitializer (declared.reline line)
  | _, plainInitializer statement => plainInitializer (statement.reline line)
  | _, noExpression => noExpression
  | _, someExpression expression => someExpression (expression.reline line)
  | _, assignVariable name equals value =>
    assignVariable (name.reline line) (equals.reline line) (value.reline line)
  | _, assignProperty object dot name equals value =>
    assignProperty (object.reline line) (dot.reline line) (name.reline line) (equals.reline line)
      (value.reline line)
  | _, plainExpression operands => plainExpression (operands.reline line)
  | _, soleOperand operand => soleOperand (operand.reline line)
  | _, joinedOperands left operator sign right =>
    joinedOperands (left.reline line) operator (sign.reline line) (right.reline line)
  | _, plainCall call => plainCall (call.reline line)
  | _, unaryOperation operator sign operand =>
    unaryOperation operator (sign.reline line) (operand.reline line)
  | _, plainPrimary primary => plainPrimary (primary.reline line)
  | _, callWithout callee opening closing =>
    callWithout (callee.reline line) (opening.reline line) (closing.reline line)
  | _, callWith callee opening arguments closing =>
    callWith (callee.reline line) (opening.reline line) (arguments.reline line)
      (closing.reline line)
  | _, property object dot name =>
    property (object.reline line) (dot.reline line) (name.reline line)
  | _, lastArgument argument => lastArgument (argument.reline line)
  | _, moreArguments argument comma others =>
    moreArguments (argument.reline line) (comma.reline line) (others.reline line)
  | _, numberLiteral value lexeme place => numberLiteral value lexeme (line place)
  | _, stringLiteral contents lexeme place => stringLiteral contents lexeme (line place)
  | _, trueLiteral word => trueLiteral (word.reline line)
  | _, falseLiteral word => falseLiteral (word.reline line)
  | _, nilLiteral word => nilLiteral (word.reline line)
  | _, receiver word => receiver (word.reline line)
  | _, superMethod word dot method =>
    superMethod (word.reline line) (dot.reline line) (method.reline line)
  | _, variableName name => variableName (name.reline line)
  | _, grouping opening inner closing =>
    grouping (opening.reline line) (inner.reline line) (closing.reline line)
  | _, anonymousFunction word opening parameters closing body =>
    anonymousFunction (word.reline line) (opening.reline line) (parameters.map (·.reline line))
      (closing.reline line) (body.reline line)

theorem Sign.reline_id {mark : Mark} (sign : Sign mark) : sign.reline id = sign := rfl

theorem Ending.reline_id (ending : Ending) : ending.reline id = ending := rfl

theorem Identifier.reline_id (name : Identifier) : name.reline id = name := rfl

theorem Parameters.reline_id (parameters : Parameters) : parameters.reline id = parameters := by
  induction parameters with
  | last name => rfl
  | more name comma others inductionHypothesis =>
    exact congrArg (Parameters.more name comma) inductionHypothesis

/-- Where lines stay, the derivation does. -/
theorem Derivation.reline_id {symbol : Symbol} (derivation : Derivation symbol) :
    derivation.reline id = derivation := by
  have parameters (parameters : Option Parameters) :
      parameters.map (·.reline id) = parameters := by
    cases parameters with
    | none => rfl
    | some parameters => exact congrArg some parameters.reline_id
  induction derivation with
  | _ => simp only [reline, Sign.reline_id, Ending.reline_id, Identifier.reline_id, id_eq, *]

/-! ### Tokens -/

variable {line : Nat → Nat}

theorem writeParameters_reline (parameters : Option Parameters) (rest : List Token) :
    writeParameters (rest.map (·.reline line)) (parameters.map (·.reline line)) =
      (writeParameters rest parameters).map (·.reline line) := by
  cases parameters with
  | none => rfl
  | some parameters =>
    show (parameters.reline line).write _ = (parameters.write rest).map _
    induction parameters with
    | last name => rfl
    | more name comma others inductionHypothesis =>
      exact congrArg ((name.token.reline line) :: (comma.token.reline line) :: ·)
        inductionHypothesis

theorem parameterNames_reline (parameters : Option Parameters) :
    parameterNames (parameters.map (·.reline line)) =
      (parameterNames parameters).map (·.reline line) := by
  cases parameters with
  | none => rfl
  | some parameters =>
    show (parameters.reline line).names = parameters.names.map _
    induction parameters with
    | last name => rfl
    | more name comma others inductionHypothesis =>
      exact congrArg ((name.reline line) :: ·) inductionHypothesis

namespace Derivation

variable {symbol : Symbol}

/-- What is derived is moved. -/
theorem write_reline (derivation : Derivation symbol) (rest : List Token) :
    (derivation.reline line).write (rest.map (·.reline line)) =
      (derivation.write rest).map (·.reline line) := by
  have sign {mark : Mark} (sign : Sign mark) :
      (sign.reline line).token = sign.token.reline line := rfl
  have name (name : Identifier) : (name.reline line).token = name.token.reline line := rfl
  have ending (ending : Ending) : (ending.reline line).token = ending.token.reline line := rfl
  induction derivation generalizing rest with
  | numberLiteral | stringLiteral => rfl
  | _ => simp only [reline, write, ← List.map_cons, writeParameters_reline, *]

theorem tokens_reline (derivation : Derivation symbol) :
    (derivation.reline line).tokens = derivation.tokens.map (·.reline line) :=
  derivation.write_reline []

theorem drawn_reline (derivation : Derivation symbol) :
    (derivation.reline line).drawn = derivation.drawn := by
  induction derivation with
  | _ => simp only [reline, drawn, *]

end Derivation

/-! ### Trees -/

/-- What a derivation of the symbol stands for, with new labels. -/
def Symbol.relabel (labels : Relabelling) : (symbol : Symbol) → symbol.Tree → symbol.Tree
  | .program | .declarations | .block => Statement.relabelAll labels
  | .declaration | .variable | .statement | .expressionStatement => Statement.relabel labels
  | .methods => FunctionDeclaration.relabelAll labels
  | .function => FunctionDeclaration.relabel labels
  | .loopInitializer => Option.map (Statement.relabel labels)
  | .optionalExpression => Option.map (Expression.relabel labels)
  | .arguments => Expression.relabelAll labels
  | .loneExpression | .expression | .operands _ | .call | .primary => Expression.relabel labels

theorem Operator.join_relabel {tier : Tier} (operator : Operator tier) (labels : Relabelling)
    (place : Nat) (left right : Expression) :
    operator.join (labels.line place) (left.relabel labels) (right.relabel labels) =
      (operator.join place left right).relabel labels := by
  cases operator <;> rfl

theorem desugared_relabel (labels : Relabelling) (initializer : Option Statement)
    (condition increment : Option Expression) (body : Statement) :
    desugared (initializer.map (·.relabel labels)) (condition.map (·.relabel labels))
        (increment.map (·.relabel labels)) (body.relabel labels) =
      (desugared initializer condition increment body).relabel labels := by
  cases initializer <;> cases condition <;> cases increment <;> rfl

/-- Lines are moved as the line function says, and references by some distance. -/
def moved (line : Nat → Nat) (distance : Nat) : Relabelling := ⟨line, (distance + ·)⟩

namespace Derivation

variable {symbol : Symbol}

/-- The tree of moved tokens is moved. -/
theorem tree_reline (derivation : Derivation symbol) (distance : Nat) (low : Reference) :
    (derivation.reline line).tree (distance + low) =
      symbol.relabel (moved line distance) (derivation.tree low) := by
  induction derivation generalizing low with
  | forStatement _ _ initializer condition _ increment _ body readInitializer readCondition
      readIncrement readBody =>
    show desugared ((initializer.reline line).tree (distance + low))
      ((condition.reline line).tree (distance + low + (initializer.reline line).drawn))
      ((increment.reline line).tree
        (distance + low + (initializer.reline line).drawn + (condition.reline line).drawn))
      ((body.reline line).tree (distance + low + (initializer.reline line).drawn +
        (condition.reline line).drawn + (increment.reline line).drawn)) = _
    rw [drawn_reline, drawn_reline, drawn_reline, Nat.add_assoc distance low,
      Nat.add_assoc distance, Nat.add_assoc distance, readInitializer, readCondition,
      readIncrement, readBody]
    exact desugared_relabel (moved line distance) _ _ _ _
  | returnStatement word value _ readValue =>
    show Statement.giveBack _ ((value.reline line).tree (distance + low)) = _
    rw [readValue]
    show Statement.giveBack _ (Option.map _ (value.tree low)) =
      Statement.relabel _ (Statement.giveBack _ (value.tree low))
    cases (value.tree low : Option Expression) <;> rfl
  | joinedOperands left operator sign right readLeft readRight =>
    show operator.join (line sign.line) ((left.reline line).tree (distance + low))
      ((right.reline line).tree (distance + low + (left.reline line).drawn)) = _
    rw [drawn_reline, Nat.add_assoc, readLeft, readRight]
    exact operator.join_relabel (moved line distance) sign.line _ _
  | _ =>
    simp only [reline, tree, drawn_reline, parameterNames_reline, Nat.add_assoc, Symbol.relabel,
      Expression.relabel, Expression.relabelAll, FunctionDeclaration.relabel,
      FunctionDeclaration.relabelAll, Statement.relabel, Statement.relabelAll, *]
    rfl

end Derivation

/-- There are as many arguments. -/
theorem Derivation.length_reline : (arguments : Derivation .arguments) →
    ((arguments.reline line).tree 0).length = (arguments.tree 0).length
  | lastArgument _ => rfl
  | moreArguments _ _ others =>
    congrArg (· + 1) ((others.reline line).length_arguments _ 0 |>.trans
      (others.length_reline.trans (others.length_arguments 0 _)))

/-! ### Regularity -/

/-- The first of the tokens is another one than the word `else`. -/
def NoElse (rest : List Token) : Prop :=
  ∀ following ∈ rest.head?, following.isMark .elseWord = false

theorem NoElse.cons (token : Token) (line : Nat → Nat) (rest other : List Token)
    (noElse : NoElse (token :: rest)) : NoElse (token.reline line :: other) := by
  rintro following ⟨⟩
  exact noElse token rfl

namespace Derivation

variable {symbol : Symbol} {rest other : List Token}

/-- What a derivation begins with is no more `else` than before. -/
theorem noElse_write (derivation : Derivation symbol) (follows : NoElse rest → NoElse other)
    (noElse : NoElse (derivation.write rest)) : NoElse ((derivation.reline line).write other) := by
  rw [write_eq] at noElse ⊢
  rw [tokens_reline]
  cases tokens : derivation.tokens with
  | nil =>
    rw [tokens] at noElse
    exact follows noElse
  | cons first others =>
    rw [tokens] at noElse
    exact .cons first line (others ++ rest) _ noElse

/-- A derivation is regular on other lines and behind other tokens, unless these begin with `else`
and the tokens before did not. -/
theorem Regular.reline {derivation : Derivation symbol} (regular : derivation.Regular rest)
    (follows : NoElse rest → NoElse other) : (derivation.reline line).Regular other := by
  have sign {mark : Mark} (sign : Sign mark) (rest other : List Token) :
      NoElse (sign.token :: rest) → NoElse ((sign.reline line).token :: other) :=
    .cons sign.token line rest other
  induction derivation generalizing rest other with
  | noDeclarations | noMethods | uninitialized | breakStatement | continueStatement
  | noInitializer | noExpression | numberLiteral | stringLiteral | trueLiteral | falseLiteral
  | nilLiteral | receiver | superMethod | variableName => trivial
  | functionDeclaration _ _ inside | variableDeclaration _ inside | statementDeclaration _ inside
  | evaluationStatement _ inside | blockStatement _ inside | variableInitializer _ inside
  | plainInitializer _ inside | someExpression _ inside | assignVariable _ _ _ inside
  | plainExpression _ inside | soleOperand _ inside | plainCall _ inside
  | unaryOperation _ _ _ inside | plainPrimary _ inside | lastArgument _ inside =>
    exact inside regular follows
  | wholeProgram _ ending inside | wholeExpression _ ending inside =>
    exact inside regular (.cons ending.token line _ _)
  | classDeclaration _ _ _ _ closing inside | subclassDeclaration _ _ _ _ _ _ closing inside
  | braces _ _ closing inside | initialized _ _ _ _ closing inside
  | printStatement _ _ closing inside | returnStatement _ _ closing inside
  | terminated _ closing inside | callWithout _ closing _ inside | property _ closing _ inside
  | grouping _ _ closing inside =>
    exact inside regular (sign closing _ _)
  | moreDeclarations _ others inside behind | moreMethods _ others inside behind =>
    exact ⟨inside regular.1 (others.noElse_write follows), behind regular.2 follows⟩
  | namedFunction _ _ parameters _ _ inside | anonymousFunction _ _ parameters _ _ inside =>
    refine ⟨?_, inside regular.2 follows⟩
    rw [parameterNames_reline, List.length_map]
    exact regular.1
  | forStatement _ _ _ condition semicolon increment closing _ inInitializer inCondition inIncrement
      inBody =>
    obtain ⟨regularInitializer, regularCondition, regularIncrement, regularBody⟩ := regular
    exact ⟨inInitializer regularInitializer (condition.noElse_write (sign semicolon _ _)),
      inCondition regularCondition (sign semicolon _ _),
      inIncrement regularIncrement (sign closing _ _), inBody regularBody follows⟩
  | ifStatement _ _ _ closing _ inCondition inThen =>
    obtain ⟨regularCondition, regularThen, noElse⟩ := regular
    exact ⟨inCondition regularCondition (sign closing _ _), inThen regularThen follows,
      follows noElse⟩
  | ifElseStatement _ _ _ closing _ otherwise _ inCondition inThen inElse =>
    obtain ⟨regularCondition, regularThen, regularElse⟩ := regular
    exact ⟨inCondition regularCondition (sign closing _ _),
      inThen regularThen (sign otherwise _ _), inElse regularElse follows⟩
  | whileStatement _ _ _ closing _ inCondition inBody =>
    exact ⟨inCondition regular.1 (sign closing _ _), inBody regular.2 follows⟩
  | assignProperty _ dot _ _ _ inObject inValue =>
    exact ⟨inObject regular.1 (sign dot _ _), inValue regular.2 follows⟩
  | joinedOperands _ _ operator _ inLeft inRight =>
    exact ⟨inLeft regular.1 (sign operator _ _), inRight regular.2 follows⟩
  | callWith _ opening arguments closing inCallee inArguments =>
    obtain ⟨regularCallee, few, regularArguments⟩ := regular
    refine ⟨inCallee regularCallee (sign opening _ _), ?_,
      inArguments regularArguments (sign closing _ _)⟩
    exact Nat.le_trans (Nat.le_of_eq arguments.length_reline) few
  | moreArguments _ comma _ inArgument inOthers =>
    exact ⟨inArgument regular.1 (sign comma _ _), inOthers regular.2 follows⟩

/-- A derivation is as regular in front of other tokens, unless these begin with `else` and the
tokens before did not. -/
theorem Regular.behind {derivation : Derivation symbol} (regular : derivation.Regular rest)
    (follows : NoElse rest → NoElse other) : derivation.Regular other := by
  have moved : (derivation.reline id).Regular other := regular.reline follows
  rwa [derivation.reline_id] at moved

end Derivation

/-! ### Programs one behind the other -/

namespace Derivation

/-- The statements that the declarations are. -/
def statements (declarations : Derivation .declarations) (low : Reference) : List Statement :=
  declarations.tree low

theorem moved_zero (line : Nat → Nat) : moved line 0 = .lines line :=
  congrArg (Relabelling.mk line) (funext Nat.zero_add)

/-- Statements of moved tokens are on other lines, numbered from the same reference. -/
theorem statements_reline (declarations : Derivation .declarations) (line : Nat → Nat)
    (low : Reference) : (declarations.reline line).statements low =
      Statement.relabelAll (.lines line) (declarations.statements low) := by
  have moves : (declarations.reline line).statements (0 + low) =
      Statement.relabelAll (moved line 0) (declarations.statements low) :=
    declarations.tree_reline 0 low
  rwa [Nat.zero_add, moved_zero] at moves

/-- The declarations `both` are the first ones with the second ones behind them. -/
structure Appends (first second both : Derivation .declarations) : Prop where
  write : ∀ rest, both.write rest = first.write (second.write rest)
  statements : ∀ low, both.statements low =
    first.statements low ++ second.statements (low + first.drawn)
  drawn : both.drawn = first.drawn + second.drawn
  regular : ∀ rest, first.Regular (second.write rest) → second.Regular rest → both.Regular rest

/-- Declarations can be put behind others. The symbol is a variable so that the induction goes
through. -/
theorem exists_appends {symbol : Symbol} (first : Derivation symbol)
    (isList : symbol = .declarations) (second : Derivation .declarations) :
    ∃ both, Appends (isList ▸ first) second both := by
  induction first with
  | noDeclarations =>
    refine ⟨second, fun _ => rfl, fun low => rfl, (Nat.zero_add _).symm, fun _ _ => id⟩
  | moreDeclarations first others _ inductionHypothesis =>
    obtain ⟨both, appends⟩ := inductionHypothesis rfl
    refine ⟨.moreDeclarations first both, fun rest => ?_, fun low => ?_, ?_, fun rest => ?_⟩
    · exact congrArg first.write (appends.write rest)
    · show (first.tree low : Statement) :: both.statements (low + first.drawn) =
        (first.tree low : Statement) :: (others.statements (low + first.drawn) ++
          second.statements (low + (first.drawn + others.drawn)))
      rw [appends.statements, Nat.add_assoc]
    · show first.drawn + both.drawn = first.drawn + others.drawn + second.drawn
      rw [appends.drawn, Nat.add_assoc]
    · intro ⟨regular, regularOthers⟩ regularSecond
      exact ⟨(appends.write rest).symm ▸ regular, appends.regular rest regularOthers regularSecond⟩
  | _ => exact nomatch isList

/-- No declaration begins with `else`. -/
theorem noElse_declaration (declaration : Derivation .declaration) (rest : List Token) :
    NoElse (declaration.write rest) := by
  have notElse : (firstToken (declaration.write rest)).isMark .elseWord = false := by
    cases declaration with
    | statementDeclaration statement => exact (statement.beginsStatement _).notElse
    | variableDeclaration declared => cases declared <;> rfl
    | _ => rfl
  cases written : declaration.write rest with
  | nil => exact nofun
  | cons token others =>
    rw [written] at notElse
    rintro following ⟨⟩
    exact notElse

theorem noElse_declarations (declarations : Derivation .declarations) (ending : Ending) :
    NoElse (declarations.write [ending.token]) := by
  cases declarations with
  | noDeclarations =>
    rintro following ⟨⟩
    rfl
  | moreDeclarations first others => exact first.noElse_declaration _

end Derivation

theorem map_reline_id (tokens : List Token) : tokens.map (·.reline id) = tokens :=
  List.map_id tokens

/-- A program is read whatever its references are numbered from. -/
theorem OnlyEnd.parse_moved {body : List Token} {last : Token} (onlyEnd : OnlyEnd body last)
    {low high : Reference} {statements : List Statement}
    (parsed : parseProgram (body ++ [last]) low = (.ok statements, high)) (distance : Nat) :
    parseProgram (body ++ [last]) (distance + low) =
      (.ok (Statement.relabelAll (moved id distance) statements), distance + high) := by
  obtain ⟨program, isTokens, rfl, rfl, regular⟩ := onlyEnd.program parsed
  have read := (program.reline id).parseProgram_tokens (distance + low)
    (regular.reline fun noElse => noElse)
  rw [Derivation.tokens_reline, map_reline_id, isTokens, Derivation.drawn_reline,
    Derivation.tree_reline, Nat.add_assoc] at read
  exact read

/-- A program is read behind another one, on other lines: first the one is found, then the other. -/
theorem parse_append {body bodyToo : List Token} {last lastToo : Token}
    (onlyEnd : OnlyEnd body last) (onlyEndToo : OnlyEnd bodyToo lastToo)
    {low middle high : Reference} {first second : List Statement}
    (parsed : parseProgram (body ++ [last]) low = (.ok first, middle))
    (parsedToo : parseProgram (bodyToo ++ [lastToo]) middle = (.ok second, high))
    (line : Nat → Nat) :
    parseProgram (body ++ (bodyToo ++ [lastToo]).map (·.reline line)) low =
      (.ok (first ++ Statement.relabelAll (.lines line) second), high) := by
  obtain ⟨⟨early, ending⟩, isTokens, rfl, rfl, regular⟩ := onlyEnd.program parsed
  obtain ⟨⟨late, endingToo⟩, isTokensToo, rfl, rfl, regularToo⟩ := onlyEndToo.program parsedToo
  obtain ⟨both, appends⟩ := Derivation.exists_appends (early.reline id) rfl (late.reline line)
  have isBody : early.tokens = body := by
    have whole : early.write [ending.token] = body ++ [last] := isTokens
    rw [Derivation.write_eq] at whole
    exact (List.append_inj' whole rfl).1
  have written : both.write [(endingToo.reline line).token] =
      body ++ (bodyToo ++ [lastToo]).map (·.reline line) := by
    have moved : (late.reline line).write [(endingToo.reline line).token] =
        (bodyToo ++ [lastToo]).map (·.reline line) :=
      (late.write_reline [endingToo.token]).trans (congrArg (List.map _) isTokensToo)
    rw [appends.write, moved, Derivation.write_eq, Derivation.tokens_reline, map_reline_id, isBody]
  have read := (Derivation.wholeProgram both (endingToo.reline line)).parseProgram_tokens low
    (appends.regular _
      (Derivation.Regular.reline regular fun _ => Derivation.noElse_declarations _ _)
      (Derivation.Regular.reline regularToo (.cons endingToo.token line _ _)))
  have statements : both.statements low = early.statements low ++
      Statement.relabelAll (.lines line) (late.statements (low + early.drawn)) := by
    have same : Statement.relabelAll (.lines id) (early.statements low) = early.statements low :=
      Statement.relabelAll_same _
    rw [appends.statements, Derivation.statements_reline, Derivation.statements_reline,
      Derivation.drawn_reline, same]
  have drawn : low + both.drawn = low + early.drawn + late.drawn := by
    rw [appends.drawn, Derivation.drawn_reline, Derivation.drawn_reline, Nat.add_assoc]
  rw [← written]
  refine read.trans ?_
  show (Except.ok (both.statements low), low + both.drawn) = _
  rw [statements, drawn]
  rfl

end Grammar

end Lox
