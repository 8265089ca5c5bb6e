/-
What is reported of a program in which `print` statements have lost their values. Outside of blocks
each of them is reported once. In a block it is not the block alone that is given up: every block
around it recovers once more and skips a token at least each time, so that what is found behind it
depends on how deep it is.
-/

import Lox.Proofs.Slice.Behind

namespace Lox.Grammar

/-! ### Errors of a program -/

/-- The syntax errors that are reported of a program. -/
def syntaxErrors (tokens : List Token) (low : Reference) : List SyntaxError :=
  match (parseProgram tokens low).1 with
  | .ok _ => []
  | .error errors => errors

variable {tokens rest : List Token} {low high : Reference} {depth : Nat}

theorem syntaxErrors_eq (tokens : List Token) (low : Reference) :
    syntaxErrors tokens low = errorsOf (parseItems tokens low).1 := by
  unfold syntaxErrors parseProgram
  dsimp only
  cases errorsOf (parseItems tokens low).1 <;> rfl

theorem errorsOf_ahead (attempts : List Attempt) (distance : Nat) :
    errorsOf (attempts.map (Attempt.ahead distance)) = errorsOf attempts := by
  induction attempts with
  | nil => rfl
  | cons attempt others inductionHypothesis =>
    cases attempt with
    | ok statement => exact inductionHypothesis
    | error error => exact congrArg (error :: ·) inductionHypothesis

/-- The errors do not depend on references, nor on the bounds. -/
theorem errorsOf_attempts {limit : Nat} (short : tokens.length < depth)
    (enough : tokens.length ≤ limit) (other : Reference) :
    errorsOf (attempts depth limit ⟨tokens, low⟩).1 = syntaxErrors tokens other := by
  have fromZero (low : Reference) :
      errorsOf (parseItems tokens low).1 = errorsOf (parseItems tokens 0).1 := by
    have moved := parseItems_ahead tokens low 0
    rw [Nat.add_zero] at moved
    rw [moved]
    exact errorsOf_ahead _ low
  rw [attempts_eq_parseItems short enough, syntaxErrors_eq, fromZero low, fromZero other]

/-- Behind a declaration that is found, errors are those of the tokens behind it. -/
theorem syntaxErrors_ok {statement : Statement} (short : tokens.length < depth)
    (more : atEnd tokens = false)
    (ended : declaration depth ⟨tokens, low⟩ = .ok statement ⟨rest, high⟩) :
    syntaxErrors tokens low = syntaxErrors rest low := by
  have fewer : rest.length < tokens.length := ((nested_read depth).2.2 ⟨tokens, low⟩
    (Vocabulary.any_admitsAll _)).ok ended |>.2.1
  have isAttempt : declaration depth ⟨tokens, low⟩ = Attempt.result (.ok statement) ⟨rest, high⟩ :=
    ended
  rw [← errorsOf_attempts short (Nat.le_succ _) low, attempts_cons more isAttempt]
  exact errorsOf_attempts (Nat.lt_trans fewer short) (Nat.le_of_lt fewer) low

/-- Behind an error, the others are those of the tokens at which the parser goes on. -/
theorem syntaxErrors_error {error : SyntaxError} (short : tokens.length < depth)
    (more : atEnd tokens = false)
    (ended : declaration depth ⟨tokens, low⟩ = .error error ⟨rest, high⟩) :
    syntaxErrors tokens low = error :: syntaxErrors rest low := by
  have fewer : rest.length ≤ tokens.length := (((nested_read depth).2.2 ⟨tokens, low⟩
    (Vocabulary.any_admitsAll _)).error ended).length_le
  have isAttempt : declaration depth ⟨tokens, low⟩ = Attempt.result (.error error) ⟨rest, high⟩ :=
    ended
  rw [← errorsOf_attempts short (Nat.le_succ _) low, attempts_cons more isAttempt]
  exact congrArg (error :: ·)
    (errorsOf_attempts (Nat.lt_of_le_of_lt fewer short) fewer low)

/-! ### Damaged programs -/

/-- Declarations of which some `print` statements have lost their values, among the others or in
blocks, however deep. -/
inductive Damaged where
  | nothing
  | intact (first : Derivation .declaration) (others : Damaged)
  | valueless (word : Sign .printWord) (lost : Derivation .expression)
    (semicolon : Sign .semicolon) (others : Damaged)
  | block (opening : Sign .leftBrace) (inside : Damaged) (closing : Sign .rightBrace)
    (others : Damaged)

/-- A damaged statement: how many blocks it is in, its semicolon, and the tokens behind that. -/
structure Damage where
  depth : Nat
  semicolon : Sign .semicolon
  behind : List Token

/-- The tokens to go on with after so many recoveries. -/
def recovered : Nat → List Token → List Token
  | 0, tokens => tokens
  | times + 1, tokens => synchronize (recovered times tokens)

/-- Where a value is missing, the semicolon is reported. -/
def missingBefore (semicolon : Sign .semicolon) : SyntaxError :=
  ⟨semicolon.token, .missingExpression⟩

namespace Damaged

/-- The declarations before the damage. -/
def whole : Damaged → Derivation .declarations
  | nothing => .noDeclarations
  | intact first others => .moreDeclarations first others.whole
  | valueless word lost semicolon others =>
    .moreDeclarations (.statementDeclaration (.printStatement word lost semicolon)) others.whole
  | block opening inside closing others =>
    .moreDeclarations (.statementDeclaration (.blockStatement
      (.braces opening inside.whole closing))) others.whole

/-- The tokens that are left of the declarations, and the tokens behind them. -/
def write : Damaged → List Token → List Token
  | nothing, rest => rest
  | intact first others, rest => first.write (others.write rest)
  | valueless word _ semicolon others, rest => word.token :: semicolon.token :: others.write rest
  | block opening inside closing others, rest =>
    opening.token :: inside.write (closing.token :: others.write rest)

/-- The semicolons of the damaged statements, in order. -/
def semicolons : Damaged → List (Sign .semicolon)
  | nothing => []
  | intact _ others => others.semicolons
  | valueless _ _ semicolon others => semicolon :: others.semicolons
  | block _ inside _ others => inside.semicolons ++ others.semicolons

/-- No block has a damaged statement in it. -/
def Shallow : Damaged → Prop
  | nothing => True
  | intact _ others | valueless _ _ _ others => others.Shallow
  | block _ inside _ others => inside.semicolons = [] ∧ others.Shallow

/-- The first damaged statement, where the tokens `rest` are behind all declarations. -/
def first? : Damaged → List Token → Option Damage
  | nothing, _ => none
  | intact _ others, rest => others.first? rest
  | valueless _ _ semicolon others, rest => some ⟨0, semicolon, others.write rest⟩
  | block _ inside closing others, rest =>
    match inside.first? (closing.token :: others.write rest) with
    | some damage => some { damage with depth := damage.depth + 1 }
    | none => others.first? rest

theorem first?_none (program : Damaged) (rest : List Token) :
    program.first? rest = none ↔ program.semicolons = [] := by
  induction program generalizing rest with
  | nothing => exact ⟨fun _ => rfl, fun _ => rfl⟩
  | intact first others inductionHypothesis => exact inductionHypothesis rest
  | valueless word lost semicolon others => exact ⟨nofun, nofun⟩
  | block opening inside closing others readInside readOthers =>
    rw [first?, semicolons, List.append_eq_nil_iff,
      ← readInside (closing.token :: others.write rest), ← readOthers rest]
    split
    · rename_i isSome
      rw [isSome]
      exact ⟨nofun, fun both => nomatch both.1⟩
    · rename_i isNone
      exact ⟨fun none => ⟨isNone, none⟩, fun both => both.2⟩

/-- The tokens that are left begin with `else` no more than those behind them. -/
theorem noElse_write (program : Damaged) (noElse : NoElse rest) : NoElse (program.write rest) := by
  cases program with
  | nothing => exact noElse
  | intact first others => exact first.noElse_declaration _
  | valueless word lost semicolon others =>
    rintro following ⟨⟩
    rfl
  | block opening inside closing others =>
    rintro following ⟨⟩
    rfl

theorem noElse_brace (closing : Sign .rightBrace) (rest : List Token) :
    NoElse (closing.token :: rest) := by
  rintro following ⟨⟩
  rfl

/-- Without damage all tokens are left. -/
theorem write_whole (program : Damaged) (none : program.semicolons = []) (rest : List Token) :
    program.whole.write rest = program.write rest := by
  induction program generalizing rest with
  | nothing => rfl
  | intact first others inductionHypothesis =>
    exact congrArg first.write (inductionHypothesis none rest)
  | valueless => exact nomatch none
  | block opening inside closing others readInside readOthers =>
    obtain ⟨noneInside, noneBehind⟩ := List.append_eq_nil_iff.mp none
    show opening.token :: inside.whole.write (closing.token :: others.whole.write rest) = _
    rw [readInside noneInside, readOthers noneBehind]
    rfl

end Damaged

/-! ### One declaration -/

/-- Recovery at a semicolon goes on right behind it. -/
theorem synchronize_semicolon (semicolon : Sign .semicolon) (behind : List Token) :
    synchronize (semicolon.token :: behind) = behind := by
  have isSemicolon : semicolon.token.isMark .semicolon = true := isMark_of_kind rfl
  show skipToStatement semicolon.token behind = behind
  cases behind with
  | nil => rfl
  | cons token rest =>
    rw [skipToStatement, isSemicolon, Bool.or_true, Bool.true_or, if_pos rfl]

theorem declaration_valueless (word : Sign .printWord) (semicolon : Sign .semicolon)
    (depth : Nat) (behind : List Token) (low : Reference) :
    declaration (depth + 1) ⟨word.token :: semicolon.token :: behind, low⟩ =
      .error (missingBefore semicolon) ⟨behind, low⟩ := by
  have failed : (nested depth).wholeDeclaration ⟨word.token :: semicolon.token :: behind, low⟩ =
      .error (missingBefore semicolon) ⟨synchronize (semicolon.token :: behind), low⟩ := rfl
  rw [synchronize_semicolon] at failed
  exact failed

/-- A block in which reading fails is given up, and one more token is skipped. -/
theorem declaration_block_error (opening : Sign .leftBrace) {error : SyntaxError}
    (failed : untilBrace (declaration depth) (depth + 1) ⟨tokens, low⟩ =
      .error error ⟨rest, high⟩) :
    declaration (depth + 1) ⟨opening.token :: tokens, low⟩ =
      .error error ⟨synchronize rest, high⟩ := by
  have block : (nested depth).block ⟨tokens, low⟩ = .error error ⟨rest, high⟩ := bind_error failed
  have taken : (nested depth).wholeStatement ⟨opening.token :: tokens, low⟩ =
      (do return .block (← (nested depth).block) : Parser Statement) ⟨tokens, low⟩ := rfl
  obtain ⟨parser, isDeclaration, plain⟩ : ∃ parser,
      (nested depth).wholeDeclaration = recovering parser ∧
        parser ⟨opening.token :: tokens, low⟩ =
          (nested depth).wholeStatement ⟨opening.token :: tokens, low⟩ := by
    refine ⟨_, rfl, (bind_ok (accept_other rfl)).trans ?_⟩
    show (if Phrases.beginsFunction (opening.token :: tokens) then _ else _ : Parser Statement)
      _ = _
    rw [beginsFunction_of_other rfl]
    exact bind_ok (accept_other rfl)
  show (nested depth).wholeDeclaration _ = _
  rw [isDeclaration]
  exact recovering_error (plain.trans (taken.trans (bind_error block)))

namespace Damaged

/-- A block without damage in it is read. -/
theorem declaration_block_ok (opening : Sign .leftBrace) (inside : Damaged)
    (closing : Sign .rightBrace) (none : inside.semicolons = [])
    (regular : inside.whole.Regular (closing.token :: rest))
    (short : (opening.token :: inside.write (closing.token :: rest)).length < depth)
    (low : Reference) :
    ∃ statement high, declaration depth
        ⟨opening.token :: inside.write (closing.token :: rest), low⟩ =
      .ok statement ⟨rest, high⟩ := by
  have read := (Derivation.statementDeclaration
    (.blockStatement (.braces opening inside.whole closing))).read
  rw [← inside.write_whole none] at short ⊢
  exact ⟨_, _, read.nestedDeclaration short regular⟩

/-- Reading declarations fails at the first damaged one, and goes on behind it once for the
statement and once for each block around it. -/
theorem untilBrace_error (program : Damaged) (depth limit : Nat) (rest : List Token)
    (low : Reference) (damage : Damage) (short : (program.write rest).length < depth)
    (enough : (program.write rest).length ≤ limit) (regular : program.whole.Regular rest)
    (noElse : NoElse rest) (isFirst : program.first? rest = some damage) :
    ∃ high, untilBrace (declaration depth) limit ⟨program.write rest, low⟩ =
      .error (missingBefore damage.semicolon)
        ⟨recovered damage.depth damage.behind, high⟩ := by
  induction program generalizing depth limit rest low damage with
  | nothing => exact nomatch isFirst
  | intact first others inductionHypothesis =>
    have regularFirst : first.Regular (others.write rest) :=
      Derivation.Regular.behind regular.1 fun _ => others.noElse_write noElse
    have longer := Derivation.declaration_length first (others.write rest)
    have fits : (first.write (others.write rest)).length ≤ limit := enough
    have shortToo : (first.write (others.write rest)).length < depth := short
    cases limit with
    | zero => omega
    | succ limit =>
      obtain ⟨high, failed⟩ := inductionHypothesis depth limit rest (low + first.drawn) damage
        (by omega) (by omega) regular.2 noElse isFirst
      refine ⟨high, (Derivation.untilBrace_step limit (first.not_closes _)).trans ?_⟩
      exact (bind_ok (first.read.nestedDeclaration short regularFirst)).trans (bind_error failed)
  | valueless word lost semicolon others =>
    cases isFirst
    cases limit with
    | zero => exact absurd enough (Nat.not_succ_le_zero _)
    | succ limit =>
      cases depth with
      | zero => exact absurd short (Nat.not_lt_zero _)
      | succ depth =>
        refine ⟨low, (Derivation.untilBrace_step limit rfl).trans ?_⟩
        exact bind_error (declaration_valueless word semicolon depth (others.write rest) low)
  | block opening inside closing others readInside readOthers =>
    obtain ⟨regularInside, regularOthers⟩ := regular
    have regularToo : inside.whole.Regular (closing.token :: others.write rest) :=
      Derivation.Regular.behind regularInside fun _ => noElse_brace closing _
    have shortBlock : (opening.token :: inside.write (closing.token :: others.write rest)).length <
      depth := short
    have fits : (opening.token :: inside.write (closing.token :: others.write rest)).length ≤
      limit := enough
    rw [List.length_cons] at shortBlock fits
    cases limit with
    | zero => omega
    | succ limit =>
      cases ofInside : inside.first? (closing.token :: others.write rest) with
      | some found =>
        rw [first?, ofInside] at isFirst
        cases isFirst
        cases depth with
        | zero => omega
        | succ depth =>
          obtain ⟨high, failed⟩ := readInside depth (depth + 1) _ low found (by omega) (by omega)
            regularToo (noElse_brace closing _) ofInside
          refine ⟨high, (Derivation.untilBrace_step limit rfl).trans ?_⟩
          exact bind_error (declaration_block_error opening failed)
      | none =>
        rw [first?, ofInside] at isFirst
        have undamaged := (inside.first?_none _).mp ofInside
        obtain ⟨statement, middle, read⟩ := declaration_block_ok opening inside closing
          undamaged regularToo short low
        have longer : (others.write rest).length <
            (inside.write (closing.token :: others.write rest)).length := by
          rw [← inside.write_whole undamaged, Derivation.length_write, List.length_cons]
          omega
        obtain ⟨high, failed⟩ := readOthers depth limit rest middle damage (by omega) (by omega)
          regularOthers noElse isFirst
        refine ⟨high, (Derivation.untilBrace_step limit rfl).trans ?_⟩
        exact (bind_ok read).trans (bind_error failed)

/-! ### Errors -/

/-- What is reported of damaged declarations and of the tokens behind them. -/
theorem syntaxErrors_write (program : Damaged) (rest : List Token) (low : Reference)
    (regular : program.whole.Regular rest) (noElse : NoElse rest) :
    syntaxErrors (program.write rest) low =
      match program.first? rest with
      | none => syntaxErrors rest low
      | some damage =>
        missingBefore damage.semicolon ::
          syntaxErrors (recovered damage.depth damage.behind) low := by
  induction program generalizing rest with
  | nothing => rfl
  | intact first others inductionHypothesis =>
    have regularFirst : first.Regular (others.write rest) :=
      Derivation.Regular.behind regular.1 fun _ => others.noElse_write noElse
    have more := (Bool.or_eq_false_iff.mp (first.not_closes (others.write rest))).2
    refine (syntaxErrors_ok (Nat.lt_succ_self _) more
      (first.read.nestedDeclaration (Nat.lt_succ_self _) regularFirst)).trans ?_
    exact inductionHypothesis rest regular.2 noElse
  | valueless word lost semicolon others =>
    exact syntaxErrors_error (Nat.lt_succ_self _) rfl
      (declaration_valueless word semicolon _ (others.write rest) low)
  | block opening inside closing others readInside readOthers =>
    obtain ⟨regularInside, regularOthers⟩ := regular
    have regularToo : inside.whole.Regular (closing.token :: others.write rest) :=
      Derivation.Regular.behind regularInside fun _ => noElse_brace closing _
    cases ofInside : inside.first? (closing.token :: others.write rest) with
    | some found =>
      obtain ⟨high, failed⟩ := untilBrace_error inside _ _ _ low found (Nat.lt_succ_self _)
        (Nat.le_succ_of_le (Nat.le_succ _)) regularToo (noElse_brace closing _) ofInside
      rw [first?, ofInside]
      exact syntaxErrors_error (Nat.lt_succ_self _) rfl (declaration_block_error opening failed)
    | none =>
      have undamaged := (inside.first?_none _).mp ofInside
      obtain ⟨statement, middle, read⟩ := declaration_block_ok opening inside closing
        undamaged regularToo (Nat.lt_succ_self _) low
      rw [first?, ofInside]
      exact (syntaxErrors_ok (Nat.lt_succ_self _) rfl read).trans
        (readOthers rest regularOthers noElse)

/-- Outside of blocks each damaged statement is reported once. -/
theorem syntaxErrors_shallow (program : Damaged) (rest : List Token) (low : Reference)
    (regular : program.whole.Regular rest) (noElse : NoElse rest) (shallow : program.Shallow) :
    syntaxErrors (program.write rest) low =
      program.semicolons.map missingBefore ++ syntaxErrors rest low := by
  induction program generalizing rest with
  | nothing => rfl
  | intact first others inductionHypothesis =>
    have alone := (intact first .nothing).syntaxErrors_write (others.write rest) low
      ⟨Derivation.Regular.behind regular.1 fun _ => others.noElse_write noElse, trivial⟩
      (others.noElse_write noElse)
    exact alone.trans (inductionHypothesis rest regular.2 noElse shallow)
  | valueless word lost semicolon others inductionHypothesis =>
    have first := (valueless word lost semicolon others).syntaxErrors_write rest low regular noElse
    refine first.trans (congrArg (missingBefore semicolon :: ·) ?_)
    exact inductionHypothesis rest regular.2 noElse shallow
  | block opening inside closing others _ readOthers =>
    obtain ⟨undamaged, shallowOthers⟩ := shallow
    have ofInside := (inside.first?_none (closing.token :: others.write rest)).mpr undamaged
    have regularBlock : inside.whole.Regular (closing.token :: others.write rest) :=
      Derivation.Regular.behind regular.1 fun _ => noElse_brace closing _
    have alone := (block opening inside closing .nothing).syntaxErrors_write (others.write rest) low
      ⟨regularBlock, trivial⟩ (others.noElse_write noElse)
    rw [first?, write, ofInside] at alone
    rw [semicolons, undamaged, List.nil_append]
    exact alone.trans (readOthers rest regular.2 noElse shallowOthers)

end Damaged

/-- What is reported of a damaged program that was one before the damage. The first damaged
statement is reported at its semicolon; the other errors are those of the tokens at which the parser
goes on, once recovered for the statement and once for each block around it. So each damaged
statement is reported once, and nothing else, if none is in a block, but not if one is. -/
theorem damaged_reported (program : Damaged) (ending : Ending) (low : Reference)
    (regular : (Derivation.wholeProgram program.whole ending).Regular []) :
    (syntaxErrors (program.write [ending.token]) low =
      match program.first? [ending.token] with
      | none => []
      | some damage => missingBefore damage.semicolon ::
        syntaxErrors (recovered damage.depth damage.behind) low) ∧
    (program.Shallow →
      syntaxErrors (program.write [ending.token]) low = program.semicolons.map missingBefore) := by
  have noElse : NoElse [ending.token] := by
    rintro following ⟨⟩
    rfl
  have nothing : syntaxErrors [ending.token] low = [] := rfl
  refine ⟨?_, fun shallow => ?_⟩
  · rw [program.syntaxErrors_write [ending.token] low regular noElse, nothing]
  · rw [program.syntaxErrors_shallow [ending.token] low regular noElse shallow, nothing,
      List.append_nil]

/-- The block `{ print a; print a; }` with both values lost, on a line each. -/
def damagedBlock : Damaged :=
  .block ⟨"\x7b", 1⟩
    (.valueless ⟨"print", 2⟩ (.bareName ⟨"a", 2⟩) ⟨";", 2⟩
      (.valueless ⟨"print", 3⟩ (.bareName ⟨"a", 3⟩) ⟨";", 3⟩ .nothing))
    ⟨"\x7d", 4⟩ .nothing

/-- The same two statements without a block around them. -/
def damagedRow : Damaged :=
  .valueless ⟨"print", 2⟩ (.bareName ⟨"a", 2⟩) ⟨";", 2⟩
    (.valueless ⟨"print", 3⟩ (.bareName ⟨"a", 3⟩) ⟨";", 3⟩ .nothing)

/-- In the block the second damaged statement is passed over, and the closing brace is reported
instead; without the block both statements are reported. -/
theorem damaged_reported_damagedBlock :
    ((Derivation.wholeProgram damagedBlock.whole ⟨"", 4⟩).Regular [] ∧
      damagedBlock.semicolons = [⟨";", 2⟩, ⟨";", 3⟩] ∧
      syntaxErrors (damagedBlock.write [(Ending.mk "" 4).token]) 0 =
        [⟨⟨.mark .semicolon, ";", 2⟩, .missingExpression⟩,
          ⟨⟨.mark .rightBrace, "\x7d", 4⟩, .missingExpression⟩]) ∧
    (Derivation.wholeProgram damagedRow.whole ⟨"", 4⟩).Regular [] ∧ damagedRow.Shallow ∧
      syntaxErrors (damagedRow.write [(Ending.mk "" 4).token]) 0 =
        [⟨⟨.mark .semicolon, ";", 2⟩, .missingExpression⟩,
          ⟨⟨.mark .semicolon, ";", 3⟩, .missingExpression⟩] := by
  have inBlock : (Derivation.wholeProgram damagedBlock.whole ⟨"", 4⟩).Regular [] :=
    ⟨⟨trivial, trivial, trivial⟩, trivial⟩
  have inRow : (Derivation.wholeProgram damagedRow.whole ⟨"", 4⟩).Regular [] :=
    ⟨trivial, trivial, trivial⟩
  refine ⟨⟨inBlock, rfl, ?_⟩, inRow, trivial, ?_⟩
  · exact (damaged_reported damagedBlock ⟨"", 4⟩ 0 inBlock).1
  · exact (damaged_reported damagedRow ⟨"", 4⟩ 0 inRow).2 trivial

/-- So it is not so that each damaged statement is reported once and nothing else. -/
theorem not_each_damaged_reported :
    ¬ ∀ (program : Damaged) (ending : Ending) (low : Reference),
      (Derivation.wholeProgram program.whole ending).Regular [] →
      syntaxErrors (program.write [ending.token]) low = program.semicolons.map missingBefore := by
  intro each
  have reported := each damagedBlock ⟨"", 4⟩ 0 ⟨⟨trivial, trivial, trivial⟩, trivial⟩
  have second := congrArg (List.map SyntaxError.token) reported
  exact absurd (congrArg (List.map Token.line) second) (by decide)

end Lox.Grammar
