/-
Tokens without an end. Where the tokens stop, every parser sees an end that is not there, and does
what it does at a real one, which it would leave standing. So an end behind the tokens changes
nothing but the line of the errors that are reported there. The parsers are gone through once, each
at the same tokens with and without the end.
-/

import Lox.Proofs.Grammar.Operands
import Lox.Proofs.Grammar.Sound
import Lox.Proofs.Grammar.Statement

namespace Lox.Grammar

variable {α β : Type} {last : Token} {rest : List Token} {low : Reference}

/-! ### The end behind -/

/-- The same error where the tokens end with `last`, at which is reported what was at an end. -/
def SyntaxError.endedBy (last : Token) (error : SyntaxError) : SyntaxError :=
  if error.token.isEnd then ⟨last, error.problem⟩ else error

/-- The state with `last` behind the tokens. -/
def State.endedBy (last : Token) (state : State) : State :=
  { state with rest := state.rest ++ [last] }

/-- How a parser ends in front of `last` that ends like this without it. -/
def Ended.endedBy (last : Token) :
    EStateM.Result SyntaxError State α → EStateM.Result SyntaxError State α
  | .ok value after => .ok value (after.endedBy last)
  | .error error after => .error (error.endedBy last) (after.endedBy last)

/-- An error at an end is one at the end that is not there. -/
def SyntaxError.Placed (error : SyntaxError) : Prop :=
  error.token.isEnd = true → error.token = missingEnd

theorem SyntaxError.endedBy_here (rest : List Token)
    (others : ∀ token ∈ rest, token.isEnd = false) (problem : SyntaxProblem) :
    (⟨firstToken rest, problem⟩ : SyntaxError).endedBy last =
      ⟨firstToken (rest ++ [last]), problem⟩ := by
  cases rest with
  | nil => rfl
  | cons token rest =>
    have more : token.isEnd = false := others token List.mem_cons_self
    exact if_neg (Bool.eq_false_iff.mp more)

theorem OnlyEnd.more {token : Token} (onlyEnd : OnlyEnd (token :: rest) last) :
    token.isEnd = false :=
  onlyEnd.others token List.mem_cons_self

/-- Fewer tokens have no end either. -/
theorem OnlyEnd.suffix {restToo : List Token} (onlyEnd : OnlyEnd rest last)
    (fewer : restToo <:+ rest) : OnlyEnd restToo last :=
  ⟨onlyEnd.isEnd, fun token member => onlyEnd.others token (fewer.subset member)⟩

theorem OnlyEnd.tail {token : Token} (onlyEnd : OnlyEnd (token :: rest) last) :
    OnlyEnd rest last :=
  onlyEnd.suffix (List.suffix_cons token rest)

/-- A token that is an end is an ending. -/
theorem eq_ending {token : Token} (isEnd : token.isEnd = true) :
    ∃ ending : Ending, token = ending.token := by
  obtain ⟨kind, lexeme, line⟩ := token
  cases kind with
  | endOfInput => exact ⟨⟨lexeme, line⟩, rfl⟩
  | _ => exact nomatch isEnd

/-! ### Parsers that do not miss the end -/

/-- In front of `last` the parser does to the tokens what it does without it. It leaves no end, and
reports errors at no other end than the one that is not there. -/
def ToleratesAt (last : Token) (parser : Parser α) (rest : List Token) (low : Reference) : Prop :=
  parser ⟨rest ++ [last], low⟩ = Ended.endedBy last (parser ⟨rest, low⟩) ∧
    Ensures parser ⟨rest, low⟩ (fun _ after => OnlyEnd after.rest last)
      fun error after => OnlyEnd after.rest last ∧ error.Placed

/-- In front of `last` the parser does to any tokens what it does without it. -/
def Tolerates (last : Token) (parser : Parser α) : Prop :=
  ∀ rest low, OnlyEnd rest last → ToleratesAt last parser rest low

namespace Tolerates

variable {parser : Parser α} {next : α → Parser β}

theorem pure (value : α) : Tolerates last (Pure.pure value : Parser α) :=
  fun _ _ onlyEnd => ⟨rfl, onlyEnd⟩

theorem bind (first : Tolerates last parser) (goesOn : ∀ value, Tolerates last (next value)) :
    Tolerates last (parser >>= next) := by
  intro rest low onlyEnd
  obtain ⟨same, ensures⟩ := first rest low onlyEnd
  cases ended : parser ⟨rest, low⟩ with
  | ok value after =>
    rw [ended] at same
    have goes := goesOn value after.rest after.nextReference (ensures.ok ended)
    unfold ToleratesAt Ensures
    rw [bind_ok ended, bind_ok same]
    exact goes
  | error error after =>
    rw [ended] at same
    unfold ToleratesAt Ensures
    rw [bind_error ended, bind_error same]
    exact ⟨rfl, ensures.error ended⟩

/-- A problem at the next token is one at the end where the tokens stop. -/
theorem failHere (problem : SyntaxProblem) :
    Tolerates last (Grammar.failHere problem : Parser α) := by
  intro rest low onlyEnd
  refine ⟨?_, onlyEnd, ?_⟩
  · show EStateM.Result.error _ _ = EStateM.Result.error _ _
    rw [SyntaxError.endedBy_here rest onlyEnd.others]
    rfl
  · cases rest with
    | nil => exact fun _ => rfl
    | cons token rest =>
      exact fun isEnd => absurd isEnd (Bool.eq_false_iff.mp onlyEnd.more)

/-- An error at a token that is no end. -/
theorem throw {token : Token} (more : token.isEnd = false) (problem : SyntaxProblem) :
    Tolerates last (MonadExcept.throw ⟨token, problem⟩ : Parser α) := by
  intro rest low onlyEnd
  refine ⟨?_, onlyEnd, fun isEnd => absurd isEnd (Bool.eq_false_iff.mp more)⟩
  exact congrArg (EStateM.Result.error · _) (if_neg (Bool.eq_false_iff.mp more)).symm

/-- A parser that does at an end, be it there or not, what another one does, and is known to do at
other tokens what it does in front of an end. -/
theorem look (other : Parser α) (tolerates : Tolerates last other)
    (atNone : ∀ low, parser ⟨[], low⟩ = other ⟨[], low⟩)
    (atEnding : ∀ (ending : Ending) low,
      parser ⟨[ending.token], low⟩ = other ⟨[ending.token], low⟩)
    (more : ∀ token rest low, OnlyEnd (token :: rest) last →
      ToleratesAt last parser (token :: rest) low) : Tolerates last parser := by
  intro rest low onlyEnd
  cases rest with
  | nil =>
    obtain ⟨ending, rfl⟩ := eq_ending onlyEnd.isEnd
    unfold ToleratesAt Ensures
    rw [atNone, List.nil_append, atEnding]
    exact tolerates [] low onlyEnd
  | cons token rest => exact more token rest low onlyEnd

end Tolerates

namespace ToleratesAt

variable {token : Token}

/-- The next token is seen. -/
theorem peek_bind {next : Token → Parser β}
    (tolerates : ToleratesAt last (next token) (token :: rest) low) :
    ToleratesAt last (peek >>= next) (token :: rest) low :=
  tolerates

/-- The state is looked at, but not for what the end changes about it. -/
theorem get_bind {next : State → Parser β} (same : next ⟨rest ++ [last], low⟩ = next ⟨rest, low⟩)
    (tolerates : ToleratesAt last (next ⟨rest, low⟩) rest low) :
    ToleratesAt last (get >>= next) rest low := by
  obtain ⟨sameEnd, ensures⟩ := tolerates
  refine ⟨Eq.trans ?_ sameEnd, ensures⟩
  exact congrFun same _

/-- The next token is taken. -/
theorem advance_bind {next : Unit → Parser β} (tolerates : ToleratesAt last (next ()) rest low) :
    ToleratesAt last (advance >>= next) (token :: rest) low :=
  tolerates

end ToleratesAt

/-! ### Single tokens -/

namespace Tolerates

variable {parser : Parser α}

/-- A token that is taken if it is wanted, which no end is. -/
theorem taken {wanted : Token → Bool} (found : Token → α) (other : Parser α)
    (tolerates : Tolerates last other)
    (noEnd : ∀ token : Token, token.isEnd = true → wanted token = false)
    (looks : ∀ state, parser state = (if wanted (firstToken state.rest) then
      (do advance; return found (firstToken state.rest)) else other : Parser α) state) :
    Tolerates last parser := by
  have kept {state : State} (notWanted : wanted (firstToken state.rest) = false) :
      parser state = other state := by
    rw [looks, notWanted]
    rfl
  refine look other tolerates (fun _ => kept (noEnd _ rfl)) (fun _ _ => kept (noEnd _ rfl)) ?_
  intro token rest low onlyEnd
  unfold ToleratesAt Ensures
  rw [looks ⟨token :: rest, low⟩, looks ⟨token :: rest ++ [last], low⟩]
  show ToleratesAt last (if wanted token then _ else _) (token :: rest) low
  split
  · exact .advance_bind (pure (found token) rest low onlyEnd.tail)
  · exact tolerates _ low onlyEnd

theorem nextIs (mark : Mark) : Tolerates last (Grammar.nextIs mark) :=
  look (Pure.pure false) (pure false) (fun _ => rfl) (fun _ _ => rfl) fun token rest low onlyEnd =>
    .peek_bind (pure (token.isMark mark) (token :: rest) low onlyEnd)

theorem accept (mark : Mark) : Tolerates last (Grammar.accept mark) :=
  taken (fun _ => true) (Pure.pure false) (pure false) (isMark_end mark) fun _ => rfl

/-- A token that has to be as wanted. -/
theorem needed {wanted : Token → Bool} (found : Token → α) (problem : SyntaxProblem)
    (noEnd : ∀ token : Token, token.isEnd = true → wanted token = false) :
    Tolerates last (do
      let token ← peek
      if wanted token then
        advance
        return found token
      else
        MonadExcept.throw ⟨token, problem⟩ : Parser α) := by
  refine taken found (Grammar.failHere problem) (failHere problem) noEnd fun state => ?_
  show (if wanted (firstToken state.rest) then _ else _ : Parser α) state = _
  split <;> rfl

theorem expect (mark : Mark) (role : String) : Tolerates last (Grammar.expect mark role) :=
  needed id (.missingMark mark role) (isMark_end mark)

theorem expectName (role : String) : Tolerates last (Grammar.expectName role) :=
  needed Token.toIdentifier (.missingName role) isIdentifier_end

theorem freshReference : Tolerates last Grammar.freshReference :=
  fun _ _ onlyEnd => ⟨rfl, onlyEnd⟩

/-! ### Repetition -/

variable {entry : Parser α}

theorem commaSeparated (entries : String) (tolerates : Tolerates last entry) (room : Nat) :
    Tolerates last (Grammar.commaSeparated entries entry room) := by
  induction room with
  | zero => exact failHere _
  | succ room inductionHypothesis =>
    refine tolerates.bind fun first => (accept .comma).bind fun accepted => ?_
    cases accepted with
    | true => exact inductionHypothesis.bind fun _ => pure _
    | false => exact pure _

theorem parenthesised (entries : String) (tolerates : Tolerates last entry) :
    Tolerates last (Grammar.parenthesised entries entry) := by
  have inside : Tolerates last (Grammar.entriesInside entries entry) := by
    refine (nextIs .rightParen).bind fun closes => ?_
    cases closes with
    | true => exact pure _
    | false => exact tolerates.commaSeparated entries maximalEntries
  exact inside.bind fun _ => (expect .rightParen _).bind fun _ => pure _

theorem untilBrace (tolerates : Tolerates last entry) (limit : Nat) :
    Tolerates last (Grammar.untilBrace entry limit) := by
  induction limit with
  | zero => exact pure _
  | succ limit inductionHypothesis =>
    have goes : Tolerates last (do return (← entry) :: (← Grammar.untilBrace entry limit)) :=
      tolerates.bind fun _ => inductionHypothesis.bind fun _ => pure _
    refine look (Pure.pure []) (pure []) (fun _ => rfl) (fun _ _ => rfl) ?_
    intro token rest low onlyEnd
    have looks (rest : List Token) : Grammar.untilBrace entry (limit + 1) ⟨token :: rest, low⟩ =
        (if token.isMark .rightBrace || token.isEnd then Pure.pure []
          else do return (← entry) :: (← Grammar.untilBrace entry limit) : Parser _)
          ⟨token :: rest, low⟩ := rfl
    unfold ToleratesAt Ensures
    rw [looks, List.cons_append, looks]
    show ToleratesAt last (if _ then _ else _) (token :: rest) low
    split
    · exact pure [] _ low onlyEnd
    · exact goes _ low onlyEnd

end Tolerates

/-! ### Recovery -/

theorem skipToStatement_append (isEnd : last.isEnd = true) (previous : Token)
    (tokens : List Token) :
    skipToStatement previous (tokens ++ [last]) = skipToStatement previous tokens ++ [last] := by
  induction tokens generalizing previous with
  | nil =>
    show (if last.isEnd || _ || _ then _ else _) = [last]
    rw [isEnd]
    rfl
  | cons token rest inductionHypothesis =>
    rw [List.cons_append, skipToStatement, skipToStatement, inductionHypothesis]
    split <;> rfl

/-- Recovery stops at the end, or where the tokens stop. -/
theorem synchronize_append (isEnd : last.isEnd = true) (tokens : List Token) :
    synchronize (tokens ++ [last]) = synchronize tokens ++ [last] := by
  cases tokens with
  | nil =>
    show (if last.isEnd then _ else _) = [last]
    rw [isEnd]
    rfl
  | cons token rest =>
    rw [List.cons_append, synchronize, synchronize, skipToStatement_append isEnd]
    split <;> rfl

theorem Tolerates.recovering {parser : Parser α} (tolerates : Tolerates last parser) :
    Tolerates last (Grammar.recovering parser) := by
  intro rest low onlyEnd
  obtain ⟨same, ensures⟩ := tolerates rest low onlyEnd
  unfold ToleratesAt Ensures Grammar.recovering
  rw [same]
  cases ended : parser ⟨rest, low⟩ with
  | ok value after => exact ⟨rfl, ensures.ok ended⟩
  | error error after =>
    obtain ⟨onlyEndToo, placed⟩ := ensures.error ended
    refine ⟨?_, onlyEndToo.suffix (synchronize_suffix after.rest), placed⟩
    show EStateM.Result.error (error.endedBy last)
      (State.mk (synchronize (after.rest ++ [last])) after.nextReference) = _
    rw [synchronize_append onlyEnd.isEnd]
    rfl

/-! ### Nested phrases -/

/-- The parsers of nested phrases do not miss an end. -/
structure Phrases.Tolerate (last : Token) (phrases : Phrases) : Prop where
  expression : Tolerates last phrases.expression
  statement : Tolerates last phrases.statement
  declaration : Tolerates last phrases.declaration

namespace Phrases.Tolerate

variable {phrases : Phrases}

/-! ### Blocks and functions -/

theorem block (tolerate : phrases.Tolerate last) : Tolerates last phrases.block :=
  (tolerate.declaration.untilBrace phrases.limit).bind fun _ =>
    (Tolerates.expect .rightBrace _).bind fun _ => .pure _

theorem functionTail (tolerate : phrases.Tolerate last) (kind role : String)
    (name : Option Identifier) : Tolerates last (phrases.functionTail kind role name) :=
  (Tolerates.expect .leftParen role).bind fun _ =>
    ((Tolerates.expectName _).parenthesised "parameters").bind fun _ =>
      (Tolerates.expect .leftBrace _).bind fun _ => tolerate.block.bind fun _ => .pure _

/-! ### Expressions -/

theorem primary (tolerate : phrases.Tolerate last) : Tolerates last phrases.primary := by
  refine .look (failHere .missingExpression) (.failHere _) (fun _ => rfl) (fun _ _ => rfl) ?_
  rintro ⟨kind, lexeme, line⟩ rest low onlyEnd
  refine .peek_bind ?_
  have taken {next : Unit → Parser Expression} (tolerates : Tolerates last (next ())) :
      ToleratesAt last (advance >>= next) (⟨kind, lexeme, line⟩ :: rest) low :=
    .advance_bind (tolerates rest low onlyEnd.tail)
  have missing : ToleratesAt last (failHere .missingExpression : Parser Expression)
      (⟨kind, lexeme, line⟩ :: rest) low := Tolerates.failHere _ _ low onlyEnd
  cases kind with
  | number | string => exact taken (.pure _)
  | identifier => exact taken (.bind .freshReference fun _ => .pure _)
  | endOfInput => exact missing
  | mark mark =>
    cases mark with
    | falseWord | trueWord | nilWord => exact taken (.pure _)
    | thisWord => exact taken (.bind .freshReference fun _ => .pure _)
    | superWord =>
      exact taken (.bind (.expect .dot _) fun _ => .bind (.expectName _) fun _ =>
        .bind .freshReference fun _ => .pure _)
    | funWord => exact taken ((tolerate.functionTail _ _ none).bind fun _ => .pure _)
    | leftParen =>
      exact taken (tolerate.expression.bind fun _ => .bind (.expect .rightParen _) fun _ => .pure _)
    | _ => exact missing

theorem calls (tolerate : phrases.Tolerate last) (limit : Nat) (callee : Expression) :
    Tolerates last (phrases.calls limit callee) := by
  induction limit generalizing callee with
  | zero => exact .pure _
  | succ limit inductionHypothesis =>
    refine (Tolerates.accept .leftParen).bind fun accepted => ?_
    cases accepted with
    | true =>
      exact (tolerate.expression.parenthesised "arguments").bind fun _ => inductionHypothesis _
    | false =>
      refine (Tolerates.accept .dot).bind fun accepted => ?_
      cases accepted with
      | true => exact (Tolerates.expectName _).bind fun _ => inductionHypothesis _
      | false => exact .pure _

theorem call (tolerate : phrases.Tolerate last) : Tolerates last phrases.call :=
  tolerate.primary.bind fun callee => tolerate.calls phrases.limit callee

/-! ### Operators -/

theorem unaryWithin (tolerate : phrases.Tolerate last) (limit : Nat) :
    Tolerates last (phrases.unaryWithin limit) := by
  induction limit with
  | zero => exact tolerate.call
  | succ limit inductionHypothesis =>
    refine .look phrases.call tolerate.call (fun _ => rfl) (fun _ _ => rfl) ?_
    intro token rest low onlyEnd
    refine .peek_bind ?_
    split
    · rename_i operator _
      have goes : Tolerates last (do
          return .unary operator token.line (← phrases.unaryWithin limit) : Parser Expression) :=
        inductionHypothesis.bind fun _ => .pure _
      exact .advance_bind (goes rest low onlyEnd.tail)
    · exact tolerate.call _ low onlyEnd

theorem continueFrom {operand : Parser Expression}
    {operator? : Token → Option (Expression → Expression → Expression)}
    (tolerates : Tolerates last operand) (noEnd : ∀ ending : Ending, operator? ending.token = none)
    (limit : Nat) (left : Expression) :
    Tolerates last (leftAssociative.continueFrom operand operator? limit left) := by
  induction limit generalizing left with
  | zero => exact .pure _
  | succ limit inductionHypothesis =>
    have stops {rest : List Token} (ending : Ending) (isEnding : firstToken rest = ending.token)
        (low : Reference) :
        leftAssociative.continueFrom operand operator? (limit + 1) left ⟨rest, low⟩ =
          (pure left : Parser Expression) ⟨rest, low⟩ :=
      Derivation.continueFrom_stop _ (isEnding ▸ noEnd ending)
    refine .look (pure left) (.pure left) (stops ⟨"", 0⟩ rfl) (fun ending => stops ending rfl) ?_
    intro token rest low onlyEnd
    refine .peek_bind ?_
    split
    · rename_i join _
      have goes : Tolerates last (do
          leftAssociative.continueFrom operand operator? limit (join left (← operand))) :=
        tolerates.bind fun right => inductionHypothesis (join left right)
      exact .advance_bind (goes rest low onlyEnd.tail)
    · exact Tolerates.pure left _ low onlyEnd

/-- The operands of a level are made of those of the next tighter one. -/
theorem level (tier : Tier) (tighter : Tolerates last (phrases.operands tier.tighter)) :
    Tolerates last (phrases.operands (some tier)) := by
  have noEnd (ending : Ending) : tier.join? ending.token = none := by cases tier <;> rfl
  rw [operands_some]
  exact tighter.bind fun left => continueFrom tighter noEnd phrases.limit left

theorem disjunction (tolerate : phrases.Tolerate last) : Tolerates last phrases.disjunction :=
  level .disjunction <| level .conjunction <| level .equality <| level .comparison <| level .term <|
    level .factor <| tolerate.unaryWithin phrases.limit

/-! ### Assignment -/

theorem assignTo {equals : Token} (more : equals.isEnd = false) (value target : Expression) :
    Tolerates last (Phrases.assignTo equals value target) := by
  cases target with
  | read => exact Tolerates.freshReference.bind fun _ => .pure _
  | get => exact .pure _
  | _ => exact .throw more _

theorem wholeExpression (tolerate : phrases.Tolerate last) :
    Tolerates last phrases.wholeExpression := by
  refine tolerate.disjunction.bind fun target => ?_
  refine .look (pure target) (.pure target) (fun _ => rfl) (fun _ _ => rfl) ?_
  intro token rest low onlyEnd
  refine .peek_bind ?_
  split
  · have goes : Tolerates last (do Phrases.assignTo token (← phrases.expression) target) :=
      tolerate.expression.bind fun value => assignTo onlyEnd.more value target
    exact .advance_bind (goes rest low onlyEnd.tail)
  · exact Tolerates.pure target _ low onlyEnd

/-! ### Statements -/

theorem expressionUntilSemicolon (tolerate : phrases.Tolerate last) (role : String) :
    Tolerates last (phrases.expressionUntilSemicolon role) :=
  tolerate.wholeExpression.bind fun _ => .bind (.expect .semicolon role) fun _ => .pure _

theorem expressionUnless (tolerate : phrases.Tolerate last) (mark : Mark) :
    Tolerates last (phrases.expressionUnless mark) := by
  refine .bind (.nextIs mark) fun isThere => ?_
  cases isThere with
  | true => exact .pure _
  | false => exact tolerate.wholeExpression.bind fun _ => .pure _

theorem condition (tolerate : phrases.Tolerate last) (word : String) :
    Tolerates last (phrases.condition word) :=
  .bind (.expect .leftParen _) fun _ => tolerate.wholeExpression.bind fun _ =>
    .bind (.expect .rightParen _) fun _ => .pure _

theorem initialValue (tolerate : phrases.Tolerate last) :
    Tolerates last phrases.initialValue := by
  refine .bind (.accept .equal) fun accepted => ?_
  cases accepted with
  | true => exact tolerate.wholeExpression.bind fun _ => .pure _
  | false => exact .pure _

theorem variableDeclaration (tolerate : phrases.Tolerate last) :
    Tolerates last phrases.variableDeclaration :=
  .bind (.expectName _) fun _ => tolerate.initialValue.bind fun _ =>
    .bind (.expect .semicolon _) fun _ => .pure _

theorem expressionStatement (tolerate : phrases.Tolerate last) :
    Tolerates last phrases.expressionStatement :=
  (tolerate.expressionUntilSemicolon _).bind fun _ => .pure _

theorem forInitializer (tolerate : phrases.Tolerate last) :
    Tolerates last phrases.forInitializer := by
  refine .bind (.accept .semicolon) fun accepted => ?_
  cases accepted with
  | true => exact .pure _
  | false =>
    refine .bind (.accept .varWord) fun accepted => ?_
    cases accepted with
    | true => exact tolerate.variableDeclaration.bind fun _ => .pure _
    | false => exact tolerate.expressionStatement.bind fun _ => .pure _

theorem forStatement (tolerate : phrases.Tolerate last) :
    Tolerates last phrases.forStatement :=
  .bind (.expect .leftParen _) fun _ => tolerate.forInitializer.bind fun _ =>
    (tolerate.expressionUnless .semicolon).bind fun _ => .bind (.expect .semicolon _) fun _ =>
      (tolerate.expressionUnless .rightParen).bind fun _ => .bind (.expect .rightParen _) fun _ =>
        tolerate.statement.bind fun _ => .pure _

theorem elseBranch (tolerate : phrases.Tolerate last) : Tolerates last phrases.elseBranch := by
  refine .bind (.accept .elseWord) fun accepted => ?_
  cases accepted with
  | true => exact tolerate.statement.bind fun _ => .pure _
  | false => exact .pure _

theorem ifStatement (tolerate : phrases.Tolerate last) : Tolerates last phrases.ifStatement :=
  (tolerate.condition _).bind fun _ => tolerate.statement.bind fun _ =>
    tolerate.elseBranch.bind fun _ => .pure _

theorem whileStatement (tolerate : phrases.Tolerate last) :
    Tolerates last phrases.whileStatement :=
  (tolerate.condition _).bind fun _ => tolerate.statement.bind fun _ => .pure _

theorem returnStatement (tolerate : phrases.Tolerate last) (keyword : Identifier) :
    Tolerates last (phrases.returnStatement keyword) :=
  (tolerate.expressionUnless .semicolon).bind fun _ => .bind (.expect .semicolon _) fun _ => .pure _

theorem controlStatement (control : LoopControl) (keyword : Identifier) :
    Tolerates last (Phrases.controlStatement control keyword) :=
  .bind (.expect .semicolon _) fun _ => .pure _

theorem wholeStatement (tolerate : phrases.Tolerate last) :
    Tolerates last phrases.wholeStatement := by
  have plain := tolerate.expressionStatement
  refine .look _ plain (fun _ => rfl) (fun _ _ => rfl) ?_
  rintro ⟨kind, lexeme, line⟩ rest low onlyEnd
  refine .peek_bind ?_
  have taken {next : Unit → Parser Statement} (tolerates : Tolerates last (next ())) :
      ToleratesAt last (advance >>= next) (⟨kind, lexeme, line⟩ :: rest) low :=
    .advance_bind (tolerates rest low onlyEnd.tail)
  have other := plain (⟨kind, lexeme, line⟩ :: rest) low onlyEnd
  cases kind with
  | mark mark =>
    cases mark with
    | forWord => exact taken tolerate.forStatement
    | ifWord => exact taken tolerate.ifStatement
    | whileWord => exact taken tolerate.whileStatement
    | returnWord => exact taken (tolerate.returnStatement _)
    | breakWord => exact taken (controlStatement .break _)
    | continueWord => exact taken (controlStatement .continue _)
    | leftBrace => exact taken (tolerate.block.bind fun _ => .pure _)
    | printWord => exact taken ((tolerate.expressionUntilSemicolon _).bind fun _ => .pure _)
    | _ => exact other
  | _ => exact other

/-! ### Declarations -/

theorem namedFunction (tolerate : phrases.Tolerate last) (kind : String) :
    Tolerates last (phrases.namedFunction kind) :=
  .bind (.expectName _) fun name => tolerate.functionTail kind _ (some name)

theorem superclass : Tolerates last Phrases.superclass := by
  refine .bind (.accept .less) fun accepted => ?_
  cases accepted with
  | true => exact .bind (.expectName _) fun _ => Tolerates.freshReference.bind fun _ => .pure _
  | false => exact .pure _

theorem classDeclaration (tolerate : phrases.Tolerate last) :
    Tolerates last phrases.classDeclaration :=
  .bind (.expectName _) fun _ => superclass.bind fun _ => .bind (.expect .leftBrace _) fun _ =>
    ((tolerate.namedFunction "method").untilBrace phrases.limit).bind fun _ =>
      .bind (.expect .rightBrace _) fun _ => .pure _

/-- What is behind the next token tells a function, and an end is no name. -/
theorem beginsFunction_append (isEnd : last.isEnd = true) (tokens : List Token) :
    beginsFunction (tokens ++ [last]) = beginsFunction tokens := by
  match tokens with
  | [] => rfl
  | [token] =>
    show (token.isMark .funWord && last.isIdentifier) = false
    rw [isIdentifier_end last isEnd, Bool.and_false]
  | _ :: _ :: _ => rfl

theorem wholeDeclaration (tolerate : phrases.Tolerate last) :
    Tolerates last phrases.wholeDeclaration := by
  have plain : Tolerates last (do
      if ← accept .varWord then
        phrases.variableDeclaration
      else
        phrases.wholeStatement) := by
    refine .bind (.accept .varWord) fun accepted => ?_
    cases accepted with
    | true => exact tolerate.variableDeclaration
    | false => exact tolerate.wholeStatement
  have function : Tolerates last (do
      return .declareFunction (← phrases.namedFunction "function") : Parser Statement) :=
    (tolerate.namedFunction "function").bind fun _ => .pure _
  refine .recovering (.bind (.accept .classWord) fun accepted => ?_)
  cases accepted with
  | true => exact tolerate.classDeclaration
  | false =>
    refine .look _ plain (fun _ => rfl) (fun _ _ => rfl) ?_
    intro token rest low onlyEnd
    refine .get_bind ?_ ?_
    · dsimp only
      rw [beginsFunction_append onlyEnd.isEnd]
    · split
      · exact .advance_bind (function rest low onlyEnd.tail)
      · exact plain _ low onlyEnd

end Phrases.Tolerate

/-! ### Any depth -/

theorem nested_tolerate (last : Token) : (depth : Nat) → (nested depth).Tolerate last
  | 0 => ⟨.failHere _, .failHere _, .failHere _⟩
  | depth + 1 =>
    have inside := nested_tolerate last depth
    ⟨inside.wholeExpression, inside.wholeStatement, inside.wholeDeclaration⟩

theorem declaration_tolerates (last : Token) (depth : Nat) :
    Tolerates last (declaration depth) :=
  (nested_tolerate last depth).declaration

theorem loneExpression_tolerates (last : Token) (depth : Nat) :
    Tolerates last (loneExpression depth) := by
  refine (nested_tolerate last depth).expression.bind fun result => ?_
  refine .look (pure result) (.pure result) (fun _ => rfl) (fun _ _ => rfl) ?_
  intro token rest low onlyEnd
  refine .get_bind rfl ?_
  split
  · exact Tolerates.pure result _ low onlyEnd
  · exact Tolerates.failHere .missingEnd _ low onlyEnd

end Lox.Grammar
