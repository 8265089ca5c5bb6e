/-
The readers of statements and declarations follow the parsers of them, recovery included. With that
the readers of all nested phrases do, at any depth that exceeds the tokens left.
-/

import Lox.Proofs.Grammar.Sound
import Lox.Proofs.Slice.Expressions

namespace Lox.Grammar.Slice

variable {α β : Type} {tokens rest : List Token} {low : Reference} {distance depth : Nat}

/-! ### Optional phrases -/

/-- A phrase that may be missing is ahead where the phrase is. -/
abbrev AheadOptional (distance : Nat) (relabel : Relabelling → α → α) (found foundToo : Option α) :
    Prop :=
  Ahead distance (fun labels => Option.map (relabel labels)) found foundToo

theorem ahead_some {relabel : Relabelling → α → α} {found foundToo : α}
    (same : Ahead distance relabel found foundToo) :
    AheadOptional distance relabel (some found) (some foundToo) :=
  congrArg some same

/-- What a loop is made of and what stands in its place are ahead together. -/
theorem ahead_forLoop {initializer initializerToo : Option Statement}
    {condition conditionToo increment incrementToo : Option Expression} {body bodyToo : Statement}
    (same : AheadOptional distance Statement.relabel initializer initializerToo)
    (sameCondition : AheadOptional distance Expression.relabel condition conditionToo)
    (sameIncrement : AheadOptional distance Expression.relabel increment incrementToo)
    (sameBody : Ahead distance Statement.relabel body bodyToo) :
    Ahead distance Statement.relabel (Phrases.forLoop initializer condition increment body)
      (Phrases.forLoop initializerToo conditionToo incrementToo bodyToo) := by
  obtain rfl := same
  obtain rfl := sameCondition
  obtain rfl := sameIncrement
  obtain rfl := sameBody
  cases initializerToo <;> cases conditionToo <;> cases incrementToo <;> rfl

theorem ahead_conditional {condition conditionToo : Expression} {thenBranch thenToo : Statement}
    {elseBranch elseToo : Option Statement}
    (same : Ahead distance Expression.relabel condition conditionToo)
    (sameThen : Ahead distance Statement.relabel thenBranch thenToo)
    (sameElse : AheadOptional distance Statement.relabel elseBranch elseToo) :
    Ahead distance Statement.relabel (.conditional condition thenBranch elseBranch)
      (.conditional conditionToo thenToo elseToo) := by
  obtain rfl := same
  obtain rfl := sameThen
  obtain rfl := sameElse
  cases elseToo <;> rfl

theorem ahead_giveBack (keyword : Identifier) {value valueToo : Option Expression}
    (same : AheadOptional distance Expression.relabel value valueToo) :
    Ahead distance Statement.relabel (.giveBack keyword value) (.giveBack keyword valueToo) := by
  obtain rfl := same
  cases valueToo <;> rfl

theorem ahead_variable (name : Identifier) {initializer initializerToo : Option Expression}
    (same : AheadOptional distance Expression.relabel initializer initializerToo) :
    Ahead distance Statement.relabel (.declareVariable name initializer)
      (.declareVariable name initializerToo) := by
  obtain rfl := same
  cases initializerToo <;> rfl

theorem ahead_class (name : Identifier) {superclass superclassToo : Option Expression}
    {methods methodsToo : List FunctionDeclaration}
    (same : AheadOptional distance Expression.relabel superclass superclassToo)
    (sameMethods : Ahead distance FunctionDeclaration.relabelAll methods methodsToo) :
    Ahead distance Statement.relabel (.declareClass name superclass methods)
      (.declareClass name superclassToo methodsToo) := by
  obtain rfl := same
  obtain rfl := sameMethods
  cases superclassToo <;> rfl

/-! ### Statements -/

theorem controlStatement_follows (control : LoopControl) {word : Token}
    (inside : word :: rest <:+ tokens) :
    Follows tokens distance (Ahead distance Statement.relabel)
      ((controlStatement tokens control).outcome (cursorOf tokens rest low))
      (Phrases.controlStatement control word.toIdentifier) rest low := by
  refine .lastWord_bind inside (.expect_bind .semicolon _ (tail_inside inside) ?_)
  rintro semicolon tail rfl
  exact .pure rfl

theorem superclass_follows (inside : rest <:+ tokens) :
    Follows tokens distance (AheadOptional distance Expression.relabel)
      ((superclass tokens).outcome (cursorOf tokens rest low)) Phrases.superclass rest low := by
  refine .accept_bind .less inside ?_ fun _ => .pure rfl
  rintro sign tail rfl
  refine .expectName_bind _ (tail_inside inside) ?_
  rintro name behind rfl
  exact .freshReference_bind (tail_inside (tail_inside inside)) (.pure rfl)

namespace Nested

variable (nested : Nested tokens distance depth)

include nested

theorem initialValue (inside : rest <:+ tokens) (short : rest.length ≤ depth) :
    Follows tokens distance (AheadOptional distance Expression.relabel)
      ((initialValue tokens).outcome (cursorOf tokens rest low))
      (Grammar.nested depth).initialValue rest low := by
  rw [Slice.initialValue]
  refine .accept_bind .equal inside ?_ fun _ => .pure rfl
  rintro sign tail rfl
  refine (nested.wholeExpression (tail_inside inside) (Nat.le_of_succ_le short)).bind
    (tail_inside inside) ?_
  exact fun _ _ _ _ _ _ _ same => .pure (ahead_some same)

theorem variableDeclaration (inside : rest <:+ tokens) (short : rest.length ≤ depth) :
    Follows tokens distance (Ahead distance Statement.relabel)
      ((variableDeclaration tokens).outcome (cursorOf tokens rest low))
      (Grammar.nested depth).variableDeclaration rest low := by
  rw [Slice.variableDeclaration]
  refine .expectName_bind _ inside ?_
  rintro name tail rfl
  refine (nested.initialValue (tail_inside inside) (Nat.le_of_succ_le short)).bind
    (tail_inside inside) ?_
  intro value valueToo behind high _ insideToo _ same
  refine .expect_bind .semicolon _ insideToo ?_
  rintro semicolon last rfl
  exact .pure (ahead_variable name.toIdentifier same)

theorem expressionUntilSemicolon (role : String) (inside : rest <:+ tokens)
    (short : rest.length ≤ depth) :
    Follows tokens distance (Ahead distance Expression.relabel)
      ((expressionUntilSemicolon tokens role).outcome (cursorOf tokens rest low))
      ((Grammar.nested depth).expressionUntilSemicolon role) rest low := by
  rw [Slice.expressionUntilSemicolon]
  refine (nested.wholeExpression inside short).bind inside ?_
  intro value valueToo behind high _ insideToo _ same
  refine .expect_bind .semicolon _ insideToo ?_
  rintro semicolon last rfl
  exact .pure same

theorem expressionStatement (inside : rest <:+ tokens) (short : rest.length ≤ depth) :
    Follows tokens distance (Ahead distance Statement.relabel)
      ((expressionStatement tokens).outcome (cursorOf tokens rest low))
      (Grammar.nested depth).expressionStatement rest low := by
  rw [Slice.expressionStatement]
  refine (nested.expressionUntilSemicolon _ inside short).bind inside ?_
  exact fun _ _ _ _ _ _ _ same => .pure (congrArg Statement.expression same)

theorem expressionUnless (mark : Mark) (inside : rest <:+ tokens) (short : rest.length ≤ depth) :
    Follows tokens distance (AheadOptional distance Expression.relabel)
      ((expressionUnless tokens mark).outcome (cursorOf tokens rest low))
      ((Grammar.nested depth).expressionUnless mark) rest low := by
  rw [Slice.expressionUnless]
  refine .nextIs_bind mark inside ?_
  split
  · exact .pure rfl
  · refine (nested.wholeExpression inside short).bind inside ?_
    exact fun _ _ _ _ _ _ _ same => .pure (ahead_some same)

theorem condition (word : String) (inside : rest <:+ tokens) (short : rest.length ≤ depth) :
    Follows tokens distance (Ahead distance Expression.relabel)
      ((condition tokens word).outcome (cursorOf tokens rest low))
      ((Grammar.nested depth).condition word) rest low := by
  rw [Slice.condition]
  refine .expect_bind .leftParen _ inside ?_
  rintro opening tail rfl
  refine (nested.wholeExpression (tail_inside inside) (Nat.le_of_succ_le short)).bind
    (tail_inside inside) ?_
  intro value valueToo behind high _ insideToo _ same
  refine .expect_bind .rightParen _ insideToo ?_
  rintro closing last rfl
  exact .pure same

theorem forInitializer (inside : rest <:+ tokens) (short : rest.length ≤ depth) :
    Follows tokens distance (AheadOptional distance Statement.relabel)
      ((forInitializer tokens).outcome (cursorOf tokens rest low))
      (Grammar.nested depth).forInitializer rest low := by
  rw [Slice.forInitializer]
  refine .accept_bind .semicolon inside (fun _ _ _ => .pure rfl) fun _ =>
    .accept_bind .varWord inside ?_ fun _ => ?_
  · rintro word tail rfl
    refine (nested.variableDeclaration (tail_inside inside) (Nat.le_of_succ_le short)).bind
      (tail_inside inside) ?_
    exact fun _ _ _ _ _ _ _ same => .pure (ahead_some same)
  · refine (nested.expressionStatement inside short).bind inside ?_
    exact fun _ _ _ _ _ _ _ same => .pure (ahead_some same)

theorem forStatement (inside : rest <:+ tokens) (short : rest.length < depth) :
    Follows tokens distance (Ahead distance Statement.relabel)
      ((forStatement tokens).outcome (cursorOf tokens rest low))
      (Grammar.nested depth).forStatement rest low := by
  rw [Slice.forStatement]
  refine .expect_bind .leftParen _ inside ?_
  rintro opening tail rfl
  have shortTail : tail.length ≤ depth := Nat.le_of_succ_le (Nat.le_of_lt short)
  refine (nested.forInitializer (tail_inside inside) shortTail).bind (tail_inside inside) ?_
  intro initializer initializerToo atCondition middle _ insideCondition fewer same
  refine (nested.expressionUnless .semicolon insideCondition (Nat.le_trans fewer shortTail)).bind
    insideCondition ?_
  intro condition conditionToo behind high _ insideBehind fewerBehind sameCondition
  refine .expect_bind .semicolon _ insideBehind ?_
  rintro semicolon atIncrement rfl
  have insideIncrement := tail_inside insideBehind
  rw [List.length_cons] at short fewerBehind
  refine (nested.expressionUnless .rightParen insideIncrement (by omega)).bind insideIncrement ?_
  intro increment incrementToo last highest _ insideLast fewerLast sameIncrement
  refine .expect_bind .rightParen _ insideLast ?_
  rintro closing body rfl
  rw [List.length_cons] at fewerLast
  refine (nested.statement (tail_inside insideLast) (by omega)).bind (tail_inside insideLast) ?_
  exact fun _ _ _ _ _ _ _ sameBody =>
    .pure (ahead_forLoop same sameCondition sameIncrement sameBody)

theorem elseBranch (inside : rest <:+ tokens) (short : rest.length ≤ depth) :
    Follows tokens distance (AheadOptional distance Statement.relabel)
      ((elseBranch tokens).outcome (cursorOf tokens rest low))
      (Grammar.nested depth).elseBranch rest low := by
  rw [Slice.elseBranch]
  refine .accept_bind .elseWord inside ?_ fun _ => .pure rfl
  rintro word tail rfl
  refine (nested.statement (tail_inside inside) short).bind (tail_inside inside) ?_
  exact fun _ _ _ _ _ _ _ same => .pure (ahead_some same)

theorem ifStatement (inside : rest <:+ tokens) (short : rest.length < depth) :
    Follows tokens distance (Ahead distance Statement.relabel)
      ((ifStatement tokens).outcome (cursorOf tokens rest low))
      (Grammar.nested depth).ifStatement rest low := by
  rw [Slice.ifStatement]
  refine (nested.condition _ inside (Nat.le_of_lt short)).bind inside ?_
  intro condition conditionToo atThen middle _ insideThen fewer same
  refine (nested.statement insideThen (Nat.lt_of_le_of_lt fewer short)).bind insideThen ?_
  intro thenBranch thenToo behind high _ insideBehind fewerBehind sameThen
  have shortBehind := Nat.le_trans fewerBehind (Nat.le_trans fewer (Nat.le_of_lt short))
  refine (nested.elseBranch insideBehind shortBehind).bind insideBehind ?_
  exact fun _ _ _ _ _ _ _ sameElse => .pure (ahead_conditional same sameThen sameElse)

theorem whileStatement (inside : rest <:+ tokens) (short : rest.length < depth) :
    Follows tokens distance (Ahead distance Statement.relabel)
      ((whileStatement tokens).outcome (cursorOf tokens rest low))
      (Grammar.nested depth).whileStatement rest low := by
  rw [Slice.whileStatement]
  refine (nested.condition _ inside (Nat.le_of_lt short)).bind inside ?_
  intro condition conditionToo body middle _ insideBody fewer same
  refine (nested.statement insideBody (Nat.lt_of_le_of_lt fewer short)).bind insideBody ?_
  exact fun _ _ _ _ _ _ _ sameBody => .pure (congrArg₂ (Statement.loop · · none) same sameBody)

theorem returnStatement {word : Token} (inside : word :: rest <:+ tokens)
    (short : rest.length ≤ depth) :
    Follows tokens distance (Ahead distance Statement.relabel)
      ((returnStatement tokens).outcome (cursorOf tokens rest low))
      ((Grammar.nested depth).returnStatement word.toIdentifier) rest low := by
  rw [Slice.returnStatement]
  refine .lastWord_bind inside ?_
  refine (nested.expressionUnless .semicolon (tail_inside inside) short).bind
    (tail_inside inside) ?_
  intro value valueToo behind high _ insideToo _ same
  refine .expect_bind .semicolon _ insideToo ?_
  rintro semicolon last rfl
  exact .pure (ahead_giveBack word.toIdentifier same)

theorem wholeStatement (inside : rest <:+ tokens) (short : rest.length ≤ depth) :
    Follows tokens distance (Ahead distance Statement.relabel)
      ((Slice.statement tokens).outcome (cursorOf tokens rest low))
      (Grammar.nested depth).wholeStatement rest low := by
  rw [Slice.statement]
  refine .peek_bind inside ?_
  cases rest with
  | nil => exact nested.expressionStatement inside short
  | cons token tail =>
    have insideTail := tail_inside inside
    have shorter : tail.length < depth := short
    obtain ⟨kind, lexeme, line⟩ := token
    cases kind with
    | mark mark =>
      cases mark with
      | forWord => exact .advance_bind inside rfl (nested.forStatement insideTail shorter)
      | ifWord => exact .advance_bind inside rfl (nested.ifStatement insideTail shorter)
      | whileWord => exact .advance_bind inside rfl (nested.whileStatement insideTail shorter)
      | returnWord =>
        exact .advance_bind inside rfl (nested.returnStatement inside (Nat.le_of_lt shorter))
      | breakWord => exact .advance_bind inside rfl (controlStatement_follows .break inside)
      | continueWord => exact .advance_bind inside rfl (controlStatement_follows .continue inside)
      | leftBrace =>
        refine .advance_bind inside rfl ((nested.block insideTail shorter).bind insideTail ?_)
        exact fun _ _ _ _ _ _ _ same => .pure (congrArg Statement.block same)
      | printWord =>
        refine .advance_bind inside rfl ((nested.expressionUntilSemicolon _ insideTail
          (Nat.le_of_lt shorter)).bind insideTail ?_)
        exact fun _ _ _ _ _ _ _ same => .pure (congrArg Statement.print same)
      | _ => exact nested.expressionStatement inside short
    | _ => exact nested.expressionStatement inside short

/-! ### Declarations -/

theorem namedFunction (kind : String) (inside : rest <:+ tokens) (short : rest.length ≤ depth) :
    Follows tokens distance (Ahead distance FunctionDeclaration.relabel)
      ((namedFunction tokens kind).outcome (cursorOf tokens rest low))
      ((Grammar.nested depth).namedFunction kind) rest low := by
  rw [Slice.namedFunction]
  refine .expectName_bind _ inside ?_
  rintro name tail rfl
  exact nested.functionTail kind _ (some name.toIdentifier) (tail_inside inside)
    (Nat.le_of_succ_le short)

theorem classDeclaration (inside : rest <:+ tokens) (short : rest.length < depth) :
    Follows tokens distance (Ahead distance Statement.relabel)
      ((classDeclaration tokens).outcome (cursorOf tokens rest low))
      (Grammar.nested depth).classDeclaration rest low := by
  rw [Slice.classDeclaration]
  refine .expectName_bind _ inside ?_
  rintro name tail rfl
  refine (superclass_follows (tail_inside inside)).bind (tail_inside inside) ?_
  intro superclass superclassToo behind middle _ insideBehind fewer same
  refine .expect_bind .leftBrace _ insideBehind ?_
  rintro opening atMethods rfl
  have insideMethods := tail_inside insideBehind
  have shorter : atMethods.length < depth := by
    rw [List.length_cons] at short fewer
    omega
  have methods := untilBrace_follows (Slice.methods.eq_1 tokens)
    (fun inside short _ => nested.namedFunction "method" inside (Nat.le_of_lt short)) ?_
    (depth + 1) (Nat.lt_succ_of_lt shorter) insideMethods shorter middle
  refine methods.bind insideMethods ?_
  · intro found foundToo last high _ insideLast _ sameMethods
    refine .expect_bind .rightBrace _ insideLast ?_
    rintro closing behindClass rfl
    exact .pure (ahead_class name.toIdentifier same (ahead_methods sameMethods))
  · intro state function after ended
    obtain ⟨expressions, statements, declarations⟩ := nested_read depth
    have read : Phrases.Read Vocabulary.any (Grammar.nested depth) :=
      ⟨expressions, statements, declarations⟩
    exact (read.namedFunction "method" state (Vocabulary.any_admitsAll _)).ok ended |>.2.1

/-- The declaration without recovery. -/
theorem plainDeclaration (inside : rest <:+ tokens) (short : rest.length ≤ depth)
    (low : Reference) :
    ∃ parser, (Grammar.nested depth).wholeDeclaration = recovering parser ∧
      Follows tokens distance (Ahead distance Statement.relabel)
        ((plainDeclaration tokens).outcome (cursorOf tokens rest low)) parser rest low := by
  refine ⟨_, rfl, ?_⟩
  rw [Slice.plainDeclaration]
  refine .accept_bind .classWord inside ?_ fun _ => ?_
  · rintro word tail rfl
    exact nested.classDeclaration (tail_inside inside) short
  refine .readerStep (check_outcome inside _ (isMark_end .funWord) low) ?_
  obtain ⟨follows, looked, isFunction⟩ := nameFollows_outcome inside low
  refine .readerStep looked ?_
  refine .parserStep rfl ?_
  dsimp only
  rw [isFunction]
  split
  · rename_i begins
    obtain ⟨word, tail, rfl⟩ := eq_fun_cons begins
    have insideTail := tail_inside inside
    refine .advance_bind inside rfl ?_
    refine (nested.namedFunction "function" insideTail (Nat.le_of_succ_le short)).bind insideTail ?_
    exact fun _ _ _ _ _ _ _ same => .pure (congrArg Statement.declareFunction same)
  · refine .accept_bind .varWord inside ?_ fun _ => nested.wholeStatement inside short
    rintro word tail rfl
    exact nested.variableDeclaration (tail_inside inside) (Nat.le_of_succ_le short)

end Nested

/-! ### Recovery -/

/-- A declaration that is read is read by itself. -/
theorem declaration_ok {cursor after : Cursor} {statement : Statement}
    (ended : (plainDeclaration tokens).outcome cursor = some (.ok statement, after)) :
    (declaration tokens).outcome cursor = some (.ok statement, after) := by
  have first : plainDeclaration tokens cursor = some (.ok statement, after) := ended
  rw [declaration]
  show (plainDeclaration tokens cursor).bind _ = _
  rw [first]
  rfl

/-- An error is passed on behind recovery. -/
theorem declaration_error {cursor after last : Cursor} {stop : Stop}
    (ended : (plainDeclaration tokens).outcome cursor = some (.error stop, after))
    (recovered : (synchronize tokens).outcome after = some (.ok (), last)) :
    (declaration tokens).outcome cursor = some (.error stop, last) := by
  have first : plainDeclaration tokens cursor = some (.error stop, after) := ended
  have second : synchronize tokens after = some (.ok (), last) := recovered
  rw [declaration]
  show (plainDeclaration tokens cursor).bind _ = _
  rw [first]
  show (synchronize tokens after).bind _ = _
  rw [second]
  rfl

theorem skipToStatement_remains (previous : Token) (tokens : List Token) :
    Remains (Grammar.skipToStatement previous tokens) tokens := by
  induction tokens generalizing previous with
  | nil => exact .refl []
  | cons token rest inductionHypothesis =>
    rw [Grammar.skipToStatement]
    split
    · exact .refl _
    · rename_i goesOn
      have more : token.isEnd = false := by
        rw [Bool.or_eq_true, Bool.or_eq_true, not_or, not_or] at goesOn
        exact Bool.eq_false_iff.mpr goesOn.1.1
      exact (inductionHypothesis token).trans (.cons more)

/-- Recovery passes no end. -/
theorem synchronize_remains (tokens : List Token) :
    Remains (Grammar.synchronize tokens) tokens := by
  cases tokens with
  | nil => exact .refl []
  | cons token rest =>
    rw [Grammar.synchronize]
    split
    · exact .refl _
    · rename_i more
      exact (skipToStatement_remains token rest).trans (.cons (Bool.eq_false_iff.mpr more))

/-- Recovery takes a token unless it is an end. -/
theorem synchronize_length_lt {tokens : List Token} (more : atEnd tokens = false) :
    (Grammar.synchronize tokens).length < tokens.length := by
  cases tokens with
  | nil => exact absurd more (by decide)
  | cons token rest =>
    rw [Grammar.synchronize, if_neg (show ¬token.isEnd = true from Bool.eq_false_iff.mp more)]
    exact Nat.lt_succ_of_le (skipToStatement_remains token rest).length_le

theorem synchronize_atEnd {tokens : List Token} (ended : atEnd tokens = true) :
    Grammar.synchronize tokens = tokens := by
  cases tokens with
  | nil => rfl
  | cons token rest => rw [Grammar.synchronize, if_pos (show token.isEnd = true from ended)]

/-- What a reader and a parser of declarations do: both take a token at least, and an error is
reported at one of the tokens taken, or at the end of the tokens. -/
def Attempts (tokens : List Token) (distance : Nat) (parser : Parser Statement) (rest : List Token)
    (low : Reference) : Prop :=
  Ensures parser ⟨rest, distance + low⟩
    (fun statement after => ∃ found restToo high, after = ⟨restToo, distance + high⟩ ∧
      Remains restToo rest ∧ restToo.length < rest.length ∧
      Ahead distance Statement.relabel statement found ∧
      (declaration tokens).outcome (cursorOf tokens rest low) =
        some (.ok found, cursorOf tokens restToo high))
    fun error after => ∃ place restToo high, after = ⟨restToo, distance + high⟩ ∧
      Remains restToo rest ∧ restToo.length < rest.length ∧
      (cursorOf tokens rest low).place ≤ place ∧
      (place < (cursorOf tokens restToo high).place ∨
        place = (cursorOf tokens restToo high).place ∧ atEnd restToo = true) ∧
      tokenAt tokens place = error.token ∧
      (declaration tokens).outcome (cursorOf tokens rest low) =
        some (.error (.error place error.problem), cursorOf tokens restToo high)

theorem Nested.wholeDeclaration (nested : Nested tokens distance depth) (inside : rest <:+ tokens)
    (short : rest.length ≤ depth) (more : atEnd rest = false) :
    Attempts tokens distance (Grammar.declaration (depth + 1)) rest low := by
  obtain ⟨parser, isParser, follows⟩ := nested.plainDeclaration inside short low
  have isDeclaration : Grammar.declaration (depth + 1) = recovering parser := isParser
  have takes := (nested_read (depth + 1)).2.2 ⟨rest, distance + low⟩ (Vocabulary.any_admitsAll _)
  rw [isDeclaration] at takes ⊢
  cases ended : parser ⟨rest, distance + low⟩ with
  | ok statement after =>
    obtain ⟨found, restToo, high, rfl, fewer, same, isOutcome⟩ := Ensures.ok follows ended
    have ended := recovering_ok ended
    exact Ensures.of_ok ended ⟨found, restToo, high, rfl, fewer, (takes.ok ended).2.1, same,
      declaration_ok isOutcome⟩
  | error error after =>
    obtain ⟨place, restToo, high, rfl, fewer, notBefore, notBehind, isToken, isOutcome⟩ :=
      Ensures.error follows ended
    have insideToo := fewer.suffix.trans inside
    have nonempty : tokens ≠ [] := by
      rintro rfl
      obtain rfl := List.suffix_nil.mp inside
      exact absurd more (by decide)
    have synchronized := synchronize_outcome insideToo nonempty high
    refine Ensures.of_error (recovering_error ended) ⟨place, Grammar.synchronize restToo, high, rfl,
      (synchronize_remains restToo).trans fewer, ?_, notBefore, ?_, isToken,
      declaration_error isOutcome synchronized⟩
    · cases isEnd : atEnd restToo with
      | false => exact Nat.lt_of_lt_of_le (synchronize_length_lt isEnd) fewer.length_le
      | true =>
        rw [synchronize_atEnd isEnd]
        refine Nat.lt_of_le_of_ne fewer.length_le fun sameLength => ?_
        obtain rfl := fewer.suffix.eq_of_length sameLength
        exact absurd isEnd (Bool.eq_false_iff.mp more)
    · cases isEnd : atEnd restToo with
      | false =>
        have shorter := synchronize_length_lt isEnd
        have whole := insideToo.length_le
        refine .inl (Nat.lt_of_le_of_lt notBehind ?_)
        show tokens.length - restToo.length < tokens.length - (Grammar.synchronize restToo).length
        omega
      | true =>
        rw [synchronize_atEnd isEnd]
        exact (Nat.lt_or_eq_of_le notBehind).imp_right fun here => ⟨here, isEnd⟩

/-! ### All nested phrases -/

theorem Attempts.follows {parser : Parser Statement}
    (attempts : Attempts tokens distance parser rest low) :
    Follows tokens distance (Ahead distance Statement.relabel)
      ((declaration tokens).outcome (cursorOf tokens rest low)) parser rest low := by
  refine Ensures.mono attempts ?_ ?_
  · rintro statement after ⟨found, restToo, high, isAfter, fewer, _, same, isOutcome⟩
    exact ⟨found, restToo, high, isAfter, fewer, same, isOutcome⟩
  · rintro error after ⟨place, restToo, high, isAfter, fewer, _, notBefore, before, others⟩
    exact ⟨place, restToo, high, isAfter, fewer, notBefore,
      before.elim Nat.le_of_lt fun here => Nat.le_of_eq here.1, others⟩

/-- However deep phrases may nest, their readers follow their parsers where fewer tokens are
left. -/
theorem nested_follows (tokens : List Token) (distance depth : Nat) :
    Nested tokens distance depth := by
  induction depth with
  | zero =>
    exact ⟨fun _ short => absurd short (Nat.not_lt_zero _),
      fun _ short => absurd short (Nat.not_lt_zero _),
      fun _ short _ => absurd short (Nat.not_lt_zero _)⟩
  | succ depth nested =>
    exact ⟨fun inside short => nested.wholeExpression inside (Nat.le_of_lt_succ short),
      fun inside short => nested.wholeStatement inside (Nat.le_of_lt_succ short),
      fun inside short more =>
        (nested.wholeDeclaration inside (Nat.le_of_lt_succ short) more).follows⟩

/-- A declaration is attempted alike by place and off the front, at any depth that exceeds the
tokens left. -/
theorem declaration_attempts (inside : rest <:+ tokens) (short : rest.length < depth)
    (more : atEnd rest = false) :
    Attempts tokens distance (Grammar.declaration depth) rest low := by
  cases depth with
  | zero => exact absurd short (Nat.not_lt_zero _)
  | succ depth =>
    exact (nested_follows tokens distance depth).wholeDeclaration inside (Nat.le_of_lt_succ short)
      more

end Lox.Grammar.Slice
