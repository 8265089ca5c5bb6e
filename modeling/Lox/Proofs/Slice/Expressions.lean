/-
The readers of expressions follow the parsers of expressions, provided that the readers of nested
phrases do wherever fewer tokens are left. How often a phrase repeats and how deep phrases nest is
bounded for the parsers and not for the readers, so the bounds have to exceed the tokens.
-/

import Lox.Proofs.Slice.Tokens
import Lox.Proofs.Grammar.Program

namespace Lox.Grammar.Slice

variable {α β : Type} {tokens rest : List Token} {low : Reference} {distance depth : Nat}

/-! ### Trees -/

/-- The same tree, but for the numbers of its references, which are ahead in the first. -/
abbrev Ahead (distance : Nat) (relabel : Relabelling → α → α) (found foundToo : α) : Prop :=
  found = relabel (moved id distance) foundToo

theorem ahead_expressions {found foundToo : List Expression}
    (alike : List.Forall₂ (Ahead distance Expression.relabel) found foundToo) :
    Ahead distance Expression.relabelAll found foundToo := by
  induction alike with
  | nil => rfl
  | cons first _ others => exact congrArg₂ List.cons first others

theorem ahead_statements {found foundToo : List Statement}
    (alike : List.Forall₂ (Ahead distance Statement.relabel) found foundToo) :
    Ahead distance Statement.relabelAll found foundToo := by
  induction alike with
  | nil => rfl
  | cons first _ others => exact congrArg₂ List.cons first others

theorem ahead_methods {found foundToo : List FunctionDeclaration}
    (alike : List.Forall₂ (Ahead distance FunctionDeclaration.relabel) found foundToo) :
    Ahead distance FunctionDeclaration.relabelAll found foundToo := by
  induction alike with
  | nil => rfl
  | cons first _ others => exact congrArg₂ List.cons first others

/-! ### Nested phrases -/

/-- The readers of nested phrases follow the parsers of the depth where fewer tokens are left than
that. -/
structure Nested (tokens : List Token) (distance depth : Nat) : Prop where
  expression : ∀ {rest low}, rest <:+ tokens → rest.length < depth →
    Follows tokens distance (Ahead distance Expression.relabel)
      ((expression tokens).outcome (cursorOf tokens rest low)) (Grammar.expression depth) rest low
  statement : ∀ {rest low}, rest <:+ tokens → rest.length < depth →
    Follows tokens distance (Ahead distance Statement.relabel)
      ((statement tokens).outcome (cursorOf tokens rest low)) (Grammar.statement depth) rest low
  declaration : ∀ {rest low}, rest <:+ tokens → rest.length < depth → atEnd rest = false →
    Follows tokens distance (Ahead distance Statement.relabel)
      ((declaration tokens).outcome (cursorOf tokens rest low)) (Grammar.declaration depth) rest
      low

/-! ### Repetition -/

section

variable {alike : α → β → Prop} {parser : Parser α} {entry : Reader β}

/-- Entries between commas, of which some have been read. -/
theorem commaSeparated_follows {entries : String} {loop : Nat → Reader (List β)}
    (unfolds : ∀ count, loop count =
      (if maximalEntries ≤ count then Slice.failHere (.tooMany entries)
      else do
        let value ← entry
        if ← accept tokens .comma then
          return value :: (← loop (count + 1))
        else
          return [value]))
    (follows : ∀ {rest low}, rest <:+ tokens → rest.length < depth →
      Follows tokens distance alike (entry.outcome (cursorOf tokens rest low)) parser rest low)
    (room count : Nat) (whole : count + room = maximalEntries) (inside : rest <:+ tokens)
    (short : rest.length < depth) :
    Follows tokens distance (List.Forall₂ alike)
      ((loop count).outcome (cursorOf tokens rest low)) (commaSeparated entries parser room) rest
      low := by
  induction room generalizing count rest low with
  | zero =>
    rw [unfolds, if_pos (by omega)]
    exact .failHere inside
  | succ room inductionHypothesis =>
    rw [unfolds, if_neg (by omega)]
    refine (follows inside short).bind inside ?_
    intro value valueToo behind high _ insideToo fewer same
    refine .accept_bind .comma insideToo ?_ fun _ => .pure (.cons same .nil)
    rintro sign tail rfl
    have shorter : tail.length < depth := by
      rw [List.length_cons] at fewer
      omega
    refine (inductionHypothesis (count + 1) (by omega) (tail_inside insideToo) shorter).bind
      (tail_inside insideToo) ?_
    exact fun _ _ _ _ _ _ _ others => .pure (.cons same others)

/-- As many entries as stand before a closing brace. -/
theorem untilBrace_follows {loop : Reader (List β)}
    (unfolds : loop = do
      if (← check tokens (·.isMark .rightBrace)) || (← endsHere tokens) then
        return []
      else
        let first ← entry
        return first :: (← loop))
    (follows : ∀ {rest low}, rest <:+ tokens → rest.length < depth → atEnd rest = false →
      Follows tokens distance alike (entry.outcome (cursorOf tokens rest low)) parser rest low)
    (shorter : ∀ {state value after}, parser state = .ok value after →
      after.rest.length < state.rest.length)
    (limit : Nat) (enough : rest.length < limit) (inside : rest <:+ tokens)
    (short : rest.length < depth) (low : Reference) :
    Follows tokens distance (List.Forall₂ alike) (loop.outcome (cursorOf tokens rest low))
      (untilBrace parser limit) rest low := by
  induction limit generalizing rest low with
  | zero => exact absurd enough (Nat.not_lt_zero _)
  | succ limit inductionHypothesis =>
    rw [unfolds]
    refine .nextIs_bind .rightBrace inside
      (.step inside rfl (.refl rest) (endsHere_outcome inside) ?_)
    dsimp only
    split
    · exact .pure .nil
    · rename_i goesOn
      have more : atEnd rest = false := by
        rw [Bool.or_eq_true_iff, not_or] at goesOn
        exact Bool.eq_false_iff.mpr goesOn.2
      refine (follows inside short more).bind inside ?_
      intro first firstToo behind high ended insideToo fewer same
      have fewerToo := shorter ended
      refine (inductionHypothesis (Nat.lt_of_lt_of_le fewerToo (Nat.le_of_lt_succ enough))
        insideToo (Nat.lt_of_le_of_lt fewer short) high).bind insideToo ?_
      exact fun _ _ _ _ _ _ _ others => .pure (.cons same others)

end

/-! ### Functions -/

theorem parameters_follows (inside : rest <:+ tokens) :
    Follows tokens distance (List.Forall₂ Eq)
      ((parameters tokens).outcome (cursorOf tokens rest low))
      (entriesInside "parameters" (Grammar.expectName "parameter name")) rest low := by
  refine .nextIs_bind .rightParen inside ?_
  split
  · exact .pure .nil
  · refine commaSeparated_follows (fun count => parameterNames.eq_1 tokens count) ?_ maximalEntries
      0 (Nat.zero_add _) inside (Nat.lt_succ_self _)
    intro rest low inside _
    have follows : Follows tokens distance Eq
        ((expectName tokens "parameter name" >>= pure).outcome (cursorOf tokens rest low))
        (Grammar.expectName "parameter name" >>= pure) rest low :=
      .expectName_bind _ inside fun _ _ _ => .pure rfl
    rwa [bind_pure, bind_pure] at follows

/-- A list in parentheses, and what goes on behind it. -/
theorem parenthesised_bind {γ δ Entry : Type} {alike : List Entry → β → Prop}
    {alikeToo : γ → δ → Prop} {entries role : String} {entry : Parser Entry} {reader : Reader β}
    {next : List Entry × Token → Parser γ} {goOn : β → Token → Reader δ}
    (isRole : "after " ++ entries = role) (inside : rest <:+ tokens)
    (list : Follows tokens distance alike (reader.outcome (cursorOf tokens rest low))
      (entriesInside entries entry) rest low)
    (goesOn : ∀ found foundToo (closing : Sign .rightParen) tail high, tail <:+ tokens →
      tail.length < rest.length → alike found foundToo →
      Follows tokens distance alikeToo
        ((goOn foundToo closing.token).outcome (cursorOf tokens tail high))
        (next (found, closing.token)) tail high) :
    Follows tokens distance alikeToo
      ((reader >>= fun found => expect tokens .rightParen role >>= goOn found).outcome
        (cursorOf tokens rest low)) (parenthesised entries entry >>= next) rest low := by
  have parts : parenthesised entries entry >>= next =
      entriesInside entries entry >>= fun found => Grammar.expect .rightParen role >>=
        fun closing => next (found, closing) := by
    simp only [parenthesised, isRole, bind_assoc, pure_bind]
  rw [parts]
  refine list.bind inside ?_
  intro found foundToo behind high _ insideToo fewer same
  refine .expect_bind .rightParen role insideToo ?_
  rintro closing tail rfl
  exact goesOn found foundToo closing tail high (tail_inside insideToo) fewer same

theorem ahead_function {names namesToo : List Identifier} {body bodyToo : List Statement}
    (name : Option Identifier) (same : List.Forall₂ Eq names namesToo)
    (sameBody : Ahead distance Statement.relabelAll body bodyToo) :
    Ahead distance FunctionDeclaration.relabel (.mk name names body)
      (.mk name namesToo bodyToo) := by
  have sameName : name.map (·.reline (moved id distance).line) = name := by cases name <;> rfl
  have sameNames : namesToo.map (·.reline (moved id distance).line) = namesToo :=
    List.map_id namesToo
  rw [List.forall₂_eq_eq_eq] at same
  rw [Ahead, FunctionDeclaration.relabel, sameName, sameNames, same, sameBody]

namespace Nested

variable (nested : Nested tokens distance depth)

include nested

theorem block (inside : rest <:+ tokens) (short : rest.length < depth) :
    Follows tokens distance (Ahead distance Statement.relabelAll)
      ((block tokens).outcome (cursorOf tokens rest low)) (Grammar.nested depth).block rest
      low := by
  rw [Slice.block]
  refine (untilBrace_follows (declarations.eq_1 tokens) nested.declaration ?_ (depth + 1)
    (Nat.lt_succ_of_lt short) inside short low).bind inside ?_
  · intro state statement after ended
    exact ((nested_read depth).2.2 state (Vocabulary.any_admitsAll _)).ok ended |>.2.1
  · intro statements statementsToo behind high _ insideToo _ same
    refine .expect_bind .rightBrace _ insideToo ?_
    rintro sign tail rfl
    exact .pure (ahead_statements same)

theorem functionTail (kind role : String) (name : Option Identifier) (inside : rest <:+ tokens)
    (short : rest.length ≤ depth) :
    Follows tokens distance (Ahead distance FunctionDeclaration.relabel)
      ((functionTail tokens kind role name).outcome (cursorOf tokens rest low))
      ((Grammar.nested depth).functionTail kind role name) rest low := by
  rw [Slice.functionTail]
  refine .expect_bind .leftParen role inside ?_
  rintro opening tail rfl
  have insideTail := tail_inside inside
  refine parenthesised_bind rfl insideTail (parameters_follows insideTail) ?_
  intro names namesToo closing behind high insideToo fewer same
  refine .expect_bind .leftBrace _ insideToo ?_
  rintro brace body rfl
  have shorter : body.length < depth := by
    rw [List.length_cons] at short fewer
    omega
  refine (nested.block (tail_inside insideToo) shorter).bind (tail_inside insideToo) ?_
  exact fun _ _ _ _ _ _ _ sameBody => .pure (ahead_function name same sameBody)

theorem primary (inside : rest <:+ tokens) (short : rest.length ≤ depth) :
    Follows tokens distance (Ahead distance Expression.relabel)
      ((primary tokens).outcome (cursorOf tokens rest low)) (Grammar.nested depth).primary rest
      low := by
  rw [Slice.primary]
  refine .peek_bind inside ?_
  cases rest with
  | nil => exact .throwHere inside
  | cons token tail =>
    have insideTail := tail_inside inside
    have shorter : tail.length < depth := short
    obtain ⟨kind, lexeme, line⟩ := token
    cases kind with
    | number value => exact .advance_bind inside rfl (.pure rfl)
    | string contents => exact .advance_bind inside rfl (.pure rfl)
    | identifier =>
      exact .advance_bind inside rfl
        (.lastWord_bind inside (.freshReference_bind insideTail (.pure rfl)))
    | endOfInput => exact .throwHere inside
    | mark mark =>
      cases mark with
      | falseWord | trueWord | nilWord => exact .advance_bind inside rfl (.pure rfl)
      | thisWord =>
        exact .advance_bind inside rfl
          (.lastWord_bind inside (.freshReference_bind insideTail (.pure rfl)))
      | superWord =>
        refine .advance_bind inside rfl (.lastWord_bind inside (.expect_bind .dot _ insideTail ?_))
        rintro dot afterDot rfl
        refine .expectName_bind _ (tail_inside insideTail) ?_
        rintro name afterName rfl
        exact .freshReference_bind (tail_inside (tail_inside insideTail)) (.pure rfl)
      | funWord =>
        refine .advance_bind inside rfl ((nested.functionTail _ _ none insideTail
          (Nat.le_of_lt shorter)).bind insideTail ?_)
        exact fun _ _ _ _ _ _ _ same => .pure (congrArg Expression.function same)
      | leftParen =>
        refine .advance_bind inside rfl ((nested.expression insideTail shorter).bind insideTail ?_)
        intro inner innerToo behind high _ insideToo _ same
        refine .expect_bind .rightParen _ insideToo ?_
        rintro closing afterClosing rfl
        exact .pure (congrArg Expression.grouping same)
      | _ => exact .throwHere inside

/-! ### Calls -/

theorem arguments (inside : rest <:+ tokens) (short : rest.length < depth) :
    Follows tokens distance (Ahead distance Expression.relabelAll)
      ((arguments tokens).outcome (cursorOf tokens rest low))
      (entriesInside "arguments" (Grammar.expression depth)) rest low := by
  rw [Slice.arguments]
  refine .nextIs_bind .rightParen inside ?_
  split
  · exact .pure rfl
  · refine (commaSeparated_follows (fun count => argumentValues.eq_1 tokens count)
      nested.expression maximalEntries 0 (Nat.zero_add _) inside short).mono ?_
    exact fun _ _ => ahead_expressions

theorem calls (limit : Nat) {callee calleeToo : Expression} (inside : rest <:+ tokens)
    (short : rest.length ≤ depth) (enough : rest.length < limit)
    (same : Ahead distance Expression.relabel callee calleeToo) :
    Follows tokens distance (Ahead distance Expression.relabel)
      ((calls tokens calleeToo).outcome (cursorOf tokens rest low))
      ((Grammar.nested depth).calls limit callee) rest low := by
  induction limit generalizing rest low callee calleeToo with
  | zero => exact absurd enough (Nat.not_lt_zero _)
  | succ limit inductionHypothesis =>
    rw [Slice.calls]
    refine .accept_bind .leftParen inside ?_ fun _ => .accept_bind .dot inside ?_ fun _ =>
      .pure same
    · rintro opening tail rfl
      have insideTail := tail_inside inside
      refine parenthesised_bind rfl insideTail (nested.arguments insideTail short) ?_
      intro found foundToo closing behind high insideToo fewer sameArguments
      refine inductionHypothesis insideToo ?_ ?_ ?_
      · rw [List.length_cons] at short
        omega
      · rw [List.length_cons] at enough
        omega
      · exact congrArg₂ (Expression.call · closing.line ·) same sameArguments
    · rintro dot tail rfl
      refine .expectName_bind _ (tail_inside inside) ?_
      rintro name behind rfl
      refine inductionHypothesis (tail_inside (tail_inside inside)) ?_ ?_ ?_
      · simp only [List.length_cons] at short
        omega
      · simp only [List.length_cons] at enough
        omega
      · exact congrArg (Expression.get · name.toIdentifier) same

/-! ### Operators -/

/-- A primary expression with everything called on it. -/
theorem call (inside : rest <:+ tokens) (short : rest.length ≤ depth) :
    Follows tokens distance (Ahead distance Expression.relabel)
      ((Slice.primary tokens >>= Slice.calls tokens).outcome (cursorOf tokens rest low))
      (Grammar.nested depth).call rest low := by
  refine (nested.primary inside short).bind inside ?_
  intro callee calleeToo behind high _ insideToo fewer same
  exact nested.calls (depth + 1) insideToo (Nat.le_trans fewer short)
    (Nat.lt_succ_of_le (Nat.le_trans fewer short)) same

theorem unaryWithin (limit : Nat) (inside : rest <:+ tokens) (short : rest.length ≤ depth)
    (enough : rest.length < limit) (low : Reference) :
    Follows tokens distance (Ahead distance Expression.relabel)
      ((operands tokens none).outcome (cursorOf tokens rest low))
      ((Grammar.nested depth).unaryWithin limit) rest low := by
  induction limit generalizing rest low with
  | zero => exact absurd enough (Nat.not_lt_zero _)
  | succ limit inductionHypothesis =>
    rw [operands]
    dsimp only
    cases isOperator : Phrases.unaryOperator? (firstToken rest) with
    | some operator =>
      have more := Phrases.Read.not_end_of_unaryOperator isOperator
      obtain ⟨token, tail, rfl⟩ : ∃ token tail, rest = token :: tail :=
        ⟨_, _, eq_cons_of_not_end more⟩
      have insideTail := tail_inside inside
      have parsed : (Grammar.nested depth).unaryWithin (limit + 1) ⟨token :: tail, distance + low⟩ =
          (do return .unary operator token.line (← (Grammar.nested depth).unaryWithin limit) :
            Parser Expression) ⟨tail, distance + low⟩ := by
        refine (bind_ok (peek_eq _)).trans ?_
        dsimp only [firstToken] at isOperator ⊢
        rw [isOperator]
        rfl
      refine .readerTakes more (acceptOperator_some inside more isOperator) parsed ?_
      refine .readerStep (previous_outcome inside) ?_
      rw [tokenAt_previous inside]
      refine (inductionHypothesis insideTail (Nat.le_of_succ_le short)
        (Nat.lt_of_succ_lt_succ enough) low).bind insideTail ?_
      exact fun _ _ _ _ _ _ _ same => .pure (congrArg (Expression.unary operator token.line) same)
    | none =>
      refine .readerStep (acceptOperator_none inside isOperator) ?_
      exact .congr (Derivation.unaryWithin_call _ isOperator) (nested.call inside short)

omit nested in
/-- What is joined at the operators of a level, if its operands are followed. -/
theorem joined {tier : Tier}
    (follows : ∀ {rest low}, rest <:+ tokens → rest.length ≤ depth →
      Follows tokens distance (Ahead distance Expression.relabel)
        ((operands tokens tier.tighter).outcome (cursorOf tokens rest low))
        ((Grammar.nested depth).operands tier.tighter) rest low)
    (limit : Nat) {left leftToo : Expression} (inside : rest <:+ tokens)
    (short : rest.length ≤ depth) (enough : rest.length < limit)
    (same : Ahead distance Expression.relabel left leftToo) :
    Follows tokens distance (Ahead distance Expression.relabel)
      ((joined tokens tier leftToo).outcome (cursorOf tokens rest low))
      (leftAssociative.continueFrom ((Grammar.nested depth).operands tier.tighter) tier.join? limit
        left) rest low := by
  induction limit generalizing rest low left leftToo with
  | zero => exact absurd enough (Nat.not_lt_zero _)
  | succ limit inductionHypothesis =>
    rw [Slice.joined]
    cases joins : tier.join? (firstToken rest) with
    | none =>
      refine .readerStep (acceptOperator_none inside joins) ?_
      exact .congr (Derivation.continueFrom_stop _ joins) (.pure same)
    | some join =>
      obtain ⟨operator, sign, isSign, rfl⟩ := Tier.join?_some joins
      obtain ⟨tail, rfl⟩ := sign.eq_cons isSign
      have insideTail := tail_inside inside
      have parsed : leftAssociative.continueFrom ((Grammar.nested depth).operands tier.tighter)
          tier.join? (limit + 1) left ⟨sign.token :: tail, distance + low⟩ =
          ((Grammar.nested depth).operands tier.tighter >>= fun right =>
            leftAssociative.continueFrom ((Grammar.nested depth).operands tier.tighter) tier.join?
              limit (operator.join sign.line left right)) ⟨tail, distance + low⟩ := by
        refine (bind_ok (peek_eq _)).trans ?_
        dsimp only [firstToken] at joins ⊢
        rw [joins]
        rfl
      refine .readerTakes rfl (acceptOperator_some inside rfl joins) parsed ?_
      refine (follows insideTail (Nat.le_of_succ_le short)).bind insideTail ?_
      intro right rightToo behind high _ insideToo fewer sameRight
      refine inductionHypothesis insideToo (Nat.le_trans fewer (Nat.le_of_succ_le short))
        (Nat.lt_of_le_of_lt fewer (Nat.lt_of_succ_lt_succ enough)) ?_
      rw [same, sameRight]
      exact operator.join_relabel (moved id distance) sign.line leftToo rightToo

omit nested in
theorem operands_some (tier : Tier)
    (follows : ∀ {rest low}, rest <:+ tokens → rest.length ≤ depth →
      Follows tokens distance (Ahead distance Expression.relabel)
        ((operands tokens tier.tighter).outcome (cursorOf tokens rest low))
        ((Grammar.nested depth).operands tier.tighter) rest low)
    (inside : rest <:+ tokens) (short : rest.length ≤ depth) :
    Follows tokens distance (Ahead distance Expression.relabel)
      ((operands tokens (some tier)).outcome (cursorOf tokens rest low))
      ((Grammar.nested depth).operands (some tier)) rest low := by
  rw [operands, Phrases.operands_some]
  refine (follows inside short).bind inside ?_
  intro first firstToo behind high _ insideToo fewer same
  exact joined follows (depth + 1) insideToo (Nat.le_trans fewer short)
    (Nat.lt_succ_of_le (Nat.le_trans fewer short)) same

/-- The loosest operators are followed, as all tighter ones are. -/
theorem disjunction (inside : rest <:+ tokens) (short : rest.length ≤ depth) :
    Follows tokens distance (Ahead distance Expression.relabel)
      ((operands tokens (some .disjunction)).outcome (cursorOf tokens rest low))
      (Grammar.nested depth).disjunction rest low := by
  have unary {rest : List Token} {low : Reference} (inside : rest <:+ tokens)
      (short : rest.length ≤ depth) :=
    nested.unaryWithin (depth + 1) inside short (Nat.lt_succ_of_le short) low
  refine operands_some .disjunction ?_ inside short
  refine operands_some .conjunction ?_
  refine operands_some .equality ?_
  refine operands_some .comparison ?_
  refine operands_some .term ?_
  exact operands_some .factor unary

/-! ### Assignment -/

omit nested in
/-- A target that is none is reported at the equals sign, which has long been passed. -/
theorem assignTo_follows {first : Nat} {target targetToo value valueToo : Expression}
    {equals : Nat} {sign : Token} (inside : rest <:+ tokens) (notBefore : first ≤ equals)
    (notBehind : equals ≤ (cursorOf tokens rest low).place) (isToken : tokenAt tokens equals = sign)
    (same : Ahead distance Expression.relabel target targetToo)
    (sameValue : Ahead distance Expression.relabel value valueToo) :
    FollowsFrom tokens distance first (Ahead distance Expression.relabel)
      ((assignTo equals valueToo targetToo).outcome (cursorOf tokens rest low))
      (Phrases.assignTo sign value target) rest low := by
  obtain rfl := same
  obtain rfl := sameValue
  have after := Nat.le_trans notBefore notBehind
  cases targetToo with
  | read reference name =>
    have follows : Follows tokens distance (Ahead distance Expression.relabel)
        ((assignTo equals valueToo (.read reference name)).outcome (cursorOf tokens rest low))
        (Phrases.assignTo sign (valueToo.relabel (moved id distance))
          ((Expression.read reference name).relabel (moved id distance))) rest low :=
      .freshReference_bind inside (.pure rfl)
    exact follows.earlier after
  | get object name =>
    have follows : Follows tokens distance (Ahead distance Expression.relabel)
        ((assignTo equals valueToo (.get object name)).outcome (cursorOf tokens rest low))
        (Phrases.assignTo sign (valueToo.relabel (moved id distance))
          ((Expression.get object name).relabel (moved id distance))) rest low :=
      .pure rfl
    exact follows.earlier after
  | _ => exact .throw notBefore notBehind isToken

theorem wholeExpression (inside : rest <:+ tokens) (short : rest.length ≤ depth) :
    Follows tokens distance (Ahead distance Expression.relabel)
      ((Slice.expression tokens).outcome (cursorOf tokens rest low))
      (Grammar.nested depth).wholeExpression rest low := by
  rw [Slice.expression]
  refine (nested.disjunction inside short).bind inside ?_
  intro target targetToo behind middle _ insideToo fewer same
  cases assigns : (firstToken behind).isMark .equal with
  | false =>
    refine .readerStep (accept_other insideToo assigns) (.congr ?_ (.pure same))
    refine (bind_ok (peek_eq _)).trans ?_
    dsimp only
    rw [assigns]
    rfl
  | true =>
    obtain ⟨sign, tail, rfl⟩ := eq_sign_cons assigns
    have insideTail := tail_inside insideToo
    have shorter : tail.length < depth := Nat.lt_of_lt_of_le (Nat.lt_succ_self _)
      (Nat.le_trans fewer short)
    have isEquals : tokenAt tokens ((cursorOf tokens tail middle).place - 1) = sign.token :=
      tokenAt_previous insideToo
    have before : (cursorOf tokens (sign.token :: tail) middle).place ≤
        (cursorOf tokens tail middle).place - 1 := by
      show tokens.length - (tail.length + 1) ≤ tokens.length - tail.length - 1
      omega
    have value : Follows tokens distance (Ahead distance Expression.relabel)
        ((Slice.expression tokens).outcome (cursorOf tokens tail middle))
        (Grammar.expression depth) tail middle := nested.expression insideTail shorter
    have parsed : (do
        let equals ← Grammar.peek
        if equals.isMark .equal then
          Grammar.advance
          Phrases.assignTo equals (← (Grammar.nested depth).expression) target
        else
          return target : Parser Expression) ⟨sign.token :: tail, distance + middle⟩ =
        (do Phrases.assignTo sign.token (← Grammar.expression depth) target : Parser Expression)
          ⟨tail, distance + middle⟩ := rfl
    refine .readerTakesFrom rfl (accept_sign sign insideToo) parsed ?_
    refine .readerStep (previous_outcome insideToo) ?_
    have notBefore := Nat.sub_le_sub_left (Nat.le_succ tail.length) tokens.length
    refine (value.earlier notBefore).bindFrom insideTail ?_
    intro found foundToo last high _ insideLast fewest sameValue
    refine assignTo_follows insideLast before ?_ isEquals same sameValue
    show tokens.length - tail.length - 1 ≤ tokens.length - last.length
    omega

end Nested

end Lox.Grammar.Slice
