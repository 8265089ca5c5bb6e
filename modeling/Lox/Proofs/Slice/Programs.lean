/-
Reading by place always comes to an end. Each attempt at a declaration takes a token at least, no
token is looked for where there is none, and the attempts follow on one another up to the first end
of the tokens; so their errors are reported from the first place to the last.
-/

import Lox.Proofs.Slice.Statements
import Lox.Proofs.Source.Seam

namespace Lox.Grammar

/-! ### Attempts -/

/-- The same attempt, with references that are ahead. -/
def Attempt.ahead (distance : Nat) (attempt : Attempt) : Attempt :=
  attempt.map (Statement.relabel (moved id distance))

theorem Attempt.ahead_zero (attempt : Attempt) : attempt.ahead 0 = attempt := by
  cases attempt with
  | ok statement =>
    show Except.ok (statement.relabel (moved id 0)) = _
    rw [Derivation.moved_zero]
    exact congrArg Except.ok statement.relabel_same
  | error error => rfl

/-- How a parser ends that makes the attempt. -/
def Attempt.result (attempt : Attempt) (after : State) :
    EStateM.Result SyntaxError State Statement :=
  match attempt with
  | .ok statement => .ok statement after
  | .error error => .error error after

theorem attempts_cons {depth limit : Nat} {state after : State} {attempt : Attempt}
    (more : atEnd state.rest = false) (ended : declaration depth state = attempt.result after) :
    attempts depth (limit + 1) state =
      (attempt :: (attempts depth limit after).1, (attempts depth limit after).2) := by
  rw [attempts, more, ended]
  cases attempt <;> rfl

theorem attempts_atEnd {depth limit : Nat} {state : State} (ended : atEnd state.rest = true) :
    attempts depth limit state = ([], state.nextReference) := by
  cases limit with
  | zero => rfl
  | succ limit => rw [attempts, if_pos ended]

namespace Slice

variable {α : Type} {tokens rest : List Token} {low : Reference} {distance depth : Nat}

/-! ### One attempt -/

/-- A problem at the token of a place. -/
def errorAt (tokens : List Token) (problem : Nat × SyntaxProblem) : SyntaxError :=
  ⟨tokenAt tokens problem.1, problem.2⟩

/-- The attempt that an item is, with the error at a token instead of a place. -/
def Item.attempt (tokens : List Token) (item : Item) : Attempt :=
  item.outcome.mapError (errorAt tokens)

/-- The place of the error, if the item is one. -/
def Item.errorPlace? (item : Item) : Option Nat :=
  match item.outcome with
  | .ok _ => none
  | .error (place, _) => some place

/-- The item takes one token or more, none of which is an end. Its error is at one of them, or at
the end that it stopped before. -/
structure Item.Proceeds (tokens : List Token) (item : Item) : Prop where
  moves : item.start < item.stop
  inside : item.stop ≤ tokens.length
  takes : ∀ place, item.start ≤ place → place < item.stop → (tokenAt tokens place).isEnd = false
  reports : ∀ place ∈ item.errorPlace?, item.start ≤ place ∧
    (place < item.stop ∨ place = item.stop ∧ (tokenAt tokens place).isEnd = true)

theorem Remains.tokenAt {restToo : List Token} (low high : Reference) (inside : rest <:+ tokens)
    (remains : Remains restToo rest) (place : Nat)
    (notBefore : (cursorOf tokens rest low).place ≤ place)
    (before : place < (cursorOf tokens restToo high).place) :
    (tokenAt tokens place).isEnd = false := by
  obtain ⟨passed, rfl⟩ := inside
  obtain ⟨taken, rfl, noEnd⟩ := remains
  simp only [cursorOf, List.length_append] at notBefore before
  have isTaken : place - passed.length < taken.length := by omega
  have isToken :
      Slice.tokenAt (passed ++ (taken ++ restToo)) place = taken[place - passed.length] := by
    unfold Slice.tokenAt
    rw [List.getD_eq_getElem?_getD, List.getElem?_append_right (by omega),
      List.getElem?_append_left isTaken, List.getElem?_eq_getElem isTaken, Option.getD_some]
  rw [isToken]
  exact noEnd _ (List.getElem_mem isTaken)

theorem lift_outcome {reader : Reader α} {cursor after : Cursor} {ended : Except Stop α}
    (outcome : reader.outcome cursor = some (ended, after)) :
    Reader.outcome (ExceptT.lift (ExceptT.run reader)) cursor = some (.ok ended, after) := by
  have first : reader cursor = some (ended, after) := outcome
  show (reader cursor).bind _ = _
  rw [first]
  rfl

theorem next_atEnd (inside : rest <:+ tokens) (ended : atEnd rest = true) (low : Reference) :
    (next tokens).outcome (cursorOf tokens rest low) =
      some (.ok none, cursorOf tokens rest low) := by
  refine (outcome_ok (endsHere_outcome inside)).trans ?_
  rw [ended]
  rfl

/-- Before the end there is one more item, which is what the parser of a declaration makes of the
same tokens. -/
theorem next_item (distance : Nat) (inside : rest <:+ tokens) (short : rest.length < depth)
    (more : atEnd rest = false) (low : Reference) :
    ∃ item restToo high, (next tokens).outcome (cursorOf tokens rest low) =
        some (.ok (some item), cursorOf tokens restToo high) ∧
      item.start = (cursorOf tokens rest low).place ∧
      item.stop = (cursorOf tokens restToo high).place ∧ item.Proceeds tokens ∧
      Remains restToo rest ∧ restToo.length < rest.length ∧
      Grammar.declaration depth ⟨rest, distance + low⟩ =
        ((item.attempt tokens).ahead distance).result ⟨restToo, distance + high⟩ := by
  have attempts : Attempts tokens distance (Grammar.declaration depth) rest low :=
    declaration_attempts inside short more
  have moves {restToo : List Token} (high : Reference) (fewer : restToo.length < rest.length) :
      (cursorOf tokens rest low).place < (cursorOf tokens restToo high).place := by
    have whole := inside.length_le
    show tokens.length - rest.length < tokens.length - restToo.length
    omega
  cases ended : Grammar.declaration depth ⟨rest, distance + low⟩ with
  | ok statement after =>
    obtain ⟨found, restToo, high, rfl, remains, fewer, same, outcome⟩ := Ensures.ok attempts ended
    refine ⟨⟨_, (cursorOf tokens restToo high).place, .ok found⟩, restToo, high, ?_, rfl, rfl,
      ⟨moves high fewer, Nat.sub_le _ _, remains.tokenAt low high inside, nofun⟩, remains, fewer,
      ?_⟩
    · refine (outcome_ok (endsHere_outcome inside)).trans ?_
      rw [more]
      exact outcome_ok (lift_outcome outcome)
    · rw [same]
      rfl
  | error error after =>
    obtain ⟨place, restToo, high, rfl, remains, fewer, notBefore, before, isToken, outcome⟩ :=
      Ensures.error attempts ended
    refine ⟨⟨_, (cursorOf tokens restToo high).place, .error (place, error.problem)⟩, restToo, high,
      ?_, rfl, rfl, ⟨moves high fewer, Nat.sub_le _ _, remains.tokenAt low high inside, ?_⟩,
      remains, fewer, ?_⟩
    · refine (outcome_ok (endsHere_outcome inside)).trans ?_
      rw [more]
      exact outcome_ok (lift_outcome outcome)
    · rintro _ ⟨⟩
      refine ⟨notBefore, before.imp_right ?_⟩
      rintro ⟨here, isEnd⟩
      rw [here, tokenAt_cursorOf (remains.suffix.trans inside) _]
      exact ⟨rfl, isEnd⟩
    · show EStateM.Result.error error _ =
        EStateM.Result.error (SyntaxError.mk (tokenAt tokens place) error.problem) _
      rw [isToken]

/-! ### All attempts -/

/-- The items follow on one another from one place to another, and each takes tokens. -/
inductive Chain (tokens : List Token) : (start stop : Nat) → List Item → Prop where
  | nil (place : Nat) : Chain tokens place place []
  | cons {item : Item} {stop : Nat} {items : List Item} :
    item.Proceeds tokens → Chain tokens item.stop stop items →
      Chain tokens item.start stop (item :: items)

/-- The places of the errors among the items. -/
def errorPlaces (items : List Item) : List Nat :=
  items.filterMap Item.errorPlace?

namespace Chain

variable {start stop : Nat} {items : List Item}

/-- There are at most as many items as tokens between the places. -/
theorem length_le (chain : Chain tokens start stop items) : items.length + start ≤ stop := by
  induction chain with
  | nil place => exact Nat.le_of_eq (Nat.zero_add place)
  | @cons item stop items proceeds _ inductionHypothesis =>
    have moves := proceeds.moves
    rw [List.length_cons]
    omega

/-- An item behind the first begins at a token that is no end. -/
theorem start_or_more (chain : Chain tokens start stop items) :
    items = [] ∨ (tokenAt tokens start).isEnd = false := by
  cases chain with
  | nil => exact .inl rfl
  | cons proceeds _ => exact .inr (proceeds.takes _ (Nat.le_refl _) proceeds.moves)

theorem errorPlaces_ge (chain : Chain tokens start stop items) :
    ∀ place ∈ errorPlaces items, start ≤ place ∧ place ≤ stop := by
  induction chain with
  | nil => exact nofun
  | @cons item stop items proceeds chain inductionHypothesis =>
    have moves := proceeds.moves
    have reaches := chain.length_le
    intro place member
    obtain ⟨one, isOne, isPlace⟩ := List.mem_filterMap.mp member
    rcases List.mem_cons.mp isOne with rfl | inRest
    · have reported := proceeds.reports place isPlace
      omega
    · have later := inductionHypothesis place (List.mem_filterMap.mpr ⟨one, inRest, isPlace⟩)
      omega

/-- Errors are reported in order: one at the end that an item stopped before is the last. -/
theorem errorPlaces_increase (chain : Chain tokens start stop items) :
    (errorPlaces items).Pairwise (· < ·) := by
  induction chain with
  | nil => exact .nil
  | @cons item stop items proceeds chain inductionHypothesis =>
    unfold errorPlaces at inductionHypothesis ⊢
    rw [List.filterMap_cons]
    split
    · exact inductionHypothesis
    · rename_i place isPlace
      refine List.pairwise_cons.mpr ⟨fun later member => ?_, inductionHypothesis⟩
      have notBefore := (chain.errorPlaces_ge later member).1
      rcases (proceeds.reports place isPlace).2 with before | ⟨rfl, isEnd⟩
      · exact Nat.lt_of_lt_of_le before notBefore
      · rcases chain.start_or_more with rfl | more
        · exact absurd member List.not_mem_nil
        · exact absurd isEnd (Bool.eq_false_iff.mp more)

end Chain

/-- Reading all items ends, and they are the attempts of the parser. -/
theorem items_attempts (distance limit : Nat) (inside : rest <:+ tokens)
    (short : rest.length < depth) (enough : rest.length ≤ limit) (low : Reference) :
    ∃ found restToo high, (items tokens).outcome (cursorOf tokens rest low) =
        some (.ok found, cursorOf tokens restToo high) ∧
      attempts depth limit ⟨rest, distance + low⟩ =
        (found.map fun item => (item.attempt tokens).ahead distance, distance + high) ∧
      Chain tokens (cursorOf tokens rest low).place (cursorOf tokens restToo high).place found ∧
      Remains restToo rest ∧ atEnd restToo = true := by
  induction limit generalizing rest low with
  | zero =>
    obtain rfl := List.eq_nil_of_length_eq_zero (Nat.le_zero.mp enough)
    refine ⟨[], [], low, ?_, rfl, .nil _, .refl [], rfl⟩
    rw [items]
    exact outcome_ok (next_atEnd inside rfl low)
  | succ limit inductionHypothesis =>
    cases isEnd : atEnd rest with
    | true =>
      refine ⟨[], rest, low, ?_, attempts_atEnd isEnd, .nil _, .refl rest, isEnd⟩
      rw [items]
      exact outcome_ok (next_atEnd inside isEnd low)
    | false =>
      obtain ⟨item, behind, middle, outcome, isStart, isStop, proceeds, remains, fewer, ended⟩ :=
        next_item distance inside short isEnd low
      obtain ⟨found, restToo, high, others, attempted, chain, remainsToo, isLast⟩ :=
        inductionHypothesis (remains.suffix.trans inside) (Nat.lt_trans fewer short) (by omega)
          middle
      refine ⟨item :: found, restToo, high, ?_, ?_, ?_, remainsToo.trans remains, isLast⟩
      · rw [items]
        exact (outcome_ok outcome).trans (outcome_ok others)
      · rw [attempts_cons isEnd ended, attempted]
        rfl
      · rw [← isStart]
        rw [← isStop] at chain
        exact .cons proceeds chain

/-! ### Lone expressions -/

theorem loneExpression_follows (distance : Nat) (inside : rest <:+ tokens)
    (short : rest.length < depth) (low : Reference) :
    Follows tokens distance (Ahead distance Expression.relabel)
      ((loneExpression tokens).outcome (cursorOf tokens rest low)) (Grammar.loneExpression depth)
      rest low := by
  refine ((nested_follows tokens distance depth).expression inside short).bind inside ?_
  intro found foundToo behind high _ insideToo _ same
  refine .parserStep rfl (.readerStep (endsHere_outcome insideToo) ?_)
  split
  · exact .pure same
  · exact .failHere insideToo

/-! ### Errors -/

/-- The errors of the attempts are at the tokens of the places of errors. -/
theorem errorsOf_attempts (tokens : List Token) (items : List Item) :
    (errorsOf (items.map (Item.attempt tokens))).map SyntaxError.token =
      (errorPlaces items).map (tokenAt tokens) := by
  induction items with
  | nil => rfl
  | cons item items inductionHypothesis =>
    obtain ⟨start, stop, outcome⟩ := item
    cases outcome with
    | ok statement => exact inductionHypothesis
    | error problem => exact congrArg (tokenAt tokens problem.1 :: ·) inductionHypothesis

/-- Where lines never decrease, those of errors do not. -/
theorem Chain.lines_ordered {stop : Nat} {items : List Item} (chain : Chain tokens 0 stop items)
    (ordered : tokens.Pairwise fun early late => early.line ≤ late.line)
    (inside : stop < tokens.length) :
    ((errorPlaces items).map fun place => (tokenAt tokens place).line).Pairwise (· ≤ ·) := by
  refine List.pairwise_map.mpr (chain.errorPlaces_increase.imp_of_mem ?_)
  intro early late _ isLate before
  have lateInside := Nat.lt_of_le_of_lt (chain.errorPlaces_ge late isLate).2 inside
  have isToken {place : Nat} (isPlace : place < tokens.length) :
      tokenAt tokens place = tokens[place] := by
    unfold tokenAt
    rw [List.getD_eq_getElem?_getD, List.getElem?_eq_getElem isPlace, Option.getD_some]
  rw [isToken lateInside, isToken (Nat.lt_trans before lateInside)]
  exact List.pairwise_iff_getElem.mp ordered early late _ _ before

/-- What remains of tokens that have an end has one. -/
theorem Remains.ne_nil (remains : Remains rest tokens) {last : Token} (member : last ∈ tokens)
    (isEnd : last.isEnd = true) : rest ≠ [] := by
  rintro rfl
  obtain ⟨taken, rfl, noEnd⟩ := remains
  rw [List.append_nil] at member
  exact absurd isEnd (Bool.eq_false_iff.mp (noEnd last member))

/-! ### Progress -/

theorem cursorOf_drop {place : Nat} (inside : place ≤ tokens.length) (low : Reference) :
    cursorOf tokens (tokens.drop place) low = ⟨place, low⟩ := by
  unfold cursorOf
  rw [List.length_drop, Nat.sub_sub_self inside]

theorem next_progresses {place : Nat} (inside : place ≤ tokens.length) (low : Reference) :
    (tokenAt tokens place).isEnd = true ∧
        (next tokens).outcome ⟨place, low⟩ = some (.ok none, ⟨place, low⟩) ∨
      ∃ item high, (next tokens).outcome ⟨place, low⟩ =
          some (.ok (some item), ⟨item.stop, high⟩) ∧
        item.start = place ∧ item.Proceeds tokens := by
  have suffix := List.drop_suffix place tokens
  have isToken := tokenAt_cursorOf suffix low
  rw [cursorOf_drop inside low] at isToken
  cases isEnd : atEnd (tokens.drop place) with
  | true =>
    have ended := next_atEnd suffix isEnd low
    rw [cursorOf_drop inside low] at ended
    exact .inl ⟨(congrArg Token.isEnd isToken).trans isEnd, ended⟩
  | false =>
    obtain ⟨item, behind, high, ended, isStart, isStop, proceeds, _⟩ :=
      next_item 0 suffix (Nat.lt_succ_self _) isEnd low
    rw [cursorOf_drop inside low] at ended isStart
    refine .inr ⟨item, high, ?_, isStart, proceeds⟩
    rw [isStop]
    exact ended

theorem ahead_zero (expression : Expression) :
    expression.relabel (moved id 0) = expression := by
  rw [Derivation.moved_zero]
  exact expression.relabel_same

/-- How a reader ends with an error at a place. -/
def stopAt (problem : Nat × SyntaxProblem) : Stop :=
  .error problem.1 problem.2

theorem loneExpression_ends (tokens : List Token) (low : Reference) :
    ∃ (outcome : Except (Nat × SyntaxProblem) Expression) (after : Cursor),
      (loneExpression tokens).outcome ⟨0, low⟩ = some (outcome.mapError stopAt, after) ∧
        parseExpression tokens low = (outcome.mapError (errorAt tokens), after.nextReference) ∧
        after.place ≤ tokens.length ∧
        ∀ place problem, outcome = .error (place, problem) → place ≤ after.place := by
  have follows := loneExpression_follows 0 (List.suffix_refl tokens)
    (Nat.lt_succ_self tokens.length) low
  have start : cursorOf tokens tokens low = ⟨0, low⟩ := cursorOf_drop (Nat.zero_le _) low
  rw [start] at follows
  unfold Follows FollowsFrom at follows
  rw [Nat.zero_add] at follows
  unfold parseExpression depthOf
  cases ended : Grammar.loneExpression (tokens.length + 1) ⟨tokens, low⟩ with
  | ok found after =>
    obtain ⟨foundToo, behind, high, rfl, _, same, outcome⟩ := Ensures.ok follows ended
    obtain rfl := same.trans (ahead_zero foundToo)
    refine ⟨.ok found, _, outcome, ?_, Nat.sub_le _ _, nofun⟩
    rw [Nat.zero_add]
    rfl
  | error error after =>
    obtain ⟨place, behind, high, rfl, _, _, notBehind, isToken, outcome⟩ :=
      Ensures.error follows ended
    refine ⟨.error (place, error.problem), _, outcome, ?_, Nat.sub_le _ _, ?_⟩
    · have isError : errorAt tokens (place, error.problem) = error :=
        congrArg (SyntaxError.mk · error.problem) isToken
      rw [Nat.zero_add]
      exact congrArg (Prod.mk · high) (congrArg Except.error isError.symm)
    · rintro _ _ ⟨⟩
      exact notBehind

/-- Whatever the tokens are and wherever a declaration is asked for, one is attempted unless the
tokens end there, and the attempt takes a token at least. So reading a program ends behind at most
as many attempts as there are tokens; the attempts follow on one another from the first place on,
and the places of their errors increase, as do their lines if the tokens are those of a source.
Reading a lone expression ends as well. Nothing is ever looked for where there is no token. -/
theorem reading_progresses (tokens : List Token) (low : Reference) :
    (∀ place ≤ tokens.length, ∀ low,
      (tokenAt tokens place).isEnd = true ∧
          (next tokens).outcome ⟨place, low⟩ = some (.ok none, ⟨place, low⟩) ∨
        ∃ item high, (next tokens).outcome ⟨place, low⟩ =
            some (.ok (some item), ⟨item.stop, high⟩) ∧
          item.start = place ∧ item.Proceeds tokens) ∧
    (∃ found stop high,
      (items tokens).outcome ⟨0, low⟩ = some (.ok found, ⟨stop, high⟩) ∧
        parseItems tokens low = (found.map (Item.attempt tokens), high) ∧
        Chain tokens 0 stop found ∧ stop ≤ tokens.length ∧ found.length ≤ tokens.length ∧
        (errorsOf (parseItems tokens low).1).map SyntaxError.token =
          (errorPlaces found).map (tokenAt tokens) ∧
        (errorPlaces found).Pairwise (· < ·)) ∧
    (∃ (outcome : Except (Nat × SyntaxProblem) Expression) (after : Cursor),
      (loneExpression tokens).outcome ⟨0, low⟩ = some (outcome.mapError stopAt, after) ∧
        parseExpression tokens low = (outcome.mapError (errorAt tokens), after.nextReference) ∧
        after.place ≤ tokens.length ∧
        ∀ place problem, outcome = .error (place, problem) → place ≤ after.place) ∧
    ∀ source, tokens = (Source.scan source).1 →
      ((errorsOf (parseItems tokens low).1).map (·.token.line)).Pairwise (· ≤ ·) := by
  obtain ⟨found, restToo, high, ended, attempted, chain, remains, _⟩ :=
    items_attempts 0 tokens.length (List.suffix_refl tokens) (Nat.lt_succ_self tokens.length)
      (Nat.le_refl _) low
  have start : cursorOf tokens tokens low = ⟨0, low⟩ := cursorOf_drop (Nat.zero_le _) low
  rw [start] at ended chain
  simp only [Attempt.ahead_zero, Nat.zero_add] at attempted
  have errors : (errorsOf (parseItems tokens low).1).map SyntaxError.token =
      (errorPlaces found).map (tokenAt tokens) := by
    rw [parseItems, depthOf, attempted]
    exact errorsOf_attempts tokens found
  have inside : (cursorOf tokens restToo high).place ≤ tokens.length := Nat.sub_le _ _
  refine ⟨fun place => next_progresses, ⟨found, _, high, ended, attempted, chain, inside,
    Nat.le_trans chain.length_le inside, errors, chain.errorPlaces_increase⟩,
    loneExpression_ends tokens low, ?_⟩
  rintro source rfl
  obtain ⟨body, last, whole, onlyEnd⟩ := Source.scan_onlyEnd source
  have more := remains.ne_nil (whole ▸ List.mem_append_right body List.mem_cons_self) onlyEnd.isEnd
  have lines := chain.lines_ordered (Source.scan_ordered source) (by
    have positive := List.length_pos_iff.mpr more
    have fewer := remains.length_le
    show (Source.scan source).1.length - restToo.length < _
    omega)
  have isLines := congrArg (List.map Token.line) errors
  rw [List.map_map, List.map_map] at isLines
  exact isLines ▸ lines

/-- The tokens of `(a) = b;` and of a parenthesis on the next line. -/
def parenthesisedTarget : List Token :=
  [⟨.mark .leftParen, "(", 1⟩, ⟨.identifier, "a", 1⟩, ⟨.mark .rightParen, ")", 1⟩,
    ⟨.mark .equal, "=", 1⟩, ⟨.identifier, "b", 1⟩, ⟨.mark .semicolon, ";", 1⟩,
    ⟨.mark .rightParen, ")", 2⟩, ⟨.endOfInput, "", 2⟩]

/-- The equals sign is reported first, though the name behind it has been read by then. -/
theorem reading_progresses_parenthesisedTarget :
    (∃ item high, (next parenthesisedTarget).outcome ⟨0, 0⟩ =
        some (.ok (some item), ⟨item.stop, high⟩) ∧
      item.start = 0 ∧ item.Proceeds parenthesisedTarget) ∧
    ∃ found stop, Chain parenthesisedTarget 0 stop found ∧
      (errorPlaces found).map (tokenAt parenthesisedTarget) =
        [⟨.mark .equal, "=", 1⟩, ⟨.mark .rightParen, ")", 2⟩] ∧
      (errorPlaces found).Pairwise (· < ·) ∧
      ((errorsOf (parseItems (Source.scan "(a) = b;\n)").1 0).1).map (·.token.line)).Pairwise
        (· ≤ ·) := by
  obtain ⟨progresses, ⟨found, stop, high, _, _, chain, _, _, errors, increase⟩, _⟩ :=
    reading_progresses parenthesisedTarget 0
  refine ⟨(progresses 0 (by decide) 0).resolve_left fun ended => ?_, found, stop, chain,
    errors.symm, increase, (reading_progresses _ 0).2.2.2 "(a) = b;\n)" rfl⟩
  exact absurd ended.1 (by decide)

end Slice

end Lox.Grammar
