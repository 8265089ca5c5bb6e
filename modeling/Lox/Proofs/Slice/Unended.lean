/-
A missing end does no harm. Tokens without an end are read as they are in front of one, item by item
and token by token; what the readers report where the tokens stop has no line to tell, and is
reported on the line of the end where there is one. Nothing is looked for behind the tokens.
-/

import Lox.Proofs.Grammar.Unended
import Lox.Proofs.Slice.Behind

namespace Lox.Grammar

variable {α : Type} {tokens rest : List Token} {last : Token}

/-! ### Attempts -/

/-- The same attempt where the tokens end with `last`. -/
def Attempt.endedBy (last : Token) (attempt : Attempt) : Attempt :=
  attempt.mapError (SyntaxError.endedBy last)

theorem Attempt.result_endedBy (attempt : Attempt) (after : State) :
    Ended.endedBy last (attempt.result after) =
      (attempt.endedBy last).result (after.endedBy last) := by
  cases attempt <;> rfl

theorem Attempt.endedBy_ahead (distance : Nat) (attempt : Attempt) :
    (attempt.ahead distance).endedBy last = (attempt.endedBy last).ahead distance := by
  cases attempt <;> rfl

theorem Attempt.result_inj {attempt attemptToo : Attempt} {after afterToo : State}
    (same : attempt.result after = attemptToo.result afterToo) :
    attempt = attemptToo ∧ after = afterToo := by
  cases attempt <;> cases attemptToo <;> cases same <;> exact ⟨rfl, rfl⟩

/-- A parser ends like some attempt. -/
theorem exists_attempt (ended : EStateM.Result SyntaxError State Statement) :
    ∃ (attempt : Attempt) (after : State), ended = attempt.result after := by
  cases ended with
  | ok statement after => exact ⟨.ok statement, after, rfl⟩
  | error error after => exact ⟨.error error, after, rfl⟩

/-- The attempts in front of an end are those without it. -/
theorem attempts_ended (depth limit : Nat) (onlyEnd : OnlyEnd rest last) (low : Reference) :
    attempts depth limit ⟨rest ++ [last], low⟩ =
        ((attempts depth limit ⟨rest, low⟩).1.map (Attempt.endedBy last),
          (attempts depth limit ⟨rest, low⟩).2) ∧
      ∀ error, .error error ∈ (attempts depth limit ⟨rest, low⟩).1 → error.Placed := by
  induction limit generalizing rest low with
  | zero =>
    rw [attempts, attempts]
    exact ⟨rfl, fun _ member => absurd member List.not_mem_nil⟩
  | succ limit inductionHypothesis =>
    cases rest with
    | nil =>
      have isEnd : atEnd [last] = true := onlyEnd.isEnd
      rw [List.nil_append, attempts_atEnd isEnd, @attempts_atEnd _ _ ⟨[], low⟩ rfl]
      exact ⟨rfl, fun _ member => absurd member List.not_mem_nil⟩
    | cons token rest =>
      have more (rest : List Token) : atEnd (token :: rest) = false := onlyEnd.more
      obtain ⟨same, ensures⟩ := declaration_tolerates last depth (token :: rest) low onlyEnd
      obtain ⟨attempt, after, ended⟩ := exists_attempt (declaration depth ⟨token :: rest, low⟩)
      rw [ended, attempt.result_endedBy] at same
      have onlyEndToo : OnlyEnd after.rest last := by
        cases attempt with
        | ok statement => exact ensures.ok ended
        | error error => exact (ensures.error ended).1
      obtain ⟨others, placed⟩ := inductionHypothesis onlyEndToo after.nextReference
      rw [attempts_cons (more rest) ended, attempts_cons (more (rest ++ [last])) same]
      refine ⟨?_, ?_⟩
      · rw [show after.endedBy last = ⟨after.rest ++ [last], after.nextReference⟩ from rfl, others]
        rfl
      · intro error member
        rcases List.mem_cons.mp member with rfl | isOther
        · exact (ensures.error ended).2
        · exact placed error isOther

theorem length_lt_depthOf (tokens : List Token) (last : Token) :
    tokens.length < depthOf (tokens ++ [last]) := by
  unfold depthOf
  rw [List.length_append]
  omega

/-- A program in front of an end is attempted as it is without it, whatever number its references
are drawn from. -/
theorem parseItems_ended (onlyEnd : OnlyEnd tokens last) (distance : Nat) (low : Reference) :
    parseItems (tokens ++ [last]) (distance + low) =
      ((parseItems tokens low).1.map fun attempt => (attempt.endedBy last).ahead distance,
        distance + (parseItems tokens low).2) := by
  have enough : tokens.length ≤ (tokens ++ [last]).length := by
    rw [List.length_append]
    exact Nat.le_add_right _ _
  have ended := (attempts_ended (depthOf (tokens ++ [last])) (tokens ++ [last]).length onlyEnd
    low).1
  rw [attempts_eq_parseItems (length_lt_depthOf tokens last) enough] at ended
  have whole : parseItems (tokens ++ [last]) low = _ := ended
  rw [parseItems_ahead, whole, List.map_map]
  rfl

theorem errorsOf_ended (distance : Nat) (attempts : List Attempt) :
    errorsOf (attempts.map fun attempt => (attempt.endedBy last).ahead distance) =
      (errorsOf attempts).map (SyntaxError.endedBy last) := by
  induction attempts with
  | nil => rfl
  | cons attempt attempts inductionHypothesis =>
    cases attempt with
    | ok statement => exact inductionHypothesis
    | error error => exact congrArg (error.endedBy last :: ·) inductionHypothesis

theorem statementsOf_ended (distance : Nat) (attempts : List Attempt) :
    statementsOf (attempts.map fun attempt => (attempt.endedBy last).ahead distance) =
      (statementsOf attempts).map (Statement.relabel (moved id distance)) := by
  induction attempts with
  | nil => rfl
  | cons attempt attempts inductionHypothesis =>
    cases attempt with
    | ok statement =>
      exact congrArg (statement.relabel (moved id distance) :: ·) inductionHypothesis
    | error error => exact inductionHypothesis

theorem parseProgram_ended (onlyEnd : OnlyEnd tokens last) (distance : Nat) (low : Reference) :
    parseProgram (tokens ++ [last]) (distance + low) =
      (((parseProgram tokens low).1.map (List.map (Statement.relabel (moved id distance)))).mapError
          (List.map (SyntaxError.endedBy last)),
        distance + (parseProgram tokens low).2) := by
  unfold parseProgram
  rw [parseItems_ended onlyEnd]
  generalize parseItems tokens low = parsed
  obtain ⟨attempts, high⟩ := parsed
  dsimp only
  rw [errorsOf_ended, statementsOf_ended]
  cases errorsOf attempts <;> rfl

/-! ### Lone expressions -/

/-- What is found, and the next unused reference. -/
def foundBy : EStateM.Result SyntaxError State α → Except SyntaxError α × Reference
  | .ok value after => (.ok value, after.nextReference)
  | .error error after => (.error error, after.nextReference)

theorem foundBy_endedBy (ended : EStateM.Result SyntaxError State α) :
    foundBy (Ended.endedBy last ended) =
      ((foundBy ended).1.mapError (SyntaxError.endedBy last), (foundBy ended).2) := by
  cases ended <;> rfl

theorem parseExpression_eq (tokens : List Token) (low : Reference) :
    parseExpression tokens low = foundBy (loneExpression (depthOf tokens) ⟨tokens, low⟩) := by
  unfold parseExpression
  cases loneExpression (depthOf tokens) ⟨tokens, low⟩ <;> rfl

/-- Any depth that exceeds the tokens will do, and any number to draw references from. -/
theorem loneExpression_ahead {depth : Nat} (short : tokens.length < depth) (distance : Nat)
    (low : Reference) :
    foundBy (loneExpression depth ⟨tokens, distance + low⟩) =
      ((parseExpression tokens low).1.map (Expression.relabel (moved id distance)),
        distance + (parseExpression tokens low).2) := by
  obtain ⟨outcome, after, read, parsed, _, _⟩ := Slice.loneExpression_ends tokens low
  have follows := Slice.loneExpression_follows distance (List.suffix_refl tokens) short low
  have start : Slice.cursorOf tokens tokens low = ⟨0, low⟩ :=
    Slice.cursorOf_drop (Nat.zero_le _) low
  rw [start, read] at follows
  rw [parsed]
  cases ended : loneExpression depth ⟨tokens, distance + low⟩ with
  | ok found behind =>
    obtain ⟨foundToo, rest, high, rfl, _, same, isOutcome⟩ := Ensures.ok follows ended
    obtain ⟨isFound, rfl⟩ := Prod.mk.inj (Option.some.inj isOutcome)
    cases outcome with
    | ok value =>
      obtain rfl := Except.ok.inj isFound
      obtain rfl := same
      rfl
    | error problem => exact nomatch isFound
  | error error behind =>
    obtain ⟨place, rest, high, rfl, _, _, _, isToken, isOutcome⟩ := Ensures.error follows ended
    obtain ⟨isStop, rfl⟩ := Prod.mk.inj (Option.some.inj isOutcome)
    cases outcome with
    | ok value => exact nomatch isStop
    | error problem =>
      obtain ⟨rfl, isProblem⟩ := Slice.Stop.error.inj (Except.error.inj isStop)
      have isError : Slice.errorAt tokens problem = error := by
        unfold Slice.errorAt
        rw [isToken, isProblem]
      exact congrArg (fun error => (Except.error error, distance + high)) isError.symm

theorem parseExpression_ended (onlyEnd : OnlyEnd tokens last) (distance : Nat) (low : Reference) :
    parseExpression (tokens ++ [last]) (distance + low) =
      (((parseExpression tokens low).1.map (Expression.relabel (moved id distance))).mapError
          (SyntaxError.endedBy last),
        distance + (parseExpression tokens low).2) := by
  have same := (loneExpression_tolerates last (depthOf (tokens ++ [last])) tokens
    (distance + low) onlyEnd).1
  rw [parseExpression_eq, same, foundBy_endedBy,
    loneExpression_ahead (length_lt_depthOf tokens last)]

/-! ### Single items -/

namespace Slice

theorem cursorOf_ended (tokens rest : List Token) (last : Token) (low : Reference) :
    cursorOf (tokens ++ [last]) (rest ++ [last]) low = cursorOf tokens rest low := by
  unfold cursorOf
  rw [List.length_append, List.length_append, Nat.add_sub_add_right]

/-- Where the tokens have not stopped, the next item is the same in front of an end, and leaves the
cursor at the same place. -/
theorem next_ended (onlyEnd : OnlyEnd tokens last) {place : Nat} (inside : place < tokens.length)
    (distance : Nat) (low : Reference) :
    ∃ item itemToo high,
      (next tokens).outcome ⟨place, low⟩ = some (.ok (some item), ⟨item.stop, high⟩) ∧
        (next (tokens ++ [last])).outcome ⟨place, distance + low⟩ =
          some (.ok (some itemToo), ⟨item.stop, distance + high⟩) ∧
        item.start = place ∧ itemToo.start = place ∧ itemToo.stop = item.stop ∧
        item.Proceeds tokens ∧
        itemToo.attempt (tokens ++ [last]) =
          ((item.attempt tokens).endedBy last).ahead distance := by
  have suffix := List.drop_suffix place tokens
  have isPlace (low : Reference) : cursorOf tokens (tokens.drop place) low = ⟨place, low⟩ :=
    cursorOf_drop (Nat.le_of_lt inside) low
  generalize tokens.drop place = rest at suffix isPlace
  have isRest : tokens.length - rest.length = place := congrArg Cursor.place (isPlace low)
  have onlyEndRest := onlyEnd.suffix suffix
  obtain ⟨token, rest, rfl⟩ : ∃ token tail, rest = token :: tail := by
    cases rest with
    | nil => exact absurd isRest (Nat.ne_of_gt inside)
    | cons token rest => exact ⟨token, rest, rfl⟩
  have suffixEnd : token :: rest ++ [last] <:+ tokens ++ [last] := by
    obtain ⟨taken, rfl⟩ := suffix
    exact ⟨taken, (List.append_assoc _ _ _).symm⟩
  -- Both are compared with the parser of one depth, which has to be enough for the longer tokens.
  obtain ⟨depth, shortEnd⟩ : ∃ depth, (token :: rest ++ [last]).length < depth :=
    ⟨_, Nat.lt_succ_self _⟩
  have short : (token :: rest).length < depth := by
    rw [List.length_append] at shortEnd
    omega
  obtain ⟨item, behind, high, read, isStart, isStop, proceeds, _, _, ended⟩ :=
    next_item distance suffix short onlyEndRest.more low
  obtain ⟨itemToo, behindToo, highToo, readToo, isStartToo, isStopToo, _, _, _, endedToo⟩ :=
    next_item 0 suffixEnd shortEnd onlyEndRest.more (distance + low)
  have same := (declaration_tolerates last depth (token :: rest) (distance + low) onlyEndRest).1
  rw [ended, Attempt.result_endedBy, ← Nat.zero_add (distance + low)] at same
  obtain ⟨sameAttempt, sameState⟩ := Attempt.result_inj (endedToo.symm.trans same)
  obtain ⟨rfl, isHigh⟩ := State.mk.inj sameState
  obtain rfl : highToo = distance + high := (Nat.zero_add highToo).symm.trans isHigh
  have isStopHere : item.stop = tokens.length - behind.length := isStop
  rw [cursorOf_ended, isPlace] at readToo
  rw [cursorOf_ended] at isStopToo isStartToo
  refine ⟨item, itemToo, high, ?_, ?_, ?_, ?_, isStopToo.trans isStop.symm, proceeds, ?_⟩
  · rw [← isPlace, read, isStopHere]
    rfl
  · rw [readToo, cursorOf_ended, isStopHere]
    rfl
  · rw [isStart, isPlace]
  · rw [isStartToo, isPlace]
  · rw [Attempt.ahead_zero] at sameAttempt
    rw [sameAttempt, Attempt.endedBy_ahead]

theorem next_stops (isEnd : last.isEnd = true) (low : Reference) :
    (next tokens).outcome ⟨tokens.length, low⟩ = some (.ok none, ⟨tokens.length, low⟩) ∧
      (next (tokens ++ [last])).outcome ⟨tokens.length, low⟩ =
        some (.ok none, ⟨tokens.length, low⟩) := by
  have atLast : cursorOf (tokens ++ [last]) [last] low = ⟨tokens.length, low⟩ :=
    cursorOf_ended tokens [] last low
  refine ⟨next_atEnd List.nil_suffix rfl low, ?_⟩
  rw [← atLast]
  exact next_atEnd (List.suffix_append tokens [last]) isEnd low

/-- The readers stop where the tokens do, and have found what the parser finds. -/
theorem items_unended (onlyEnd : OnlyEnd tokens last) (low : Reference) :
    ∃ found high, (items tokens).outcome ⟨0, low⟩ = some (.ok found, ⟨tokens.length, high⟩) ∧
      parseItems tokens low = (found.map (Item.attempt tokens), high) := by
  obtain ⟨found, rest, high, read, attempted, _, remains, ended⟩ := items_attempts 0 tokens.length
    (List.suffix_refl tokens) (Nat.lt_succ_self _) (Nat.le_refl _) low
  have start : cursorOf tokens tokens low = ⟨0, low⟩ := cursorOf_drop (Nat.zero_le _) low
  obtain rfl : rest = [] := by
    cases rest with
    | nil => rfl
    | cons token rest =>
      exact absurd ended (Bool.eq_false_iff.mp (onlyEnd.suffix remains.suffix).more)
  simp only [Attempt.ahead_zero, Nat.zero_add] at attempted
  exact ⟨found, high, start ▸ read, attempted⟩

end Slice

/-! ### Errors -/

/-- An error says the same in front of an end, but for the line, which is none without it. -/
theorem SyntaxError.Placed.reported {error : SyntaxError} (placed : error.Placed)
    (isEnd : last.isEnd = true) :
    (error.endedBy last).problem = error.problem ∧
      (error.endedBy last).token.location = error.token.location ∧
      ((error.endedBy last).token = error.token ∨
        (error.endedBy last).token = last ∧ error.token = missingEnd) := by
  unfold SyntaxError.endedBy
  split
  · rename_i atEnd
    refine ⟨rfl, ?_, .inr ⟨rfl, placed atEnd⟩⟩
    unfold Token.location
    rw [isEnd, atEnd]
    rfl
  · exact ⟨rfl, rfl, .inl rfl⟩

/-- Tokens without an end are read as they are in front of one: at every place the next item is the
same, the attempts at declarations, the program and the lone expression are the same, whatever
number references are drawn from the second time. Errors differ only where the tokens stop: what is
reported at the line of the end in front of it has no line without it. The readers look for nothing
behind the tokens. -/
theorem reading_unended (tokens : List Token) (last : Token) (isEnd : last.isEnd = true)
    (others : ∀ token ∈ tokens, token.isEnd = false) (distance : Nat) (low : Reference) :
    ((∀ place < tokens.length, ∀ low, ∃ item itemToo high,
        (Slice.next tokens).outcome ⟨place, low⟩ = some (.ok (some item), ⟨item.stop, high⟩) ∧
          (Slice.next (tokens ++ [last])).outcome ⟨place, distance + low⟩ =
            some (.ok (some itemToo), ⟨item.stop, distance + high⟩) ∧
          item.start = place ∧ itemToo.start = place ∧ itemToo.stop = item.stop ∧
          item.Proceeds tokens ∧
          itemToo.attempt (tokens ++ [last]) =
            ((item.attempt tokens).endedBy last).ahead distance) ∧
      ∀ low,
        (Slice.next tokens).outcome ⟨tokens.length, low⟩ =
            some (.ok none, ⟨tokens.length, low⟩) ∧
          (Slice.next (tokens ++ [last])).outcome ⟨tokens.length, low⟩ =
            some (.ok none, ⟨tokens.length, low⟩)) ∧
    (∃ found high,
      (Slice.items tokens).outcome ⟨0, low⟩ = some (.ok found, ⟨tokens.length, high⟩) ∧
        parseItems tokens low = (found.map (Slice.Item.attempt tokens), high)) ∧
    (∃ (outcome : Except (Nat × SyntaxProblem) Expression) (after : Slice.Cursor),
      (Slice.loneExpression tokens).outcome ⟨0, low⟩ =
          some (outcome.mapError Slice.stopAt, after) ∧
        parseExpression tokens low =
          (outcome.mapError (Slice.errorAt tokens), after.nextReference)) ∧
    (parseItems (tokens ++ [last]) (distance + low) =
        ((parseItems tokens low).1.map fun attempt => (attempt.endedBy last).ahead distance,
          distance + (parseItems tokens low).2) ∧
      parseProgram (tokens ++ [last]) (distance + low) =
        (((parseProgram tokens low).1.map
            (List.map (Statement.relabel (moved id distance)))).mapError
              (List.map (SyntaxError.endedBy last)),
          distance + (parseProgram tokens low).2) ∧
      parseExpression (tokens ++ [last]) (distance + low) =
        (((parseExpression tokens low).1.map (Expression.relabel (moved id distance))).mapError
            (SyntaxError.endedBy last),
          distance + (parseExpression tokens low).2)) ∧
    ∀ error, .error error ∈ (parseItems tokens low).1 ∨
        (parseExpression tokens low).1 = .error error →
      (error.endedBy last).problem = error.problem ∧
        (error.endedBy last).token.location = error.token.location ∧
        ((error.endedBy last).token = error.token ∨
          (error.endedBy last).token = last ∧ error.token = missingEnd) := by
  have onlyEnd : OnlyEnd tokens last := ⟨isEnd, others⟩
  obtain ⟨outcome, after, read, parsed, _, _⟩ := Slice.loneExpression_ends tokens low
  refine ⟨⟨fun place inside low => Slice.next_ended onlyEnd inside distance low,
      fun low => Slice.next_stops isEnd low⟩,
    Slice.items_unended onlyEnd low, ⟨outcome, after, read, parsed⟩,
    ⟨parseItems_ended onlyEnd distance low, parseProgram_ended onlyEnd distance low,
      parseExpression_ended onlyEnd distance low⟩, ?_⟩
  rintro error (attempted | alone)
  · exact ((attempts_ended _ _ onlyEnd low).2 error attempted).reported isEnd
  · have ensures := (loneExpression_tolerates last (depthOf tokens) tokens low onlyEnd).2
    rw [parseExpression_eq] at alone
    cases ended : loneExpression (depthOf tokens) ⟨tokens, low⟩ with
    | ok value after =>
      rw [ended] at alone
      exact nomatch alone
    | error found after =>
      rw [ended] at alone
      obtain rfl := Except.error.inj alone
      exact (ensures.error ended).2.reported isEnd

/-- The word `print`, behind which an expression is missing, and an end on the seventh line. -/
theorem reading_unended_print :
    (⟨.endOfInput, "", 7⟩ : Token).isEnd = true ∧
      (∀ token ∈ [(⟨.mark .printWord, "print", 1⟩ : Token)], token.isEnd = false) ∧
      parseItems [⟨.mark .printWord, "print", 1⟩] 0 =
        ([.error ⟨missingEnd, .missingExpression⟩], 0) ∧
      parseItems [⟨.mark .printWord, "print", 1⟩, ⟨.endOfInput, "", 7⟩] 3 =
        ([.error ⟨⟨.endOfInput, "", 7⟩, .missingExpression⟩], 3) := by
  have others : ∀ token ∈ [(⟨.mark .printWord, "print", 1⟩ : Token)], token.isEnd = false := by
    decide
  obtain ⟨_, _, _, ⟨items, _, _⟩, _⟩ := reading_unended [⟨.mark .printWord, "print", 1⟩]
    ⟨.endOfInput, "", 7⟩ rfl others 3 0
  exact ⟨rfl, others, rfl, items⟩

end Lox.Grammar
