/-
What stands behind a correct program does not change it, nor does the program change what is made
of the tokens behind it. A declaration ends at a token of its own, so that only the word `else`
could go on with it, and an attempt never looks at what is before its first token.
-/

import Lox.Proofs.Slice.Programs

namespace Lox.Grammar

variable {rest tokens : List Token} {low : Reference}

/-! ### Bounds and references -/

/-- The attempts at the same tokens from another reference on, with other bounds that exceed the
tokens. -/
theorem attempts_ahead {depth limit depthToo limitToo : Nat} (distance : Nat)
    (short : tokens.length < depth) (enough : tokens.length ≤ limit)
    (shortToo : tokens.length < depthToo) (enoughToo : tokens.length ≤ limitToo)
    (low : Reference) :
    attempts depthToo limitToo ⟨tokens, distance + low⟩ =
      ((attempts depth limit ⟨tokens, low⟩).1.map (Attempt.ahead distance),
        distance + (attempts depth limit ⟨tokens, low⟩).2) := by
  obtain ⟨found, behind, high, ended, attempted, _⟩ :=
    Slice.items_attempts 0 limit (List.suffix_refl tokens) short enough low
  obtain ⟨foundToo, behindToo, highToo, endedToo, attemptedToo, _⟩ :=
    Slice.items_attempts distance limitToo (List.suffix_refl tokens) shortToo enoughToo low
  obtain ⟨same, sameCursor⟩ := Prod.mk.inj (Option.some.inj (ended.symm.trans endedToo))
  obtain rfl := Except.ok.inj same
  obtain rfl : high = highToo := congrArg Slice.Cursor.nextReference sameCursor
  simp only [Attempt.ahead_zero, Nat.zero_add] at attempted
  rw [attempted, attemptedToo, List.map_map]
  rfl

theorem parseItems_ahead (tokens : List Token) (distance : Nat) (low : Reference) :
    parseItems tokens (distance + low) =
      ((parseItems tokens low).1.map (Attempt.ahead distance),
        distance + (parseItems tokens low).2) :=
  attempts_ahead distance (Nat.lt_succ_self _) (Nat.le_refl _) (Nat.lt_succ_self _) (Nat.le_refl _)
    low

/-- Bounds that exceed the tokens make no difference. -/
theorem attempts_eq_parseItems {depth limit : Nat} (short : tokens.length < depth)
    (enough : tokens.length ≤ limit) :
    attempts depth limit ⟨tokens, low⟩ = parseItems tokens low := by
  have same := attempts_ahead 0 (Nat.lt_succ_self _) (Nat.le_refl _) short enough low
  rw [Nat.zero_add] at same
  refine same.trans (Prod.ext ?_ (Nat.zero_add _))
  refine (List.map_congr_left fun attempt _ => attempt.ahead_zero).trans ?_
  exact List.map_id' _

/-! ### Declarations -/

/-- Declarations are attempted as what they are, whatever is behind them. -/
theorem Derivation.attempts_write : (declarations : Derivation .declarations) →
    (depth limit : Nat) → (rest : List Token) → (low : Reference) →
    (declarations.write rest).length < depth → (declarations.write rest).length ≤ limit →
    declarations.Regular rest →
    ∃ room, rest.length ≤ room ∧
      attempts depth limit ⟨declarations.write rest, low⟩ =
        ((declarations.statements low).map .ok ++
            (attempts depth room ⟨rest, low + declarations.drawn⟩).1,
          (attempts depth room ⟨rest, low + declarations.drawn⟩).2)
  | .noDeclarations, _, limit, _, _, _, enough, _ => ⟨limit, enough, rfl⟩
  | .moreDeclarations first others, depth, limit, rest, low, short, enough, regular => by
    have longer := declaration_length first (others.write rest)
    have fits : (first.write (others.write rest)).length < depth := short
    have fitsLimit : (first.write (others.write rest)).length ≤ limit := enough
    cases limit with
    | zero => omega
    | succ limit =>
      obtain ⟨room, roomEnough, behind⟩ := others.attempts_write depth limit rest
        (low + first.drawn) (by omega) (by omega) regular.2
      have more : atEnd (first.write (others.write rest)) = false :=
        (Bool.or_eq_false_iff.mp (first.not_closes _)).2
      have ended : declaration depth ⟨first.write (others.write rest), low⟩ =
          Attempt.result (.ok (first.tree low)) ⟨others.write rest, low + first.drawn⟩ :=
        first.read.nestedDeclaration short regular.1
      refine ⟨room, roomEnough, (attempts_cons more ended).trans ?_⟩
      rw [behind, Nat.add_assoc]
      rfl

/-! ### Programs -/

/-- Tokens that are a program in front of an end are the same program in front of any tokens that do
not begin with `else`, however wrong these are; and the attempts at these are the same as without
the program. All that differs is where references are numbered from, which never does more than
number them from there. -/
theorem items_behind_program (body : List Token) (last : Token) {high : Reference}
    {statements : List Statement} (isEnd : last.isEnd = true)
    (others : ∀ token ∈ body, token.isEnd = false)
    (parsed : parseProgram (body ++ [last]) low = (.ok statements, high)) (noElse : NoElse rest) :
    parseItems (body ++ rest) low =
        (statements.map .ok ++ (parseItems rest high).1, (parseItems rest high).2) ∧
      ∀ tokens distance low, parseItems tokens (distance + low) =
        ((parseItems tokens low).1.map (Attempt.ahead distance),
          distance + (parseItems tokens low).2) := by
  refine ⟨?_, parseItems_ahead⟩
  have onlyEnd : OnlyEnd body last := ⟨isEnd, others⟩
  obtain ⟨⟨early, ending⟩, isTokens, rfl, rfl, regular⟩ := onlyEnd.program parsed
  have isBody : early.tokens = body := by
    have whole : early.write [ending.token] = body ++ [last] := isTokens
    rw [Derivation.write_eq] at whole
    exact (List.append_inj' whole rfl).1
  have written : early.write rest = body ++ rest := by rw [Derivation.write_eq, isBody]
  obtain ⟨room, enough, attempted⟩ := early.attempts_write
    (depthOf (body ++ rest)) (body ++ rest).length rest low
    (Nat.lt_succ_of_le (Nat.le_of_eq (congrArg List.length written)))
    (Nat.le_of_eq (congrArg List.length written))
    (Derivation.Regular.behind regular fun _ => noElse)
  rw [written] at attempted
  have short : rest.length < depthOf (body ++ rest) := by
    unfold depthOf
    rw [List.length_append]
    omega
  rw [attempts_eq_parseItems short enough] at attempted
  exact attempted

/-- The program `a;` and a semicolon that is no statement. -/
theorem items_behind_program_semicolon :
    (⟨.endOfInput, "", 1⟩ : Token).isEnd = true ∧
      (∀ token ∈ [(⟨.identifier, "a", 1⟩ : Token), ⟨.mark .semicolon, ";", 1⟩],
        token.isEnd = false) ∧
      parseProgram [⟨.identifier, "a", 1⟩, ⟨.mark .semicolon, ";", 1⟩, ⟨.endOfInput, "", 1⟩] 0 =
        (.ok [.expression (.read 0 ⟨"a", 1⟩)], 1) ∧
      NoElse [⟨.mark .semicolon, ";", 2⟩, ⟨.endOfInput, "", 2⟩] ∧
      parseItems [⟨.identifier, "a", 1⟩, ⟨.mark .semicolon, ";", 1⟩, ⟨.mark .semicolon, ";", 2⟩,
          ⟨.endOfInput, "", 2⟩] 0 =
        ([.ok (.expression (.read 0 ⟨"a", 1⟩)),
          .error ⟨⟨.mark .semicolon, ";", 2⟩, .missingExpression⟩], 1) := by
  have noElse : NoElse [⟨.mark .semicolon, ";", 2⟩, ⟨.endOfInput, "", 2⟩] := by
    rintro following ⟨⟩
    rfl
  refine ⟨rfl, by decide, rfl, noElse, ?_⟩
  exact (items_behind_program [⟨.identifier, "a", 1⟩, ⟨.mark .semicolon, ";", 1⟩]
    ⟨.endOfInput, "", 1⟩ rfl (by decide) rfl noElse).1

end Lox.Grammar
