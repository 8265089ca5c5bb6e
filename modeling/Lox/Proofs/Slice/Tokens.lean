/-
What it means that a reader by place follows a parser. Where the parser has some of the tokens left,
the cursor of the reader is at the first of them; both find the same, but for the numbers of the
references, and a syntax error that the parser reports at a token the reader reports at its place.
The readers of single tokens are gone through here.
-/

import Lox.Proofs.Grammar.Relined
import Lox.Proofs.Grammar.Statement
import Lox.Proofs.Outcome
import Lox.Proofs.Slice.Reader

namespace Lox.Grammar.Slice

variable {α β γ δ : Type}

/-! ### Outcomes -/

/-- How a reader ends that starts at a cursor. -/
def Reader.outcome (reader : Reader α) (cursor : Cursor) : Option (Except Stop α × Cursor) :=
  reader cursor

section

variable {reader : Reader α} {goOn : α → Reader β} {cursor after : Cursor}

/-- What goes on from a result starts where it was reached. -/
theorem outcome_ok {value : α} (ended : reader.outcome cursor = some (.ok value, after)) :
    (reader >>= goOn).outcome cursor = (goOn value).outcome after :=
  outcome_bind_ok ended

/-- Nothing goes on from an error. -/
theorem outcome_error {stop : Stop} (ended : reader.outcome cursor = some (.error stop, after)) :
    (reader >>= goOn).outcome cursor = some (.error stop, after) :=
  outcome_bind_error ended

end

/-! ### Cursors -/

variable {tokens rest : List Token} {low : Reference}

/-- The cursor at the first of the tokens that are left. -/
def cursorOf (tokens rest : List Token) (low : Reference) : Cursor :=
  ⟨tokens.length - rest.length, low⟩

theorem tokenAt_cursorOf (inside : rest <:+ tokens) (low : Reference) :
    tokenAt tokens (cursorOf tokens rest low).place = firstToken rest := by
  obtain ⟨taken, rfl⟩ := inside
  unfold tokenAt cursorOf
  rw [List.length_append, Nat.add_sub_cancel]
  show (taken ++ rest).getD taken.length missingEnd = firstToken rest
  rw [List.getD_eq_getElem?_getD, List.getElem?_append_right (Nat.le_refl _), Nat.sub_self]
  cases rest <;> rfl

/-- The last token that was taken stands before the cursor. -/
theorem tokenAt_previous {token : Token} (inside : token :: rest <:+ tokens) :
    tokenAt tokens ((cursorOf tokens rest low).place - 1) = token := by
  have before : (cursorOf tokens rest low).place - 1 =
      (cursorOf tokens (token :: rest) low).place := by
    show tokens.length - rest.length - 1 = tokens.length - (rest.length + 1)
    omega
  rw [before, tokenAt_cursorOf inside low]
  rfl

theorem tail_inside {token : Token} (inside : token :: rest <:+ tokens) : rest <:+ tokens :=
  (List.suffix_cons token rest).trans inside

theorem peek_outcome (inside : rest <:+ tokens) :
    (peek tokens).outcome (cursorOf tokens rest low) =
      some (.ok (firstToken rest), cursorOf tokens rest low) := by
  rw [← tokenAt_cursorOf inside low]
  rfl

theorem endsHere_outcome (inside : rest <:+ tokens) :
    (endsHere tokens).outcome (cursorOf tokens rest low) =
      some (.ok (atEnd rest), cursorOf tokens rest low) :=
  outcome_ok (peek_outcome inside)

theorem previous_outcome {token : Token} (inside : token :: rest <:+ tokens) :
    (previous tokens).outcome (cursorOf tokens rest low) =
      some (.ok ((cursorOf tokens rest low).place - 1), cursorOf tokens rest low) := by
  have more : rest.length + 1 ≤ tokens.length := inside.length_le
  have isThere : tokens.length - rest.length - 1 < tokens.length := by omega
  show Reader.outcome (if tokens.length - rest.length - 1 < tokens.length then
    pure (tokens.length - rest.length - 1) else throw .outOfRange : Reader Nat) _ = _
  rw [if_pos isThere]
  rfl

/-- A token that is no end is taken. -/
theorem advance_outcome {token : Token} (inside : token :: rest <:+ tokens)
    (more : token.isEnd = false) :
    (advance tokens).outcome (cursorOf tokens (token :: rest) low) =
      some (.ok ((cursorOf tokens rest low).place - 1), cursorOf tokens rest low) := by
  have enough : rest.length + 1 ≤ tokens.length := inside.length_le
  have isThere : tokens.length - (rest.length + 1) < tokens.length := by omega
  have moved : (step tokens).outcome (cursorOf tokens (token :: rest) low) =
      some (.ok (), cursorOf tokens rest low) := by
    show Reader.outcome (if tokens.length - (rest.length + 1) < tokens.length then
      set (Cursor.mk (tokens.length - (rest.length + 1) + 1) low) else throw .outOfRange :
      Reader PUnit) _ = _
    rw [if_pos isThere]
    show some (Except.ok (), Cursor.mk (tokens.length - (rest.length + 1) + 1) low) =
      some (Except.ok (), Cursor.mk (tokens.length - rest.length) low)
    congr 3
    omega
  refine (outcome_ok (endsHere_outcome inside)).trans ?_
  rw [show atEnd (token :: rest) = false from more]
  exact (outcome_ok moved).trans (previous_outcome inside)

/-- An end stays. -/
theorem advance_end (inside : rest <:+ tokens) (nonempty : tokens ≠ [])
    (ended : atEnd rest = true) :
    (advance tokens).outcome (cursorOf tokens rest low) =
      some (.ok ((cursorOf tokens rest low).place - 1), cursorOf tokens rest low) := by
  have positive := List.length_pos_iff.mpr nonempty
  have isThere : tokens.length - rest.length - 1 < tokens.length := by omega
  refine (outcome_ok (endsHere_outcome inside)).trans ?_
  rw [ended]
  show Reader.outcome (if tokens.length - rest.length - 1 < tokens.length then
    pure (tokens.length - rest.length - 1) else throw .outOfRange : Reader Nat) _ = _
  rw [if_pos isThere]
  rfl

theorem check_outcome (inside : rest <:+ tokens) (wanted : Token → Bool)
    (noEnd : ∀ token : Token, token.isEnd = true → wanted token = false) (low : Reference) :
    (check tokens wanted).outcome (cursorOf tokens rest low) =
      some (.ok (wanted (firstToken rest)), cursorOf tokens rest low) := by
  refine (outcome_ok (endsHere_outcome inside)).trans ?_
  cases ended : atEnd rest with
  | true =>
    rw [noEnd _ ended]
    rfl
  | false => exact outcome_ok (peek_outcome inside)

/-- What is behind the next token decides only behind the word `fun`. -/
theorem nameFollows_outcome (inside : rest <:+ tokens) (low : Reference) :
    ∃ follows, (nameFollows tokens).outcome (cursorOf tokens rest low) =
        some (.ok follows, cursorOf tokens rest low) ∧
      ((firstToken rest).isMark .funWord && follows) = Phrases.beginsFunction rest := by
  refine ⟨_, rfl, ?_⟩
  cases rest with
  | nil => rfl
  | cons first rest =>
    have second : tokens[(cursorOf tokens (first :: rest) low).place + 1]? = rest.head? := by
      obtain ⟨taken, rfl⟩ := inside
      unfold cursorOf
      rw [List.length_append, Nat.add_sub_cancel]
      show (taken ++ first :: rest)[taken.length + 1]? = rest.head?
      rw [List.getElem?_append_right (Nat.le_succ _), Nat.succ_sub (Nat.le_refl _), Nat.sub_self]
      cases rest <;> rfl
    rw [second]
    cases rest with
    | nil => exact Bool.and_false _
    | cons second rest => rfl

theorem accept_sign {mark : Mark} (sign : Sign mark) (inside : sign.token :: rest <:+ tokens) :
    (accept tokens mark).outcome (cursorOf tokens (sign.token :: rest) low) =
      some (.ok true, cursorOf tokens rest low) := by
  refine (outcome_ok (check_outcome inside (·.isMark mark) (isMark_end mark) low)).trans ?_
  rw [show (firstToken (sign.token :: rest)).isMark mark = true from isMark_of_kind rfl]
  exact outcome_ok (advance_outcome inside rfl)

theorem accept_other {mark : Mark} (inside : rest <:+ tokens)
    (other : (firstToken rest).isMark mark = false) :
    (accept tokens mark).outcome (cursorOf tokens rest low) =
      some (.ok false, cursorOf tokens rest low) := by
  refine (outcome_ok (check_outcome inside (·.isMark mark) (isMark_end mark) low)).trans ?_
  rw [other]
  rfl

theorem acceptOperator_some {Operator : Type} {operator? : Token → Option Operator}
    {operator : Operator} {token : Token} (inside : token :: rest <:+ tokens)
    (more : token.isEnd = false) (isOperator : operator? token = some operator) :
    (acceptOperator tokens operator?).outcome (cursorOf tokens (token :: rest) low) =
      some (.ok (some operator), cursorOf tokens rest low) := by
  have checked : (check tokens fun token => (operator? token).isSome).outcome
      (cursorOf tokens (token :: rest) low) =
      some (.ok true, cursorOf tokens (token :: rest) low) := by
    refine (outcome_ok (endsHere_outcome inside)).trans ?_
    rw [show atEnd (token :: rest) = false from more]
    refine (outcome_ok (peek_outcome inside)).trans ?_
    dsimp only [firstToken]
    rw [isOperator]
    rfl
  refine (outcome_ok checked).trans ((outcome_ok (advance_outcome inside more)).trans ?_)
  refine (outcome_ok (previous_outcome inside)).trans ?_
  rw [tokenAt_previous inside, isOperator]
  rfl

theorem acceptOperator_none {Operator : Type} {operator? : Token → Option Operator}
    (inside : rest <:+ tokens) (isNone : operator? (firstToken rest) = none) :
    (acceptOperator tokens operator?).outcome (cursorOf tokens rest low) =
      some (.ok none, cursorOf tokens rest low) := by
  have checked : (check tokens fun token => (operator? token).isSome).outcome
      (cursorOf tokens rest low) = some (.ok false, cursorOf tokens rest low) := by
    refine (outcome_ok (endsHere_outcome inside)).trans ?_
    cases atEnd rest with
    | true => rfl
    | false =>
      refine (outcome_ok (peek_outcome inside)).trans ?_
      dsimp only
      rw [isNone]
      rfl
  exact outcome_ok checked

/-! ### What is left -/

/-- The tokens are left of others when some are taken, none of which is an end. -/
def Remains (rest before : List Token) : Prop :=
  ∃ taken, before = taken ++ rest ∧ ∀ token ∈ taken, token.isEnd = false

namespace Remains

variable {first second third : List Token}

theorem refl (tokens : List Token) : Remains tokens tokens :=
  ⟨[], rfl, nofun⟩

theorem cons {token : Token} (more : token.isEnd = false) : Remains rest (token :: rest) :=
  ⟨[token], rfl, fun _ member => List.mem_singleton.mp member ▸ more⟩

theorem trans (late : Remains third second) (early : Remains second first) :
    Remains third first := by
  obtain ⟨taken, rfl, noEnd⟩ := early
  obtain ⟨takenToo, rfl, noEndToo⟩ := late
  refine ⟨taken ++ takenToo, (List.append_assoc _ _ _).symm, fun token member => ?_⟩
  exact (List.mem_append.mp member).elim (noEnd token) (noEndToo token)

theorem suffix (remains : Remains second first) : second <:+ first := by
  obtain ⟨taken, rfl, _⟩ := remains
  exact List.suffix_append taken second

theorem length_le (remains : Remains second first) : second.length ≤ first.length :=
  remains.suffix.length_le

end Remains

/-! ### Following -/

variable {distance : Nat}

/-- The parser, which has the tokens `rest` left and draws its references from a number that is
`distance` ahead, ends as the reader does that starts at the first of them: with something alike,
or with an error at the token of the place where the reader reports it, which is `first` or behind.
Neither goes back. -/
def FollowsFrom (tokens : List Token) (distance first : Nat) (alike : α → β → Prop)
    (outcome : Option (Except Stop β × Cursor)) (parser : Parser α) (rest : List Token)
    (low : Reference) : Prop :=
  Ensures parser ⟨rest, distance + low⟩
    (fun value after => ∃ valueToo restToo high, after = ⟨restToo, distance + high⟩ ∧
      Remains restToo rest ∧ alike value valueToo ∧
      outcome = some (.ok valueToo, cursorOf tokens restToo high))
    fun error after => ∃ place restToo high, after = ⟨restToo, distance + high⟩ ∧
      Remains restToo rest ∧ first ≤ place ∧
      place ≤ (cursorOf tokens restToo high).place ∧ tokenAt tokens place = error.token ∧
      outcome = some (.error (.error place error.problem), cursorOf tokens restToo high)

/-- No error is reported before the place where the reader starts. -/
abbrev Follows (tokens : List Token) (distance : Nat) (alike : α → β → Prop)
    (outcome : Option (Except Stop β × Cursor)) (parser : Parser α) (rest : List Token)
    (low : Reference) : Prop :=
  FollowsFrom tokens distance (cursorOf tokens rest low).place alike outcome parser rest low

namespace FollowsFrom

variable {alike : α → β → Prop} {parser : Parser α} {next : α → Parser γ}
  {reader : Reader β} {goOn : β → Reader δ} {alikeToo : γ → δ → Prop}

theorem pure {value : α} {valueToo : β} (same : alike value valueToo) :
    Follows tokens distance alike
      ((Pure.pure valueToo : Reader β).outcome (cursorOf tokens rest low))
      (Pure.pure value) rest low :=
  Ensures.pure ⟨valueToo, rest, low, rfl, .refl rest, same, rfl⟩

/-- An error at a token that has been passed, or at the next one. -/
theorem throw {place first : Nat} {token : Token} {problem : SyntaxProblem}
    (notBefore : first ≤ place) (notBehind : place ≤ (cursorOf tokens rest low).place)
    (isToken : tokenAt tokens place = token) :
    FollowsFrom tokens distance first alike
      ((MonadExcept.throw (Stop.error place problem) : Reader β).outcome (cursorOf tokens rest low))
      (MonadExcept.throw ⟨token, problem⟩) rest low :=
  Ensures.throw ⟨place, rest, low, rfl, .refl rest, notBefore, notBehind, isToken, rfl⟩

/-- An error at the next token. -/
theorem throwHere (inside : rest <:+ tokens) {problem : SyntaxProblem} :
    Follows tokens distance alike
      ((Slice.failHere problem : Reader β).outcome (cursorOf tokens rest low))
      (MonadExcept.throw ⟨firstToken rest, problem⟩) rest low :=
  throw (Nat.le_refl _) (Nat.le_refl _) (tokenAt_cursorOf inside low)

theorem failHere (inside : rest <:+ tokens) {problem : SyntaxProblem} :
    Follows tokens distance alike
      ((Slice.failHere problem : Reader β).outcome (cursorOf tokens rest low))
      (Grammar.failHere problem) rest low := by
  have thrown : Follows tokens distance alike
      ((Slice.failHere problem : Reader β).outcome (cursorOf tokens rest low))
      (MonadExcept.throw ⟨firstToken rest, problem⟩) rest low := throwHere inside
  exact thrown

/-- A parser that is followed, and what goes on from what it found. -/
theorem bindFrom {first : Nat} (inside : rest <:+ tokens)
    (start : FollowsFrom tokens distance first alike (reader.outcome (cursorOf tokens rest low))
      parser rest low)
    (goesOn : ∀ value valueToo restToo high,
      parser ⟨rest, distance + low⟩ = .ok value ⟨restToo, distance + high⟩ →
      restToo <:+ tokens → restToo.length ≤ rest.length → alike value valueToo →
      FollowsFrom tokens distance first alikeToo
        ((goOn valueToo).outcome (cursorOf tokens restToo high)) (next value) restToo high) :
    FollowsFrom tokens distance first alikeToo
      ((reader >>= goOn).outcome (cursorOf tokens rest low)) (parser >>= next) rest low := by
  cases ended : parser ⟨rest, distance + low⟩ with
  | ok value after =>
    obtain ⟨valueToo, restToo, high, rfl, fewer, same, isOutcome⟩ := Ensures.ok start ended
    have follows :=
      goesOn value valueToo restToo high ended (fewer.suffix.trans inside) fewer.length_le same
    unfold FollowsFrom Ensures at follows ⊢
    rw [bind_ok ended, outcome_ok isOutcome]
    split at follows
    · obtain ⟨found, last, highest, isLast, fewest, sameToo, isEnd⟩ := follows
      exact ⟨found, last, highest, isLast, fewest.trans fewer, sameToo, isEnd⟩
    · obtain ⟨place, last, highest, isLast, fewest, others⟩ := follows
      exact ⟨place, last, highest, isLast, fewest.trans fewer, others⟩
  | error error after =>
    obtain ⟨place, restToo, high, rfl, fewer, notBefore, notBehind, isToken, isOutcome⟩ :=
      Ensures.error start ended
    unfold FollowsFrom Ensures
    rw [bind_error ended, outcome_error isOutcome]
    exact ⟨place, restToo, high, rfl, fewer, notBefore, notBehind, isToken, rfl⟩

/-- What is not reported before a place is not reported before an earlier one. -/
theorem earlier {first firstToo : Nat} {outcome : Option (Except Stop β × Cursor)}
    (follows : FollowsFrom tokens distance first alike outcome parser rest low)
    (before : firstToo ≤ first) :
    FollowsFrom tokens distance firstToo alike outcome parser rest low := by
  refine Ensures.mono follows (fun _ _ found => found) ?_
  rintro error after ⟨place, restToo, high, isAfter, fewer, notBefore, others⟩
  exact ⟨place, restToo, high, isAfter, fewer, Nat.le_trans before notBefore, others⟩

theorem mono {alikeToo : α → β → Prop} {first : Nat} {outcome : Option (Except Stop β × Cursor)}
    (follows : FollowsFrom tokens distance first alike outcome parser rest low)
    (weaker : ∀ value valueToo, alike value valueToo → alikeToo value valueToo) :
    FollowsFrom tokens distance first alikeToo outcome parser rest low := by
  refine Ensures.mono follows ?_ fun _ _ failed => failed
  rintro value after ⟨valueToo, restToo, high, isAfter, fewer, same, ended⟩
  exact ⟨valueToo, restToo, high, isAfter, fewer, weaker value valueToo same, ended⟩

theorem bind (inside : rest <:+ tokens)
    (start : Follows tokens distance alike (reader.outcome (cursorOf tokens rest low)) parser rest
      low)
    (goesOn : ∀ value valueToo restToo high,
      parser ⟨rest, distance + low⟩ = .ok value ⟨restToo, distance + high⟩ →
      restToo <:+ tokens → restToo.length ≤ rest.length → alike value valueToo →
      Follows tokens distance alikeToo ((goOn valueToo).outcome (cursorOf tokens restToo high))
        (next value) restToo high) :
    Follows tokens distance alikeToo ((reader >>= goOn).outcome (cursorOf tokens rest low))
      (parser >>= next) rest low := by
  refine start.bindFrom inside ?_
  intro value valueToo restToo high ended insideToo fewer same
  refine (goesOn value valueToo restToo high ended insideToo fewer same).earlier ?_
  exact Nat.sub_le_sub_left fewer _

/-- A step that both take. -/
theorem step {value : α} {valueToo : β} {restToo : List Token} {high : Reference}
    (inside : rest <:+ tokens)
    (parsed : parser ⟨rest, distance + low⟩ = .ok value ⟨restToo, distance + high⟩)
    (fewer : Remains restToo rest)
    (read : reader.outcome (cursorOf tokens rest low) =
      some (.ok valueToo, cursorOf tokens restToo high))
    (follows : Follows tokens distance alikeToo
      ((goOn valueToo).outcome (cursorOf tokens restToo high)) (next value) restToo high) :
    Follows tokens distance alikeToo ((reader >>= goOn).outcome (cursorOf tokens rest low))
      (parser >>= next) rest low := by
  have start : Follows tokens distance (fun found foundToo => found = value ∧ foundToo = valueToo)
      (reader.outcome (cursorOf tokens rest low)) parser rest low :=
    Ensures.of_ok parsed ⟨valueToo, restToo, high, rfl, fewer, ⟨rfl, rfl⟩, read⟩
  refine start.bind inside ?_
  rintro _ _ _ _ again _ _ ⟨rfl, rfl⟩
  obtain ⟨rfl, same⟩ := State.mk.inj (EStateM.Result.ok.inj (parsed.symm.trans again)).2
  obtain rfl := Nat.add_left_cancel same
  exact follows

/-- Another parser that ends likewise. -/
theorem congr {first : Nat} {parserToo : Parser α} {outcome : Option (Except Stop β × Cursor)}
    (parsed : parser ⟨rest, distance + low⟩ = parserToo ⟨rest, distance + low⟩)
    (follows : FollowsFrom tokens distance first alike outcome parserToo rest low) :
    FollowsFrom tokens distance first alike outcome parser rest low := by
  unfold FollowsFrom Ensures at follows ⊢
  rw [parsed]
  exact follows

/-- A token that the reader takes by itself. -/
theorem readerTakesFrom {first : Nat} {valueToo : β} {parser parserToo : Parser γ} {token : Token}
    (more : token.isEnd = false)
    (read : reader.outcome (cursorOf tokens (token :: rest) low) =
      some (.ok valueToo, cursorOf tokens rest low))
    (parsed : parser ⟨token :: rest, distance + low⟩ = parserToo ⟨rest, distance + low⟩)
    (follows : FollowsFrom tokens distance first alikeToo
      ((goOn valueToo).outcome (cursorOf tokens rest low)) parserToo rest low) :
    FollowsFrom tokens distance first alikeToo
      ((reader >>= goOn).outcome (cursorOf tokens (token :: rest) low)) parser (token :: rest)
      low := by
  unfold FollowsFrom Ensures at follows ⊢
  rw [parsed, outcome_ok read]
  split at follows
  · obtain ⟨found, last, highest, isLast, fewer, others⟩ := follows
    exact ⟨found, last, highest, isLast, fewer.trans (.cons more), others⟩
  · obtain ⟨place, last, highest, isLast, fewer, others⟩ := follows
    exact ⟨place, last, highest, isLast, fewer.trans (.cons more), others⟩

theorem readerTakes {valueToo : β} {parser parserToo : Parser γ} {token : Token}
    (more : token.isEnd = false)
    (read : reader.outcome (cursorOf tokens (token :: rest) low) =
      some (.ok valueToo, cursorOf tokens rest low))
    (parsed : parser ⟨token :: rest, distance + low⟩ = parserToo ⟨rest, distance + low⟩)
    (follows : Follows tokens distance alikeToo
      ((goOn valueToo).outcome (cursorOf tokens rest low)) parserToo rest low) :
    Follows tokens distance alikeToo
      ((reader >>= goOn).outcome (cursorOf tokens (token :: rest) low)) parser (token :: rest)
      low :=
  readerTakesFrom more read parsed (follows.earlier (Nat.sub_le_sub_left (Nat.le_succ _) _))

/-- A step of the reader alone. -/
theorem readerStep {first : Nat} {valueToo : β} {parser : Parser γ}
    (read : reader.outcome (cursorOf tokens rest low) =
      some (.ok valueToo, cursorOf tokens rest low))
    (follows : FollowsFrom tokens distance first alikeToo
      ((goOn valueToo).outcome (cursorOf tokens rest low)) parser rest low) :
    FollowsFrom tokens distance first alikeToo
      ((reader >>= goOn).outcome (cursorOf tokens rest low)) parser rest low := by
  rw [outcome_ok read]
  exact follows

/-- A look of the parser alone. -/
theorem parserStep {first : Nat} {value : α} {outcome : Option (Except Stop δ × Cursor)}
    (looked : parser ⟨rest, distance + low⟩ = .ok value ⟨rest, distance + low⟩)
    (follows : FollowsFrom tokens distance first alikeToo outcome (next value) rest low) :
    FollowsFrom tokens distance first alikeToo outcome (parser >>= next) rest low :=
  .congr (bind_ok looked) follows

/-! ### Single tokens -/

theorem peek_bind {next : Token → Parser γ} {goOn : Token → Reader δ} (inside : rest <:+ tokens)
    (follows : Follows tokens distance alikeToo
      ((goOn (firstToken rest)).outcome (cursorOf tokens rest low)) (next (firstToken rest)) rest
      low) :
    Follows tokens distance alikeToo ((peek tokens >>= goOn).outcome (cursorOf tokens rest low))
      (Grammar.peek >>= next) rest low :=
  step inside rfl (.refl rest) (peek_outcome inside) follows

theorem nextIs_bind {next : Bool → Parser γ} {goOn : Bool → Reader δ} (mark : Mark)
    (inside : rest <:+ tokens)
    (follows : Follows tokens distance alikeToo
      ((goOn ((firstToken rest).isMark mark)).outcome (cursorOf tokens rest low))
      (next ((firstToken rest).isMark mark)) rest low) :
    Follows tokens distance alikeToo
      ((check tokens (·.isMark mark) >>= goOn).outcome (cursorOf tokens rest low))
      (nextIs mark >>= next) rest low :=
  step inside rfl (.refl rest) (check_outcome inside _ (isMark_end mark) low) follows

/-- A token that is no end is taken by both. -/
theorem advance_bind {next : Unit → Parser γ} {goOn : Nat → Reader δ} {token : Token}
    (inside : token :: rest <:+ tokens) (more : token.isEnd = false)
    (follows : Follows tokens distance alikeToo
      ((goOn ((cursorOf tokens rest low).place - 1)).outcome (cursorOf tokens rest low))
      (next ()) rest low) :
    Follows tokens distance alikeToo
      ((advance tokens >>= goOn).outcome (cursorOf tokens (token :: rest) low))
      (Grammar.advance >>= next) (token :: rest) low :=
  step inside rfl (.cons more) (advance_outcome inside more) follows

/-- A mark is taken by both where it stands. -/
theorem accept_bind {next : Bool → Parser γ} {goOn : Bool → Reader δ} (mark : Mark)
    (inside : rest <:+ tokens)
    (taken : ∀ (sign : Sign mark) tail, rest = sign.token :: tail →
      Follows tokens distance alikeToo ((goOn true).outcome (cursorOf tokens tail low)) (next true)
        tail low)
    (other : (firstToken rest).isMark mark = false →
      Follows tokens distance alikeToo ((goOn false).outcome (cursorOf tokens rest low))
        (next false) rest low) :
    Follows tokens distance alikeToo
      ((accept tokens mark >>= goOn).outcome (cursorOf tokens rest low))
      (Grammar.accept mark >>= next) rest low := by
  cases isMark : (firstToken rest).isMark mark with
  | true =>
    obtain ⟨sign, tail, rfl⟩ := eq_sign_cons isMark
    exact step inside (Grammar.accept_sign sign tail _) (.cons rfl)
      (Slice.accept_sign sign inside) (taken sign tail rfl)
  | false =>
    exact step inside (Grammar.accept_other isMark) (.refl rest)
      (Slice.accept_other inside isMark) (other isMark)

/-- A token that both expect. -/
theorem expectToken_bind {next : α → Parser γ} {goOn : Nat → Reader δ} {wanted : Token → Bool}
    {problem : SyntaxProblem} (found : Token → α) (inside : rest <:+ tokens)
    (noEnd : ∀ token : Token, token.isEnd = true → wanted token = false)
    (looked : ∀ state, parser state = (if wanted (firstToken state.rest) then
      (do Grammar.advance; return found (firstToken state.rest))
        else MonadExcept.throw ⟨firstToken state.rest, problem⟩ : Parser α) state)
    (taken : ∀ token tail, rest = token :: tail → wanted token = true →
      Follows tokens distance alikeToo
        ((goOn ((cursorOf tokens tail low).place - 1)).outcome (cursorOf tokens tail low))
        (next (found token)) tail low) :
    Follows tokens distance alikeToo
      ((expectToken tokens wanted problem >>= goOn).outcome (cursorOf tokens rest low))
      (parser >>= next) rest low := by
  have checked := check_outcome inside wanted noEnd low
  have parsed := looked ⟨rest, distance + low⟩
  cases isWanted : wanted (firstToken rest) with
  | true =>
    have more : (firstToken rest).isEnd = false := by
      cases isEnd : (firstToken rest).isEnd with
      | false => rfl
      | true => exact absurd isWanted (Bool.eq_false_iff.mp (noEnd _ isEnd))
    obtain ⟨token, tail, rfl⟩ : ∃ token tail, rest = token :: tail :=
      ⟨_, _, eq_cons_of_not_end more⟩
    rw [show wanted (firstToken (token :: tail)) = true from isWanted] at parsed
    refine step inside parsed (.cons more) ?_ (taken token tail rfl isWanted)
    refine (outcome_ok checked).trans ?_
    rw [isWanted]
    exact advance_outcome inside more
  | false =>
    rw [show wanted (firstToken (State.mk rest (distance + low)).rest) = false from isWanted]
      at parsed
    have failed : (expectToken tokens wanted problem).outcome (cursorOf tokens rest low) =
        some (.error (.error (cursorOf tokens rest low).place problem),
          cursorOf tokens rest low) := by
      refine (outcome_ok checked).trans ?_
      rw [isWanted]
      rfl
    have start : Follows tokens distance (fun (_ : α) (_ : Nat) => False)
        ((expectToken tokens wanted problem).outcome (cursorOf tokens rest low)) parser rest low :=
      Ensures.of_error parsed ⟨_, rest, low, rfl, .refl rest, Nat.le_refl _,
        Nat.le_refl _, tokenAt_cursorOf inside low, failed⟩
    exact start.bind inside fun _ _ _ _ _ _ _ impossible => impossible.elim

/-- A mark that both expect. -/
theorem expect_bind {next : Token → Parser γ} {goOn : Token → Reader δ} (mark : Mark)
    (role : String) (inside : rest <:+ tokens)
    (taken : ∀ (sign : Sign mark) tail, rest = sign.token :: tail →
      Follows tokens distance alikeToo ((goOn sign.token).outcome (cursorOf tokens tail low))
        (next sign.token) tail low) :
    Follows tokens distance alikeToo
      ((expect tokens mark role >>= goOn).outcome (cursorOf tokens rest low))
      (Grammar.expect mark role >>= next) rest low := by
  have assoc : (expect tokens mark role >>= goOn) =
      expectToken tokens (·.isMark mark) (.missingMark mark role) >>= fun place =>
        goOn (tokenAt tokens place) := by
    unfold expect
    simp only [bind_assoc, pure_bind]
  rw [assoc]
  refine expectToken_bind id inside (isMark_end mark) (fun _ => rfl) ?_
  rintro token tail rfl isMark
  obtain ⟨sign, rfl⟩ := eq_sign (kind_of_isMark isMark)
  rw [tokenAt_previous inside]
  exact taken sign tail rfl

/-- A name that both expect. -/
theorem expectName_bind {next : Identifier → Parser γ} {goOn : Identifier → Reader δ}
    (role : String) (inside : rest <:+ tokens)
    (taken : ∀ token tail, rest = token :: tail →
      Follows tokens distance alikeToo
        ((goOn token.toIdentifier).outcome (cursorOf tokens tail low)) (next token.toIdentifier)
        tail low) :
    Follows tokens distance alikeToo
      ((expectName tokens role >>= goOn).outcome (cursorOf tokens rest low))
      (Grammar.expectName role >>= next) rest low := by
  have assoc : (expectName tokens role >>= goOn) =
      expectToken tokens Token.isIdentifier (.missingName role) >>= fun place =>
        goOn (tokenAt tokens place).toIdentifier := by
    unfold expectName
    simp only [bind_assoc, pure_bind]
  rw [assoc]
  refine expectToken_bind Token.toIdentifier inside isIdentifier_end (fun _ => rfl) ?_
  rintro token tail rfl _
  rw [tokenAt_previous inside]
  exact taken token tail rfl

/-- A reference that both draw. -/
theorem freshReference_bind {next : Reference → Parser γ} {goOn : Reference → Reader δ}
    (inside : rest <:+ tokens)
    (follows : Follows tokens distance alikeToo
      ((goOn low).outcome (cursorOf tokens rest (low + 1))) (next (distance + low)) rest
      (low + 1)) :
    Follows tokens distance alikeToo
      ((freshReference >>= goOn).outcome (cursorOf tokens rest low))
      (Grammar.freshReference >>= next) rest low :=
  step inside rfl (.refl rest) rfl follows

/-- The word that was taken last, which the parser has kept. -/
theorem lastWord_bind {parser : Parser γ} {goOn : Identifier → Reader δ} {token : Token}
    (inside : token :: rest <:+ tokens)
    (follows : Follows tokens distance alikeToo
      ((goOn token.toIdentifier).outcome (cursorOf tokens rest low)) parser rest low) :
    Follows tokens distance alikeToo
      ((lastWord tokens >>= goOn).outcome (cursorOf tokens rest low)) parser rest low := by
  refine readerStep ?_ follows
  refine (outcome_ok (previous_outcome inside)).trans ?_
  rw [tokenAt_previous inside]
  rfl

end FollowsFrom

/-! ### Recovery -/

theorem skipToStatement_outcome {token : Token} (inside : token :: rest <:+ tokens) :
    (skipToStatement tokens).outcome (cursorOf tokens rest low) =
      some (.ok (), cursorOf tokens (Grammar.skipToStatement token rest) low) := by
  induction rest generalizing token with
  | nil =>
    rw [skipToStatement]
    exact outcome_ok (endsHere_outcome (tail_inside inside))
  | cons first rest inductionHypothesis =>
    have insideToo := tail_inside inside
    rw [skipToStatement, Grammar.skipToStatement]
    refine (outcome_ok (endsHere_outcome insideToo)).trans ?_
    rw [show atEnd (first :: rest) = first.isEnd from rfl]
    cases isEnd : first.isEnd with
    | true => rfl
    | false =>
      refine (outcome_ok (previous_outcome inside)).trans ?_
      rw [tokenAt_previous inside]
      cases isSemicolon : token.isMark .semicolon with
      | true => rfl
      | false =>
        refine (outcome_ok (peek_outcome insideToo)).trans ?_
        rw [show firstToken (first :: rest) = first from rfl]
        cases begins : beginsStatement first with
        | true => rfl
        | false =>
          refine (outcome_ok (advance_outcome insideToo isEnd)).trans ?_
          exact inductionHypothesis insideToo

/-- Recovery looks at the token before the cursor, so there has to be one. -/
theorem synchronize_outcome (inside : rest <:+ tokens) (nonempty : tokens ≠ [])
    (low : Reference) :
    (synchronize tokens).outcome (cursorOf tokens rest low) =
      some (.ok (), cursorOf tokens (Grammar.synchronize rest) low) := by
  have atRest (ended : atEnd rest = true) :
      (synchronize tokens).outcome (cursorOf tokens rest low) =
        some (.ok (), cursorOf tokens rest low) := by
    refine (outcome_ok (advance_end inside nonempty ended)).trans ?_
    rw [skipToStatement]
    refine (outcome_ok (endsHere_outcome inside)).trans ?_
    rw [ended]
    rfl
  cases rest with
  | nil => exact atRest rfl
  | cons first rest =>
    rw [Grammar.synchronize]
    cases isEnd : first.isEnd with
    | true => exact atRest isEnd
    | false =>
      exact (outcome_ok (advance_outcome inside isEnd)).trans (skipToStatement_outcome inside)

end Lox.Grammar.Slice
