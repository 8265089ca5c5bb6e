/-
What a parser does to its tokens: it takes some off the front, never an end token, and draws
references in order. Facts of this kind about the small parsers are collected here, so that the
larger ones can be gone through step by step.
-/

import Lox.Proofs.Ensures
import Lox.Proofs.Tree.Shape

namespace Lox.Grammar

/-! ### Later states -/

/-- The parser has gone on from one state to the other: tokens were taken and references drawn. -/
structure State.Later (before after : State) : Prop where
  rest : after.rest <:+ before.rest
  references : before.nextReference ≤ after.nextReference

theorem State.Later.refl (state : State) : state.Later state :=
  ⟨List.suffix_refl state.rest, Nat.le_refl _⟩

theorem State.Later.trans {first second third : State} (early : first.Later second)
    (late : second.Later third) : first.Later third :=
  ⟨late.rest.trans early.rest, Nat.le_trans early.references late.references⟩

/-- Tokens only get fewer. -/
theorem State.Later.length_le {before after : State} (later : before.Later after) :
    after.rest.length ≤ before.rest.length :=
  later.rest.length_le

/-! ### Parsers that go on -/

variable {α β : Type}

/-- From the state on, the parser goes on to a later state, and what it finds satisfies `found`. -/
def Goes (parser : Parser α) (state : State) (found : α → State → Prop) : Prop :=
  Ensures parser state (fun value after => state.Later after ∧ found value after)
    fun _ after => state.Later after

namespace Goes

variable {parser : Parser α} {next : α → Parser β} {state : State} {found : α → State → Prop}

theorem pure {value : α} (holds : found value state) : Goes (Pure.pure value) state found :=
  Ensures.pure ⟨State.Later.refl state, holds⟩

theorem throw {problem : SyntaxError} :
    Goes (MonadExcept.throw problem : Parser α) state found :=
  Ensures.throw (State.Later.refl state)

/-- A parser and the one that goes on from what it found. -/
theorem bind {first : α → State → Prop} {second : β → State → Prop}
    (start : Goes parser state first)
    (rest : ∀ value after, state.Later after → first value after →
      Goes (next value) after second) : Goes (parser >>= next) state second := by
  refine Ensures.bind (Ensures.mono start (fun _ _ holds => holds) fun _ _ holds => holds) ?_
  intro value after _ ⟨later, holds⟩
  exact Ensures.mono (rest value after later holds)
    (fun _ _ ⟨further, holds⟩ => ⟨later.trans further, holds⟩)
    fun _ _ further => later.trans further

theorem mono {weaker : α → State → Prop} (goes : Goes parser state found)
    (results : ∀ value after, state.Later after → found value after → weaker value after) :
    Goes parser state weaker :=
  Ensures.mono goes (fun value after ⟨later, holds⟩ => ⟨later, results value after later holds⟩)
    fun _ _ later => later

/-- Looking at the next token changes nothing. -/
theorem peek_bind {next : Token → Parser β} {found : β → State → Prop}
    (rest : Goes (next (firstToken state.rest)) state found) :
    Goes (peek >>= next) state found :=
  rest

/-- Looking at the state changes nothing. -/
theorem get_bind {next : State → Parser β} {found : β → State → Prop}
    (rest : Goes (next state) state found) : Goes (MonadState.get >>= next) state found :=
  rest

/-- Looking for a mark changes nothing. -/
theorem nextIs_bind {mark : Mark} {next : Bool → Parser β} {found : β → State → Prop}
    (rest : Goes (next ((firstToken state.rest).isMark mark)) state found) :
    Goes (nextIs mark >>= next) state found :=
  rest

end Goes

/-! ### Single tokens -/

/-- A token that is not the end stands at the front of the tokens. -/
theorem eq_cons_of_not_end {tokens : List Token} (more : (firstToken tokens).isEnd = false) :
    tokens = firstToken tokens :: tokens.tail := by
  cases tokens with
  | nil => exact absurd more (by decide)
  | cons token rest => rfl

theorem tail_length_lt {tokens : List Token} (more : (firstToken tokens).isEnd = false) :
    tokens.tail.length < tokens.length := by
  rw [eq_cons_of_not_end more]
  exact Nat.lt_succ_self _

theorem firstToken_mem {tokens : List Token} (more : (firstToken tokens).isEnd = false) :
    firstToken tokens ∈ tokens := by
  rw [eq_cons_of_not_end more]
  exact List.mem_cons_self

theorem not_end_of_isMark {token : Token} {mark : Mark} (isMark : token.isMark mark = true) :
    token.isEnd = false := by
  unfold Token.isMark at isMark
  unfold Token.isEnd
  split at isMark <;> simp_all

theorem not_end_of_isIdentifier {token : Token} (isIdentifier : token.isIdentifier = true) :
    token.isEnd = false := by
  unfold Token.isIdentifier at isIdentifier
  unfold Token.isEnd
  split at isIdentifier <;> simp_all

theorem isMark_end (mark : Mark) (token : Token) (ended : token.isEnd = true) :
    token.isMark mark = false := by
  cases isMark : token.isMark mark with
  | false => rfl
  | true => exact absurd ended (Bool.eq_false_iff.mp (not_end_of_isMark isMark))

theorem isIdentifier_end (token : Token) (ended : token.isEnd = true) :
    token.isIdentifier = false := by
  cases isName : token.isIdentifier with
  | false => rfl
  | true => exact absurd ended (Bool.eq_false_iff.mp (not_end_of_isIdentifier isName))

theorem isMark_of_kind {token : Token} {mark : Mark} (kind : token.kind = .mark mark) :
    token.isMark mark = true := by
  unfold Token.isMark
  rw [kind]
  exact beq_self_eq_true mark

theorem isIdentifier_of_kind {token : Token} (kind : token.kind = .identifier) :
    token.isIdentifier = true := by
  unfold Token.isIdentifier
  rw [kind]

namespace Goes

variable {state : State}

/-- Taking the next token leaves the others. -/
theorem advance : Goes Grammar.advance state fun _ after =>
    after.rest = state.rest.tail ∧ after.nextReference = state.nextReference :=
  Ensures.of_ok rfl ⟨⟨List.tail_suffix state.rest, Nat.le_refl _⟩, rfl, rfl⟩

theorem accept (mark : Mark) : Goes (Grammar.accept mark) state fun accepted after =>
    after.nextReference = state.nextReference ∧
      (accepted = true → after.rest.length < state.rest.length) ∧
      (accepted = false → after = state) := by
  refine nextIs_bind ?_
  cases isMark : (firstToken state.rest).isMark mark with
  | true =>
    refine advance.bind fun _ after _ ⟨rest, references⟩ => pure ⟨references, fun _ => ?_, nofun⟩
    rw [rest]
    exact tail_length_lt (not_end_of_isMark isMark)
  | false => exact pure ⟨rfl, nofun, fun _ => rfl⟩

theorem expect (mark : Mark) (role : String) :
    Goes (Grammar.expect mark role) state fun token after =>
      after.nextReference = state.nextReference ∧ after.rest.length < state.rest.length ∧
        token ∈ state.rest := by
  refine peek_bind ?_
  split
  · rename_i isMark
    have more := not_end_of_isMark isMark
    refine advance.bind fun _ after _ ⟨rest, references⟩ =>
      pure ⟨references, ?_, firstToken_mem more⟩
    rw [rest]
    exact tail_length_lt more
  · exact throw

theorem expectName (role : String) :
    Goes (Grammar.expectName role) state fun name after =>
      after.nextReference = state.nextReference ∧ after.rest.length < state.rest.length ∧
        ∃ token ∈ state.rest, token.isIdentifier = true ∧ name = token.toIdentifier := by
  refine peek_bind ?_
  split
  · rename_i isIdentifier
    have more := not_end_of_isIdentifier isIdentifier
    refine advance.bind fun _ after _ ⟨rest, references⟩ =>
      pure ⟨references, ?_, _, firstToken_mem more, isIdentifier, rfl⟩
    rw [rest]
    exact tail_length_lt more
  · exact throw

theorem freshReference : Goes Grammar.freshReference state fun reference after =>
    reference = state.nextReference ∧ after.nextReference = state.nextReference + 1 ∧
      after.rest = state.rest :=
  Ensures.of_ok rfl ⟨⟨List.suffix_refl state.rest, Nat.le_succ _⟩, rfl, rfl, rfl⟩

theorem failHere {α : Type} {problem : SyntaxProblem} {found : α → State → Prop} :
    Goes (Grammar.failHere problem : Parser α) state found :=
  peek_bind throw

end Goes

end Lox.Grammar
