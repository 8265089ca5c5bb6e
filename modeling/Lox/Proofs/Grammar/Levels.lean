/-
The levels of operators, as the parsers have them and as the grammar has them. The parsers tell a
level by its function, the grammar by its tier; they agree on which tokens are operators of a level
and on what an operator makes of its operands.
-/

import Lox.Grammar.Program
import Lox.Proofs.Grammar.Derivation
import Lox.Proofs.Grammar.Progress

namespace Lox.Grammar

/-! ### The parsers of a depth -/

/-- The parsers of the phrases that are nested in one at the given depth. -/
def nested (depth : Nat) : Phrases :=
  ⟨depth + 1, expression depth, statement depth, declaration depth⟩

/-- The parser of the operands of a level. -/
def Phrases.operands (phrases : Phrases) : Option Tier → Parser Expression
  | some .disjunction => phrases.disjunction
  | some .conjunction => phrases.conjunction
  | some .equality => phrases.equality
  | some .comparison => phrases.comparison
  | some .term => phrases.term
  | some .factor => phrases.factor
  | none => phrases.unary

/-- How the parser joins operands at a token. -/
def Tier.join? : Tier → Token → Option (Expression → Expression → Expression)
  | .disjunction => Phrases.logicalJoin? .orWord .or
  | .conjunction => Phrases.logicalJoin? .andWord .and
  | .equality => Phrases.Level.join? Phrases.equalityLevel
  | .comparison => Phrases.Level.join? Phrases.comparisonLevel
  | .term => Phrases.Level.join? Phrases.termLevel
  | .factor => Phrases.Level.join? Phrases.factorLevel

theorem Phrases.operands_some (phrases : Phrases) (tier : Tier) :
    phrases.operands (some tier) =
      leftAssociative (phrases.operands tier.tighter) tier.join? phrases.limit := by
  cases tier <;> rfl

/-- The operators of a level are those that the parser looks for there. -/
theorem Operator.join?_token {tier : Tier} (operator : Operator tier)
    (sign : Sign operator.mark) :
    tier.join? sign.token = some fun left right => operator.join sign.line left right := by
  cases operator <;> rfl

theorem unaryOperator?_token (operator : UnaryOperator) (sign : Sign operator.mark) :
    Phrases.unaryOperator? sign.token = some operator := by
  cases operator <;> rfl

theorem kind_of_isMark {token : Token} {mark : Mark} (isMark : token.isMark mark = true) :
    token.kind = .mark mark := by
  unfold Token.isMark at isMark
  split at isMark
  · rename_i other kind
    rw [kind, eq_of_beq isMark]
  · exact nomatch isMark

/-- A token with the kind of a mark is a sign. -/
theorem eq_sign {token : Token} {mark : Mark} (kind : token.kind = .mark mark) :
    ∃ sign : Sign mark, token = sign.token := by
  obtain ⟨_, lexeme, line⟩ := token
  cases kind
  exact ⟨⟨lexeme, line⟩, rfl⟩

theorem unaryOperator?_some {token : Token} {operator : UnaryOperator}
    (isOperator : Phrases.unaryOperator? token = some operator) :
    ∃ sign : Sign operator.mark, token = sign.token := by
  unfold Phrases.unaryOperator? at isOperator
  split at isOperator <;> cases isOperator <;> rename_i kind <;> exact eq_sign kind

theorem logicalJoin?_some {mark : Mark} {operator : LogicalOperator} {token : Token}
    {join : Expression → Expression → Expression}
    (joins : Phrases.logicalJoin? mark operator token = some join) :
    (∃ sign : Sign mark, token = sign.token) ∧ join = .logical operator := by
  unfold Phrases.logicalJoin? at joins
  split at joins
  · rename_i isMark
    exact ⟨eq_sign (kind_of_isMark isMark), (Option.some.inj joins).symm⟩
  · exact nomatch joins

/-- There are no other operators than those of the grammar. -/
theorem Tier.join?_some {tier : Tier} {token : Token}
    {join : Expression → Expression → Expression} (joins : tier.join? token = some join) :
    ∃ (operator : Operator tier) (sign : Sign operator.mark), token = sign.token ∧
      join = fun left right => operator.join sign.line left right := by
  cases tier with
  | disjunction =>
    obtain ⟨⟨sign, rfl⟩, rfl⟩ := logicalJoin?_some joins
    exact ⟨.or, sign, rfl, rfl⟩
  | conjunction =>
    obtain ⟨⟨sign, rfl⟩, rfl⟩ := logicalJoin?_some joins
    exact ⟨.and, sign, rfl, rfl⟩
  | equality =>
    obtain ⟨operator, isOperator, rfl⟩ := Option.map_eq_some_iff.mp joins
    unfold Phrases.equalityLevel at isOperator
    split at isOperator <;> cases isOperator <;> rename_i kind <;>
      obtain ⟨sign, rfl⟩ := eq_sign kind
    · exact ⟨.notEqual, sign, rfl, rfl⟩
    · exact ⟨.equal, sign, rfl, rfl⟩
  | comparison =>
    obtain ⟨operator, isOperator, rfl⟩ := Option.map_eq_some_iff.mp joins
    unfold Phrases.comparisonLevel at isOperator
    split at isOperator <;> cases isOperator <;> rename_i kind <;>
      obtain ⟨sign, rfl⟩ := eq_sign kind
    · exact ⟨.greater, sign, rfl, rfl⟩
    · exact ⟨.greaterEqual, sign, rfl, rfl⟩
    · exact ⟨.less, sign, rfl, rfl⟩
    · exact ⟨.lessEqual, sign, rfl, rfl⟩
  | term =>
    obtain ⟨operator, isOperator, rfl⟩ := Option.map_eq_some_iff.mp joins
    unfold Phrases.termLevel at isOperator
    split at isOperator <;> cases isOperator <;> rename_i kind <;>
      obtain ⟨sign, rfl⟩ := eq_sign kind
    · exact ⟨.subtract, sign, rfl, rfl⟩
    · exact ⟨.add, sign, rfl, rfl⟩
  | factor =>
    obtain ⟨operator, isOperator, rfl⟩ := Option.map_eq_some_iff.mp joins
    unfold Phrases.factorLevel at isOperator
    split at isOperator <;> cases isOperator <;> rename_i kind <;>
      obtain ⟨sign, rfl⟩ := eq_sign kind
    · exact ⟨.divide, sign, rfl, rfl⟩
    · exact ⟨.multiply, sign, rfl, rfl⟩

/-! ### What goes on with a phrase -/

/-- How tightly a token holds what is before it: not at all if it goes on with no expression. -/
def tightness (token : Token) : Nat :=
  match token.kind with
  | .mark .equal => 1
  | .mark .orWord => 2
  | .mark .andWord => 3
  | .mark .bangEqual | .mark .equalEqual => 4
  | .mark .greater | .mark .greaterEqual | .mark .less | .mark .lessEqual => 5
  | .mark .minus | .mark .plus => 6
  | .mark .slash | .mark .star => 7
  | .mark .leftParen | .mark .dot => 8
  | _ => 0

/-- How tightly the operators of a level hold; those before an operand hold tighter than all between
operands. -/
def level : Option Tier → Nat
  | some .disjunction => 2
  | some .conjunction => 3
  | some .equality => 4
  | some .comparison => 5
  | some .term => 6
  | some .factor => 7
  | none => 8

theorem level_tighter (tier : Tier) : level tier.tighter = level (some tier) + 1 := by
  cases tier <;> rfl

theorem Operator.tightness_token {tier : Tier} (operator : Operator tier)
    (sign : Sign operator.mark) : tightness sign.token = level (some tier) := by
  cases operator <;> rfl

/-- The tokens do not go on with a phrase whose parts are held as tightly as that. -/
def Ends (tight : Nat) (rest : List Token) : Prop :=
  tightness (firstToken rest) < tight

theorem Ends.mono {tight tighter : Nat} {rest : List Token} (ends : Ends tight rest)
    (less : tight ≤ tighter) : Ends tighter rest :=
  Nat.lt_of_lt_of_le ends less

/-- What holds looser is another token. -/
theorem Ends.not_mark {tight : Nat} {rest : List Token} (ends : Ends tight rest) (mark : Mark)
    (holds : ∀ token : Token, token.kind = .mark mark → tight ≤ tightness token) :
    (firstToken rest).isMark mark = false := by
  cases isMark : (firstToken rest).isMark mark with
  | false => rfl
  | true => exact absurd ends (Nat.not_lt.mpr (holds _ (kind_of_isMark isMark)))

theorem Ends.join?_none {tier : Tier} {rest : List Token} (ends : Ends (level (some tier)) rest) :
    tier.join? (firstToken rest) = none := by
  cases joins : tier.join? (firstToken rest) with
  | none => rfl
  | some join =>
    obtain ⟨operator, sign, isSign, _⟩ := Tier.join?_some joins
    refine absurd ends (Nat.not_lt.mpr (Nat.le_of_eq ?_))
    rw [isSign, operator.tightness_token]

end Lox.Grammar
