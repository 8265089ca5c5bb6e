/-
What it means that a parser reads phrases as they should be: their trees have the shape that all
trees have, their words are words of the tokens, and their references are fresh, each drawn while
the phrase was read. The parsers that repeat another one are gone through here.
-/

import Lox.Proofs.Grammar.Progress

namespace Lox

/-! ### Words of tokens -/

/-- A token whose word, as the name or keyword it is, and whose line are in the vocabulary. -/
structure Vocabulary.Admits (words : Vocabulary) (token : Token) : Prop where
  name : token.isIdentifier = true → words.name token.toIdentifier
  this : token.isMark .thisWord = true → words.this token.toIdentifier
  super : token.isMark .superWord = true → words.super token.toIdentifier
  line : words.line token.line

/-- Every one of the tokens is admitted. -/
def Vocabulary.AdmitsAll (words : Vocabulary) (tokens : List Token) : Prop :=
  ∀ token ∈ tokens, words.Admits token

/-- The vocabulary of all words and lines. -/
def Vocabulary.any : Vocabulary :=
  ⟨fun _ => True, fun _ => True, fun _ => True, fun _ => True⟩

theorem Vocabulary.any_admitsAll (tokens : List Token) : Vocabulary.any.AdmitsAll tokens :=
  fun _ _ => ⟨fun _ => trivial, fun _ => trivial, fun _ => trivial, trivial⟩

namespace Grammar

/-- What is admitted stays so as tokens are taken. -/
theorem State.Later.admits {words : Vocabulary} {before after : State} (later : before.Later after)
    (admitted : words.AdmitsAll before.rest) : words.AdmitsAll after.rest :=
  fun token member => admitted token (later.rest.subset member)

/-! ### Reading a part of a tree -/

variable {words : Vocabulary} {α : Type}

/-- What is found has its shape, and its references are fresh. -/
structure Grown (before after : State) (shaped : Prop) (references : List Reference) : Prop where
  shaped : shaped
  fresh : Fresh before.nextReference after.nextReference references

/-- A parser that, whatever admitted tokens it is given, finds things of the right shape with fresh
references. -/
def Grows (words : Vocabulary) (parser : Parser α) (shaped : α → Prop)
    (references : α → List Reference) : Prop :=
  ∀ state : State, words.AdmitsAll state.rest → Goes parser state fun value after =>
    Grown state after (shaped value) (references value)

/-- A parser that in addition takes at least one token. -/
def Reads (words : Vocabulary) (parser : Parser α) (shaped : α → Prop)
    (references : α → List Reference) : Prop :=
  ∀ state : State, words.AdmitsAll state.rest → Goes parser state fun value after =>
    after.rest.length < state.rest.length ∧ Grown state after (shaped value) (references value)

theorem Reads.grows {parser : Parser α} {shaped : α → Prop} {references : α → List Reference}
    (reads : Reads words parser shaped references) : Grows words parser shaped references :=
  fun state admitted => (reads state admitted).mono fun _ _ _ found => found.2

/-- An expression is read. -/
abbrev ReadsExpression (words : Vocabulary) (parser : Parser Expression) : Prop :=
  Reads words parser (Expression.Shaped words) Expression.references

/-- A statement is read. -/
abbrev ReadsStatement (words : Vocabulary) (parser : Parser Statement) : Prop :=
  Reads words parser (Statement.Shaped words) Statement.references

/-- A statement is read that declares nothing. -/
abbrev ReadsBranch (words : Vocabulary) (parser : Parser Statement) : Prop :=
  Reads words parser (fun statement => statement.isDeclaration = false ∧ statement.Shaped words)
    Statement.references

/-! ### Lists -/

theorem expressionAllShaped_iff (expressions : List Expression) :
    Expression.AllShaped words expressions ↔ ∀ one ∈ expressions, one.Shaped words := by
  induction expressions with
  | nil => simp [Expression.AllShaped]
  | cons first others inductionHypothesis => simp [Expression.AllShaped, inductionHypothesis]

theorem statementAllShaped_iff (statements : List Statement) :
    Statement.AllShaped words statements ↔ ∀ one ∈ statements, one.Shaped words := by
  induction statements with
  | nil => simp [Statement.AllShaped]
  | cons first others inductionHypothesis => simp [Statement.AllShaped, inductionHypothesis]

theorem methodAllShaped_iff (methods : List FunctionDeclaration) :
    FunctionDeclaration.AllShaped words methods ↔
      ∀ one ∈ methods, one.name.isSome ∧ one.Shaped words := by
  induction methods with
  | nil => simp [FunctionDeclaration.AllShaped]
  | cons first others inductionHypothesis =>
    simp [FunctionDeclaration.AllShaped, inductionHypothesis, and_assoc]

theorem expressionAllReferences_eq (expressions : List Expression) :
    Expression.allReferences expressions = expressions.flatMap Expression.references := by
  induction expressions with
  | nil => rfl
  | cons first others inductionHypothesis =>
    rw [Expression.allReferences, inductionHypothesis, List.flatMap_cons]

theorem statementAllReferences_eq (statements : List Statement) :
    Statement.allReferences statements = statements.flatMap Statement.references := by
  induction statements with
  | nil => rfl
  | cons first others inductionHypothesis =>
    rw [Statement.allReferences, inductionHypothesis, List.flatMap_cons]

theorem methodAllReferences_eq (methods : List FunctionDeclaration) :
    FunctionDeclaration.allReferences methods =
      methods.flatMap FunctionDeclaration.references := by
  induction methods with
  | nil => rfl
  | cons first others inductionHypothesis =>
    rw [FunctionDeclaration.allReferences, inductionHypothesis, List.flatMap_cons]

variable {entry : Parser α} {shaped : α → Prop} {references : α → List Reference}

/-- Entries between commas are read one after the other, no more of them than there is room for. -/
theorem commaSeparated_reads (entries : String) (reads : Reads words entry shaped references)
    (room : Nat) :
    Reads words (commaSeparated entries entry room)
      (fun found => (∀ one ∈ found, shaped one) ∧ found.length ≤ room)
      (fun found => found.flatMap references) := by
  induction room with
  | zero => exact fun state admitted => Goes.failHere
  | succ room inductionHypothesis =>
    intro state admitted
    refine (reads state admitted).bind fun first second secondLater ⟨shorter, grown⟩ => ?_
    refine (Goes.accept .comma).bind fun accepted third thirdLater ⟨drawn, taken, kept⟩ => ?_
    cases accepted with
    | true =>
      refine (inductionHypothesis third (thirdLater.admits (secondLater.admits admitted))).bind ?_
      intro others fourth fourthLater ⟨fewer, grownOthers⟩
      refine Goes.pure ⟨?_, ⟨?_, ?_⟩, ?_⟩
      · have takenLess := taken rfl
        omega
      · intro one member
        rcases List.mem_cons.mp member with rfl | inOthers
        · exact grown.shaped
        · exact grownOthers.shaped.1 one inOthers
      · exact Nat.succ_le_succ grownOthers.shaped.2
      · exact grown.fresh.append (drawn ▸ grownOthers.fresh)
    | false =>
      refine Goes.pure ⟨?_, ⟨?_, ?_⟩, ?_⟩
      · rw [kept rfl]
        exact shorter
      · intro one member
        rw [List.mem_singleton] at member
        subst member
        exact grown.shaped
      · exact Nat.succ_le_succ (Nat.zero_le room)
      · rw [kept rfl]
        simpa using grown.fresh

theorem entriesInside_grows (entries : String) (reads : Reads words entry shaped references) :
    Grows words (entriesInside entries entry)
      (fun found => (∀ one ∈ found, shaped one) ∧ found.length ≤ maximalEntries)
      (fun found => found.flatMap references) := by
  intro state admitted
  refine Goes.nextIs_bind ?_
  split
  · exact Goes.pure ⟨⟨fun _ member => absurd member List.not_mem_nil, Nat.zero_le _⟩,
      .nil (Nat.le_refl _)⟩
  · exact (commaSeparated_reads entries reads maximalEntries).grows state admitted

/-- A parenthesised list is read with its closing parenthesis, which is one of the tokens. -/
theorem parenthesised_reads (entries : String) (reads : Reads words entry shaped references) :
    Reads words (parenthesised entries entry)
      (fun found => ((∀ one ∈ found.1, shaped one) ∧ found.1.length ≤ maximalEntries) ∧
        words.line found.2.line)
      (fun found => found.1.flatMap references) := by
  intro state admitted
  refine (entriesInside_grows entries reads state admitted).bind ?_
  intro found second secondLater grown
  refine (Goes.expect .rightParen _).bind fun closing third _ ⟨drawn, shorter, member⟩ => ?_
  refine Goes.pure ⟨?_, ⟨grown.shaped, (secondLater.admits admitted closing member).line⟩, ?_⟩
  · have := secondLater.length_le
    omega
  · exact drawn ▸ grown.fresh

/-- What stands before a closing brace is read one after the other. -/
theorem untilBrace_grows (reads : Reads words entry shaped references) (limit : Nat) :
    Grows words (untilBrace entry limit) (fun found => ∀ one ∈ found, shaped one)
      (fun found => found.flatMap references) := by
  induction limit with
  | zero =>
    exact fun state _ => Goes.pure
      ⟨fun _ member => absurd member List.not_mem_nil, .nil (Nat.le_refl _)⟩
  | succ limit inductionHypothesis =>
    intro state admitted
    refine Goes.nextIs_bind (Goes.get_bind ?_)
    split
    · exact Goes.pure ⟨fun _ member => absurd member List.not_mem_nil, .nil (Nat.le_refl _)⟩
    · refine (reads state admitted).bind fun first second secondLater ⟨_, grown⟩ => ?_
      refine (inductionHypothesis second (secondLater.admits admitted)).bind ?_
      intro others third _ grownOthers
      refine Goes.pure ⟨?_, grown.fresh.append grownOthers.fresh⟩
      intro one member
      rcases List.mem_cons.mp member with rfl | inOthers
      · exact grown.shaped
      · exact grownOthers.shaped one inOthers

/-- Names are read without references. -/
theorem expectName_reads (role : String) :
    Reads words (expectName role) words.name fun _ => [] := by
  intro state admitted
  refine (Goes.expectName role).mono ?_
  intro name after _ ⟨drawn, shorter, token, member, isIdentifier, isToken⟩
  refine ⟨shorter, ?_, .nil (Nat.le_of_eq drawn.symm)⟩
  rw [isToken]
  exact (admitted token member).name isIdentifier

end Grammar

end Lox
