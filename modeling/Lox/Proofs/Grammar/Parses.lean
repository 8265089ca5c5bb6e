/-
Parses one after the other in one process, of programs and of lone expressions, with errors or
without. They draw their references from one supply, so no two occurrences of names in any of the
trees that come of them are the same, and what is recorded of one tree says nothing about another.
-/

import Lox.Proofs.Grammar.Program
import Lox.Proofs.Scope.Records
import Mathlib.Data.List.Pairwise

namespace Lox

open Scope

/-! ### Trees -/

/-- A tree that comes of a parse. -/
inductive Parsed where
  | program (statements : List Statement)
  | expression (expression : Expression)

namespace Parsed

/-- The references of all occurrences of names in the tree. -/
def references : Parsed → List Reference
  | .program statements => Statement.allReferences statements
  | .expression lone => lone.references

/-- Resolves the tree. -/
def resolve : Parsed → Except (List ScopeError) Distances
  | .program statements => resolveProgram statements
  | .expression lone => resolveExpression lone

/-- The table of a tree is about its own references. -/
theorem resolve_absent {tree : Parsed} {table : Distances} (accepted : tree.resolve = .ok table)
    {reference : Reference} (absent : reference ∉ tree.references) : table[reference]? = none := by
  cases tree with
  | program statements =>
    exact (walkStatements_records statements .topLevel).of_outcome accepted absent
  | expression lone =>
    exact (walkExpression_records lone .topLevel).of_outcome accepted absent

end Parsed

/-! ### Parses -/

namespace Grammar

/-- Tokens that are parsed, as a program or as a lone expression. -/
inductive Parse where
  | program (tokens : List Token)
  | expression (tokens : List Token)

namespace Parse

/-- The tree that comes of a parse. What was read of a program is a tree also where the rest of it
has errors. -/
def tree? (low : Reference) : Parse → Option Parsed
  | .program tokens => some (.program (statementsOf (parseItems tokens low).1))
  | .expression tokens => (parseExpression tokens low).1.toOption.map .expression

/-- The next unused reference behind a parse. -/
def next (low : Reference) : Parse → Reference
  | .program tokens => (parseProgram tokens low).2
  | .expression tokens => (parseExpression tokens low).2

/-- The trees of parses one after the other. -/
def trees (low : Reference) : List Parse → List Parsed
  | [] => []
  | parse :: others => (parse.tree? low).toList ++ trees (parse.next low) others

theorem parseProgram_next (tokens : List Token) (low : Reference) :
    (parseProgram tokens low).2 = (parseItems tokens low).2 := by
  unfold parseProgram
  dsimp only
  split <;> rfl

/-- A program without errors is the tree of its parse. -/
theorem tree?_program {tokens : List Token} {low high : Reference} {statements : List Statement}
    (parsed : parseProgram tokens low = (.ok statements, high)) :
    tree? low (.program tokens) = some (.program statements) := by
  unfold parseProgram at parsed
  dsimp only at parsed
  split at parsed
  · cases parsed
    rfl
  · exact nomatch parsed

theorem tree?_expression {tokens : List Token} {low high : Reference} {expression : Expression}
    (parsed : parseExpression tokens low = (.ok expression, high)) :
    tree? low (.expression tokens) = some (.expression expression) := by
  simp only [tree?, parsed]
  rfl

/-- A parse draws the references of its tree. -/
theorem fresh (low : Reference) (parse : Parse) :
    Fresh low (parse.next low) ((parse.tree? low).toList.flatMap Parsed.references) := by
  cases parse with
  | program tokens =>
    have read := attempts_read (depthOf tokens) tokens.length ⟨tokens, low⟩
      (Vocabulary.any_admitsAll tokens)
    simp only [tree?, next, parseProgram_next, Option.toList_some, List.flatMap_cons,
      List.flatMap_nil, List.append_nil]
    exact read.2
  | expression tokens =>
    have ordered := parseExpression_references tokens low
    cases parsed : parseExpression tokens low with
    | mk result high =>
      rw [parsed] at ordered
      cases result with
      | error error =>
        simp only [tree?, next, parsed]
        exact .nil ordered
      | ok expression =>
        rw [tree?_expression parsed]
        simp only [next, parsed, Option.toList_some, List.flatMap_cons, List.flatMap_nil,
          List.append_nil]
        exact (parseExpression_read (Vocabulary.any_admitsAll tokens) parsed).2

/-- Parses one after the other draw the references of their trees. -/
theorem trees_fresh (low : Reference) (parses : List Parse) :
    ∃ high, Fresh low high ((trees low parses).flatMap Parsed.references) := by
  induction parses generalizing low with
  | nil => exact ⟨low, .nil (Nat.le_refl _)⟩
  | cons parse others inductionHypothesis =>
    obtain ⟨high, later⟩ := inductionHypothesis (parse.next low)
    exact ⟨high, List.flatMap_append ▸ (parse.fresh low).append later⟩

/-- A reference is that of one tree only. -/
theorem trees_apart {low : Reference} {parses : List Parse} {tree other : Parsed}
    (isTree : tree ∈ trees low parses) (isOther : other ∈ trees low parses)
    {reference : Reference} (own : reference ∈ tree.references)
    (shared : reference ∈ other.references) : tree = other := by
  obtain ⟨_, fresh⟩ := trees_fresh low parses
  obtain ⟨_, disjoint⟩ := List.nodup_flatMap.mp fresh.distinct
  by_contra different
  have symmetric : Std.Symm (Function.onFun List.Disjoint Parsed.references) :=
    ⟨fun _ _ => List.disjoint_symm⟩
  exact disjoint.forall isTree isOther different own shared

end Parse

end Grammar

end Lox
