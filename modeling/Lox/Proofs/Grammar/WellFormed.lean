/-
What the walks through a tree take for granted about it. A superclass is named, functions have names
just where they are declared, what runs after a pass of a loop is an expression, and what declares a
name stands right in a program, a block or a function. None of this is checked when a tree is walked
or run: the parser reads no other trees.
-/

import Lox.Evaluation.Evaluate
import Lox.Proofs.Ensures
import Lox.Proofs.Grammar.Program
import Lox.Proofs.Tree.Readable

namespace Lox

namespace Constituent

/-! ### Well-formed parts -/

/-- What is taken for granted about a part, apart from what is inside it. -/
def WellFormed : Constituent → Prop
  | .expression (.call _ _ arguments) => arguments.length ≤ 255
  | .expression (.function declaration) => declaration.name = none
  | .function declaration => declaration.parameters.length ≤ 255
  | .statement (.conditional _ thenBranch elseBranch) =>
    thenBranch.isDeclaration = false ∧ ∀ branch ∈ elseBranch, branch.isDeclaration = false
  | .statement (.loop _ body increment) =>
    body.isDeclaration = false ∧ ∀ step ∈ increment, step.IsExpression
  | .statement (.declareFunction declaration) => declaration.name.isSome
  | .statement (.declareClass _ superclass methods) =>
    (∀ parent ∈ superclass, parent.IsRead) ∧ ∀ method ∈ methods, method.name.isSome
  | _ => True

theorem wellFormed_ofExpression {words : Vocabulary} {tree : Expression}
    (shaped : tree.Shaped words) : (Constituent.expression tree).WellFormed := by
  cases tree with
  | call callee line arguments => exact shaped.2.2.1
  | function declaration => exact shaped.1
  | _ => trivial

theorem wellFormed_ofStatement {words : Vocabulary} {tree : Statement}
    (shaped : tree.Shaped words) : (Constituent.statement tree).WellFormed := by
  have named {methods : List FunctionDeclaration}
      (areShaped : FunctionDeclaration.AllShaped words methods) :
      ∀ method ∈ methods, method.name.isSome := fun method member =>
    ((Grammar.methodAllShaped_iff methods).mp areShaped method member).1
  cases tree with
  | conditional condition thenBranch elseBranch =>
    cases elseBranch with
    | none => exact ⟨shaped.2.1, nofun⟩
    | some elseBranch =>
      refine ⟨shaped.2.1, ?_⟩
      rintro _ ⟨⟩
      exact shaped.2.2.2.1
  | loop condition body increment =>
    cases increment with
    | none => exact ⟨shaped.2.1, nofun⟩
    | some increment =>
      refine ⟨shaped.2.1, ?_⟩
      rintro _ ⟨⟩
      exact shaped.2.2.2.1
  | declareFunction declaration => exact shaped.1
  | declareClass name superclass methods =>
    cases superclass with
    | none => exact ⟨nofun, named shaped.2⟩
    | some superclass =>
      refine ⟨?_, named shaped.2.2.2⟩
      rintro _ ⟨⟩
      exact shaped.2.1
  | _ => trivial

/-- What has its shape is well-formed, whatever its words are. -/
theorem wellFormed_of_shaped {words : Vocabulary} {part : Constituent}
    (shaped : part.Shaped words) : part.WellFormed := by
  cases part with
  | expression tree => exact wellFormed_ofExpression shaped
  | statement tree => exact wellFormed_ofStatement shaped
  | function declaration =>
    obtain ⟨name, parameters, body⟩ := declaration
    exact shaped.2.2.1
  | binding word => trivial

/-- What has its shape has it at every depth. -/
theorem throughout_shaped {words : Vocabulary} {whole : Constituent}
    (shaped : whole.Shaped words) : Throughout (Shaped words) whole := by
  intro part within
  induction within with
  | refl => exact shaped
  | tail _ isPart inductionHypothesis => exact shaped_part isPart inductionHypothesis

/-! ### What well-formed parts are relied on for -/

/-- What declares a name stands right in a block or a function. -/
theorem WellFormed.holder_of_declaration {whole : Constituent} (wellFormed : whole.WellFormed)
    {declaring : Statement} (isPart : .statement declaring ∈ whole.parts)
    (isDeclaration : declaring.isDeclaration = true) :
    (∃ statements, whole = .statement (.block statements)) ∨
      ∃ declaration, whole = .function declaration := by
  cases whole with
  | function declaration => exact .inr ⟨declaration, rfl⟩
  | binding word => exact absurd isPart List.not_mem_nil
  | expression tree =>
    -- the parts of an expression are expressions, a function or a name
    cases tree <;> simp [parts] at isPart
  | statement tree =>
    cases tree with
    | block statements => exact .inl ⟨statements, rfl⟩
    | conditional condition thenBranch elseBranch =>
      have isBranch : declaring = thenBranch ∨ declaring ∈ elseBranch := by
        simpa [parts] using isPart
      rcases isBranch with rfl | isElse
      · exact absurd isDeclaration (Bool.eq_false_iff.mp wellFormed.1)
      · exact absurd isDeclaration (Bool.eq_false_iff.mp (wellFormed.2 declaring isElse))
    | loop condition body increment =>
      have isBranch : declaring = body ∨ declaring ∈ increment := by simpa [parts] using isPart
      rcases isBranch with rfl | isStep
      · exact absurd isDeclaration (Bool.eq_false_iff.mp wellFormed.1)
      · have isExpression := wellFormed.2 declaring isStep
        cases declaring <;> first | exact isExpression.elim | cases isDeclaration
    | _ => simp [parts] at isPart

end Constituent

/-- A statement that is an expression completes if it ends without an error. -/
theorem Statement.IsExpression.completes {statement : Statement}
    (isExpression : statement.IsExpression) {depth : Nat} {machine after : Machine} {flow : Flow}
    (ended : execute depth statement machine = .ok flow after) : flow = .completed := by
  cases statement with
  | expression inner =>
    cases depth with
    | zero => exact nomatch ended
    | succ depth =>
      rw [execute_succ, Evaluator.executeNode] at ended
      cases evaluated : (evaluator depth).evaluate inner machine with
      | ok value after =>
        rw [bind_ok evaluated] at ended
        cases ended
        rfl
      | error stop after =>
        rw [bind_error evaluated] at ended
        exact nomatch ended
  | _ => exact isExpression.elim

namespace Grammar

open Constituent

/-! ### What is read -/

/-- Every statement that is read, whatever else stands among the tokens, is well-formed at every
depth: a superclass is a name that is read, methods and declared functions have names and other
functions have none, what runs after a pass of a loop is an expression, no branch and no body of a
loop is a declaration, and there are at most 255 parameters or arguments. So what declares a name
stands right in a block or a function if it is inside the statement, and the flow that a loop drops
after a pass is always that of a statement that has completed. -/
theorem parseItems_wellFormed {tokens : List Token} {low : Reference} {statement : Statement}
    (read : .ok statement ∈ (parseItems tokens low).1) :
    Throughout WellFormed (.statement statement) ∧
    (∀ whole declaring, Within (.statement statement) whole →
      .statement declaring ∈ whole.parts → declaring.isDeclaration = true →
      (∃ statements, whole = .statement (.block statements)) ∨
        ∃ declaration, whole = .function declaration) ∧
    ∀ condition body increment,
      Within (.statement statement) (.statement (.loop condition body (some increment))) →
      ∀ depth machine flow after, execute depth increment machine = .ok flow after →
        flow = .completed := by
  have areShaped := (attempts_read (depthOf tokens) tokens.length ⟨tokens, low⟩
    (Vocabulary.any_admitsAll tokens)).1
  have shaped : statement.Shaped .any :=
    (statementAllShaped_iff _).mp areShaped statement (List.mem_filterMap.mpr ⟨_, read, rfl⟩)
  have shapedInside : Throughout (Shaped .any) (.statement statement) := throughout_shaped shaped
  have wellFormed : Throughout WellFormed (.statement statement) := fun part within =>
    wellFormed_of_shaped (shapedInside part within)
  refine ⟨wellFormed, fun whole declaring within => (wellFormed whole within).holder_of_declaration,
    fun condition body increment within depth machine flow after ended => ?_⟩
  have isExpression : increment.IsExpression := (wellFormed _ within).2 increment rfl
  exact isExpression.completes ended

/-- A class with a superclass and a method that counts in a loop, behind something that cannot be
read. -/
theorem parseItems_wellFormed_method :
    ∃ statement,
      .ok statement ∈ (parseItems (Source.scan
        "var; class B<A\x7bm(n)\x7bfor(;n<2;n=n+1)return fun()\x7b\x7d;\x7d\x7d").1 0).1 ∧
      Throughout WellFormed (.statement statement) :=
  have read : .ok _ ∈ (parseItems (Source.scan
      "var; class B<A\x7bm(n)\x7bfor(;n<2;n=n+1)return fun()\x7b\x7d;\x7d\x7d").1 0).1 :=
    List.mem_of_getElem? (i := 1) rfl
  ⟨_, read, (parseItems_wellFormed read).1⟩

end Grammar

end Lox
