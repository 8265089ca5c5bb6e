/-
What can be said of every tree that is read from tokens: where declarations stand, what a superclass
is, which functions have names, and that its words and lines are those of tokens. Next to that, the
references of a tree, in the order in which they are drawn, and what it means that they are fresh.
-/

import Lox.Grammar.Parser
import Mathlib.Data.List.Nodup

namespace Lox

/-! ### Shape -/

/-- What the words and lines of a tree are known to be. -/
structure Vocabulary where
  name : Identifier → Prop
  this : Identifier → Prop
  super : Identifier → Prop
  line : Nat → Prop

/-- Whether a statement declares a name, so that it may not be a branch or the body of a loop. -/
def Statement.isDeclaration : Statement → Bool
  | .declareVariable _ _ => true
  | .declareFunction _ => true
  | .declareClass _ _ _ => true
  | _ => false

/-- A superclass is named. -/
def Expression.IsRead : Expression → Prop
  | .read _ _ => True
  | _ => False

/-- What runs after every pass of a loop is an expression. -/
def Statement.IsExpression : Statement → Prop
  | .expression _ => True
  | _ => False

mutual

/-- The shape of expressions. -/
def Expression.Shaped (words : Vocabulary) : Expression → Prop
  | .literal _ => True
  | .grouping inner => inner.Shaped words
  | .unary _ line operand => words.line line ∧ operand.Shaped words
  | .binary _ line left right => words.line line ∧ left.Shaped words ∧ right.Shaped words
  | .logical _ left right => left.Shaped words ∧ right.Shaped words
  | .read _ name => words.name name
  | .assign _ name value => words.name name ∧ value.Shaped words
  | .call callee line arguments =>
    words.line line ∧ callee.Shaped words ∧ arguments.length ≤ Grammar.maximalEntries ∧
      Expression.AllShaped words arguments
  | .function declaration => declaration.name = none ∧ declaration.Shaped words
  | .get object name => words.name name ∧ object.Shaped words
  | .set object name value => words.name name ∧ object.Shaped words ∧ value.Shaped words
  | .this _ keyword => words.this keyword
  | .super _ keyword method => words.super keyword ∧ words.name method

/-- The shape of every one of some expressions. -/
def Expression.AllShaped (words : Vocabulary) : List Expression → Prop
  | [] => True
  | expression :: others => expression.Shaped words ∧ Expression.AllShaped words others

/-- The shape of functions. -/
def FunctionDeclaration.Shaped (words : Vocabulary) : FunctionDeclaration → Prop
  | .mk name parameters body =>
    (∀ word ∈ name, words.name word) ∧ (∀ parameter ∈ parameters, words.name parameter) ∧
      parameters.length ≤ Grammar.maximalEntries ∧ Statement.AllShaped words body

/-- The shape of methods, all of which have names. -/
def FunctionDeclaration.AllShaped (words : Vocabulary) : List FunctionDeclaration → Prop
  | [] => True
  | method :: others =>
    method.name.isSome ∧ method.Shaped words ∧ FunctionDeclaration.AllShaped words others

/-- The shape of statements. -/
def Statement.Shaped (words : Vocabulary) : Statement → Prop
  | .expression expression => expression.Shaped words
  | .print expression => expression.Shaped words
  | .declareVariable name none => words.name name
  | .declareVariable name (some initializer) => words.name name ∧ initializer.Shaped words
  | .block statements => Statement.AllShaped words statements
  | .conditional condition thenBranch none =>
    condition.Shaped words ∧ thenBranch.isDeclaration = false ∧ thenBranch.Shaped words
  | .conditional condition thenBranch (some elseBranch) =>
    condition.Shaped words ∧ thenBranch.isDeclaration = false ∧ thenBranch.Shaped words ∧
      elseBranch.isDeclaration = false ∧ elseBranch.Shaped words
  | .loop condition body none =>
    condition.Shaped words ∧ body.isDeclaration = false ∧ body.Shaped words
  | .loop condition body (some increment) =>
    condition.Shaped words ∧ body.isDeclaration = false ∧ body.Shaped words ∧
      increment.IsExpression ∧ increment.Shaped words
  | .control _ keyword => words.line keyword.line
  | .declareFunction declaration => declaration.name.isSome ∧ declaration.Shaped words
  | .giveBack keyword none => words.line keyword.line
  | .giveBack keyword (some value) => words.line keyword.line ∧ value.Shaped words
  | .declareClass name none methods =>
    words.name name ∧ FunctionDeclaration.AllShaped words methods
  | .declareClass name (some superclass) methods =>
    words.name name ∧ superclass.IsRead ∧ superclass.Shaped words ∧
      FunctionDeclaration.AllShaped words methods

/-- The shape of every one of some statements. -/
def Statement.AllShaped (words : Vocabulary) : List Statement → Prop
  | [] => True
  | statement :: others => statement.Shaped words ∧ Statement.AllShaped words others

end

/-! ### References -/

mutual

/-- The references of an expression. -/
def Expression.references : Expression → List Reference
  | .literal _ => []
  | .grouping inner => inner.references
  | .unary _ _ operand => operand.references
  | .binary _ _ left right => left.references ++ right.references
  | .logical _ left right => left.references ++ right.references
  | .read reference _ => [reference]
  | .assign reference _ value => value.references ++ [reference]
  | .call callee _ arguments => callee.references ++ Expression.allReferences arguments
  | .function declaration => declaration.references
  | .get object _ => object.references
  | .set object _ value => object.references ++ value.references
  | .this reference _ => [reference]
  | .super reference _ _ => [reference]

/-- The references of some expressions. -/
def Expression.allReferences : List Expression → List Reference
  | [] => []
  | expression :: others => expression.references ++ Expression.allReferences others

/-- The references of a function. -/
def FunctionDeclaration.references : FunctionDeclaration → List Reference
  | .mk _ _ body => Statement.allReferences body

/-- The references of some functions. -/
def FunctionDeclaration.allReferences : List FunctionDeclaration → List Reference
  | [] => []
  | method :: others => method.references ++ FunctionDeclaration.allReferences others

/-- The references of a statement. -/
def Statement.references : Statement → List Reference
  | .expression expression => expression.references
  | .print expression => expression.references
  | .declareVariable _ none => []
  | .declareVariable _ (some initializer) => initializer.references
  | .block statements => Statement.allReferences statements
  | .conditional condition thenBranch none => condition.references ++ thenBranch.references
  | .conditional condition thenBranch (some elseBranch) =>
    condition.references ++ (thenBranch.references ++ elseBranch.references)
  | .loop condition body none => condition.references ++ body.references
  | .loop condition body (some increment) =>
    condition.references ++ (body.references ++ increment.references)
  | .control _ _ => []
  | .declareFunction declaration => declaration.references
  | .giveBack _ none => []
  | .giveBack _ (some value) => value.references
  | .declareClass _ none methods => FunctionDeclaration.allReferences methods
  | .declareClass _ (some superclass) methods =>
    superclass.references ++ FunctionDeclaration.allReferences methods

/-- The references of some statements. -/
def Statement.allReferences : List Statement → List Reference
  | [] => []
  | statement :: others => statement.references ++ Statement.allReferences others

end

/-! ### Freshness -/

/-- No reference stands twice, and all were drawn from `low` on and before `high`. -/
structure Fresh (low high : Reference) (references : List Reference) : Prop where
  ordered : low ≤ high
  distinct : references.Nodup
  bounded : ∀ reference ∈ references, low ≤ reference ∧ reference < high

namespace Fresh

variable {low middle high : Reference} {first second : List Reference}

/-- Where nothing is drawn, nothing is stale. -/
theorem nil (ordered : low ≤ high) : Fresh low high [] :=
  ⟨ordered, List.nodup_nil, fun _ member => absurd member List.not_mem_nil⟩

/-- A reference that is drawn is fresh. -/
theorem singleton {reference : Reference} (lower : low ≤ reference) (upper : reference < high) :
    Fresh low high [reference] := by
  refine ⟨Nat.le_trans lower (Nat.le_of_lt upper), List.nodup_singleton reference, ?_⟩
  intro other member
  rw [List.mem_singleton] at member
  subst member
  exact ⟨lower, upper⟩

/-- The next reference is fresh. -/
theorem next {reference : Reference} (isNext : reference = middle) (lower : low ≤ middle)
    (upper : high = middle + 1) : Fresh low high [reference] := by
  subst isNext upper
  exact singleton lower (Nat.lt_succ_self _)

/-- What was drawn between two bounds was drawn between wider ones. -/
theorem widen {wideLow wideHigh : Reference} (fresh : Fresh low high first)
    (lower : wideLow ≤ low) (upper : high ≤ wideHigh) : Fresh wideLow wideHigh first := by
  refine ⟨Nat.le_trans lower (Nat.le_trans fresh.ordered upper), fresh.distinct, ?_⟩
  intro reference member
  have bounds := fresh.bounded reference member
  exact ⟨Nat.le_trans lower bounds.1, Nat.lt_of_lt_of_le bounds.2 upper⟩

/-- References drawn later differ from those drawn before. -/
theorem disjoint (before : Fresh low middle first) (after : Fresh middle high second) :
    first.Disjoint second := by
  intro reference inFirst inSecond
  exact absurd (before.bounded reference inFirst).2
    (Nat.not_lt.mpr (after.bounded reference inSecond).1)

/-- Two lots of references, one drawn after the other. -/
theorem append (before : Fresh low middle first) (after : Fresh middle high second) :
    Fresh low high (first ++ second) := by
  refine ⟨Nat.le_trans before.ordered after.ordered,
    List.nodup_append'.mpr ⟨before.distinct, after.distinct, before.disjoint after⟩, ?_⟩
  intro reference member
  rcases List.mem_append.mp member with inFirst | inSecond
  · exact (before.widen (Nat.le_refl _) after.ordered).bounded reference inFirst
  · exact (after.widen before.ordered (Nat.le_refl _)).bounded reference inSecond

/-- Two lots of references, of which the one drawn later stands first. -/
theorem appendBefore (before : Fresh low middle first) (after : Fresh middle high second) :
    Fresh low high (second ++ first) := by
  have appended := before.append after
  refine ⟨appended.ordered, List.nodup_append_comm.mp appended.distinct, ?_⟩
  intro reference member
  exact appended.bounded reference (List.mem_append.mpr (List.mem_append.mp member).symm)

end Fresh

end Lox
