/-
The parts of trees, and sets of trees that with a tree have its parts. What a run does with a tree
it does with the parts of the tree and with the names that they bind, so what is known of a set of
trees is known of everything that a run of one of them gets to.
-/

import Lox.Proofs.Scope.Scopes
import Lox.Proofs.Source.Spelling

namespace Lox

open Scope

/-! ### Parts -/

/-- A tree, or a name that is bound. -/
inductive Constituent where
  | expression (expression : Expression)
  | statement (statement : Statement)
  | function (declaration : FunctionDeclaration)
  | binding (word : String)

namespace Constituent

/-- The parts next inside a part, and the names that it binds. -/
def parts : Constituent → List Constituent
  | .binding _ => []
  | .function (.mk _ parameters body) =>
    parameters.map (fun parameter => .binding parameter.name) ++ body.map .statement
  | .expression tree =>
    match tree with
    | .literal _ => []
    | .grouping inner => [.expression inner]
    | .unary _ _ operand => [.expression operand]
    | .binary _ _ left right => [.expression left, .expression right]
    | .logical _ left right => [.expression left, .expression right]
    | .read _ _ => []
    | .assign _ name value => [.expression value, .binding name.name]
    | .call callee _ arguments => .expression callee :: arguments.map .expression
    | .function declaration => [.function declaration]
    | .get object _ => [.expression object]
    | .set object _ value => [.expression object, .expression value]
    | .this _ _ => []
    | .super _ _ _ => []
  | .statement tree =>
    match tree with
    | .expression inner => [.expression inner]
    | .print inner => [.expression inner]
    | .declareVariable name initializer =>
      .binding name.name :: initializer.toList.map .expression
    | .block statements => statements.map .statement
    | .conditional condition thenBranch elseBranch =>
      .expression condition :: .statement thenBranch :: elseBranch.toList.map .statement
    | .loop condition body increment =>
      .expression condition :: .statement body :: increment.toList.map .statement
    | .control _ _ => []
    | .declareFunction declaration =>
      .function declaration :: declaration.name.toList.map fun name => .binding name.name
    | .giveBack _ value => value.toList.map .expression
    | .declareClass name superclass methods =>
      .binding name.name :: superclass.toList.map .expression ++ methods.map .function

/-- An expression is greater than the expressions next inside it. -/
theorem sizeOf_part {whole part : Expression}
    (isPart : expression part ∈ (expression whole).parts) :
    sizeOf part < sizeOf whole := by
  cases whole with
  | call callee line arguments =>
    rw [Expression.call.sizeOf_spec]
    rcases List.mem_cons.mp isPart with same | isArgument
    · cases same
      omega
    · obtain ⟨argument, member, same⟩ := List.mem_map.mp isArgument
      cases same
      have smaller := List.sizeOf_lt_of_mem member
      omega
  | literal | read | function | this | super => simp [parts] at isPart
  | grouping | unary | get | assign =>
    obtain rfl : part = _ := by simpa [parts] using isPart
    simp only [Expression.grouping.sizeOf_spec, Expression.unary.sizeOf_spec,
      Expression.get.sizeOf_spec, Expression.assign.sizeOf_spec]
    omega
  | binary | logical | set =>
    simp only [parts, List.mem_cons, List.not_mem_nil, or_false, expression.injEq] at isPart
    rcases isPart with rfl | rfl
    all_goals
      simp only [Expression.binary.sizeOf_spec, Expression.logical.sizeOf_spec,
        Expression.set.sizeOf_spec]
      omega

end Constituent

/-! ### Dialects -/

/-- A set of trees and names that has the parts of the trees in it. -/
structure Dialect where
  has : Constituent → Prop
  closed : ∀ {whole part : Constituent}, has whole → part ∈ whole.parts → has part

namespace Dialect

/-- All trees and names. -/
def everything : Dialect := ⟨fun _ => True, fun _ _ => trivial⟩

/-- The parameters of a function are names of the dialect. -/
theorem parameter (dialect : Dialect) {declaration : FunctionDeclaration}
    (isTree : dialect.has (.function declaration)) (parameter : Identifier)
    (member : parameter ∈ declaration.parameters) : dialect.has (.binding parameter.name) := by
  obtain ⟨name, parameters, body⟩ := declaration
  exact dialect.closed isTree (List.mem_append_left _ (List.mem_map_of_mem member))

/-- The statements of a function are trees of the dialect. -/
theorem body (dialect : Dialect) {declaration : FunctionDeclaration}
    (isTree : dialect.has (.function declaration)) (statement : Statement)
    (member : statement ∈ declaration.body) : dialect.has (.statement statement) := by
  obtain ⟨name, parameters, body⟩ := declaration
  exact dialect.closed isTree (List.mem_append_right _ (List.mem_map_of_mem member))

/-- The superclass that a class declaration names is a tree of the dialect. -/
theorem superclass (dialect : Dialect) {name : Identifier} {superclass : Option Expression}
    {methods : List FunctionDeclaration}
    (isTree : dialect.has (.statement (.declareClass name superclass methods)))
    (expression : Expression) (member : expression ∈ superclass) :
    dialect.has (.expression expression) :=
  dialect.closed isTree (.tail _ (List.mem_append_left _
    (List.mem_map_of_mem (Option.mem_toList.mpr member))))

/-- The methods of a class declaration are trees of the dialect. -/
theorem method (dialect : Dialect) {name : Identifier} {superclass : Option Expression}
    {methods : List FunctionDeclaration}
    (isTree : dialect.has (.statement (.declareClass name superclass methods)))
    (method : FunctionDeclaration) (member : method ∈ methods) : dialect.has (.function method) :=
  dialect.closed isTree (.tail _ (List.mem_append_right _ (List.mem_map_of_mem member)))

/-- A part of a tree that is spelled as trees are that are read from sources. -/
def SpelledPart : Constituent → Prop
  | .expression tree => tree.Shaped .spelled
  | .statement tree => tree.Shaped .spelled
  | .function declaration => declaration.Shaped .spelled
  | .binding word => IsVariable word

end Dialect

theorem Expression.AllShaped.of_mem {words : Vocabulary} {expressions : List Expression}
    (shaped : Expression.AllShaped words expressions) {expression : Expression}
    (member : expression ∈ expressions) : expression.Shaped words := by
  induction expressions with
  | nil => exact absurd member List.not_mem_nil
  | cons first others inductionHypothesis =>
    rcases List.mem_cons.mp member with rfl | inOthers
    · exact shaped.1
    · exact inductionHypothesis shaped.2 inOthers

theorem Statement.AllShaped.of_mem {words : Vocabulary} {statements : List Statement}
    (shaped : Statement.AllShaped words statements) {statement : Statement}
    (member : statement ∈ statements) : statement.Shaped words := by
  induction statements with
  | nil => exact absurd member List.not_mem_nil
  | cons first others inductionHypothesis =>
    rcases List.mem_cons.mp member with rfl | inOthers
    · exact shaped.1
    · exact inductionHypothesis shaped.2 inOthers

theorem FunctionDeclaration.AllShaped.of_mem {words : Vocabulary}
    {methods : List FunctionDeclaration} (shaped : FunctionDeclaration.AllShaped words methods)
    {method : FunctionDeclaration} (member : method ∈ methods) : method.Shaped words := by
  induction methods with
  | nil => exact absurd member List.not_mem_nil
  | cons first others inductionHypothesis =>
    rcases List.mem_cons.mp member with rfl | inOthers
    · exact shaped.2.1
    · exact inductionHypothesis shaped.2.2 inOthers

/-! ### Parts of trees that have their shape -/

namespace Constituent

/-- The shape of a part. A name that is bound is some name of the vocabulary. -/
def Shaped (words : Vocabulary) : Constituent → Prop
  | .expression tree => tree.Shaped words
  | .statement tree => tree.Shaped words
  | .function declaration => declaration.Shaped words
  | .binding word => ∃ name, words.name name ∧ name.name = word

variable {words : Vocabulary} {part : Constituent}

/-- The parts of a function that has its shape. -/
theorem shaped_ofFunction {declaration : FunctionDeclaration}
    (shaped : declaration.Shaped words)
    (isPart : part ∈ (Constituent.function declaration).parts) : part.Shaped words := by
  obtain ⟨name, parameters, body⟩ := declaration
  rcases List.mem_append.mp isPart with isName | isStatement
  · obtain ⟨parameter, member, rfl⟩ := List.mem_map.mp isName
    exact ⟨parameter, shaped.2.1 parameter member, rfl⟩
  · obtain ⟨statement, member, rfl⟩ := List.mem_map.mp isStatement
    exact shaped.2.2.2.of_mem member

/-- The parts of an expression that has its shape. -/
theorem shaped_ofExpression {tree : Expression} (shaped : tree.Shaped words)
    (isPart : part ∈ (Constituent.expression tree).parts) : part.Shaped words := by
  cases tree with
  | literal _ | read _ _ | this _ _ | super _ _ _ => exact absurd isPart List.not_mem_nil
  | grouping inner =>
    obtain rfl := List.mem_singleton.mp isPart
    exact shaped
  | unary _ _ operand =>
    obtain rfl := List.mem_singleton.mp isPart
    exact shaped.2
  | binary _ _ left right =>
    rcases List.mem_pair.mp isPart with rfl | rfl
    · exact shaped.2.1
    · exact shaped.2.2
  | logical _ left right =>
    rcases List.mem_pair.mp isPart with rfl | rfl
    · exact shaped.1
    · exact shaped.2
  | assign _ name value =>
    rcases List.mem_pair.mp isPart with rfl | rfl
    · exact shaped.2
    · exact ⟨name, shaped.1, rfl⟩
  | call callee _ arguments =>
    rcases List.mem_cons.mp isPart with rfl | isArgument
    · exact shaped.2.1
    · obtain ⟨argument, member, rfl⟩ := List.mem_map.mp isArgument
      exact shaped.2.2.2.of_mem member
  | function declaration =>
    obtain rfl := List.mem_singleton.mp isPart
    exact shaped.2
  | get object _ =>
    obtain rfl := List.mem_singleton.mp isPart
    exact shaped.2
  | set object _ value =>
    rcases List.mem_pair.mp isPart with rfl | rfl
    · exact shaped.2.1
    · exact shaped.2.2

/-- The parts of a statement that has its shape. -/
theorem shaped_ofStatement {tree : Statement} (shaped : tree.Shaped words)
    (isPart : part ∈ (Constituent.statement tree).parts) : part.Shaped words := by
  cases tree with
  | expression inner | print inner =>
    obtain rfl := List.mem_singleton.mp isPart
    exact shaped
  | declareVariable name initializer =>
    cases initializer with
    | none =>
      obtain rfl := List.mem_singleton.mp isPart
      exact ⟨name, shaped, rfl⟩
    | some initializer =>
      rcases List.mem_pair.mp isPart with rfl | rfl
      · exact ⟨name, shaped.1, rfl⟩
      · exact shaped.2
  | block statements =>
    obtain ⟨statement, member, rfl⟩ := List.mem_map.mp isPart
    exact Statement.AllShaped.of_mem shaped member
  | conditional condition thenBranch elseBranch =>
    cases elseBranch with
    | none =>
      rcases List.mem_pair.mp isPart with rfl | rfl
      · exact shaped.1
      · exact shaped.2.2
    | some elseBranch =>
      rcases List.mem_cons.mp isPart with rfl | isBranch
      · exact shaped.1
      · rcases List.mem_pair.mp isBranch with rfl | rfl
        · exact shaped.2.2.1
        · exact shaped.2.2.2.2
  | loop condition body increment =>
    cases increment with
    | none =>
      rcases List.mem_pair.mp isPart with rfl | rfl
      · exact shaped.1
      · exact shaped.2.2
    | some increment =>
      rcases List.mem_cons.mp isPart with rfl | isBranch
      · exact shaped.1
      · rcases List.mem_pair.mp isBranch with rfl | rfl
        · exact shaped.2.2.1
        · exact shaped.2.2.2.2
  | control _ _ => exact absurd isPart List.not_mem_nil
  | declareFunction declaration =>
    rcases List.mem_cons.mp isPart with rfl | isName
    · exact shaped.2
    · obtain ⟨name, member, rfl⟩ := List.mem_map.mp isName
      obtain ⟨_, parameters, body⟩ := declaration
      exact ⟨name, shaped.2.1 name (Option.mem_toList.mp member), rfl⟩
  | giveBack _ value =>
    cases value with
    | none => exact absurd isPart List.not_mem_nil
    | some value =>
      obtain rfl := List.mem_singleton.mp isPart
      exact shaped.2
  | declareClass name superclass methods =>
    cases superclass with
    | none =>
      rcases List.mem_cons.mp isPart with rfl | isMethod
      · exact ⟨name, shaped.1, rfl⟩
      · obtain ⟨method, member, rfl⟩ := List.mem_map.mp isMethod
        exact shaped.2.of_mem member
    | some superclass =>
      rcases List.mem_cons.mp isPart with rfl | isFurther
      · exact ⟨name, shaped.1, rfl⟩
      · rcases List.mem_cons.mp isFurther with rfl | isMethod
        · exact shaped.2.2.1
        · obtain ⟨method, member, rfl⟩ := List.mem_map.mp isMethod
          exact shaped.2.2.2.of_mem member

/-- A part of what has its shape has its shape. -/
theorem shaped_part {whole : Constituent} (isPart : part ∈ whole.parts)
    (shaped : whole.Shaped words) : part.Shaped words := by
  cases whole with
  | expression tree => exact shaped_ofExpression shaped isPart
  | statement tree => exact shaped_ofStatement shaped isPart
  | function declaration => exact shaped_ofFunction shaped isPart
  | binding word => exact absurd isPart List.not_mem_nil

end Constituent

namespace Dialect

/-- What has the shape of what is read from sources is spelled so. -/
theorem spelledPart_of_shaped {part : Constituent} (shaped : part.Shaped .spelled) :
    SpelledPart part := by
  cases part with
  | expression | statement | function => exact shaped
  | binding word =>
    obtain ⟨name, unreserved, rfl⟩ := shaped
    exact isVariable_of_unreserved unreserved

/-- The trees that are spelled as those are that are read from sources, and the names of
variables. -/
def spelled : Dialect where
  has := SpelledPart
  closed {whole part} isSpelled isPart := by
    cases whole with
    | expression | statement | function =>
      exact spelledPart_of_shaped (Constituent.shaped_part isPart isSpelled)
    | binding word => exact absurd isPart List.not_mem_nil

end Dialect

end Lox
