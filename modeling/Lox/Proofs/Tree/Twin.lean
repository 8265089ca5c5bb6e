/-
Trees that are the same but for braces around some statements, for increments that stand at the end
of the bodies of loops instead of behind them, and for lines. What has braces around it stands in
one scope more, so a scope is not as many links out of the one tree as its counterpart is out of the
other. An alignment tells which of them belong together.
-/

import Lox.Proofs.Tree.Shape

namespace Lox

/-! ### Alignments -/

/-- Which scope, some links out, is the counterpart of which one of another tree. -/
abbrev Alignment := Nat → Nat → Prop

namespace Alignment

/-- The same scopes lie around both trees. -/
def same : Alignment := fun distance other => distance = other

variable (alignment : Alignment)

/-- Both trees in one scope more, and these two are counterparts. -/
def inside : Alignment
  | 0, 0 => True
  | distance + 1, other + 1 => alignment distance other
  | _, _ => False

/-- The first tree in one scope more, which has no counterpart. -/
def skipLeft : Alignment
  | 0, _ => False
  | distance + 1, other => alignment distance other

/-- The second tree in one scope more, which has no counterpart. -/
def skipRight : Alignment
  | _, 0 => False
  | distance, other + 1 => alignment distance other

/-- The trees the other way round. -/
def swap : Alignment := fun distance other => alignment other distance

/-- How far out a name is declared around both trees: nowhere, or in counterparts. -/
inductive Locates : Option Nat → Option Nat → Prop
  | nowhere : Locates none none
  | here {distance other} : alignment distance other → Locates (some distance) (some other)

theorem inside_same : same.inside = same := by
  funext distance other
  cases distance <;> cases other <;> simp [inside, same]

theorem swap_same : same.swap = same := by
  funext distance other
  exact propext eq_comm

theorem swap_inside : alignment.inside.swap = alignment.swap.inside := by
  funext distance other
  cases distance <;> cases other <;> rfl

theorem swap_skipLeft : alignment.skipLeft.swap = alignment.swap.skipRight := by
  funext distance other
  cases other <;> rfl

theorem swap_skipRight : alignment.skipRight.swap = alignment.swap.skipLeft := by
  funext distance other
  cases distance <;> rfl

variable {alignment}

theorem inside_here : alignment.inside 0 0 := trivial

theorem inside_injective {other : Alignment} (same : alignment.inside = other.inside) :
    alignment = other :=
  funext fun distance => funext fun further => congrFun (congrFun same (distance + 1)) (further + 1)

theorem skipRight_injective {other : Alignment} (same : alignment.skipRight = other.skipRight) :
    alignment = other :=
  funext fun distance => funext fun further => congrFun (congrFun same distance) (further + 1)

theorem Locates.inside {distance other : Option Nat} (locates : alignment.Locates distance other) :
    alignment.inside.Locates (distance.map (· + 1)) (other.map (· + 1)) := by
  cases locates with
  | nowhere => exact .nowhere
  | here aligned => exact .here aligned

theorem Locates.skipRight {distance other : Option Nat}
    (locates : alignment.Locates distance other) :
    alignment.skipRight.Locates distance (other.map (· + 1)) := by
  cases locates with
  | nowhere => exact .nowhere
  | here aligned => exact .here aligned

theorem Locates.swap {distance other : Option Nat} (locates : alignment.Locates distance other) :
    alignment.swap.Locates other distance := by
  cases locates with
  | nowhere => exact .nowhere
  | here aligned => exact .here aligned

end Alignment

/-! ### Cut passes -/

mutual

/-- Whether a `continue` in the statement is for a loop around it. -/
def Statement.continues : Statement → Bool
  | .block statements => Statement.anyContinues statements
  | .conditional _ thenBranch none => thenBranch.continues
  | .conditional _ thenBranch (some elseBranch) => thenBranch.continues || elseBranch.continues
  | .control .continue _ => true
  | _ => false

/-- Whether a `continue` in one of the statements is for a loop around them. -/
def Statement.anyContinues : List Statement → Bool
  | [] => false
  | statement :: others => statement.continues || Statement.anyContinues others

end

/-! ### Twins -/

/-- Parts of two programs, side by side. -/
inductive Parts where
  | expression (left right : Expression)
  | expressions (left right : List Expression)
  | function (left right : FunctionDeclaration)
  | functions (left right : List FunctionDeclaration)
  | statement (left right : Statement)
  | statements (left right : List Statement)

/-- The parts the other way round. -/
def Parts.swap : Parts → Parts
  | .expression left right => .expression right left
  | .expressions left right => .expressions right left
  | .function left right => .function right left
  | .functions left right => .functions right left
  | .statement left right => .statement right left
  | .statements left right => .statements right left

/-- What is asked of the references of two occurrences of a name, and whether the first program,
too, may have what otherwise only the second one has. -/
structure Ties where
  name : Alignment → Reference → Reference → Prop
  super : Alignment → Reference → Reference → Prop
  both : Prop

/-- Nothing is asked of references, and only the second program has further braces, and increments
in bodies. -/
def Ties.loose : Ties := ⟨fun _ _ _ => True, fun _ _ _ => True, False⟩

/-- The parts are the same but for lines, for references, which are tied, for braces around
statements, and for increments at the end of bodies in which no `continue` passes them by. Where a
name is declared, the innermost scopes are counterparts. -/
inductive Twin (ties : Ties) : Alignment → Parts → Prop
  | literal {alignment literal} :
    Twin ties alignment (.expression (.literal literal) (.literal literal))
  | grouping {alignment inner innerToo} : Twin ties alignment (.expression inner innerToo) →
    Twin ties alignment (.expression (.grouping inner) (.grouping innerToo))
  | unary {alignment operator line lineToo operand operandToo} :
    Twin ties alignment (.expression operand operandToo) →
    Twin ties alignment
      (.expression (.unary operator line operand) (.unary operator lineToo operandToo))
  | binary {alignment operator line lineToo left leftToo right rightToo} :
    Twin ties alignment (.expression left leftToo) →
    Twin ties alignment (.expression right rightToo) →
    Twin ties alignment
      (.expression (.binary operator line left right) (.binary operator lineToo leftToo rightToo))
  | logical {alignment operator left leftToo right rightToo} :
    Twin ties alignment (.expression left leftToo) →
    Twin ties alignment (.expression right rightToo) →
    Twin ties alignment
      (.expression (.logical operator left right) (.logical operator leftToo rightToo))
  | read {alignment reference referenceToo word line lineToo} :
    ties.name alignment reference referenceToo →
    Twin ties alignment
      (.expression (.read reference ⟨word, line⟩) (.read referenceToo ⟨word, lineToo⟩))
  | assign {alignment reference referenceToo word line lineToo value valueToo} :
    ties.name alignment reference referenceToo →
    Twin ties alignment (.expression value valueToo) →
    Twin ties alignment (.expression (.assign reference ⟨word, line⟩ value)
      (.assign referenceToo ⟨word, lineToo⟩ valueToo))
  | call {alignment callee calleeToo line lineToo arguments argumentsToo} :
    Twin ties alignment (.expression callee calleeToo) →
    Twin ties alignment (.expressions arguments argumentsToo) →
    Twin ties alignment
      (.expression (.call callee line arguments) (.call calleeToo lineToo argumentsToo))
  | anonymous {alignment declaration declarationToo} :
    Twin ties alignment (.function declaration declarationToo) →
    Twin ties alignment (.expression (.function declaration) (.function declarationToo))
  | get {alignment object objectToo word line lineToo} :
    Twin ties alignment (.expression object objectToo) →
    Twin ties alignment (.expression (.get object ⟨word, line⟩) (.get objectToo ⟨word, lineToo⟩))
  | set {alignment object objectToo word line lineToo value valueToo} :
    Twin ties alignment (.expression object objectToo) →
    Twin ties alignment (.expression value valueToo) →
    Twin ties alignment (.expression (.set object ⟨word, line⟩ value)
      (.set objectToo ⟨word, lineToo⟩ valueToo))
  | this {alignment reference referenceToo word line lineToo} :
    ties.name alignment reference referenceToo →
    Twin ties alignment
      (.expression (.this reference ⟨word, line⟩) (.this referenceToo ⟨word, lineToo⟩))
  | super {alignment reference referenceToo word line lineToo method place placeToo} :
    ties.super alignment reference referenceToo →
    Twin ties alignment (.expression (.super reference ⟨word, line⟩ ⟨method, place⟩)
      (.super referenceToo ⟨word, lineToo⟩ ⟨method, placeToo⟩))
  | noExpressions {alignment} : Twin ties alignment (.expressions [] [])
  | moreExpressions {alignment first firstToo others othersToo} :
    Twin ties alignment (.expression first firstToo) →
    Twin ties alignment (.expressions others othersToo) →
    Twin ties alignment (.expressions (first :: others) (firstToo :: othersToo))
  | function {alignment body bodyToo} {name nameToo : Option Identifier}
    {parameters parametersToo : List Identifier} :
    name.map Identifier.name = nameToo.map Identifier.name →
    parameters.map Identifier.name = parametersToo.map Identifier.name →
    Twin ties alignment.inside (.statements body bodyToo) →
    Twin ties alignment (.function (.mk name parameters body) (.mk nameToo parametersToo bodyToo))
  | noFunctions {alignment} : Twin ties alignment (.functions [] [])
  | moreFunctions {alignment first firstToo others othersToo} :
    Twin ties alignment (.function first firstToo) →
    Twin ties alignment (.functions others othersToo) →
    Twin ties alignment (.functions (first :: others) (firstToo :: othersToo))
  | evaluation {alignment expression expressionToo} :
    Twin ties alignment (.expression expression expressionToo) →
    Twin ties alignment (.statement (.expression expression) (.expression expressionToo))
  | print {alignment expression expressionToo} :
    Twin ties alignment (.expression expression expressionToo) →
    Twin ties alignment (.statement (.print expression) (.print expressionToo))
  | uninitialized {alignment : Alignment} {word line lineToo} : alignment 0 0 →
    Twin ties alignment (.statement (.declareVariable ⟨word, line⟩ none)
      (.declareVariable ⟨word, lineToo⟩ none))
  | initialized {alignment : Alignment} {word line lineToo value valueToo} : alignment 0 0 →
    Twin ties alignment (.expression value valueToo) →
    Twin ties alignment (.statement (.declareVariable ⟨word, line⟩ (some value))
      (.declareVariable ⟨word, lineToo⟩ (some valueToo)))
  | block {alignment statements statementsToo} :
    Twin ties alignment.inside (.statements statements statementsToo) →
    Twin ties alignment (.statement (.block statements) (.block statementsToo))
  | ifThen {alignment condition conditionToo thenBranch thenBranchToo} :
    Twin ties alignment (.expression condition conditionToo) →
    Twin ties alignment (.statement thenBranch thenBranchToo) →
    Twin ties alignment (.statement (.conditional condition thenBranch none)
      (.conditional conditionToo thenBranchToo none))
  | ifElse {alignment condition conditionToo thenBranch thenBranchToo elseBranch elseBranchToo} :
    Twin ties alignment (.expression condition conditionToo) →
    Twin ties alignment (.statement thenBranch thenBranchToo) →
    Twin ties alignment (.statement elseBranch elseBranchToo) →
    Twin ties alignment (.statement (.conditional condition thenBranch (some elseBranch))
      (.conditional conditionToo thenBranchToo (some elseBranchToo)))
  | loop {alignment condition conditionToo body bodyToo} :
    Twin ties alignment (.expression condition conditionToo) →
    Twin ties alignment (.statement body bodyToo) →
    Twin ties alignment
      (.statement (.loop condition body none) (.loop conditionToo bodyToo none))
  | loopWith {alignment condition conditionToo body bodyToo increment incrementToo} :
    Twin ties alignment (.expression condition conditionToo) →
    Twin ties alignment (.statement body bodyToo) →
    Twin ties alignment (.statement increment incrementToo) →
    Twin ties alignment (.statement (.loop condition body (some increment))
      (.loop conditionToo bodyToo (some incrementToo)))
  | control {alignment control keyword keywordToo} :
    Twin ties alignment (.statement (.control control keyword) (.control control keywordToo))
  | declareFunction {alignment : Alignment} {declaration declarationToo} : alignment 0 0 →
    Twin ties alignment (.function declaration declarationToo) →
    Twin ties alignment
      (.statement (.declareFunction declaration) (.declareFunction declarationToo))
  | giveNothing {alignment keyword keywordToo} :
    Twin ties alignment (.statement (.giveBack keyword none) (.giveBack keywordToo none))
  | giveBack {alignment keyword keywordToo value valueToo} :
    Twin ties alignment (.expression value valueToo) →
    Twin ties alignment
      (.statement (.giveBack keyword (some value)) (.giveBack keywordToo (some valueToo)))
  | declareClass {alignment : Alignment} {word line lineToo methods methodsToo} : alignment 0 0 →
    Twin ties alignment.inside (.functions methods methodsToo) →
    Twin ties alignment (.statement (.declareClass ⟨word, line⟩ none methods)
      (.declareClass ⟨word, lineToo⟩ none methodsToo))
  | declareSubclass {alignment : Alignment}
    {word line lineToo superclass superclassToo methods methodsToo} : alignment 0 0 →
    Twin ties alignment (.expression superclass superclassToo) →
    Twin ties alignment.inside.inside (.functions methods methodsToo) →
    Twin ties alignment (.statement (.declareClass ⟨word, line⟩ (some superclass) methods)
      (.declareClass ⟨word, lineToo⟩ (some superclassToo) methodsToo))
  | noStatements {alignment} : Twin ties alignment (.statements [] [])
  | moreStatements {alignment first firstToo others othersToo} :
    Twin ties alignment (.statement first firstToo) →
    Twin ties alignment (.statements others othersToo) →
    Twin ties alignment (.statements (first :: others) (firstToo :: othersToo))
  | bracedRight {alignment statement statementToo} :
    Twin ties alignment.skipRight (.statement statement statementToo) →
    Twin ties alignment (.statement statement (.block [statementToo]))
  | bracedLeft {alignment statement statementToo} : ties.both →
    Twin ties alignment.skipLeft (.statement statement statementToo) →
    Twin ties alignment (.statement (.block [statement]) statementToo)
  | spelledRight {alignment condition conditionToo body bodyToo increment incrementToo} :
    body.continues = false → Twin ties alignment (.expression condition conditionToo) →
    Twin ties alignment.skipRight (.statement body bodyToo) →
    Twin ties alignment.skipRight (.expression increment incrementToo) →
    Twin ties alignment (.statement (.loop condition body (some (.expression increment)))
      (.loop conditionToo (.block [bodyToo, .expression incrementToo]) none))
  | spelledLeft {alignment condition conditionToo body bodyToo increment incrementToo} :
    ties.both → bodyToo.continues = false →
    Twin ties alignment (.expression condition conditionToo) →
    Twin ties alignment.skipLeft (.statement body bodyToo) →
    Twin ties alignment.skipLeft (.expression increment incrementToo) →
    Twin ties alignment
      (.statement (.loop condition (.block [body, .expression increment]) none)
        (.loop conditionToo bodyToo (some (.expression incrementToo))))

namespace Twin

variable {ties : Ties} {alignment : Alignment}

/-- Twins are twins the other way round. -/
theorem swap {other : Ties}
    (name : ∀ {alignment reference referenceToo}, ties.name alignment reference referenceToo →
      other.name alignment.swap referenceToo reference)
    (super : ∀ {alignment reference referenceToo}, ties.super alignment reference referenceToo →
      other.super alignment.swap referenceToo reference)
    (both : other.both) {parts : Parts} (twin : Twin ties alignment parts) :
    Twin other alignment.swap parts.swap := by
  induction twin with
  | literal => exact .literal
  | grouping _ inner => exact .grouping inner
  | unary _ operand => exact .unary operand
  | binary _ _ left right => exact .binary left right
  | logical _ _ left right => exact .logical left right
  | read tied => exact .read (name tied)
  | assign tied _ value => exact .assign (name tied) value
  | call _ _ callee arguments => exact .call callee arguments
  | anonymous _ declaration => exact .anonymous declaration
  | get _ object => exact .get object
  | set _ _ object value => exact .set object value
  | this tied => exact .this (name tied)
  | super tied => exact .super (super tied)
  | noExpressions => exact .noExpressions
  | moreExpressions _ _ first others => exact .moreExpressions first others
  | function sameName sameParameters _ body =>
    exact .function sameName.symm sameParameters.symm (Alignment.swap_inside _ ▸ body)
  | noFunctions => exact .noFunctions
  | moreFunctions _ _ first others => exact .moreFunctions first others
  | evaluation _ expression => exact .evaluation expression
  | print _ expression => exact .print expression
  | uninitialized here => exact .uninitialized here
  | initialized here _ value => exact .initialized here value
  | block _ statements => exact .block (Alignment.swap_inside _ ▸ statements)
  | ifThen _ _ condition thenBranch => exact .ifThen condition thenBranch
  | ifElse _ _ _ condition thenBranch elseBranch => exact .ifElse condition thenBranch elseBranch
  | loop _ _ condition body => exact .loop condition body
  | loopWith _ _ _ condition body increment => exact .loopWith condition body increment
  | control => exact .control
  | declareFunction here _ declaration => exact .declareFunction here declaration
  | giveNothing => exact .giveNothing
  | giveBack _ value => exact .giveBack value
  | declareClass here _ methods =>
    exact .declareClass here (Alignment.swap_inside _ ▸ methods)
  | declareSubclass here _ _ superclass methods =>
    rw [Alignment.swap_inside, Alignment.swap_inside] at methods
    exact .declareSubclass here superclass methods
  | noStatements => exact .noStatements
  | moreStatements _ _ first others => exact .moreStatements first others
  | bracedRight _ statement => exact .bracedLeft both (Alignment.swap_skipRight _ ▸ statement)
  | bracedLeft _ _ statement => exact .bracedRight (Alignment.swap_skipLeft _ ▸ statement)
  | spelledRight quiet _ _ _ condition body increment =>
    exact .spelledLeft both quiet condition (Alignment.swap_skipRight _ ▸ body)
      (Alignment.swap_skipRight _ ▸ increment)
  | spelledLeft _ quiet _ _ _ condition body increment =>
    exact .spelledRight quiet condition (Alignment.swap_skipLeft _ ▸ body)
      (Alignment.swap_skipLeft _ ▸ increment)

theorem length {expressions expressionsToo : List Expression}
    (twins : Twin ties alignment (.expressions expressions expressionsToo)) :
    expressions.length = expressionsToo.length := by
  induction expressions generalizing expressionsToo with
  | nil =>
    cases twins
    rfl
  | cons first others inductionHypothesis =>
    cases twins with
    | moreExpressions _ twins => exact congrArg (· + 1) (inductionHypothesis twins)

/-! ### Functions -/

/-- Of two functions with the same name, neither has one, or both have it on some lines. -/
theorem name_cases {name nameToo : Option Identifier}
    (same : name.map Identifier.name = nameToo.map Identifier.name) :
    name = none ∧ nameToo = none ∨ ∃ word line lineToo,
      name = some ⟨word, line⟩ ∧ nameToo = some ⟨word, lineToo⟩ := by
  cases name with
  | none => exact .inl ⟨rfl, Option.map_eq_none_iff.mp same.symm⟩
  | some name =>
    obtain ⟨⟨word, lineToo⟩, isName, rfl⟩ := Option.map_eq_some_iff.mp same.symm
    exact .inr ⟨_, _, lineToo, rfl, isName⟩

section

variable {declaration declarationToo : FunctionDeclaration}

theorem name (twin : Twin ties alignment (.function declaration declarationToo)) :
    declaration.name.map Identifier.name = declarationToo.name.map Identifier.name := by
  cases twin with
  | function sameName _ _ => exact sameName

theorem parameters (twin : Twin ties alignment (.function declaration declarationToo)) :
    declaration.parameters.map Identifier.name = declarationToo.parameters.map Identifier.name := by
  cases twin with
  | function _ sameParameters _ => exact sameParameters

theorem arity (twin : Twin ties alignment (.function declaration declarationToo)) :
    declaration.arity = declarationToo.arity := by
  have sameLength := congrArg List.length twin.parameters
  rw [List.length_map, List.length_map] at sameLength
  exact sameLength

theorem body (twin : Twin ties alignment (.function declaration declarationToo)) :
    Twin ties alignment.inside (.statements declaration.body declarationToo.body) := by
  cases twin with
  | function _ _ twins => exact twins

end

end Twin

namespace FunctionDeclaration

variable {declaration declarationToo : FunctionDeclaration}

/-- Whether a function is an initializer is told by its name. -/
theorem isInitializer_eq_of_name
    (sameName : declaration.name.map Identifier.name = declarationToo.name.map Identifier.name) :
    declaration.isInitializer = declarationToo.isInitializer := by
  have byName (declaration : FunctionDeclaration) : declaration.isInitializer =
      ((declaration.name.map Identifier.name).map (· == initializerName)).getD false := by
    unfold isInitializer
    cases declaration.name <;> rfl
  rw [byName, byName, sameName]

end FunctionDeclaration

/-! ### A tree beside itself -/

/-- Each of some references is tied to itself where the same scopes are around. -/
def Ties.Fixes (ties : Ties) (references : List Reference) : Prop :=
  ∀ reference ∈ references, ties.name .same reference reference ∧
    ties.super .same reference reference

namespace Ties.Fixes

variable {ties : Ties} {first second : List Reference}

theorem left (fixes : ties.Fixes (first ++ second)) : ties.Fixes first :=
  fun reference member => fixes reference (List.mem_append_left second member)

theorem right (fixes : ties.Fixes (first ++ second)) : ties.Fixes second :=
  fun reference member => fixes reference (List.mem_append_right first member)

end Ties.Fixes

section

open Lox.Alignment

variable {ties : Ties}

mutual

theorem Expression.twin : (expression : Expression) → ties.Fixes expression.references →
    Twin ties .same (.expression expression expression)
  | .literal _, _ => .literal
  | .grouping inner, fixes => .grouping (inner.twin fixes)
  | .unary _ _ operand, fixes => .unary (operand.twin fixes)
  | .binary _ _ left right, fixes => .binary (left.twin fixes.left) (right.twin fixes.right)
  | .logical _ left right, fixes => .logical (left.twin fixes.left) (right.twin fixes.right)
  | .read reference _, fixes => .read (fixes reference List.mem_cons_self).1
  | .assign reference _ value, fixes =>
    .assign (fixes.right reference List.mem_cons_self).1 (value.twin fixes.left)
  | .call callee _ arguments, fixes =>
    .call (callee.twin fixes.left) (Expression.allTwin arguments fixes.right)
  | .function declaration, fixes => .anonymous (declaration.twin fixes)
  | .get object _, fixes => .get (object.twin fixes)
  | .set object _ value, fixes => .set (object.twin fixes.left) (value.twin fixes.right)
  | .this reference _, fixes => .this (fixes reference List.mem_cons_self).1
  | .super reference _ _, fixes => .super (fixes reference List.mem_cons_self).2

theorem Expression.allTwin : (expressions : List Expression) →
    ties.Fixes (Expression.allReferences expressions) →
    Twin ties .same (.expressions expressions expressions)
  | [], _ => .noExpressions
  | expression :: others, fixes =>
    .moreExpressions (expression.twin fixes.left) (Expression.allTwin others fixes.right)

theorem FunctionDeclaration.twin : (declaration : FunctionDeclaration) →
    ties.Fixes declaration.references → Twin ties .same (.function declaration declaration)
  | .mk _ _ body, fixes => .function rfl rfl (inside_same.symm ▸ Statement.allTwin body fixes)

theorem FunctionDeclaration.allTwin : (methods : List FunctionDeclaration) →
    ties.Fixes (FunctionDeclaration.allReferences methods) →
    Twin ties .same (.functions methods methods)
  | [], _ => .noFunctions
  | method :: others, fixes =>
    .moreFunctions (method.twin fixes.left) (FunctionDeclaration.allTwin others fixes.right)

theorem Statement.twin : (statement : Statement) → ties.Fixes statement.references →
    Twin ties .same (.statement statement statement)
  | .expression expression, fixes => .evaluation (expression.twin fixes)
  | .print expression, fixes => .print (expression.twin fixes)
  | .declareVariable _ none, _ => .uninitialized rfl
  | .declareVariable _ (some initializer), fixes => .initialized rfl (initializer.twin fixes)
  | .block statements, fixes => .block (inside_same.symm ▸ Statement.allTwin statements fixes)
  | .conditional condition thenBranch none, fixes =>
    .ifThen (condition.twin fixes.left) (thenBranch.twin fixes.right)
  | .conditional condition thenBranch (some elseBranch), fixes =>
    .ifElse (condition.twin fixes.left) (thenBranch.twin fixes.right.left)
      (elseBranch.twin fixes.right.right)
  | .loop condition body none, fixes =>
    .loop (condition.twin fixes.left) (body.twin fixes.right)
  | .loop condition body (some increment), fixes =>
    .loopWith (condition.twin fixes.left) (body.twin fixes.right.left)
      (increment.twin fixes.right.right)
  | .control _ _, _ => .control
  | .declareFunction declaration, fixes => .declareFunction rfl (declaration.twin fixes)
  | .giveBack _ none, _ => .giveNothing
  | .giveBack _ (some value), fixes => .giveBack (value.twin fixes)
  | .declareClass _ none methods, fixes =>
    .declareClass rfl (inside_same.symm ▸ FunctionDeclaration.allTwin methods fixes)
  | .declareClass _ (some superclass) methods, fixes =>
    .declareSubclass rfl (superclass.twin fixes.left)
      (by
        rw [inside_same, inside_same]
        exact FunctionDeclaration.allTwin methods fixes.right)

theorem Statement.allTwin : (statements : List Statement) →
    ties.Fixes (Statement.allReferences statements) →
    Twin ties .same (.statements statements statements)
  | [], _ => .noStatements
  | statement :: others, fixes =>
    .moreStatements (statement.twin fixes.left) (Statement.allTwin others fixes.right)

end

end

end Lox
