/-
A walk through a relabelled tree finds the same, under the new labels, and it makes no difference
what was found before it: an error that is reported and a distance that is recorded follow from the
scopes and the names alone. So a program can be resolved with another one in front of it.
-/

import Lox.Proofs.Scope.Accepted
import Lox.Proofs.Tree.Relabelled

namespace Lox

open Scope

namespace Scope

/-! ### Two walks -/

/-- What a walk has found, and what its counterpart has found under other labels, when that one
began with some distances known. -/
structure Copies (labels : Relabelling) (known : Distances) (state copy : State) : Prop where
  scopes : copy.scopes = state.scopes
  errors : copy.errors.length = state.errors.length
  distances : ∀ reference, copy.distances[labels.reference reference]? =
    state.distances[reference]?.or known[labels.reference reference]?

/-- The one walk finds what the other finds, under other labels. -/
def Follows (labels : Relabelling) (known : Distances) (copy walk : Walk Unit) : Prop :=
  ∀ state other, Copies labels known state other → Copies labels known (walk state).2 (copy other).2

variable {labels : Relabelling} {known : Distances}

namespace Follows

variable {walk next copy copyNext : Walk Unit}

theorem bind (first : Follows labels known copy walk)
    (rest : Follows labels known copyNext next) :
    Follows labels known (copy >>= fun _ => copyNext) (walk >>= fun _ => next) :=
  fun state other copies => rest _ _ (first state other copies)

theorem pure : Follows labels known (Pure.pure ()) (Pure.pure ()) :=
  fun _ _ copies => copies

theorem report (place other : Identifier) (problem : ScopeProblem) :
    Follows labels known (report other problem) (report place problem) := by
  refine fun state copy copies => ⟨copies.scopes, ?_, copies.distances⟩
  show (copy.errors ++ [_]).length = (state.errors ++ [_]).length
  rw [List.length_append, List.length_append, copies.errors]
  rfl

/-- A check reports in both walks or in neither. -/
theorem check {condition : Prop} [Decidable condition] (place other : Identifier)
    (problem : ScopeProblem) :
    Follows labels known (if condition then Scope.report other problem else return)
      (if condition then Scope.report place problem else return) := by
  split
  · exact report place other problem
  · exact pure

theorem changeInnermost (change : Names → Names) :
    Follows labels known (changeInnermost change) (changeInnermost change) := by
  rintro ⟨scopes, distances, errors⟩ ⟨otherScopes, otherDistances, otherErrors⟩ copies
  obtain rfl : scopes = otherScopes := copies.scopes.symm
  cases scopes with
  | nil => exact copies
  | cons innermost others => exact ⟨rfl, copies.errors, copies.distances⟩

theorem define (name : String) : Follows labels known (define name) (define name) :=
  changeInnermost _

theorem declare (name : Identifier) :
    Follows labels known (declare (name.reline labels.line)) (declare name) := by
  rintro ⟨scopes, distances, errors⟩ ⟨otherScopes, otherDistances, otherErrors⟩ copies
  obtain rfl : scopes = otherScopes := copies.scopes.symm
  cases scopes with
  | nil => exact copies
  | cons innermost others =>
    have step (name : Identifier) (distances : Distances) (errors : List ScopeError) :
        Scope.declare name ⟨innermost :: others, distances, errors⟩ =
          (if innermost.contains name.name then Scope.report name .alreadyDeclared
            else Scope.changeInnermost fun names => names.write name.name false : Walk Unit)
          ⟨innermost :: others, distances, errors⟩ := rfl
    rw [step, step]
    show Copies labels known
      ((if innermost.contains name.name then _ else _ : Walk Unit) _).2
      ((if innermost.contains name.name then _ else _ : Walk Unit) _).2
    split
    · exact report name _ .alreadyDeclared _ _ copies
    · exact changeInnermost _ _ _ copies

theorem inNewScope (follows : Follows labels known copy walk) :
    Follows labels known (inNewScope copy) (inNewScope walk) := by
  intro state other copies
  have inside := follows { state with scopes := .empty :: state.scopes }
    { other with scopes := .empty :: other.scopes }
    ⟨congrArg (.empty :: ·) copies.scopes, copies.errors, copies.distances⟩
  exact ⟨congrArg List.tail inside.scopes, inside.errors, inside.distances⟩

/-- The distance of an occurrence is recorded under its reference. -/
theorem relate (injective : Function.Injective labels.reference) (reference : Reference)
    (name : String) :
    Follows labels known (relate (labels.reference reference) name) (relate reference name) := by
  intro state other copies
  cases nearest : distance? state.scopes name with
  | none =>
    rw [Walks.relate_absent reference nearest,
      Walks.relate_absent _ (copies.scopes ▸ nearest)]
    exact copies
  | some distance =>
    rw [Walks.relate_found reference nearest, Walks.relate_found _ (copies.scopes ▸ nearest)]
    refine ⟨copies.scopes, copies.errors, fun wanted => ?_⟩
    rw [Std.TreeMap.getElem?_insert, Std.TreeMap.getElem?_insert]
    by_cases same : reference = wanted
    · simp [same]
    · have other := mt (@injective reference wanted) same
      simp [same, other, copies.distances]

theorem read (injective : Function.Injective labels.reference) (reference : Reference)
    (name : Identifier) :
    Follows labels known (walkRead (labels.reference reference) (name.reline labels.line))
      (walkRead reference name) := by
  refine bind (fun state other copies => ?_) (relate injective reference name.name)
  have step (name : Identifier) (state : State) : checkRead name state =
      (if isUndefinedHere name.name state then Scope.report name .ownInitializer else return :
        Walk Unit) state := rfl
  have same : isUndefinedHere name.name other = isUndefinedHere name.name state := by
    unfold isUndefinedHere
    rw [copies.scopes]
  rw [step, step]
  show Copies labels known _ ((if isUndefinedHere name.name other then _ else _ : Walk Unit) _).2
  rw [same]
  exact check name _ .ownInitializer state other copies

theorem this (injective : Function.Injective labels.reference) (around : Surroundings)
    (reference : Reference) (keyword : Identifier) :
    Follows labels known (walkThis around (labels.reference reference) (keyword.reline labels.line))
      (walkThis around reference keyword) := by
  unfold walkThis
  split
  · exact report keyword _ _
  · exact relate injective reference keyword.name

theorem super (injective : Function.Injective labels.reference) (around : Surroundings)
    (reference : Reference) (keyword : Identifier) :
    Follows labels known
      (walkSuper around (labels.reference reference) (keyword.reline labels.line))
      (walkSuper around reference keyword) := by
  have related : Follows labels known _ _ := relate injective reference keyword.name
  unfold walkSuper
  cases around.enclosingClass with
  | none => exact (report keyword _ _).bind related
  | withoutSuperclass => exact (report keyword _ _).bind related
  | withSuperclass => exact pure.bind related

theorem superclass (name : Identifier) (superclass : Expression) :
    Follows labels known (checkSuperclass (name.reline labels.line) (superclass.relabel labels))
      (checkSuperclass name superclass) := by
  cases superclass with
  | read reference other => exact check other _ .ownSuperclass
  | _ => exact pure

theorem parameters (parameters : List Identifier) :
    Follows labels known (walkParameters (parameters.map (·.reline labels.line)))
      (walkParameters parameters) := by
  induction parameters with
  | nil => exact pure
  | cons parameter others inductionHypothesis =>
    exact (declare parameter).bind ((define parameter.name).bind inductionHypothesis)

end Follows

end Scope

/-! ### Nodes -/

variable {labels : Relabelling} {known : Distances}

theorem methodKind_relabel (method : FunctionDeclaration) :
    methodKind (method.relabel labels) = methodKind method := by
  unfold methodKind
  rw [FunctionDeclaration.isInitializer_relabel]

mutual

theorem walkExpression_follows (injective : Function.Injective labels.reference) :
    (expression : Expression) → (around : Surroundings) →
    Follows labels known (walkExpression around (expression.relabel labels))
      (walkExpression around expression)
  | .literal _, _ => .pure
  | .grouping inner, around => walkExpression_follows injective inner around
  | .unary _ _ operand, around => walkExpression_follows injective operand around
  | .binary _ _ left right, around | .logical _ left right, around =>
    (walkExpression_follows injective left around).bind
      (walkExpression_follows injective right around)
  | .read reference name, _ => .read injective reference name
  | .assign reference name value, around =>
    (walkExpression_follows injective value around).bind (.relate injective reference name.name)
  | .call callee _ arguments, around =>
    (walkExpression_follows injective callee around).bind
      (walkExpressions_follows injective arguments around)
  | .function declaration, around => walkFunction_follows injective declaration around .function
  | .get object _, around => walkExpression_follows injective object around
  | .set object _ value, around =>
    (walkExpression_follows injective value around).bind
      (walkExpression_follows injective object around)
  | .this reference keyword, around => .this injective around reference keyword
  | .super reference keyword _, around => .super injective around reference keyword

theorem walkExpressions_follows (injective : Function.Injective labels.reference) :
    (expressions : List Expression) → (around : Surroundings) →
    Follows labels known (walkExpressions around (Expression.relabelAll labels expressions))
      (walkExpressions around expressions)
  | [], _ => .pure
  | expression :: others, around =>
    (walkExpression_follows injective expression around).bind
      (walkExpressions_follows injective others around)

theorem walkFunction_follows (injective : Function.Injective labels.reference) :
    (declaration : FunctionDeclaration) → (around : Surroundings) → (kind : FunctionKind) →
    Follows labels known (walkFunction around kind (declaration.relabel labels))
      (walkFunction around kind declaration)
  | .mk _ parameters body, around, kind =>
    .inNewScope ((Follows.parameters parameters).bind (walkStatements_follows injective body
      { around with function := kind, loops := 0 }))

theorem walkMethods_follows (injective : Function.Injective labels.reference) :
    (methods : List FunctionDeclaration) → (around : Surroundings) →
    Follows labels known (walkMethods around (FunctionDeclaration.relabelAll labels methods))
      (walkMethods around methods)
  | [], _ => .pure
  | method :: others, around => by
    refine Follows.bind ?_ (walkMethods_follows injective others around)
    rw [methodKind_relabel]
    exact walkFunction_follows injective method around (methodKind method)

theorem walkStatement_follows (injective : Function.Injective labels.reference) :
    (statement : Statement) → (around : Surroundings) →
    Follows labels known (walkStatement around (statement.relabel labels))
      (walkStatement around statement)
  | .expression expression, around | .print expression, around =>
    walkExpression_follows injective expression around
  | .declareVariable name none, _ => (Follows.declare name).bind (.define name.name)
  | .declareVariable name (some initializer), around =>
    (Follows.declare name).bind ((walkExpression_follows injective initializer around).bind
      (.define name.name))
  | .block statements, around => .inNewScope (walkStatements_follows injective statements around)
  | .conditional condition thenBranch none, around =>
    (walkExpression_follows injective condition around).bind
      (walkStatement_follows injective thenBranch around)
  | .conditional condition thenBranch (some elseBranch), around =>
    (walkExpression_follows injective condition around).bind
      ((walkStatement_follows injective thenBranch around).bind
        (walkStatement_follows injective elseBranch around))
  | .loop condition body none, around =>
    (walkExpression_follows injective condition around).bind
      (walkStatement_follows injective body { around with loops := around.loops + 1 })
  | .loop condition body (some increment), around =>
    (walkExpression_follows injective condition around).bind
      ((walkStatement_follows injective body { around with loops := around.loops + 1 }).bind
        (walkStatement_follows injective increment { around with loops := around.loops + 1 }))
  | .control control keyword, _ => .check keyword _ (.outsideLoop control)
  | .declareFunction (.mk none parameters body), around =>
    walkFunction_follows injective (.mk none parameters body) around .function
  | .declareFunction (.mk (some name) parameters body), around =>
    (Follows.declare name).bind ((Follows.define name.name).bind
      (walkFunction_follows injective (.mk (some name) parameters body) around .function))
  | .giveBack keyword none, _ => .check keyword _ .outsideFunction
  | .giveBack keyword (some value), around =>
    (Follows.check keyword _ .outsideFunction).bind
      ((Follows.check keyword _ .valueFromInitializer).bind
        (walkExpression_follows injective value around))
  | .declareClass name none methods, around =>
    (Follows.declare name).bind ((Follows.define name.name).bind
      (.inNewScope ((Follows.define "this").bind (walkMethods_follows injective methods
        { around with enclosingClass := .withoutSuperclass }))))
  | .declareClass name (some superclass) methods, around =>
    (Follows.declare name).bind ((Follows.define name.name).bind
      ((Follows.superclass name superclass).bind
        ((walkExpression_follows injective superclass
            { around with enclosingClass := .withSuperclass }).bind
          (.inNewScope ((Follows.define "super").bind
            (.inNewScope ((Follows.define "this").bind (walkMethods_follows injective methods
              { around with enclosingClass := .withSuperclass }))))))))

theorem walkStatements_follows (injective : Function.Injective labels.reference) :
    (statements : List Statement) → (around : Surroundings) →
    Follows labels known (walkStatements around (Statement.relabelAll labels statements))
      (walkStatements around statements)
  | [], _ => .pure
  | statement :: others, around =>
    (walkStatement_follows injective statement around).bind
      (walkStatements_follows injective others around)

end

/-! ### Programs -/

namespace Scope

theorem outcome_eq_ok {walk : Walk Unit} {distances : Distances} :
    outcome walk = .ok distances ↔
      (walk .start).2.errors = [] ∧ (walk .start).2.distances = distances := by
  unfold outcome
  dsimp only
  split
  · rename_i noError
    exact ⟨fun same => ⟨noError, Except.ok.inj same⟩, fun found => congrArg _ found.2⟩
  · rename_i someError
    exact ⟨fun same => (nomatch same), fun found => absurd found.1 someError⟩

/-- Statements in a row are walked through in a row. -/
theorem walkStatements_append (around : Surroundings) (first second : List Statement)
    (state : State) : (walkStatements around (first ++ second) state).2 =
      (walkStatements around second (walkStatements around first state).2).2 := by
  induction first generalizing state with
  | nil => rfl
  | cons statement others inductionHypothesis =>
    exact inductionHypothesis (walkStatement around statement state).2

/-- The top level has no scopes, whatever is declared there. -/
theorem walkStatements_topLevel {statements : List Statement}
    (shaped : Statement.AllShaped .spelled statements) :
    (walkStatements .topLevel statements .start).2.scopes = [] := by
  rw [(walkStatements_walks statements shaped (.topLevel []) rfl).scopes]
  clear shaped
  induction statements with
  | nil => rfl
  | cons statement others inductionHypothesis =>
    have unchanged : statement.scopesAfter [] = [] := by
      unfold Statement.scopesAfter
      split <;> rfl
    rw [Statement.scopesAfterAll, List.foldl_cons, unchanged]
    exact inductionHypothesis

/-- A program that is accepted is so under other references. -/
theorem resolveProgram_relabel (injective : Function.Injective labels.reference)
    {statements : List Statement} {distances : Distances}
    (accepted : resolveProgram statements = .ok distances) :
    ∃ other, resolveProgram (Statement.relabelAll labels statements) = .ok other := by
  have started : Copies labels ∅ .start .start := ⟨rfl, rfl, fun _ => rfl⟩
  have copies := walkStatements_follows injective statements .topLevel .start .start started
  refine ⟨_, outcome_eq_ok.mpr ⟨List.eq_nil_of_length_eq_zero ?_, rfl⟩⟩
  exact copies.errors.trans (congrArg List.length (outcome_eq_ok.mp accepted).1)

/-- A program that is accepted is so on other lines behind another one, and then the distances of
both are found. -/
theorem resolveProgram_append {first second : List Statement} {early late : Distances}
    (shaped : Statement.AllShaped .spelled first) (line : Nat → Nat)
    (accepted : resolveProgram first = .ok early) (acceptedToo : resolveProgram second = .ok late) :
    ∃ distances,
      resolveProgram (first ++ Statement.relabelAll (.lines line) second) = .ok distances ∧
      ∀ reference : Reference, distances[reference]? = late[reference]?.or early[reference]? := by
  have ⟨noError, isEarly⟩ := outcome_eq_ok.mp accepted
  have ⟨noErrorToo, isLate⟩ := outcome_eq_ok.mp acceptedToo
  have started : Copies (.lines line) early .start (walkStatements .topLevel first .start).2 := by
    refine ⟨walkStatements_topLevel shaped, congrArg List.length noError, fun reference => ?_⟩
    have absent : State.start.distances[reference]? = none := Std.TreeMap.getElem?_emptyc
    rw [absent, isEarly]
    rfl
  have copies := walkStatements_follows Function.injective_id second
    .topLevel .start _ started
  rw [← walkStatements_append] at copies
  refine ⟨_, outcome_eq_ok.mpr ⟨List.eq_nil_of_length_eq_zero ?_, rfl⟩, fun reference => ?_⟩
  · exact copies.errors.trans (congrArg List.length noErrorToo)
  · exact isLate ▸ copies.distances reference

end Scope

end Lox
