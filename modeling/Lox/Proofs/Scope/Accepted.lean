/-
A program that is walked without an error is placed rightly. The mutual induction follows the walk
node by node. What it needs to know about the surroundings is that in a class body the scopes of
`this` and `super` are found, the second right outside the first.
-/

import Lox.Proofs.Scope.Walk

namespace Lox

open Scope

/-! ### Surroundings -/

namespace Scope

/-- In a class the scope of `this` is found, and with a superclass that of `super` outside it. -/
def Within (around : Surroundings) (scopes : List Names) : Prop :=
  match around.enclosingClass with
  | .none => True
  | .withoutSuperclass => ∃ distance, distance? scopes "this" = some distance
  | .withSuperclass => ∃ distance, distance? scopes "this" = some distance ∧
      distance? scopes "super" = some (distance + 1)

namespace Within

variable {around : Surroundings} {scopes others : List Names}

/-- Only how far out the two words are found matters. -/
theorem of_distances (within : Within around scopes)
    (sameThis : distance? others "this" = distance? scopes "this")
    (sameSuper : distance? others "super" = distance? scopes "super") : Within around others := by
  unfold Within at within ⊢
  rw [sameThis, sameSuper]
  exact within

theorem topLevel (scopes : List Names) : Within .topLevel scopes := trivial

/-- Loops and functions are of no concern. -/
theorem sameClass {inside : Surroundings} (within : Within around scopes)
    (same : inside.enclosingClass = around.enclosingClass) : Within inside scopes := by
  unfold Within at within ⊢
  rw [same]
  exact within

theorem enter {name : String} (isVariable : IsVariable name) (isDefined : Bool)
    (within : Within around scopes) : Within around (enter name isDefined scopes) :=
  within.of_distances (distance?_enter isDefined isVariable.1.symm scopes)
    (distance?_enter isDefined isVariable.2.symm scopes)

theorem declaredIn {name : String} (isVariable : IsVariable name)
    (within : Within around scopes) : Within around (declaredIn name scopes) :=
  within.of_distances (distance?_declaredIn isVariable.1.symm scopes)
    (distance?_declaredIn isVariable.2.symm scopes)

/-- A scope of variables lies inside. -/
theorem push {names : Names} (within : Within around scopes)
    (noThis : names.contains "this" = false) (noSuper : names.contains "super" = false) :
    Within around (names :: scopes) := by
  unfold Within at within ⊢
  split at within
  · trivial
  · obtain ⟨distance, nearest⟩ := within
    exact ⟨distance + 1, distance?_outer noThis nearest⟩
  · obtain ⟨distance, nearest, further⟩ := within
    exact ⟨distance + 1, distance?_outer noThis nearest, distance?_outer noSuper further⟩

theorem methods (around : Surroundings) (scopes : List Names) :
    Within { around with enclosingClass := .withoutSuperclass } (methodScopes false scopes) :=
  ⟨0, by rw [methodScopes, if_neg Bool.false_ne_true, distance?_cons]; rfl⟩

theorem inheritingMethods (around : Surroundings) (scopes : List Names) :
    Within { around with enclosingClass := .withSuperclass } (methodScopes true scopes) := by
  refine ⟨0, ?_, ?_⟩ <;> rw [methodScopes, if_pos rfl]
  · rw [distance?_cons]
    rfl
  · rw [distance?_cons, distance?_cons]
    rfl

end Within

end Scope

/-! ### What declares a name -/

theorem Statement.declared?_of_not_isDeclaration {statement : Statement}
    (branch : statement.isDeclaration = false) : statement.declared? = none := by
  cases statement <;> first | rfl | exact nomatch branch

theorem Statement.IsExpression.declared? {statement : Statement}
    (isExpression : statement.IsExpression) : statement.declared? = none := by
  cases statement <;> first | rfl | exact isExpression.elim

theorem Statement.scopesAfter_of_none {statement : Statement} (none : statement.declared? = none)
    (scopes : List Names) : statement.scopesAfter scopes = scopes := by
  unfold Statement.scopesAfter
  rw [none]

/-- The scopes behind statements. -/
def Statement.scopesAfterAll (scopes : List Names) (statements : List Statement) : List Names :=
  statements.foldl (fun scopes statement => statement.scopesAfter scopes) scopes

/-- Statements only change the innermost scope. -/
theorem Statement.scopesAfterAll_tail (statements : List Statement) (scopes : List Names) :
    (Statement.scopesAfterAll scopes statements).tail = scopes.tail := by
  induction statements generalizing scopes with
  | nil => rfl
  | cons statement others inductionHypothesis =>
    refine (inductionHypothesis (statement.scopesAfter scopes)).trans ?_
    unfold Statement.scopesAfter
    cases statement.declared? with
    | none => rfl
    | some name => cases scopes <;> rfl

/-- What a statement declares can be the name of a variable. -/
theorem Statement.Shaped.isVariable {statement : Statement} {name : String}
    (shaped : statement.Shaped .spelled) (declares : statement.declared? = some name) :
    IsVariable name := by
  refine isVariable_of_unreserved ?_
  cases statement with
  | declareVariable word initializer =>
    cases declares
    cases initializer with
    | none => exact shaped
    | some initializer => exact shaped.1
  | declareFunction declaration =>
    obtain ⟨word, parameters, body⟩ := declaration
    obtain ⟨word, rfl, rfl⟩ := Option.map_eq_some_iff.mp declares
    exact shaped.2.1 word rfl
  | declareClass word superclass methods =>
    cases declares
    cases superclass with
    | none => exact shaped.1
    | some superclass => exact shaped.1
  | _ => exact nomatch declares

theorem Scope.Within.scopesAfter {around : Surroundings} {scopes : List Names}
    {statement : Statement} (within : Within around scopes)
    (shaped : statement.Shaped .spelled) : Within around (statement.scopesAfter scopes) := by
  unfold Statement.scopesAfter
  split
  · rename_i name declares
    exact within.enter (shaped.isVariable declares) true
  · exact within

/-! ### Checks -/

namespace Scope.Walks

variable {around : Surroundings} {before : State} {scopes : List Names}

/-- A walk that does the same from a state as another one. -/
theorem congr {walk other : Walk Unit} {references : List Reference} {placed : Distances → Prop}
    (walks : Walks walk references before scopes placed) (same : other before = walk before) :
    Walks other references before scopes placed := by
  refine ⟨?_, ?_, ?_⟩ <;> rw [same]
  · exact walks.walked
  · exact walks.scopes
  · exact walks.found

/-- A check reports or does nothing. -/
theorem check {condition : Prop} [Decidable condition] {place : Identifier}
    {problem : ScopeProblem} (here : before.scopes = scopes) :
    Walks (if condition then Scope.report place problem else return) [] before scopes
      fun _ => ¬condition := by
  subst here
  split
  · exact .report place problem
  · rename_i holds
    exact .pure fun _ => holds

theorem checkRead (name : Identifier) (here : before.scopes = scopes) :
    Walks (checkRead name) [] before scopes fun _ => ¬IsPending name.name scopes := by
  subst here
  have step : Scope.checkRead name before =
      (if isUndefinedHere name.name before then Scope.report name .ownInitializer else return :
        Walk Unit) before := rfl
  refine (Walks.check rfl).imp (fun _ undefined pending => undefined ?_) |>.congr step
  unfold isUndefinedHere
  cases scopes : before.scopes with
  | nil =>
    rw [scopes] at pending
    exact pending.elim
  | cons innermost others =>
    rw [scopes] at pending
    exact beq_iff_eq.mpr pending

/-- A variable that is read. -/
theorem read (reference : Reference) {name : Identifier} (isVariable : IsVariable name.name)
    (here : before.scopes = scopes) :
    Walks (walkRead reference name) [reference] before scopes
      fun table => (Expression.read reference name).Placed (tableOf table) scopes :=
  ((Walks.checkRead name here).bind fun _ same => Walks.relate reference name.name same).imp
    fun _ found => ⟨isVariable, found⟩

/-- What `this` needs of its surroundings. -/
theorem this {reference : Reference} {keyword : Identifier} (isThis : keyword.name = "this")
    (within : Within around before.scopes) :
    Walks (walkThis around reference keyword) [reference] before before.scopes
      fun table => (Expression.this reference keyword).Placed (tableOf table) before.scopes := by
  unfold walkThis
  split
  · exact .report keyword _
  · rename_i inClass
    refine (relate reference keyword.name rfl).imp fun table known => ⟨isThis, ?_⟩
    rw [isThis] at known
    unfold Within at within
    split at within
    · exact absurd ‹_› inClass
    · obtain ⟨distance, nearest⟩ := within
      exact ⟨distance, nearest, known.trans nearest⟩
    · obtain ⟨distance, nearest, _⟩ := within
      exact ⟨distance, nearest, known.trans nearest⟩

/-- What `super` needs of its surroundings. -/
theorem super {reference : Reference} {keyword method : Identifier}
    (isSuper : keyword.name = "super") (within : Within around before.scopes) :
    Walks (walkSuper around reference keyword) [reference] before before.scopes
      fun table =>
        (Expression.super reference keyword method).Placed (tableOf table) before.scopes := by
  have related (after : State) (same : after.scopes = before.scopes) :
      Walks (Scope.relate reference keyword.name) [reference] after before.scopes
        fun table => table[reference]? = distance? before.scopes "super" := by
    rw [isSuper]
    exact relate reference "super" same
  have reported (problem : ScopeProblem) :
      Walks (Scope.report keyword problem) [] before before.scopes fun _ => False :=
    report keyword problem
  unfold walkSuper
  unfold Within at within
  cases kind : around.enclosingClass with
  | none | withoutSuperclass =>
    exact ((reported _).bind related).imp fun _ found => found.1.elim
  | withSuperclass =>
    rw [kind] at within
    obtain ⟨distance, nearest, further⟩ := within
    have unchanged : Walks (Pure.pure ()) [] before before.scopes fun _ => True :=
      pure fun _ => trivial
    refine (unchanged.bind related).imp ?_
    exact fun _ ⟨_, known⟩ => ⟨isSuper, distance, nearest, further, known.trans further⟩

/-- What comes behind the declaration of a name. -/
theorem introducing {walk : Walk Unit} {references : List Reference}
    {placed : Distances → Prop} {scopesAfter : List Names} (name : Identifier)
    (here : before.scopes = scopes)
    (rest : ∀ after, after.scopes = enter name.name true scopes →
      Walks walk references after scopesAfter placed) :
    Walks (do Scope.declare name; Scope.define name.name; walk) references before scopesAfter
      fun table => IsNew name.name scopes ∧ placed table := by
  exact (introduce name here).bind rest

/-- A walk in a scope that holds one word. -/
theorem inScopeOf {walk : Walk Unit} {references : List Reference} {placed : Distances → Prop}
    (word : String) (here : before.scopes = scopes)
    (inside : ∀ after, after.scopes = only word :: scopes →
      Walks walk references after (only word :: scopes) placed) :
    Walks (Scope.inNewScope (do Scope.define word; walk)) references before scopes placed := by
  subst here
  have opened : Walks (Scope.define word) [] { before with scopes := .empty :: before.scopes }
      (only word :: before.scopes) fun _ => True := define word
  exact inNewScope ((opened.bind inside).imp fun _ found => found.2) rfl

/-- A superclass is named, by another name than that of its subclass. -/
theorem superclass {superclass : Expression} (name : Identifier) (isRead : superclass.IsRead)
    (shaped : superclass.Shaped .spelled) (here : before.scopes = enter name.name true scopes) :
    Walks (do checkSuperclass name superclass; walkExpression around superclass)
      superclass.references before (enter name.name true scopes)
      fun table => superclass.Placed (tableOf table) (enter name.name false scopes) := by
  match superclass, isRead with
  | .read reference other, _ =>
    refine ((Walks.check here).bind fun _ same =>
      read reference (isVariable_of_unreserved shaped) same).imp fun table found => ?_
    obtain ⟨different, isVariable, defined, known⟩ := found
    refine ⟨isVariable, ?_, known.trans (distance?_enter_mark true false scopes)⟩
    rw [isPending_enter different] at defined ⊢
    exact defined

end Scope.Walks

/-! ### Nodes -/

mutual

/-- A walk through an expression that adds no error finds it placed rightly. -/
theorem walkExpression_walks : (expression : Expression) → expression.Shaped .spelled →
    ∀ {around : Surroundings} {scopes : List Names} {before : State}, Within around scopes →
      before.scopes = scopes →
      Walks (walkExpression around expression) expression.references before scopes
        fun table => expression.Placed (tableOf table) scopes
  | .literal _, _, _, _, _, _, here => here ▸ .pure fun _ => trivial
  | .grouping inner, shaped, _, _, _, within, here => walkExpression_walks inner shaped within here
  | .unary _ _ operand, shaped, _, _, _, within, here =>
    walkExpression_walks operand shaped.2 within here
  | .binary _ _ left right, shaped, _, _, _, within, here =>
    (walkExpression_walks left shaped.2.1 within here).bind fun _ same =>
      walkExpression_walks right shaped.2.2 within same
  | .logical _ left right, shaped, _, _, _, within, here =>
    (walkExpression_walks left shaped.1 within here).bind fun _ same =>
      walkExpression_walks right shaped.2 within same
  | .read reference _, shaped, _, _, _, _, here =>
    Walks.read reference (isVariable_of_unreserved shaped) here
  | .assign reference name value, shaped, _, _, _, within, here =>
    ((walkExpression_walks value shaped.2 within here).bind fun _ same =>
      Walks.relate reference name.name same).imp
        fun _ found => ⟨isVariable_of_unreserved shaped.1, found⟩
  | .call callee _ arguments, shaped, _, _, _, within, here =>
    (walkExpression_walks callee shaped.2.1 within here).bind fun _ same =>
      walkExpressions_walks arguments shaped.2.2.2 within same
  | .function declaration, shaped, _, _, _, within, here =>
    walkFunction_walks declaration shaped.2 _ within here
  | .get object _, shaped, _, _, _, within, here =>
    walkExpression_walks object shaped.2 within here
  | .set object _ value, shaped, _, _, _, within, here =>
    ((walkExpression_walks value shaped.2.2 within here).bind fun _ same =>
      walkExpression_walks object shaped.2.1 within same).mono List.perm_append_comm rfl
        fun _ found => ⟨found.2, found.1⟩
  | .this _ _, shaped, _, _, _, within, here => by
    subst here
    exact Walks.this shaped within
  | .super _ _ _, shaped, _, _, _, within, here => by
    subst here
    exact Walks.super shaped.1 within

theorem walkExpressions_walks : (expressions : List Expression) →
    Expression.AllShaped .spelled expressions →
    ∀ {around : Surroundings} {scopes : List Names} {before : State}, Within around scopes →
      before.scopes = scopes →
      Walks (walkExpressions around expressions) (Expression.allReferences expressions) before
        scopes fun table => Expression.AllPlaced (tableOf table) scopes expressions
  | [], _, _, _, _, _, here => here ▸ .pure fun _ => trivial
  | expression :: others, shaped, _, _, _, within, here =>
    (walkExpression_walks expression shaped.1 within here).bind fun _ same =>
      walkExpressions_walks others shaped.2 within same

theorem walkFunction_walks : (declaration : FunctionDeclaration) →
    declaration.Shaped .spelled →
    ∀ (kind : FunctionKind) {around : Surroundings} {scopes : List Names} {before : State},
      Within around scopes → before.scopes = scopes →
      Walks (walkFunction around kind declaration) declaration.references before scopes
        fun table => declaration.Placed (tableOf table) scopes
  | .mk _ parameters body, shaped, kind, around, scopes, before, within, here => by
    subst here
    have areVariables : ∀ parameter ∈ parameters, IsVariable parameter.name :=
      fun parameter member => isVariable_of_unreserved (shaped.2.1 parameter member)
    have inside : Within { around with function := kind, loops := 0 }
        (parametersIn .empty parameters :: before.scopes) :=
      (within.push (parametersIn_absent areVariables not_isVariable_this)
        (parametersIn_absent areVariables not_isVariable_super)).sameClass rfl
    refine Walks.inNewScope (((Walks.parameters parameters .empty before.scopes rfl).bind
      fun after same => walkStatements_walks body shaped.2.2.2 inside same).imp ?_) ?_
    · exact fun _ found => ⟨areVariables, found.2⟩
    · exact Statement.scopesAfterAll_tail body _

theorem walkMethods_walks : (methods : List FunctionDeclaration) →
    FunctionDeclaration.AllShaped .spelled methods →
    ∀ {around : Surroundings} {scopes : List Names} {before : State}, Within around scopes →
      before.scopes = scopes →
      Walks (walkMethods around methods) (FunctionDeclaration.allReferences methods) before
        scopes fun table => FunctionDeclaration.AllPlaced (tableOf table) scopes methods
  | [], _, _, _, _, _, here => here ▸ .pure fun _ => trivial
  | method :: others, shaped, _, _, _, within, here =>
    (walkFunction_walks method shaped.2.1 _ within here).bind fun _ same =>
      walkMethods_walks others shaped.2.2 within same

/-- A walk through a statement that adds no error finds it placed rightly. -/
theorem walkStatement_walks : (statement : Statement) → statement.Shaped .spelled →
    ∀ {around : Surroundings} {scopes : List Names} {before : State}, Within around scopes →
      before.scopes = scopes →
      Walks (walkStatement around statement) statement.references before
        (statement.scopesAfter scopes) fun table => statement.Placed (tableOf table) scopes
  | .expression expression, shaped, _, _, _, within, here =>
    walkExpression_walks expression shaped within here
  | .print expression, shaped, _, _, _, within, here =>
    walkExpression_walks expression shaped within here
  | .declareVariable name none, shaped, _, _, _, _, here =>
    (Walks.introduce name here).imp fun _ isNew => ⟨isVariable_of_unreserved shaped, isNew⟩
  | .declareVariable name (some initializer), shaped, around, _, before, within, here => by
    subst here
    have isVariable := isVariable_of_unreserved shaped.1
    have inside (after : State) (entered : after.scopes = declaredIn name.name before.scopes) :
        Walks (walkExpression around initializer) initializer.references after after.scopes
          fun table => initializer.Placed (tableOf table) (declaredIn name.name before.scopes) := by
      rw [entered]
      exact walkExpression_walks initializer shaped.2 (within.declaredIn isVariable) entered
    refine (Walks.whilePending name inside).imp fun table found => ?_
    exact ⟨isVariable, found.1, declaredIn_of_isNew found.1 ▸ found.2⟩
  | .block statements, shaped, _, _, _, within, here => by
    subst here
    have inside : Within _ (.empty :: _) := within.push rfl rfl
    exact Walks.inNewScope (walkStatements_walks statements shaped inside rfl)
      (Statement.scopesAfterAll_tail statements _)
  | .conditional condition thenBranch none, shaped, _, _, _, within, here => by
    have noName := Statement.declared?_of_not_isDeclaration shaped.2.1
    refine ((walkExpression_walks condition shaped.1 within here).bind fun _ same =>
      walkStatement_walks thenBranch shaped.2.2 within same).mono (.refl _) ?_ ?_
    · exact Statement.scopesAfter_of_none noName _
    · exact fun _ found => ⟨found.1, noName, found.2⟩
  | .conditional condition thenBranch (some elseBranch), shaped, _, scopes, _, within, here => by
    have noName := Statement.declared?_of_not_isDeclaration shaped.2.1
    have noNameElse := Statement.declared?_of_not_isDeclaration shaped.2.2.2.1
    have unchanged := Statement.scopesAfter_of_none noName scopes
    have unchangedElse := Statement.scopesAfter_of_none noNameElse scopes
    refine ((walkExpression_walks condition shaped.1 within here).bind fun _ same =>
      (walkStatement_walks thenBranch shaped.2.2.1 within same).bind fun _ same =>
        walkStatement_walks elseBranch shaped.2.2.2.2 within (same.trans unchanged)).mono
          (.refl _) unchangedElse ?_
    exact fun _ found => ⟨found.1, noName, found.2.1, noNameElse, found.2.2⟩
  | .loop condition body none, shaped, around, scopes, _, within, here => by
    have noName := Statement.declared?_of_not_isDeclaration shaped.2.1
    have inside : Within { around with loops := around.loops + 1 } scopes := within.sameClass rfl
    refine ((walkExpression_walks condition shaped.1 within here).bind fun _ same =>
      walkStatement_walks body shaped.2.2 inside same).mono (.refl _) ?_ ?_
    · exact Statement.scopesAfter_of_none noName _
    · exact fun _ found => ⟨found.1, noName, found.2⟩
  | .loop condition body (some increment), shaped, around, scopes, _, within, here => by
    have inside : Within { around with loops := around.loops + 1 } scopes := within.sameClass rfl
    have noName := Statement.declared?_of_not_isDeclaration shaped.2.1
    have noNameThere := shaped.2.2.2.1.declared?
    have unchanged := Statement.scopesAfter_of_none noName scopes
    have unchangedThere := Statement.scopesAfter_of_none noNameThere scopes
    refine ((walkExpression_walks condition shaped.1 within here).bind fun _ same =>
      (walkStatement_walks body shaped.2.2.1 inside same).bind fun _ same =>
        walkStatement_walks increment shaped.2.2.2.2 inside (same.trans unchanged)).mono
          (.refl _) unchangedThere ?_
    exact fun _ found => ⟨found.1, noName, found.2.1, noNameThere, found.2.2⟩
  | .control _ _, _, _, _, _, _, here => (Walks.check here).imp fun _ _ => trivial
  | .declareFunction (.mk none _ _), shaped, _, _, _, _, _ => nomatch shaped.1
  | .declareFunction (.mk (some name) parameters body), shaped, _, _, _, within, here => by
    have isVariable := isVariable_of_unreserved (shaped.2.1 name rfl)
    refine (Walks.introducing name here fun _ entered =>
      walkFunction_walks (.mk (some name) parameters body) shaped.2 _
        (within.enter isVariable true) entered).imp ?_
    exact fun _ found => ⟨name, rfl, isVariable, found⟩
  | .giveBack _ none, _, _, _, _, _, here => (Walks.check here).imp fun _ _ => trivial
  | .giveBack _ (some value), shaped, _, _, _, within, here =>
    ((Walks.check here).bind fun _ same => (Walks.check same).bind fun _ same =>
      walkExpression_walks value shaped.2 within same).imp fun _ found => found.2.2
  | .declareClass name none methods, shaped, around, scopes, _, _, here => by
    have isVariable := isVariable_of_unreserved shaped.1
    have inside (after : State) (entered : after.scopes = enter name.name true scopes) :=
      Walks.inScopeOf "this" entered fun last same =>
        walkMethods_walks methods shaped.2 (.methods around (enter name.name true scopes)) same
    exact (Walks.introducing name here inside).imp fun _ found => ⟨isVariable, found⟩
  | .declareClass name (some superclass) methods, shaped, around, scopes, before, within, here => by
    have isVariable := isVariable_of_unreserved shaped.1
    have inside (after : State) (entered : after.scopes = enter name.name true scopes) :=
      Walks.inScopeOf "super" entered fun last outer =>
        Walks.inScopeOf "this" outer fun last same =>
          walkMethods_walks methods shaped.2.2.2
            (.inheritingMethods around (enter name.name true scopes)) same
    refine (Walks.introducing name here fun after entered =>
      (Walks.superclass name shaped.2.1 shaped.2.2.1 entered).bind inside).imp ?_
    exact fun _ found => ⟨isVariable, found.1, shaped.2.1, found.2.1, found.2.2⟩

theorem walkStatements_walks : (statements : List Statement) →
    Statement.AllShaped .spelled statements →
    ∀ {around : Surroundings} {scopes : List Names} {before : State}, Within around scopes →
      before.scopes = scopes →
      Walks (walkStatements around statements) (Statement.allReferences statements) before
        (Statement.scopesAfterAll scopes statements)
        fun table => Statement.AllPlaced (tableOf table) scopes statements
  | [], _, _, _, _, _, here => here ▸ .pure fun _ => trivial
  | statement :: others, shaped, _, _, _, within, here =>
    (walkStatement_walks statement shaped.1 within here).bind fun _ same =>
      walkStatements_walks others shaped.2 (within.scopesAfter shaped.1) same

end

/-! ### Programs -/

namespace Scope

/-- A walk from the start whose outcome is a table. -/
theorem Walks.of_outcome {walk : Walk Unit} {references : List Reference} {scopes : List Names}
    {placed : Distances → Prop} {distances : Distances}
    (walks : Walks walk references .start scopes placed) (distinct : references.Nodup)
    (accepted : outcome walk = .ok distances) :
    placed distances ∧ ∀ reference, reference ∉ references → distances[reference]? = none := by
  have absent (reference : Reference) : State.start.distances[reference]? = none :=
    Std.TreeMap.getElem?_emptyc
  unfold outcome at accepted
  dsimp only at accepted
  split at accepted
  · rename_i noError
    cases accepted
    refine ⟨walks.found noError distinct (fun reference _ => absent reference) _ (.refl _ _), ?_⟩
    exact fun reference outside =>
      (walks.walked.records reference outside).trans (absent reference)
  · exact nomatch accepted

/-- A program that is resolved without errors is placed rightly, and its table has records of its
own references only. -/
theorem resolveProgram_placed {statements : List Statement} {distances : Distances}
    (shaped : Statement.AllShaped .spelled statements)
    (distinct : (Statement.allReferences statements).Nodup)
    (accepted : resolveProgram statements = .ok distances) :
    Statement.AllPlaced (tableOf distances) [] statements ∧
      ∀ reference, reference ∉ Statement.allReferences statements →
        distances[reference]? = none :=
  (walkStatements_walks statements shaped (.topLevel []) rfl).of_outcome distinct accepted

/-- A lone expression likewise. -/
theorem resolveExpression_placed {expression : Expression} {distances : Distances}
    (shaped : expression.Shaped .spelled) (distinct : expression.references.Nodup)
    (accepted : resolveExpression expression = .ok distances) :
    expression.Placed (tableOf distances) [] ∧
      ∀ reference, reference ∉ expression.references → distances[reference]? = none :=
  (walkExpression_walks expression shaped (.topLevel []) rfl).of_outcome distinct accepted

end Scope

end Lox
