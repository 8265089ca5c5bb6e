/-
A walk through a program reports the breaches of the static rules that its sites commit, each once,
in order, and nothing else. What the walk knows of its surroundings follows from the layers around a
site, and what it keeps of the innermost scope from the names declared there before; a mutual
induction on the tree shows that both stay so.
-/

import Lox.Proofs.Grammar.Program
import Lox.Proofs.Scope.Accepted
import Lox.Proofs.Scope.Rules

namespace Lox

open Scope

namespace Scope

/-! ### Surroundings -/

/-- The kind of function that a layer is. -/
def functionKind (isMethod : Bool) (declaration : FunctionDeclaration) : FunctionKind :=
  if isMethod then methodKind declaration else .function

/-- What a walk knows of the layers around. -/
def surroundings : List Layer → Surroundings
  | [] => .topLevel
  | .block _ :: around => surroundings around
  | .function isMethod declaration _ _ :: around =>
    { surroundings around with function := functionKind isMethod declaration, loops := 0 }
  | .methods false :: around =>
    { surroundings around with enclosingClass := .withoutSuperclass }
  | .methods true :: around => { surroundings around with enclosingClass := .withSuperclass }
  | .loop :: around => { surroundings around with loops := (surroundings around).loops + 1 }

theorem functionKind_initializer (isMethod : Bool) (declaration : FunctionDeclaration) :
    functionKind isMethod declaration = .initializer ↔
      (isMethod && declaration.isInitializer) = true := by
  unfold functionKind methodKind
  cases isMethod <;> cases declaration.isInitializer <;> simp

theorem functionKind_ne_none (isMethod : Bool) (declaration : FunctionDeclaration) :
    functionKind isMethod declaration ≠ .none := by
  unfold functionKind methodKind
  cases isMethod <;> cases declaration.isInitializer <;> simp

/-- The kind of the nearest function. -/
theorem surroundings_function (around : List Layer) :
    match around.findSome? Layer.initializer? with
    | none => (surroundings around).function = .none
    | some isInitializer => (surroundings around).function ≠ .none ∧
        ((surroundings around).function = .initializer ↔ isInitializer = true) := by
  induction around with
  | nil => rfl
  | cons layer around inductionHypothesis =>
    match layer with
    | .block _ | .loop | .methods false | .methods true => exact inductionHypothesis
    | .function isMethod declaration _ _ =>
      exact ⟨functionKind_ne_none isMethod declaration,
        functionKind_initializer isMethod declaration⟩

/-- The kind of the nearest class. -/
theorem surroundings_enclosingClass (around : List Layer) :
    (surroundings around).enclosingClass =
      match around.findSome? Layer.superclass? with
      | none => .none
      | some false => .withoutSuperclass
      | some true => .withSuperclass := by
  induction around with
  | nil => rfl
  | cons layer around inductionHypothesis =>
    match layer with
    | .block _ | .loop | .function _ _ _ _ => exact inductionHypothesis
    | .methods false | .methods true => rfl

/-- Loops are counted from the nearest function on. -/
theorem surroundings_loops (around : List Layer) :
    (surroundings around).loops = 0 ↔ inLoop around = false := by
  induction around with
  | nil => exact ⟨fun _ => rfl, fun _ => rfl⟩
  | cons layer around inductionHypothesis =>
    match layer with
    | .block _ | .methods false | .methods true => exact inductionHypothesis
    | .function _ _ _ _ => exact ⟨fun _ => rfl, fun _ => rfl⟩
    | .loop => exact ⟨fun none => absurd none (Nat.succ_ne_zero _), fun none => nomatch none⟩

/-- What stands before a place does not surround it. -/
theorem surroundings_past (statement : Statement) (around : List Layer) :
    surroundings (past statement around) = surroundings around := by
  induction around with
  | nil => rfl
  | cons layer around inductionHypothesis =>
    match layer with
    | .block _ | .function _ _ _ _ | .methods _ => rfl
    | .loop => simp only [past, surroundings, inductionHypothesis]

/-! ### The innermost scope -/

/-- A walk keeps of the innermost scope the names declared before, and besides them, as pending,
the variable whose initializer it is in. -/
inductive Fits (around : List Layer) (initialized : Option Identifier) : List Names → Prop
  | global (topLevel : localNames? around = none) : Fits around initialized []
  | inner {names : List String} {innermost : Names} {others : List Names}
    (declared : localNames? around = some names)
    (kept : ∀ name, innermost.get? name =
      if name ∈ names then some true
      else if name ∈ initialized.map Identifier.name then some false else none) :
    Fits around initialized (innermost :: others)

namespace Fits

variable {around : List Layer} {initialized : Option Identifier} {scopes : List Names}

/-- Loops open no scope. -/
theorem inLoop (fits : Fits around initialized scopes) :
    Fits (.loop :: around) initialized scopes := by
  cases fits with
  | global topLevel => exact .global topLevel
  | inner declared kept => exact .inner declared kept

theorem block (around : List Layer) (others : List Names) :
    Fits (.block [] :: around) none (.empty :: others) :=
  .inner rfl fun _ => rfl

/-- A name is held by the innermost scope if it has been declared there before. -/
theorem contains {innermost : Names} {others : List Names}
    (fits : Fits around none (innermost :: others)) (name : String) :
    innermost.contains name = true ↔ ∃ names ∈ localNames? around, name ∈ names := by
  cases fits with
  | @inner names _ _ declared kept =>
    rw [Bindings.contains, kept, declared]
    by_cases member : name ∈ names <;> simp [member]

/-- A name is held as pending in its own initializer, unless it has been declared before. -/
theorem pending {innermost : Names} {others : List Names}
    (fits : Fits around initialized (innermost :: others)) (name : String) :
    innermost.get? name = some false ↔ name ∈ initialized.map Identifier.name ∧
      ∃ names ∈ localNames? around, name ∉ names := by
  cases fits with
  | @inner names _ _ declared kept =>
    rw [kept, declared]
    by_cases member : name ∈ names <;> simp [member]

/-- A name that is defined is one more that has been declared. -/
theorem enter {inside : List Layer} {name : String} (fits : Fits around none scopes)
    (more : localNames? inside = (localNames? around).map (· ++ [name])) :
    Fits inside none (enter name true scopes) := by
  cases fits with
  | global topLevel => exact .global (by rw [more, topLevel]; rfl)
  | @inner names innermost _ declared kept =>
    refine .inner (by rw [more, declared]; rfl) fun other => ?_
    rw [Bindings.get?_write, kept]
    by_cases same : other = name <;> simp [same]

theorem localNames?_past (statement : Statement) (around : List Layer) :
    localNames? (past statement around) =
      (localNames? around).map (· ++ statement.declared?.toList) := by
  induction around with
  | nil => rfl
  | cons layer around inductionHypothesis =>
    match layer with
    | .methods _ => rfl
    | .loop => exact inductionHypothesis
    | .block _ | .function _ _ _ _ =>
      cases declares : statement.declared? <;>
        simp [past, localNames?, List.filterMap_append, declares]

/-- Behind a statement the name is declared that it declares. -/
theorem past (fits : Fits around none scopes) (statement : Statement) :
    Fits (past statement around) none (statement.scopesAfter scopes) := by
  have names := localNames?_past statement around
  unfold Statement.scopesAfter
  cases declares : statement.declared? with
  | some name => exact fits.enter (by rw [names, declares]; rfl)
  | none =>
    have unchanged : localNames? (Scope.past statement around) = localNames? around := by
      rw [names, declares]
      simp
    cases fits with
    | global topLevel => exact .global (unchanged.trans topLevel)
    | inner declared kept => exact .inner (unchanged.trans declared) kept

/-- A variable is pending in its own initializer. -/
theorem initializer (fits : Fits around none scopes) (name : Identifier) :
    Fits around (some name) (declaredIn name.name scopes) := by
  cases fits with
  | global topLevel => exact .global topLevel
  | @inner names innermost others declared kept =>
    rw [declaredIn]
    by_cases known : name.name ∈ names
    · have contained : innermost.contains name.name = true := by
        rw [Bindings.contains, kept, if_pos known]
        rfl
      rw [if_pos contained]
      refine .inner declared fun other => ?_
      rw [kept]
      by_cases same : other = name.name
      · rw [same, if_pos known, if_pos known]
      · simp [Ne.symm same]
    · have absent : innermost.contains name.name = false := by
        rw [Bindings.contains, kept, if_neg known]
        rfl
      rw [absent, if_neg Bool.false_ne_true]
      refine .inner declared fun other => ?_
      rw [Bindings.get?_write, kept]
      by_cases same : other = name.name
      · simp [same, known]
      · simp [same, Ne.symm same]

/-- A parameter is declared behind the ones before it. -/
theorem parameter {isMethod : Bool} {declaration : FunctionDeclaration}
    {earlier : List Identifier} {names : Names} {others : List Names}
    (fits : Fits (.function isMethod declaration earlier [] :: around) none (names :: others))
    (parameter : Identifier) :
    Fits (.function isMethod declaration (earlier ++ [parameter]) [] :: around) none
      (names.write parameter.name true :: others) :=
  fits.enter (by simp [localNames?])

theorem parameters {isMethod : Bool} {declaration : FunctionDeclaration} {others : List Names}
    (parameters : List Identifier) {earlier : List Identifier} {names : Names}
    (fits : Fits (.function isMethod declaration earlier [] :: around) none (names :: others)) :
    Fits (.function isMethod declaration (earlier ++ parameters) [] :: around) none
      (parametersIn names parameters :: others) := by
  induction parameters generalizing earlier names with
  | nil => rwa [List.append_nil]
  | cons parameter rest inductionHypothesis =>
    rw [List.append_cons]
    exact inductionHypothesis (fits.parameter parameter)

/-- A read finds a name pending in its own initializer only. -/
theorem isUndefinedHere {before : State} (fits : Fits around initialized scopes)
    (here : before.scopes = scopes) (name : String) :
    isUndefinedHere name before = true ↔ name ∈ initialized.map Identifier.name ∧
      ∃ names ∈ localNames? around, name ∉ names := by
  subst here
  unfold Scope.isUndefinedHere
  cases kept : before.scopes with
  | nil =>
    rw [kept] at fits
    cases fits with
    | global topLevel => simp [topLevel]
  | cons innermost others =>
    rw [kept] at fits
    exact beq_iff_eq.trans (fits.pending name)

end Fits

/-! ### Reports -/

/-- A walk from a state on adds the errors that sites deserve, in order, and ends in the given
scopes. -/
structure Reports (walk : Walk Unit) (sites : List Site) (before : State) (scopes : List Names) :
    Prop where
  scopes : (walk before).2.scopes = scopes
  errors : (walk before).2.errors = before.errors ++ sites.filterMap Site.error?

namespace Reports

variable {walk next : Walk Unit} {first second sites : List Site} {before : State}
  {middle scopes : List Names}

/-- One walk after another. -/
theorem bind (start : Reports walk first before middle)
    (rest : ∀ after, after.scopes = middle → Reports next second after scopes) :
    Reports (walk >>= fun _ => next) (first ++ second) before scopes := by
  have finish := rest _ start.scopes
  refine ⟨finish.scopes, finish.errors.trans ?_⟩
  rw [start.errors, List.filterMap_append, List.append_assoc]

/-- The scopes and the sites may be said differently. -/
theorem mono {others : List Site} (reports : Reports walk sites before middle)
    (sameScopes : middle = scopes) (sameSites : sites = others) :
    Reports walk others before scopes :=
  sameScopes ▸ sameSites ▸ reports

/-- A walk that reports nothing. -/
theorem silent (same : (walk before).2.errors = before.errors)
    (ended : (walk before).2.scopes = scopes) : Reports walk [] before scopes :=
  ⟨ended, same.trans (List.append_nil _).symm⟩

theorem pure (here : before.scopes = scopes) :
    Reports (Pure.pure () : Walk Unit) [] before scopes :=
  silent rfl here

/-- A report of what a site deserves. -/
theorem report (site : Site) {problem : ScopeProblem} (breach : site.violation? = some problem)
    (here : before.scopes = scopes) :
    Reports (report site.subject.word problem) [site] before scopes := by
  have deserved : site.error? = some ⟨site.subject.word, problem⟩ := by
    rw [Site.error?, breach]
    rfl
  exact ⟨here, by rw [List.filterMap_cons_some deserved]; rfl⟩

/-- A site that breaks no rule. -/
theorem kept {site : Site} (reports : Reports walk [] before scopes)
    (noBreach : site.violation? = none) : Reports walk [site] before scopes := by
  have deserved : site.error? = none := by
    rw [Site.error?, noBreach]
    rfl
  exact ⟨reports.scopes, reports.errors.trans (by rw [List.filterMap_cons_none deserved])⟩

/-- A check of a site for one problem. -/
theorem check {condition : Prop} [Decidable condition] (site : Site) {problem : ScopeProblem}
    (breach : site.violation? = if condition then some problem else none)
    (here : before.scopes = scopes) :
    Reports (if condition then Scope.report site.subject.word problem else return) [site] before
      scopes := by
  split at breach
  · rw [if_pos ‹_›]
    exact report site breach here
  · rw [if_neg ‹_›]
    exact kept (pure here) breach

theorem inNewScope (inside : Reports walk sites
      { before with scopes := .empty :: before.scopes } scopes)
    (outside : scopes.tail = before.scopes) :
    Reports (inNewScope walk) sites before before.scopes := by
  refine ⟨?_, inside.errors⟩
  show (walk _).2.scopes.tail = before.scopes
  rw [inside.scopes, outside]

/-! ### Names -/

variable {around : List Layer} {initialized : Option Identifier}

theorem relate (reference : Reference) (name : String) (here : before.scopes = scopes) :
    Reports (relate reference name) [] before scopes := by
  cases nearest : distance? before.scopes name with
  | none =>
    have after := Walks.relate_absent reference nearest
    exact silent (by rw [after]) (by rw [after, here])
  | some distance =>
    have after := Walks.relate_found reference nearest
    exact silent (by rw [after]) (by rw [after, here])

theorem define (name : String) (here : before.scopes = scopes) :
    Reports (define name) [] before (enter name true scopes) := by
  subst here
  obtain ⟨scopes, distances, errors⟩ := before
  cases scopes <;> exact silent rfl rfl

/-- A name that has been declared in the scope before is reported. -/
theorem declare (name : Identifier) (fits : Fits around none scopes)
    (here : before.scopes = scopes) :
    Reports (declare name) [⟨around, .declaration name⟩] before (declaredIn name.name scopes) := by
  subst here
  obtain ⟨scopes, distances, errors⟩ := before
  cases scopes with
  | nil =>
    cases fits with
    | global topLevel => exact kept (silent rfl rfl) (if_neg (by simp [topLevel]))
  | cons innermost others =>
    have step : Scope.declare name ⟨innermost :: others, distances, errors⟩ =
        (if innermost.contains name.name then Scope.report name .alreadyDeclared
          else changeInnermost fun names => names.write name.name false : Walk Unit)
        ⟨innermost :: others, distances, errors⟩ := rfl
    have known := fits.contains name.name
    by_cases contained : innermost.contains name.name = true
    · rw [if_pos contained] at step
      have reported : Reports (Scope.report name .alreadyDeclared)
          [⟨around, .declaration name⟩] ⟨innermost :: others, distances, errors⟩
          (innermost :: others) :=
        report ⟨around, .declaration name⟩ (if_pos (known.mp contained)) rfl
      refine ⟨?_, ?_⟩ <;> rw [step]
      · exact (if_pos contained).symm
      · exact reported.errors
    · rw [if_neg contained] at step
      refine kept (silent (by rw [step]; rfl) ?_) (if_neg (mt known.mpr contained))
      rw [step]
      exact (if_neg contained).symm

/-- A name that is declared and defined at once. -/
theorem introduce (name : Identifier) (fits : Fits around none scopes)
    (here : before.scopes = scopes) :
    Reports (do Scope.declare name; Scope.define name.name) [⟨around, .declaration name⟩] before
      (enter name.name true scopes) :=
  (declare name fits here).bind fun _ entered =>
    (define name.name entered).mono (enter_declaredIn name.name scopes) rfl

/-- What comes behind the declaration of a name. -/
theorem introducing {scopesAfter : List Names} (name : Identifier) (fits : Fits around none scopes)
    (here : before.scopes = scopes)
    (rest : ∀ after, after.scopes = enter name.name true scopes →
      Reports walk sites after scopesAfter) :
    Reports (do Scope.declare name; Scope.define name.name; walk)
      (⟨around, .declaration name⟩ :: sites) before scopesAfter :=
  (introduce name fits here).bind rest

/-- A name that is pending during a walk. -/
theorem whilePending (name : Identifier) (fits : Fits around none scopes)
    (here : before.scopes = scopes)
    (inside : ∀ after, after.scopes = declaredIn name.name scopes →
      Reports walk sites after (declaredIn name.name scopes)) :
    Reports (do Scope.declare name; walk; Scope.define name.name)
      (⟨around, .declaration name⟩ :: sites) before (enter name.name true scopes) := by
  have closing (after : State) (entered : after.scopes = declaredIn name.name scopes) :
      Reports (do walk; Scope.define name.name) (sites ++ []) after
        (enter name.name true scopes) :=
    (inside after entered).bind fun _ same =>
      (define name.name same).mono (enter_declaredIn name.name scopes) rfl
  exact ((declare name fits here).bind closing).mono rfl (by rw [List.append_nil]; rfl)

/-- A walk in a scope that holds one word. -/
theorem inScopeOf (word : String) (here : before.scopes = scopes)
    (inside : ∀ after, after.scopes = only word :: scopes →
      Reports walk sites after (only word :: scopes)) :
    Reports (Scope.inNewScope (do Scope.define word; walk)) sites before scopes := by
  subst here
  exact inNewScope ((define word rfl).bind inside) rfl

/-- Parameters are declared one after the other. -/
theorem parameters {isMethod : Bool} {declaration : FunctionDeclaration} {others : List Names}
    (parameters : List Identifier) {earlier : List Identifier} {names : Names}
    (fits : Fits (.function isMethod declaration earlier [] :: around) none (names :: others))
    (here : before.scopes = names :: others) :
    Reports (walkParameters parameters)
      (parameterSites isMethod declaration around earlier parameters) before
      (parametersIn names parameters :: others) := by
  induction parameters generalizing before earlier names with
  | nil => exact pure here
  | cons parameter rest inductionHypothesis =>
    exact introducing parameter fits here fun after entered =>
      inductionHypothesis (fits.parameter parameter) entered

/-! ### Single sites -/

/-- A variable that is read where it may be pending. -/
theorem read (site : Site) (reference : Reference) {name : Identifier}
    (isName : site.subject.word = name)
    (breach : site.violation? =
      if isUndefinedHere name.name before then some .ownInitializer else none)
    (here : before.scopes = scopes) : Reports (walkRead reference name) [site] before scopes := by
  subst isName
  have checked : Reports (checkRead site.subject.word) [site] before scopes := by
    have step : checkRead site.subject.word before =
        (if isUndefinedHere site.subject.word.name before
          then Scope.report site.subject.word .ownInitializer else return : Walk Unit) before := rfl
    have reports := check site breach here
    refine ⟨?_, ?_⟩ <;> rw [step]
    · exact reports.scopes
    · exact reports.errors
  exact checked.bind fun _ same => relate reference site.subject.word.name same

/-- A read breaks a rule if it finds its name pending. -/
theorem violation?_read (fits : Fits around initialized scopes) (here : before.scopes = scopes)
    (name : Identifier) :
    Site.violation? ⟨around, .read initialized name⟩ =
      if isUndefinedHere name.name before then some .ownInitializer else none := by
  have pending := fits.isUndefinedHere here name.name
  cases initialized with
  | none =>
    rw [if_neg (mt pending.mp (by simp))]
    rfl
  | some initialized =>
    refine if_congr ?_ rfl rfl
    rw [pending]
    simp [eq_comm]

theorem this (reference : Reference) (keyword : Identifier) (here : before.scopes = scopes) :
    Reports (walkThis (surroundings around) reference keyword) [⟨around, .this keyword⟩] before
      scopes := by
  have enclosing := surroundings_enclosingClass around
  unfold walkThis
  cases nearest : around.findSome? Layer.superclass? with
  | none =>
    rw [nearest] at enclosing
    rw [if_pos enclosing]
    exact report ⟨around, .this keyword⟩ (by simp [Site.violation?, nearest]) here
  | some hasSuperclass =>
    have inClass : (surroundings around).enclosingClass ≠ .none := by
      rw [enclosing, nearest]
      cases hasSuperclass <;> simp
    rw [if_neg inClass]
    exact kept (relate reference keyword.name here) (by simp [Site.violation?, nearest])

theorem super (reference : Reference) (keyword : Identifier) (here : before.scopes = scopes) :
    Reports (walkSuper (surroundings around) reference keyword) [⟨around, .super keyword⟩] before
      scopes := by
  have enclosing := surroundings_enclosingClass around
  have related (after : State) (same : after.scopes = scopes) :
      Reports (Scope.relate reference keyword.name) [] after scopes :=
    relate reference keyword.name same
  unfold walkSuper
  cases nearest : around.findSome? Layer.superclass? with
  | none =>
    rw [enclosing, nearest]
    exact (report ⟨around, .super keyword⟩ (by simp [Site.violation?, nearest])
      here).bind related
  | some hasSuperclass =>
    rw [enclosing, nearest]
    cases hasSuperclass with
    | false =>
      exact (report ⟨around, .super keyword⟩ (by simp [Site.violation?, nearest])
        here).bind related
    | true =>
      exact (kept (pure here) (by simp [Site.violation?, nearest])).bind related

theorem control (control : LoopControl) (keyword : Identifier) (here : before.scopes = scopes) :
    Reports (checkControl (surroundings around) control keyword)
      [⟨around, .control control keyword⟩] before scopes := by
  refine check ⟨around, .control control keyword⟩ ?_ here
  have loops := surroundings_loops around
  by_cases looped : inLoop around = true <;> simp [Site.violation?, loops, looped]

theorem giveBack (keyword : Identifier) (here : before.scopes = scopes) :
    Reports (checkReturn (surroundings around) keyword)
      [⟨around, .giveBack keyword false⟩] before scopes := by
  refine check ⟨around, .giveBack keyword false⟩ ?_ here
  have kind := surroundings_function around
  cases nearest : around.findSome? Layer.initializer? with
  | none =>
    rw [nearest] at kind
    simp [Site.violation?, nearest, kind]
  | some isInitializer =>
    rw [nearest] at kind
    simp [Site.violation?, nearest, kind.1]

/-- Of the two checks of a `return` with a value at most one finds something. -/
theorem giveBackValue (keyword : Identifier) (here : before.scopes = scopes) :
    Reports (do
        checkReturn (surroundings around) keyword
        checkReturnedValue (surroundings around) keyword)
      [⟨around, .giveBack keyword true⟩] before scopes := by
  have kind := surroundings_function around
  unfold checkReturn checkReturnedValue
  cases nearest : around.findSome? Layer.initializer? with
  | none =>
    rw [nearest] at kind
    rw [kind, if_pos rfl, if_neg (by simp)]
    exact (report ⟨around, .giveBack keyword true⟩ (by simp [Site.violation?, nearest])
      here).bind fun _ same => pure same
  | some isInitializer =>
    rw [nearest] at kind
    rw [if_neg kind.1]
    refine (pure here).bind fun _ same =>
      check ⟨around, .giveBack keyword true⟩ ?_ same
    simp [Site.violation?, nearest, kind.2]

/-- A superclass is named where the name of its class is declared already. -/
theorem superclass {inside : List Layer} {kind : Surroundings} (name : Identifier)
    {superclass : Expression} (isRead : superclass.IsRead) (fits : Fits inside none scopes)
    (here : before.scopes = scopes) :
    Reports (do checkSuperclass name superclass; walkExpression kind superclass)
      (superclassSites around name superclass ++ superclass.sites around none) before scopes := by
  match superclass, isRead with
  | .read reference other, _ =>
    refine (check ⟨around, .superclass name other⟩ rfl here).bind fun after same => ?_
    refine read ⟨around, .read none other⟩ reference rfl ?_ same
    rw [if_neg (mt (fits.isUndefinedHere same other.name).mp (by simp))]
    rfl

end Reports

end Scope

/-! ### Nodes -/

variable {words : Vocabulary}

mutual

/-- A walk through an expression reports what its sites deserve. -/
theorem walkExpression_reports : (expression : Expression) → expression.Shaped words →
    ∀ {around : List Layer} {initialized : Option Identifier} {scopes : List Names}
      {before : State}, Fits around initialized scopes → before.scopes = scopes →
      Reports (walkExpression (surroundings around) expression)
        (expression.sites around initialized) before scopes
  | .literal _, _, _, _, _, _, _, here => .pure here
  | .grouping inner, shaped, _, _, _, _, fits, here =>
    walkExpression_reports inner shaped fits here
  | .unary _ _ operand, shaped, _, _, _, _, fits, here =>
    walkExpression_reports operand shaped.2 fits here
  | .binary _ _ left right, shaped, _, _, _, _, fits, here =>
    (walkExpression_reports left shaped.2.1 fits here).bind fun _ same =>
      walkExpression_reports right shaped.2.2 fits same
  | .logical _ left right, shaped, _, _, _, _, fits, here =>
    (walkExpression_reports left shaped.1 fits here).bind fun _ same =>
      walkExpression_reports right shaped.2 fits same
  | .read reference name, _, around, initialized, _, _, fits, here =>
    Reports.read ⟨around, .read initialized name⟩ reference rfl
      (Reports.violation?_read fits here name) here
  | .assign reference name value, shaped, _, _, _, _, fits, here =>
    ((walkExpression_reports value shaped.2 fits here).bind fun _ same =>
      Reports.relate reference name.name same).mono rfl (List.append_nil _)
  | .call callee _ arguments, shaped, _, _, _, _, fits, here =>
    (walkExpression_reports callee shaped.2.1 fits here).bind fun _ same =>
      walkExpressions_reports arguments shaped.2.2.2 fits same
  | .function declaration, shaped, _, _, _, _, _, here =>
    walkFunction_reports declaration shaped.2 false here
  | .get object _, shaped, _, _, _, _, fits, here =>
    walkExpression_reports object shaped.2 fits here
  | .set object _ value, shaped, _, _, _, _, fits, here =>
    (walkExpression_reports value shaped.2.2 fits here).bind fun _ same =>
      walkExpression_reports object shaped.2.1 fits same
  | .this reference keyword, _, _, _, _, _, _, here => .this reference keyword here
  | .super reference keyword _, _, _, _, _, _, _, here => .super reference keyword here

theorem walkExpressions_reports : (expressions : List Expression) →
    Expression.AllShaped words expressions →
    ∀ {around : List Layer} {initialized : Option Identifier} {scopes : List Names}
      {before : State}, Fits around initialized scopes → before.scopes = scopes →
      Reports (walkExpressions (surroundings around) expressions)
        (Expression.allSites around initialized expressions) before scopes
  | [], _, _, _, _, _, _, here => .pure here
  | expression :: others, shaped, _, _, _, _, fits, here =>
    (walkExpression_reports expression shaped.1 fits here).bind fun _ same =>
      walkExpressions_reports others shaped.2 fits same

/-- A function starts a scope of its own, so those outside are of no concern. -/
theorem walkFunction_reports : (declaration : FunctionDeclaration) → declaration.Shaped words →
    ∀ (isMethod : Bool) {around : List Layer} {scopes : List Names} {before : State},
      before.scopes = scopes →
      Reports (walkFunction (surroundings around) (functionKind isMethod declaration) declaration)
        (declaration.sites isMethod around) before scopes
  | .mk name parameters body, shaped, isMethod, around, scopes, before, here => by
    subst here
    have start : Fits (.function isMethod (.mk name parameters body) [] [] :: around) none
        (.empty :: before.scopes) := .inner rfl fun _ => rfl
    exact Reports.inNewScope ((Reports.parameters parameters start rfl).bind fun _ same =>
        walkStatements_reports body shaped.2.2.2 _ (start.parameters parameters) same)
      (Statement.scopesAfterAll_tail body _)

theorem walkMethods_reports : (methods : List FunctionDeclaration) →
    FunctionDeclaration.AllShaped words methods →
    ∀ (around : List Layer) {scopes : List Names} {before : State}, before.scopes = scopes →
      Reports (walkMethods (surroundings around) methods)
        (FunctionDeclaration.allSites around methods) before scopes
  | [], _, _, _, _, here => .pure here
  | method :: others, shaped, _, _, _, here =>
    (walkFunction_reports method shaped.2.1 true here).bind fun _ same =>
      walkMethods_reports others shaped.2.2 _ same

/-- A walk through a statement reports what its sites deserve. -/
theorem walkStatement_reports : (statement : Statement) → statement.Shaped words →
    ∀ {around : List Layer} {scopes : List Names} {before : State},
      Fits around none scopes → before.scopes = scopes →
      Reports (walkStatement (surroundings around) statement) (statement.sites around) before
        (statement.scopesAfter scopes)
  | .expression expression, shaped, _, _, _, fits, here =>
    walkExpression_reports expression shaped fits here
  | .print expression, shaped, _, _, _, fits, here =>
    walkExpression_reports expression shaped fits here
  | .declareVariable name none, _, _, _, _, fits, here => .introduce name fits here
  | .declareVariable name (some initializer), shaped, _, _, _, fits, here =>
    .whilePending name fits here fun _ entered =>
      walkExpression_reports initializer shaped.2 (fits.initializer name) entered
  | .block statements, shaped, around, scopes, _, _, here => by
    subst here
    exact Reports.inNewScope (walkStatements_reports statements shaped _ (.block around _) rfl)
      (Statement.scopesAfterAll_tail statements _)
  | .conditional condition thenBranch none, shaped, _, scopes, _, fits, here =>
    have unchanged :=
      Statement.scopesAfter_of_none (Statement.declared?_of_not_isDeclaration shaped.2.1) scopes
    ((walkExpression_reports condition shaped.1 fits here).bind fun _ same =>
      walkStatement_reports thenBranch shaped.2.2 fits same).mono unchanged rfl
  | .conditional condition thenBranch (some elseBranch), shaped, _, scopes, _, fits, here =>
    have unchanged :=
      Statement.scopesAfter_of_none (Statement.declared?_of_not_isDeclaration shaped.2.1) scopes
    have unchangedElse := Statement.scopesAfter_of_none
      (Statement.declared?_of_not_isDeclaration shaped.2.2.2.1) scopes
    ((walkExpression_reports condition shaped.1 fits here).bind fun _ same =>
      (walkStatement_reports thenBranch shaped.2.2.1 fits same).bind fun _ same =>
        walkStatement_reports elseBranch shaped.2.2.2.2 fits (same.trans unchanged)).mono
          unchangedElse rfl
  | .loop condition body none, shaped, _, scopes, _, fits, here =>
    have unchanged :=
      Statement.scopesAfter_of_none (Statement.declared?_of_not_isDeclaration shaped.2.1) scopes
    ((walkExpression_reports condition shaped.1 fits here).bind fun _ same =>
      walkStatement_reports body shaped.2.2 fits.inLoop same).mono unchanged rfl
  | .loop condition body (some increment), shaped, _, scopes, _, fits, here =>
    have unchanged :=
      Statement.scopesAfter_of_none (Statement.declared?_of_not_isDeclaration shaped.2.1) scopes
    have unchangedThere := Statement.scopesAfter_of_none shaped.2.2.2.1.declared? scopes
    ((walkExpression_reports condition shaped.1 fits here).bind fun _ same =>
      (walkStatement_reports body shaped.2.2.1 fits.inLoop same).bind fun _ same =>
        walkStatement_reports increment shaped.2.2.2.2 fits.inLoop (same.trans unchanged)).mono
          unchangedThere rfl
  | .control control keyword, _, _, _, _, _, here => .control control keyword here
  | .declareFunction (.mk none parameters body), shaped, _, _, _, _, here =>
    walkFunction_reports (.mk none parameters body) shaped.2 false here
  | .declareFunction (.mk (some name) parameters body), shaped, _, _, _, fits, here =>
    .introducing name fits here fun _ entered =>
      walkFunction_reports (.mk (some name) parameters body) shaped.2 false entered
  | .giveBack keyword none, _, _, _, _, _, here => .giveBack keyword here
  | .giveBack keyword (some value), shaped, _, _, _, fits, here =>
    (Reports.giveBackValue keyword here).bind fun _ same =>
      walkExpression_reports value shaped.2 fits same
  | .declareClass name none methods, shaped, around, scopes, _, fits, here =>
    .introducing name fits here fun _ entered =>
      .inScopeOf "this" entered fun _ same =>
        walkMethods_reports methods shaped.2 (.methods false :: around) same
  | .declareClass name (some superclass) methods, shaped, around, scopes, _, fits, here =>
    .introducing name fits here fun _ entered =>
      ((Reports.superclass name shaped.2.1
        (fits.past (.declareClass name (some superclass) methods)) entered).bind fun _ same =>
          .inScopeOf "super" same fun _ outer =>
            .inScopeOf "this" outer fun _ same =>
              walkMethods_reports methods shaped.2.2.2 (.methods true :: around) same).mono
        rfl (List.append_assoc _ _ _)

theorem walkStatements_reports : (statements : List Statement) →
    Statement.AllShaped words statements →
    ∀ (around : List Layer) {scopes : List Names} {before : State},
      Fits around none scopes → before.scopes = scopes →
      Reports (walkStatements (surroundings around) statements)
        (Statement.allSites around statements) before (Statement.scopesAfterAll scopes statements)
  | [], _, _, _, _, _, here => .pure here
  | statement :: others, shaped, _, _, _, fits, here =>
    (walkStatement_reports statement shaped.1 fits here).bind fun _ same =>
      surroundings_past statement _ ▸
        walkStatements_reports others shaped.2 _ (fits.past statement) same

end

/-! ### Programs -/

namespace Scope

theorem outcome_ok_iff {walk : Walk Unit} :
    (∃ distances, outcome walk = .ok distances) ↔ (walk State.start).2.errors = [] := by
  unfold outcome
  dsimp only
  split
  · rename_i noError
    exact ⟨fun _ => noError, fun _ => ⟨_, rfl⟩⟩
  · rename_i anError
    exact ⟨fun ⟨_, accepted⟩ => (nomatch accepted), fun noError => absurd noError anError⟩

theorem outcome_error_iff {walk : Walk Unit} {errors : List ScopeError} :
    outcome walk = .error errors ↔ errors ≠ [] ∧ (walk State.start).2.errors = errors := by
  unfold outcome
  dsimp only
  split
  · rename_i noError
    exact ⟨fun rejected => (nomatch rejected),
      fun ⟨anError, same⟩ => absurd (same.symm.trans noError) anError⟩
  · rename_i anError
    constructor
    · intro rejected
      cases rejected
      exact ⟨anError, rfl⟩
    · exact fun ⟨_, same⟩ => congrArg Except.error same

/-- A site deserves an error if it breaks a rule. -/
theorem Site.error?_eq_none_iff {site : Site} : site.error? = none ↔ site.violation? = none :=
  Option.map_eq_none_iff

/-- A program that is read from tokens is resolved if no site of it breaks a static rule. Otherwise
one error is reported for every site that does, in the order of the walk. -/
theorem resolveProgram_violations {tokens : List Token} {low high : Reference}
    {statements : List Statement}
    (parsed : Grammar.parseProgram tokens low = (.ok statements, high)) :
    ((∃ distances, resolveProgram statements = .ok distances) ↔
      ∀ site ∈ Statement.allSites [] statements, site.violation? = none) ∧
    ∀ errors, resolveProgram statements = .error errors ↔
      errors ≠ [] ∧ (Statement.allSites [] statements).filterMap Site.error? = errors := by
  have shaped := (Grammar.parseProgram_read (Vocabulary.any_admitsAll tokens) parsed).1
  have reports : Reports (walkStatements .topLevel statements) (Statement.allSites [] statements)
      State.start (Statement.scopesAfterAll [] statements) :=
    walkStatements_reports statements shaped [] (.global rfl) rfl
  have reported : (walkStatements .topLevel statements State.start).2.errors =
      (Statement.allSites [] statements).filterMap Site.error? := reports.errors
  refine ⟨?_, fun errors => ?_⟩
  · rw [resolveProgram, outcome_ok_iff, reported, List.filterMap_eq_nil_iff]
    exact forall₂_congr fun site _ => Site.error?_eq_none_iff
  · rw [resolveProgram, outcome_error_iff, reported]

/-- Five rules are broken, one of them in a function inside a block. -/
theorem resolveProgram_violations_fiveRules :
    ∃ statements high,
      Grammar.parseProgram
        (Source.scan "\x7b var a = a; fun a() \x7b break; \x7d \x7d return this;").1 0 =
          (.ok statements, high) ∧
      resolveProgram statements = .error
        [⟨⟨"a", 1⟩, .ownInitializer⟩, ⟨⟨"a", 1⟩, .alreadyDeclared⟩,
          ⟨⟨"break", 1⟩, .outsideLoop .break⟩, ⟨⟨"return", 1⟩, .outsideFunction⟩,
          ⟨⟨"this", 1⟩, .thisOutsideClass⟩] :=
  have parsed : Grammar.parseProgram
      (Source.scan "\x7b var a = a; fun a() \x7b break; \x7d \x7d return this;").1 0 =
    (.ok _, _) := rfl
  ⟨_, _, parsed, ((resolveProgram_violations parsed).2 _).mpr ⟨List.cons_ne_nil _ _, rfl⟩⟩

end Scope

end Lox
