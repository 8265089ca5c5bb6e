/-
What a walk makes of braces around statements. They add a scope that declares nothing, so every name
is declared in the counterpart of the scope that it is declared in without them, and nothing is
reported that is not reported without them. Behind the walk the references of twins are tied by what
has been found out about them.
-/

import Lox.Proofs.Scope.Relabelled
import Lox.Proofs.Tree.Twin

namespace Lox

open Scope

/-! ### What is found out about twins -/

/-- How far out `super` is declared around both trees, with `this` one scope nearer. -/
inductive Alignment.LocatesBoth (alignment : Alignment) : Option Nat → Option Nat → Prop
  | nowhere : alignment.LocatesBoth none none
  | here {distance other} : alignment distance other → alignment (distance - 1) (other - 1) →
    alignment.LocatesBoth (some distance) (some other)

/-- References are tied when the scopes that they are known to lead to are counterparts. -/
def Ties.known (known knownToo : Distances) : Ties where
  name alignment reference referenceToo :=
    alignment.Locates known[reference]? knownToo[referenceToo]?
  super alignment reference referenceToo :=
    alignment.LocatesBoth known[reference]? knownToo[referenceToo]?
  both := True

theorem Alignment.LocatesBoth.swap {alignment : Alignment} {distance other : Option Nat}
    (locates : alignment.LocatesBoth distance other) :
    alignment.swap.LocatesBoth other distance := by
  cases locates with
  | nowhere => exact .nowhere
  | here aligned nearer => exact .here aligned nearer

theorem Twin.swap_known {known knownToo : Distances} {alignment : Alignment} {parts : Parts}
    (twin : Twin (.known known knownToo) alignment parts) :
    Twin (.known knownToo known) alignment.swap parts.swap :=
  twin.swap Alignment.Locates.swap Alignment.LocatesBoth.swap trivial

/-- Where the same is known about references, each is tied to itself. -/
theorem Ties.fixes_known {known knownToo : Distances} {references : List Reference}
    (agree : AgreeOn references known knownToo) : (Ties.known known knownToo).Fixes references := by
  intro reference member
  show Alignment.Locates _ _ _ ∧ Alignment.LocatesBoth _ _ _
  rw [agree reference member]
  cases knownToo[reference]? with
  | none => exact ⟨.nowhere, .nowhere⟩
  | some distance => exact ⟨.here rfl, .here rfl rfl⟩

/-! ### Scopes side by side -/

namespace Scope

/-- The scopes around two trees, innermost first: counterparts declare the same names, and what has
no counterpart declares none. -/
inductive Along : Alignment → List Names → List Names → Prop
  | top : Along .same [] []
  | inside {alignment scopes scopesToo} (names : Names) : Along alignment scopes scopesToo →
    Along alignment.inside (names :: scopes) (names :: scopesToo)
  | skip {alignment scopes scopesToo} : Along alignment scopes scopesToo →
    Along alignment.skipRight scopes (.empty :: scopesToo)

namespace Along

variable {alignment : Alignment} {scopes scopesToo : List Names} {name : String}

theorem changeInnermost (along : Along alignment scopes scopesToo) (here : alignment 0 0) :
    scopes = [] ∧ scopesToo = [] ∨ ∃ names others othersToo,
      scopes = names :: others ∧ scopesToo = names :: othersToo ∧
        ∀ change : Names → Names, Along alignment (change names :: others)
          (change names :: othersToo) := by
  cases along with
  | top => exact .inl ⟨rfl, rfl⟩
  | inside names along => exact .inr ⟨names, _, _, rfl, rfl, fun change => .inside _ along⟩
  | skip => exact here.elim

theorem enter (along : Along alignment scopes scopesToo) (here : alignment 0 0)
    (isDefined : Bool) :
    Along alignment (enter name isDefined scopes) (enter name isDefined scopesToo) := by
  obtain ⟨rfl, rfl⟩ | ⟨names, others, othersToo, rfl, rfl, changed⟩ := along.changeInnermost here
  · exact along
  · exact changed fun names => names.write name isDefined

theorem methodScopes (along : Along alignment scopes scopesToo) :
    Along alignment.inside (methodScopes false scopes) (methodScopes false scopesToo) ∧
      Along alignment.inside.inside (methodScopes true scopes) (methodScopes true scopesToo) :=
  ⟨.inside _ along, .inside _ (.inside _ along)⟩

/-- Outside a scope and its counterpart. -/
theorem leave (along : Along alignment.inside scopes scopesToo) :
    Along alignment scopes.tail scopesToo.tail := by
  generalize isInside : alignment.inside = inner at along
  cases along with
  | top => exact Alignment.inside_injective (isInside.trans Alignment.inside_same.symm) ▸ .top
  | inside names along => exact Alignment.inside_injective isInside ▸ along
  | skip => exact (cast (congrFun (congrFun isInside 0) 0) trivial : False).elim

/-- Outside a scope that has no counterpart. -/
theorem leaveSkipped (along : Along alignment.skipRight scopes scopesToo) :
    Along alignment scopes scopesToo.tail := by
  generalize isSkipped : alignment.skipRight = inner at along
  cases along with
  | top => exact (cast (congrFun (congrFun isSkipped 0) 0).symm rfl : False).elim
  | inside names _ => exact (cast (congrFun (congrFun isSkipped 0) 0).symm trivial : False).elim
  | skip along => exact Alignment.skipRight_injective isSkipped ▸ along

/-- A name is declared in counterparts. -/
theorem locates (along : Along alignment scopes scopesToo) (name : String) :
    alignment.Locates (distance? scopes name) (distance? scopesToo name) := by
  induction along with
  | top => exact .nowhere
  | inside names _ inductionHypothesis =>
    rw [distance?_cons, distance?_cons]
    split
    · exact .here Alignment.inside_here
    · exact inductionHypothesis.inside
  | skip _ inductionHypothesis =>
    rw [distance?_cons, if_neg (by simp [Bindings.contains])]
    exact inductionHypothesis.skipRight

/-- A name that is not defined yet in the innermost scope of the second tree is not in that of the
first one. -/
theorem isUndefinedHere {state other : State} (along : Along alignment state.scopes other.scopes)
    (pending : isUndefinedHere name other) : Scope.isUndefinedHere name state := by
  unfold Scope.isUndefinedHere at pending ⊢
  generalize state.scopes = scopes at along ⊢
  generalize other.scopes = scopesToo at along pending
  cases along with
  | top => exact pending
  | inside names _ => exact pending
  | skip _ => exact nomatch pending

end Along

/-! ### Two walks -/

/-- The walks are in scopes side by side, and the second one has reported no more than the first. -/
structure Spares (alignment : Alignment) (state other : State) : Prop where
  scopes : Along alignment state.scopes other.scopes
  errors : other.errors.length ≤ state.errors.length

/-- In scopes side by side the second walk reports no more than the first one. -/
def Clears (alignment : Alignment) (walk walkToo : Walk Unit) : Prop :=
  ∀ state other, Spares alignment state other →
    Spares alignment (walk state).2 (walkToo other).2

namespace Clears

variable {alignment : Alignment} {walk walkToo next nextToo : Walk Unit}

theorem bind (first : Clears alignment walk walkToo) (rest : Clears alignment next nextToo) :
    Clears alignment (walk >>= fun _ => next) (walkToo >>= fun _ => nextToo) :=
  fun state other spares => rest _ _ (first state other spares)

theorem pure : Clears alignment (Pure.pure ()) (Pure.pure ()) :=
  fun _ _ spares => spares

theorem report (place other : Identifier) (problem : ScopeProblem) :
    Clears alignment (report place problem) (report other problem) := by
  refine fun state copy spares => ⟨spares.scopes, ?_⟩
  show (copy.errors ++ [_]).length ≤ (state.errors ++ [_]).length
  rw [List.length_append, List.length_append]
  exact Nat.succ_le_succ spares.errors

/-- A check that reports in the first walk if it does in the second one. -/
theorem check {condition conditionToo : Prop} [Decidable condition] [Decidable conditionToo]
    (weaker : conditionToo → condition) (place other : Identifier) (problem : ScopeProblem) :
    Clears alignment (if condition then Scope.report place problem else return)
      (if conditionToo then Scope.report other problem else return) := by
  by_cases reported : conditionToo
  · rw [if_pos reported, if_pos (weaker reported)]
    exact report place other problem
  · rw [if_neg reported]
    split
    · intro state copy spares
      refine ⟨spares.scopes, Nat.le_trans spares.errors ?_⟩
      show state.errors.length ≤ (state.errors ++ [_]).length
      rw [List.length_append]
      exact Nat.le_add_right _ _
    · exact pure

theorem changeInnermost (here : alignment 0 0) (change : Names → Names) :
    Clears alignment (changeInnermost change) (changeInnermost change) := by
  rintro ⟨scopes, distances, errors⟩ ⟨scopesToo, distancesToo, errorsToo⟩ ⟨along, fewer⟩
  obtain ⟨rfl, rfl⟩ | ⟨names, others, othersToo, rfl, rfl, changed⟩ := along.changeInnermost here
  · exact ⟨along, fewer⟩
  · exact ⟨changed change, fewer⟩

theorem define (here : alignment 0 0) (name : String) :
    Clears alignment (define name) (define name) :=
  changeInnermost here _

theorem declare (here : alignment 0 0) (word : String) (line lineToo : Nat) :
    Clears alignment (declare ⟨word, line⟩) (declare ⟨word, lineToo⟩) := by
  rintro ⟨scopes, distances, errors⟩ ⟨scopesToo, distancesToo, errorsToo⟩ ⟨along, fewer⟩
  obtain ⟨rfl, rfl⟩ | ⟨names, others, othersToo, rfl, rfl, changed⟩ := along.changeInnermost here
  · exact ⟨along, fewer⟩
  · have step (line : Nat) (others : List Names) (distances : Distances)
        (errors : List ScopeError) :
        Scope.declare ⟨word, line⟩ ⟨names :: others, distances, errors⟩ =
          (if names.contains word then Scope.report ⟨word, line⟩ .alreadyDeclared
            else Scope.changeInnermost fun names => names.write word false : Walk Unit)
          ⟨names :: others, distances, errors⟩ := rfl
    rw [step, step]
    split
    · exact report _ _ .alreadyDeclared _ _ ⟨along, fewer⟩
    · exact changeInnermost here _ _ _ ⟨along, fewer⟩

theorem inNewScope (clears : Clears alignment.inside walk walkToo) :
    Clears alignment (inNewScope walk) (inNewScope walkToo) := by
  intro state other spares
  have inside := clears { state with scopes := .empty :: state.scopes }
    { other with scopes := .empty :: other.scopes } ⟨.inside _ spares.scopes, spares.errors⟩
  exact ⟨inside.scopes.leave, inside.errors⟩

/-- The second walk is in braces. -/
theorem skip (clears : Clears alignment.skipRight walk walkToo) :
    Clears alignment walk (Scope.inNewScope walkToo) := by
  intro state other spares
  have inside := clears state { other with scopes := .empty :: other.scopes }
    ⟨.skip spares.scopes, spares.errors⟩
  exact ⟨inside.scopes.leaveSkipped, inside.errors⟩

theorem relate (reference referenceToo : Reference) (word : String) :
    Clears alignment (relate reference word) (relate referenceToo word) := by
  have stays (reference : Reference) (state : State) :
      (Scope.relate reference word state).2.scopes = state.scopes ∧
        (Scope.relate reference word state).2.errors = state.errors := by
    cases nearest : distance? state.scopes word with
    | none => rw [Walks.relate_absent reference nearest]; exact ⟨rfl, rfl⟩
    | some distance => rw [Walks.relate_found reference nearest]; exact ⟨rfl, rfl⟩
  intro state other spares
  obtain ⟨sameScopes, sameErrors⟩ := stays reference state
  obtain ⟨sameScopesToo, sameErrorsToo⟩ := stays referenceToo other
  exact ⟨by rw [sameScopes, sameScopesToo]; exact spares.scopes,
    by rw [sameErrors, sameErrorsToo]; exact spares.errors⟩

theorem read (reference referenceToo : Reference) (word : String) (line lineToo : Nat) :
    Clears alignment (walkRead reference ⟨word, line⟩) (walkRead referenceToo ⟨word, lineToo⟩) := by
  refine bind (fun state other spares => ?_) (relate reference referenceToo word)
  have step (line : Nat) (state : State) : checkRead ⟨word, line⟩ state =
      (if isUndefinedHere word state then Scope.report ⟨word, line⟩ .ownInitializer else return :
        Walk Unit) state := rfl
  rw [step, step]
  exact check spares.scopes.isUndefinedHere _ _ .ownInitializer state other spares

theorem this (around : Surroundings) (reference referenceToo : Reference) (word : String)
    (line lineToo : Nat) :
    Clears alignment (walkThis around reference ⟨word, line⟩)
      (walkThis around referenceToo ⟨word, lineToo⟩) := by
  unfold walkThis
  split
  · exact report _ _ _
  · exact relate reference referenceToo word

theorem super (around : Surroundings) (reference referenceToo : Reference) (word : String)
    (line lineToo : Nat) :
    Clears alignment (walkSuper around reference ⟨word, line⟩)
      (walkSuper around referenceToo ⟨word, lineToo⟩) := by
  have related : Clears alignment _ _ := relate reference referenceToo word
  unfold walkSuper
  cases around.enclosingClass with
  | none => exact (report _ _ _).bind related
  | withoutSuperclass => exact (report _ _ _).bind related
  | withSuperclass => exact pure.bind related

theorem superclass {ties : Ties} {superclass superclassToo : Expression}
    (twin : Twin ties alignment (.expression superclass superclassToo)) (word : String)
    (line lineToo : Nat) :
    Clears alignment (checkSuperclass ⟨word, line⟩ superclass)
      (checkSuperclass ⟨word, lineToo⟩ superclassToo) := by
  cases twin with
  | read _ => exact check id _ _ .ownSuperclass
  | _ => exact pure

theorem parameters (here : alignment 0 0) {parameters parametersToo : List Identifier}
    (same : parameters.map Identifier.name = parametersToo.map Identifier.name) :
    Clears alignment (walkParameters parameters) (walkParameters parametersToo) := by
  induction parameters generalizing parametersToo with
  | nil =>
    obtain rfl := List.map_eq_nil_iff.mp same.symm
    exact pure
  | cons parameter others inductionHypothesis =>
    cases parametersToo with
    | nil => exact nomatch same
    | cons parameterToo othersToo =>
      obtain ⟨word, line⟩ := parameter
      obtain ⟨wordToo, lineToo⟩ := parameterToo
      obtain ⟨rfl, sameOthers⟩ : word = wordToo ∧ _ := List.cons.inj same
      exact (declare here word line lineToo).bind
        ((define here word).bind (inductionHypothesis sameOthers))

end Clears

end Scope

/-! ### Acceptance -/

/-- In scopes side by side the walk through the second part reports no more than that through the
first one. -/
def Parts.Clear (alignment : Alignment) : Parts → Prop
  | .expression left right => ∀ around,
    Clears alignment (walkExpression around left) (walkExpression around right)
  | .expressions left right => ∀ around,
    Clears alignment (walkExpressions around left) (walkExpressions around right)
  | .function left right => ∀ around kind,
    Clears alignment (walkFunction around kind left) (walkFunction around kind right)
  | .functions left right => ∀ around,
    Clears alignment (walkMethods around left) (walkMethods around right)
  | .statement left right => ∀ around,
    Clears alignment (walkStatement around left) (walkStatement around right)
  | .statements left right => ∀ around,
    Clears alignment (walkStatements around left) (walkStatements around right)

namespace Twin

variable {ties : Ties} {alignment : Alignment}

theorem clear {parts : Parts} (oneSided : ¬ties.both) (twin : Twin ties alignment parts) :
    parts.Clear alignment := by
  induction twin with
  | literal => exact fun _ => .pure
  | grouping _ inner => exact inner
  | unary _ operand => exact operand
  | binary _ _ left right | logical _ _ left right =>
    exact fun around => (left around).bind (right around)
  | read _ => exact fun _ => .read _ _ _ _ _
  | assign _ _ value => exact fun around => (value around).bind (.relate _ _ _)
  | call _ _ callee arguments => exact fun around => (callee around).bind (arguments around)
  | anonymous _ declaration => exact fun around => declaration around .function
  | get _ object => exact object
  | set _ _ object value => exact fun around => (value around).bind (object around)
  | this _ => exact fun around => .this around _ _ _ _ _
  | super _ => exact fun around => .super around _ _ _ _ _
  | noExpressions | noFunctions | noStatements => exact fun _ => .pure
  | moreExpressions _ _ first others | moreStatements _ _ first others =>
    exact fun around => (first around).bind (others around)
  | function _ sameParameters _ body =>
    exact fun _ _ => .inNewScope ((Clears.parameters Alignment.inside_here sameParameters).bind
      (body _))
  | @moreFunctions _ first firstToo _ _ twin _ walked others =>
    have sameKind : methodKind firstToo = methodKind first := by
      unfold methodKind
      rw [FunctionDeclaration.isInitializer_eq_of_name twin.name]
    exact fun around => .bind (sameKind ▸ walked around (methodKind first)) (others around)
  | evaluation _ expression | print _ expression => exact expression
  | uninitialized here => exact fun _ => (Clears.declare here _ _ _).bind (.define here _)
  | initialized here _ value =>
    exact fun around => (Clears.declare here _ _ _).bind ((value around).bind (.define here _))
  | block _ statements => exact fun around => .inNewScope (statements around)
  | ifThen _ _ condition thenBranch =>
    exact fun around => (condition around).bind (thenBranch around)
  | ifElse _ _ _ condition thenBranch elseBranch =>
    exact fun around => (condition around).bind ((thenBranch around).bind (elseBranch around))
  | loop _ _ condition body => exact fun around => (condition around).bind (body _)
  | loopWith _ _ _ condition body increment =>
    exact fun around => (condition around).bind ((body _).bind (increment _))
  | control => exact fun _ => .check id _ _ _
  | declareFunction here twin walked =>
    intro around
    cases twin with
    | @function _ _ _ name nameToo _ _ sameName _ _ =>
      obtain ⟨rfl, rfl⟩ | ⟨word, line, lineToo, rfl, rfl⟩ := name_cases sameName
      · exact walked around .function
      · exact (Clears.declare here word line lineToo).bind
          ((Clears.define here word).bind (walked around .function))
  | giveNothing => exact fun _ => .check id _ _ .outsideFunction
  | giveBack _ value =>
    exact fun around => (Clears.check id _ _ .outsideFunction).bind
      ((Clears.check id _ _ .valueFromInitializer).bind (value around))
  | declareClass here _ methods =>
    exact fun _ => (Clears.declare here _ _ _).bind ((Clears.define here _).bind
      (.inNewScope ((Clears.define Alignment.inside_here "this").bind (methods _))))
  | declareSubclass here superclass _ walked methods =>
    exact fun _ => (Clears.declare here _ _ _).bind ((Clears.define here _).bind
      ((Clears.superclass superclass _ _ _).bind ((walked _).bind
        (.inNewScope ((Clears.define Alignment.inside_here "super").bind
          (.inNewScope ((Clears.define Alignment.inside_here "this").bind (methods _))))))))
  | bracedRight _ statement => exact fun around => .skip ((statement around).bind .pure)
  | spelledRight _ _ _ _ condition body increment =>
    exact fun around => (condition around).bind
      (.skip ((body _).bind ((increment _).bind .pure)))
  | bracedLeft both _ _ | spelledLeft both _ _ _ _ => exact absurd both oneSided

/-- What is accepted without braces is accepted with them. -/
theorem resolveProgram {statements statementsToo : List Statement} {distances : Distances}
    (oneSided : ¬ties.both) (twins : Twin ties .same (.statements statements statementsToo))
    (accepted : resolveProgram statements = .ok distances) :
    ∃ distancesToo, Scope.resolveProgram statementsToo = .ok distancesToo := by
  have ⟨noErrors, _⟩ := outcome_eq_ok.mp accepted
  have spares := twins.clear oneSided .topLevel .start .start ⟨.top, Nat.le_refl _⟩
  refine ⟨_, outcome_eq_ok.mpr ⟨?_, rfl⟩⟩
  have fewer := spares.errors
  rw [noErrors] at fewer
  exact List.eq_nil_of_length_eq_zero (Nat.le_zero.mp fewer)

/-! ### Declared names -/

/-- Where a name is declared on one side, it is declared on the other one, in counterparts. -/
theorem declared {statement statementToo : Statement}
    (twin : Twin ties alignment (.statement statement statementToo)) :
    statement.declared? = statementToo.declared? ∧
      (statement.declared?.isSome → alignment 0 0) := by
  generalize isParts : Parts.statement statement statementToo = parts at twin
  induction twin generalizing statement statementToo with
  | bracedRight _ inductionHypothesis =>
    cases isParts
    obtain ⟨_, here⟩ := inductionHypothesis rfl
    have undeclared := Option.not_isSome_iff_eq_none.mp here
    exact ⟨undeclared, fun isSome => (here isSome).elim⟩
  | bracedLeft _ _ inductionHypothesis =>
    cases isParts
    obtain ⟨same, here⟩ := inductionHypothesis rfl
    have undeclared := Option.not_isSome_iff_eq_none.mp here
    exact ⟨(same.symm.trans undeclared).symm, nofun⟩
  | declareFunction here twin =>
    cases isParts
    exact ⟨twin.name, fun _ => here⟩
  | uninitialized here | initialized here | declareClass here | declareSubclass here =>
    cases isParts
    exact ⟨rfl, fun _ => here⟩
  | _ =>
    cases isParts
    all_goals exact ⟨rfl, nofun⟩

end Twin

/-! ### References -/

/-- Both parts are placed rightly in the scopes around them. -/
def Parts.Placed (known knownToo : Distances) (scopes scopesToo : List Names) : Parts → Prop
  | .expression left right =>
    left.Placed (tableOf known) scopes ∧ right.Placed (tableOf knownToo) scopesToo
  | .expressions left right =>
    Expression.AllPlaced (tableOf known) scopes left ∧
      Expression.AllPlaced (tableOf knownToo) scopesToo right
  | .function left right =>
    left.Placed (tableOf known) scopes ∧ right.Placed (tableOf knownToo) scopesToo
  | .functions left right =>
    FunctionDeclaration.AllPlaced (tableOf known) scopes left ∧
      FunctionDeclaration.AllPlaced (tableOf knownToo) scopesToo right
  | .statement left right =>
    left.Placed (tableOf known) scopes ∧ right.Placed (tableOf knownToo) scopesToo
  | .statements left right =>
    Statement.AllPlaced (tableOf known) scopes left ∧
      Statement.AllPlaced (tableOf knownToo) scopesToo right

theorem Scope.parametersIn_congr (names : Names) {parameters parametersToo : List Identifier}
    (same : parameters.map Identifier.name = parametersToo.map Identifier.name) :
    parametersIn names parameters = parametersIn names parametersToo := by
  have byName (parameters : List Identifier) : parametersIn names parameters =
      (parameters.map Identifier.name).foldl (fun names name => names.write name true) names := by
    rw [List.foldl_map]
    rfl
  rw [byName, byName, same]

section

variable {known knownToo : Distances} {alignment : Alignment} {scopes scopesToo : List Names}
  {reference referenceToo : Reference}

/-- Occurrences of one name are tied. -/
theorem Scope.Along.tied (along : Along alignment scopes scopesToo) {word : String}
    (found : known[reference]? = distance? scopes word)
    (foundToo : knownToo[referenceToo]? = distance? scopesToo word) :
    (Ties.known known knownToo).name alignment reference referenceToo := by
  show alignment.Locates _ _
  rw [found, foundToo]
  exact along.locates word

/-- Occurrences of `this` are tied. -/
theorem Scope.Along.tied_this (along : Along alignment scopes scopesToo)
    (found : ∃ distance, distance? scopes "this" = some distance ∧
      tableOf known reference (some distance))
    (foundToo : ∃ distance, distance? scopesToo "this" = some distance ∧
      tableOf knownToo referenceToo (some distance)) :
    (Ties.known known knownToo).name alignment reference referenceToo := by
  obtain ⟨distance, nearest, isKnown⟩ := found
  obtain ⟨distanceToo, nearestToo, isKnownToo⟩ := foundToo
  exact along.tied (isKnown.trans nearest.symm) (isKnownToo.trans nearestToo.symm)

/-- Occurrences of `super` are tied. -/
theorem Scope.Along.tied_super (along : Along alignment scopes scopesToo)
    (found : ∃ distance, distance? scopes "this" = some distance ∧
      distance? scopes "super" = some (distance + 1) ∧
      tableOf known reference (some (distance + 1)))
    (foundToo : ∃ distance, distance? scopesToo "this" = some distance ∧
      distance? scopesToo "super" = some (distance + 1) ∧
      tableOf knownToo referenceToo (some (distance + 1))) :
    (Ties.known known knownToo).super alignment reference referenceToo := by
  obtain ⟨distance, receiver, parent, isKnown⟩ := found
  obtain ⟨distanceToo, receiverToo, parentToo, isKnownToo⟩ := foundToo
  have receivers := along.locates "this"
  have parents := along.locates "super"
  rw [receiver, receiverToo] at receivers
  rw [parent, parentToo] at parents
  obtain _ | nearer := receivers
  obtain _ | aligned := parents
  show alignment.LocatesBoth _ _
  rw [show known[reference]? = _ from isKnown, show knownToo[referenceToo]? = _ from isKnownToo]
  exact .here aligned nearer

end

/-- Twins that are placed rightly in scopes side by side have references that are tied by what is
known about them. -/
theorem Twin.tied {ties : Ties} {known knownToo : Distances} {alignment : Alignment}
    {parts : Parts} (oneSided : ¬ties.both) (twin : Twin ties alignment parts)
    {scopes scopesToo : List Names} (along : Along alignment scopes scopesToo)
    (placed : parts.Placed known knownToo scopes scopesToo) :
    Twin (.known known knownToo) alignment parts := by
  induction twin generalizing scopes scopesToo with
  | literal => exact .literal
  | grouping _ inner => exact .grouping (inner along placed)
  | unary _ operand => exact .unary (operand along placed)
  | binary _ _ left right =>
    exact .binary (left along ⟨placed.1.1, placed.2.1⟩) (right along ⟨placed.1.2, placed.2.2⟩)
  | logical _ _ left right =>
    exact .logical (left along ⟨placed.1.1, placed.2.1⟩) (right along ⟨placed.1.2, placed.2.2⟩)
  | read _ => exact .read (along.tied placed.1.2.2 placed.2.2.2)
  | assign _ _ value =>
    exact .assign (along.tied placed.1.2.2 placed.2.2.2)
      (value along ⟨placed.1.2.1, placed.2.2.1⟩)
  | call _ _ callee arguments =>
    exact .call (callee along ⟨placed.1.1, placed.2.1⟩)
      (arguments along ⟨placed.1.2, placed.2.2⟩)
  | anonymous _ declaration => exact .anonymous (declaration along placed)
  | get _ object => exact .get (object along placed)
  | set _ _ object value =>
    exact .set (object along ⟨placed.1.1, placed.2.1⟩) (value along ⟨placed.1.2, placed.2.2⟩)
  | this _ => exact .this (along.tied_this placed.1.2 placed.2.2)
  | super _ => exact .super (along.tied_super placed.1.2 placed.2.2)
  | noExpressions => exact .noExpressions
  | moreExpressions _ _ first others =>
    exact .moreExpressions (first along ⟨placed.1.1, placed.2.1⟩)
      (others along ⟨placed.1.2, placed.2.2⟩)
  | function sameName sameParameters _ body =>
    refine .function sameName sameParameters (body (.inside _ along) ⟨placed.1.2, ?_⟩)
    rw [parametersIn_congr _ sameParameters]
    exact placed.2.2
  | noFunctions => exact .noFunctions
  | moreFunctions _ _ first others =>
    exact .moreFunctions (first along ⟨placed.1.1, placed.2.1⟩)
      (others along ⟨placed.1.2, placed.2.2⟩)
  | evaluation _ expression => exact .evaluation (expression along placed)
  | print _ expression => exact .print (expression along placed)
  | uninitialized here => exact .uninitialized here
  | initialized here _ value =>
    exact .initialized here (value (along.enter here false) ⟨placed.1.2.2, placed.2.2.2⟩)
  | block _ statements => exact .block (statements (.inside _ along) placed)
  | ifThen _ _ condition thenBranch =>
    exact .ifThen (condition along ⟨placed.1.1, placed.2.1⟩)
      (thenBranch along ⟨placed.1.2.2, placed.2.2.2⟩)
  | ifElse _ _ _ condition thenBranch elseBranch =>
    exact .ifElse (condition along ⟨placed.1.1, placed.2.1⟩)
      (thenBranch along ⟨placed.1.2.2.1, placed.2.2.2.1⟩)
      (elseBranch along ⟨placed.1.2.2.2.2, placed.2.2.2.2.2⟩)
  | loop _ _ condition body =>
    exact .loop (condition along ⟨placed.1.1, placed.2.1⟩)
      (body along ⟨placed.1.2.2, placed.2.2.2⟩)
  | loopWith _ _ _ condition body increment =>
    exact .loopWith (condition along ⟨placed.1.1, placed.2.1⟩)
      (body along ⟨placed.1.2.2.1, placed.2.2.2.1⟩)
      (increment along ⟨placed.1.2.2.2.2, placed.2.2.2.2.2⟩)
  | control => exact .control
  | declareFunction here twin declaration =>
    obtain ⟨⟨name, isName, _, _, placed⟩, nameToo, isNameToo, _, _, placedToo⟩ := placed
    have same := twin.name
    rw [isName, isNameToo] at same
    refine .declareFunction here (declaration (along.enter here true) ⟨placed, ?_⟩)
    rw [show name.name = nameToo.name from Option.some.inj same]
    exact placedToo
  | giveNothing => exact .giveNothing
  | giveBack _ value => exact .giveBack (value along placed)
  | declareClass here _ methods =>
    exact .declareClass here
      (methods (along.enter here true).methodScopes.1 ⟨placed.1.2.2, placed.2.2.2⟩)
  | declareSubclass here _ _ superclass methods =>
    obtain ⟨⟨_, _, _, parent, placed⟩, _, _, _, parentToo, placedToo⟩ := placed
    exact .declareSubclass here (superclass (along.enter here false) ⟨parent, parentToo⟩)
      (methods (along.enter here true).methodScopes.2 ⟨placed, placedToo⟩)
  | noStatements => exact .noStatements
  | moreStatements twin _ first others =>
    refine .moreStatements (first along ⟨placed.1.1, placed.2.1⟩)
      (others ?_ ⟨placed.1.2, placed.2.2⟩)
    have ⟨same, here⟩ := twin.declared
    unfold Statement.scopesAfter
    rw [← same]
    split
    · rename_i isDeclared
      exact along.enter (here (isDeclared ▸ rfl)) true
    · exact along
  | bracedRight _ statement => exact .bracedRight (statement (.skip along) ⟨placed.1, placed.2.1⟩)
  | spelledRight quiet _ twin _ condition body increment =>
    obtain ⟨⟨inLeft, undeclared, bodyLeft, _, incrementLeft⟩, inRight, _, bodyRight, incrementRight,
      _⟩ := placed
    rw [Statement.scopesAfter_of_none (twin.declared.1.symm.trans undeclared)] at incrementRight
    exact .spelledRight quiet (condition along ⟨inLeft, inRight⟩)
      (body (.skip along) ⟨bodyLeft, bodyRight⟩)
      (increment (.skip along) ⟨incrementLeft, incrementRight⟩)
  | bracedLeft both _ _ | spelledLeft both _ _ _ _ => exact absurd both oneSided

end Lox
