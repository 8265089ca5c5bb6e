/-
What a walk through a tree does to what has been found: errors are only added, only the records of
the tree's own references change, and the scopes in the end follow from the tree. A walk that adds
no error has found the tree placed rightly.
-/

import Lox.Proofs.Scope.Scopes
import Lox.Proofs.Source.Spelling

namespace Lox.Scope

/-- The scopes behind an attempt to declare a name. -/
def declaredIn (name : String) : List Names → List Names
  | [] => []
  | innermost :: others =>
    if innermost.contains name then innermost :: others
    else innermost.write name false :: others

/-! ### Walks -/

/-- The records of a walk are about the given references, and errors are only added. -/
structure Walked (references : List Reference) (before after : State) : Prop where
  errors : before.errors <+: after.errors
  records : ∀ reference, reference ∉ references →
    after.distances[reference]? = before.distances[reference]?

/-- A walk from a state on ends in the given scopes, and has found `placed` if it has added no error
and the references are each used once and for the first time. -/
structure Walks (walk : Walk Unit) (references : List Reference) (before : State)
    (scopes : List Names) (placed : Distances → Prop) : Prop where
  walked : Walked references before (walk before).2
  scopes : (walk before).2.scopes = scopes
  found : (walk before).2.errors = before.errors → references.Nodup →
    (∀ reference ∈ references, before.distances[reference]? = none) →
    ∀ table, AgreeOn references table (walk before).2.distances → placed table

namespace Walks

variable {walk next : Walk Unit} {references first second : List Reference} {before : State}
  {middle scopes : List Names} {placed placedFirst placedSecond : Distances → Prop}

/-- One walk after another. -/
theorem bind (start : Walks walk first before middle placedFirst)
    (rest : ∀ after, after.scopes = middle → Walks next second after scopes placedSecond) :
    Walks (walk >>= fun _ => next) (first ++ second) before scopes
      fun table => placedFirst table ∧ placedSecond table := by
  have finish := rest _ start.scopes
  refine ⟨⟨start.walked.errors.trans finish.walked.errors, ?_⟩, finish.scopes, ?_⟩
  · intro reference absent
    rw [List.mem_append, not_or] at absent
    exact (finish.walked.records reference absent.2).trans
      (start.walked.records reference absent.1)
  · intro noError distinct absent table agree
    obtain ⟨distinctFirst, distinctSecond, disjoint⟩ := List.nodup_append'.mp distinct
    -- errors are only added, so none was added on the way
    have noErrorFirst : (walk before).2.errors = before.errors := by
      refine (start.walked.errors.eq_of_length_le ?_).symm
      exact noError ▸ finish.walked.errors.length_le
    have noErrorSecond : (next (walk before).2).2.errors = (walk before).2.errors :=
      noError.trans noErrorFirst.symm
    refine ⟨start.found noErrorFirst distinctFirst ?_ table ?_,
      finish.found noErrorSecond distinctSecond ?_ table agree.right⟩
    · exact fun reference member => absent reference (List.mem_append_left second member)
    · intro reference member
      exact (agree.left reference member).trans
        (finish.walked.records reference (disjoint member))
    · intro reference member
      rw [start.walked.records reference fun inFirst => disjoint inFirst member]
      exact absent reference (List.mem_append_right first member)

/-- What was found may be said differently, and the references listed in another order. -/
theorem mono (walks : Walks walk first before middle placedFirst) (same : first.Perm second)
    (sameScopes : middle = scopes) (weaker : ∀ table, placedFirst table → placedSecond table) :
    Walks walk second before scopes placedSecond := by
  refine ⟨⟨walks.walked.errors, ?_⟩, walks.scopes.trans sameScopes, ?_⟩
  · exact fun reference absent => walks.walked.records reference (mt same.mem_iff.mp absent)
  · intro noError distinct absent table agree
    refine weaker table (walks.found noError (same.nodup_iff.mpr distinct) ?_ table ?_)
    · exact fun reference member => absent reference (same.mem_iff.mp member)
    · exact fun reference member => agree reference (same.mem_iff.mp member)

/-- A walk that finds what is said. -/
theorem imp (walks : Walks walk references before scopes placedFirst)
    (weaker : ∀ table, placedFirst table → placedSecond table) :
    Walks walk references before scopes placedSecond :=
  walks.mono (.refl references) rfl weaker

/-- A walk that changes nothing. -/
theorem pure (holds : ∀ table, placed table) :
    Walks (Pure.pure () : Walk Unit) [] before before.scopes placed :=
  ⟨⟨List.prefix_refl _, fun _ _ => rfl⟩, rfl, fun _ _ _ table _ => holds table⟩

/-- A report adds an error. -/
theorem report (place : Identifier) (problem : ScopeProblem) :
    Walks (report place problem) references before before.scopes placed := by
  refine ⟨⟨List.prefix_append _ _, fun _ _ => rfl⟩, rfl, ?_⟩
  intro noError
  exact absurd (List.append_right_eq_self.mp noError) (List.cons_ne_nil _ _)

/-- A walk in a new scope. -/
theorem inNewScope (inside : Walks walk references
      { before with scopes := .empty :: before.scopes } scopes placed)
    (outside : scopes.tail = before.scopes) :
    Walks (inNewScope walk) references before before.scopes placed := by
  refine ⟨⟨inside.walked.errors, inside.walked.records⟩, ?_, inside.found⟩
  show (walk _).2.scopes.tail = before.scopes
  rw [inside.scopes, outside]

/-! ### Names -/

theorem modify_eq (change : State → State) (state : State) :
    (modify change : Walk PUnit) state = (⟨⟩, change state) := rfl

/-- An occurrence of a declared name is recorded with its distance. -/
theorem relate_found {name : String} {distance : Nat} (reference : Reference)
    (nearest : distance? before.scopes name = some distance) :
    (Scope.relate reference name before).2 =
      { before with distances := before.distances.insert reference distance } := by
  unfold Scope.relate
  rw [modify_eq, nearest]

/-- An occurrence of a name that is not declared changes nothing. -/
theorem relate_absent {name : String} (reference : Reference)
    (absent : distance? before.scopes name = none) :
    (Scope.relate reference name before).2 = before := by
  unfold Scope.relate
  rw [modify_eq, absent]

/-- Relating an occurrence records the distance of its name. -/
theorem relate (reference : Reference) (name : String) (here : before.scopes = scopes) :
    Walks (relate reference name) [reference] before scopes
      fun table => table[reference]? = distance? scopes name := by
  subst here
  cases nearest : distance? before.scopes name with
  | none =>
    have after := relate_absent reference nearest
    refine ⟨?_, ?_, ?_⟩ <;> rw [after]
    · exact ⟨List.prefix_refl _, fun _ _ => rfl⟩
    · intro _ _ absent table agree
      rw [agree reference List.mem_cons_self, absent reference List.mem_cons_self]
  | some distance =>
    have after := relate_found reference nearest
    refine ⟨?_, ?_, ?_⟩ <;> rw [after]
    · refine ⟨List.prefix_refl _, fun other absent => ?_⟩
      have different : reference ≠ other := fun same => absent (same ▸ List.mem_cons_self)
      simp [Std.TreeMap.getElem?_insert, different]
    · intro _ _ _ table agree
      rw [agree reference List.mem_cons_self]
      simp

/-- Declaring a name that is new enters it as pending; any other is reported. -/
theorem declare (name : Identifier) :
    Walks (declare name) [] before (declaredIn name.name before.scopes)
      fun _ => IsNew name.name before.scopes := by
  obtain ⟨scopes, distances, errors⟩ := before
  cases scopes with
  | nil => exact ⟨⟨List.prefix_refl _, fun _ _ => rfl⟩, rfl, fun _ _ _ _ _ => trivial⟩
  | cons innermost others =>
    have step : Scope.declare name ⟨innermost :: others, distances, errors⟩ =
        (if innermost.contains name.name then Scope.report name .alreadyDeclared
          else changeInnermost fun names => names.write name.name false : Walk Unit)
        ⟨innermost :: others, distances, errors⟩ := rfl
    cases known : innermost.contains name.name with
    | true =>
      rw [if_pos known] at step
      refine ⟨?_, ?_, ?_⟩ <;> rw [step]
      · exact ⟨List.prefix_append _ _, fun _ _ => rfl⟩
      · exact (if_pos known).symm
      · intro noError
        exact absurd (List.append_right_eq_self.mp noError) (List.cons_ne_nil _ _)
    | false =>
      rw [if_neg (by simp [known])] at step
      refine ⟨?_, ?_, ?_⟩ <;> rw [step]
      · exact ⟨List.prefix_refl _, fun _ _ => rfl⟩
      · exact (if_neg (by simp [known])).symm
      · intro _ _ _ _ _
        exact Option.not_isSome_iff_eq_none.mp (Bool.eq_false_iff.mp known)

theorem define (name : String) :
    Walks (define name) [] before (enter name true before.scopes) fun _ => True := by
  obtain ⟨scopes, distances, errors⟩ := before
  cases scopes <;>
    exact ⟨⟨List.prefix_refl _, fun _ _ => rfl⟩, rfl, fun _ _ _ _ _ => trivial⟩

end Walks

/-! ### Entering names around a walk -/

theorem enter_declaredIn (name : String) (scopes : List Names) :
    enter name true (declaredIn name scopes) = enter name true scopes := by
  cases scopes with
  | nil => rfl
  | cons innermost others =>
    rw [declaredIn]
    split
    · rfl
    · simp [enter, Bindings.write_write]

theorem declaredIn_of_isNew {name : String} {scopes : List Names} (isNew : IsNew name scopes) :
    declaredIn name scopes = enter name false scopes := by
  cases scopes with
  | nil => rfl
  | cons innermost others =>
    have absent : innermost.get? name = none := isNew
    simp [declaredIn, enter, Bindings.contains, absent]

theorem distance?_declaredIn {name other : String} (different : other ≠ name)
    (scopes : List Names) : distance? (declaredIn name scopes) other = distance? scopes other := by
  cases scopes with
  | nil => rfl
  | cons innermost others =>
    rw [declaredIn]
    split
    · rfl
    · exact distance?_enter false different (innermost :: others)

namespace Walks

variable {walk : Walk Unit} {references : List Reference} {before : State} {scopes : List Names}
  {placed : Distances → Prop}

/-- A name that is declared and defined at once. -/
theorem introduce (name : Identifier) (here : before.scopes = scopes) :
    Walks (do Scope.declare name; Scope.define name.name) [] before
      (enter name.name true scopes) fun _ => IsNew name.name scopes := by
  subst here
  have closing (after : State) (entered : after.scopes = declaredIn name.name before.scopes) :
      Walks (Scope.define name.name) [] after (enter name.name true before.scopes)
        fun _ => True :=
    (define name.name).mono (.refl _) (by rw [entered, enter_declaredIn]) fun _ found => found
  exact ((declare name).bind closing).imp fun _ found => found.1

/-- A name that is pending during a walk. -/
theorem whilePending (name : Identifier)
    (inside : ∀ after, after.scopes = declaredIn name.name before.scopes →
      Walks walk references after after.scopes placed) :
    Walks (do Scope.declare name; walk; Scope.define name.name) references before
      (enter name.name true before.scopes)
      fun table => IsNew name.name before.scopes ∧ placed table := by
  have closing (after : State) (entered : after.scopes = declaredIn name.name before.scopes) :
      Walks (do walk; Scope.define name.name) (references ++ []) after
        (enter name.name true before.scopes) fun table => placed table ∧ True := by
    refine (inside after entered).bind fun last same => ?_
    refine (define name.name).mono (.refl _) ?_ fun _ found => found
    rw [same, entered, enter_declaredIn]
  refine ((declare name).bind closing).mono ?_ rfl ?_
  · rw [List.nil_append, List.append_nil]
  · exact fun _ found => ⟨found.1, found.2.1⟩

/-- Parameters are entered one after the other. -/
theorem parameters (parameters : List Identifier) (names : Names) (others : List Names)
    (around : before.scopes = names :: others) :
    Walks (walkParameters parameters) [] before (parametersIn names parameters :: others)
      fun _ => True := by
  induction parameters generalizing before names with
  | nil => exact (pure fun _ => trivial).mono (.refl _) around fun _ found => found
  | cons parameter rest inductionHypothesis =>
    exact ((introduce parameter around).bind fun after entered =>
      inductionHypothesis (names.write parameter.name true) entered).imp fun _ _ => trivial

end Walks

end Lox.Scope
