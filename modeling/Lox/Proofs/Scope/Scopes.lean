/-
How far out a name is declared, when names are entered into the innermost scope and scopes are put
around others.
-/

import Lox.Proofs.Scope.Placed

namespace Lox

namespace Bindings

variable {Value : Type}

theorem writeEntry_writeEntry (name : String) (first second : Value)
    (entries : List (String × Value)) :
    writeEntry name second (writeEntry name first entries) = writeEntry name second entries := by
  induction entries with
  | nil => simp [writeEntry]
  | cons entry others inductionHypothesis =>
    by_cases same : name = entry.1 <;> simp [writeEntry, same, inductionHypothesis]

/-- Of two values written under one name the later stays. -/
theorem write_write (bindings : Bindings Value) (name : String) (first second : Value) :
    (bindings.write name first).write name second = bindings.write name second := by
  simp [write, writeEntry_writeEntry]

end Bindings

namespace Scope

variable {name other : String} {names : Names} {scopes : List Names}

/-! ### Entering a name -/

theorem contains_write (names : Names) (name other : String) (isDefined : Bool) :
    (names.write name isDefined).contains other = (other == name || names.contains other) := by
  by_cases same : other = name <;> simp [Bindings.contains, Bindings.get?_write, same]

theorem distance?_cons (names : Names) (scopes : List Names) (name : String) :
    distance? (names :: scopes) name =
      if names.contains name then some 0 else (distance? scopes name).map (· + 1) := by
  unfold distance?
  exact List.findIdx?_cons

/-- A name that the innermost scope does not hold is one further out. -/
theorem distance?_outer {distance : Nat} (absent : names.contains name = false)
    (nearest : distance? scopes name = some distance) :
    distance? (names :: scopes) name = some (distance + 1) := by
  rw [distance?_cons, absent, nearest]
  rfl

/-- Entering a name leaves the distance of every other one. -/
theorem distance?_enter (isDefined : Bool) (different : other ≠ name) (scopes : List Names) :
    distance? (enter name isDefined scopes) other = distance? scopes other := by
  cases scopes with
  | nil => rfl
  | cons innermost others =>
    rw [enter, distance?_cons, distance?_cons, contains_write]
    simp [different]

/-- The mark with which a name is entered says nothing about distances. -/
theorem distance?_enter_mark (first second : Bool) (scopes : List Names) :
    distance? (enter name first scopes) other = distance? (enter name second scopes) other := by
  cases scopes with
  | nil => rfl
  | cons innermost others => simp [enter, distance?_cons, contains_write]

/-- Entering a name leaves every other one pending as it was. -/
theorem isPending_enter {isDefined : Bool} (different : other ≠ name) :
    IsPending other (enter name isDefined scopes) ↔ IsPending other scopes := by
  cases scopes with
  | nil => exact Iff.rfl
  | cons innermost others => simp [enter, IsPending, Bindings.get?_write, different]

/-! ### Parameters -/

theorem contains_parametersIn (names : Names) (parameters : List Identifier) (name : String) :
    (parametersIn names parameters).contains name =
      (names.contains name || parameters.any fun parameter => name == parameter.name) := by
  induction parameters generalizing names with
  | nil => simp [parametersIn]
  | cons parameter others inductionHypothesis =>
    have step := inductionHypothesis (names.write parameter.name true)
    unfold parametersIn at step ⊢
    rw [List.foldl_cons, step, contains_write, List.any_cons]
    cases names.contains name <;> cases name == parameter.name <;> simp

/-- Only parameters are in the scope of parameters. -/
theorem parametersIn_get? {parameters : List Identifier} {isDefined : Bool}
    (found : (parametersIn .empty parameters).get? name = some isDefined) :
    name ∈ parameters.map Identifier.name := by
  have contains := contains_parametersIn .empty parameters name
  rw [Bindings.contains, found] at contains
  obtain ⟨parameter, member, same⟩ := List.any_eq_true.mp contains.symm
  exact List.mem_map.mpr ⟨parameter, member, (eq_of_beq same).symm⟩

/-- Parameters are defined from the start. -/
theorem parametersIn_defined {names : Names} {parameters : List Identifier}
    (defined : ∀ name, names.get? name ≠ some false) (name : String) :
    (parametersIn names parameters).get? name ≠ some false := by
  induction parameters generalizing names with
  | nil => exact defined name
  | cons parameter others inductionHypothesis =>
    refine inductionHypothesis fun other isPending => ?_
    rw [Bindings.get?_write] at isPending
    split at isPending
    · exact nomatch isPending
    · exact defined other isPending

/-- No parameter is called by a word that is no variable. -/
theorem parametersIn_absent {parameters : List Identifier}
    (areVariables : ∀ parameter ∈ parameters, IsVariable parameter.name)
    (isNone : ¬IsVariable name) : (parametersIn .empty parameters).contains name = false := by
  rw [contains_parametersIn]
  have others : (parameters.any fun parameter => name == parameter.name) = false := by
    rw [List.any_eq_false]
    intro parameter member same
    exact isNone (eq_of_beq same ▸ areVariables parameter member)
  rw [others]
  rfl

/-! ### The scopes around methods -/

theorem only_get? {word : String} {isDefined : Bool}
    (found : (only word).get? name = some isDefined) : name = word := by
  unfold only at found
  rw [Bindings.get?_write] at found
  split at found
  · assumption
  · exact nomatch found

theorem only_defined (word name : String) : (only word).get? name ≠ some false := by
  intro isPending
  unfold only at isPending
  rw [Bindings.get?_write] at isPending
  split at isPending
  · exact nomatch isPending
  · exact nomatch isPending

theorem not_isVariable_this : ¬IsVariable "this" := fun isVariable => isVariable.1 rfl

theorem not_isVariable_super : ¬IsVariable "super" := fun isVariable => isVariable.2 rfl

/-- A name that no reserved word spells can be the name of a variable. -/
theorem isVariable_of_unreserved (unreserved : Mark.reserved? name = none) : IsVariable name := by
  refine ⟨?_, ?_⟩ <;> rintro rfl <;> exact absurd unreserved (by decide)

end Scope

end Lox
