/-
An environment lists the activations around a place in a running program, innermost first: the
scopes in which a walk finds the place, each with the frame that was made for it in this run. That a
heap bears an environment out is said here, and that it goes on to do so as it grows.
-/

import Lox.Proofs.Machine.Growth
import Lox.Proofs.Scope.Scopes

namespace Lox

open Scope

/-! ### Activations -/

/-- What a frame was made for. -/
inductive Owner where
  | block
  | call (function : FunctionId)
  /-- The receiver of a method that the class `declaring` declares. -/
  | receiver (declaring : ClassId) (object : InstanceId)
  /-- The superclass of a class, for its methods. -/
  | superclass (parent : ClassId)

/-- One execution of a scope: its names up to here, and the frame made for it. -/
structure Activation where
  owner : Owner
  names : Names
  frame : FrameId

/-- The activations around a place, innermost first. The global scope is not among them. -/
abbrev Environment := List Activation

namespace Environment

/-- The scopes of an environment. -/
def scopes (environment : Environment) : List Names :=
  environment.map Activation.names

/-- The environment with a name entered into its innermost scope. -/
def enter (name : String) (isDefined : Bool) : Environment → Environment
  | [] => []
  | innermost :: outer =>
    { innermost with names := innermost.names.write name isDefined } :: outer

/-- The environment behind a statement. -/
def after (environment : Environment) (statement : Statement) : Environment :=
  match statement.declared? with
  | some name => environment.enter name true
  | none => environment

@[simp] theorem scopes_cons (activation : Activation) (outer : Environment) :
    scopes (activation :: outer) = activation.names :: scopes outer := rfl

@[simp] theorem scopes_enter (name : String) (isDefined : Bool) (environment : Environment) :
    (environment.enter name isDefined).scopes = Scope.enter name isDefined environment.scopes := by
  cases environment <;> rfl

@[simp] theorem scopes_after (environment : Environment) (statement : Statement) :
    (environment.after statement).scopes = statement.scopesAfter environment.scopes := by
  unfold after Statement.scopesAfter
  cases statement.declared? with
  | none => rfl
  | some name => exact scopes_enter name true environment

theorem after_of_none {statement : Statement} (none : statement.declared? = none)
    (environment : Environment) : environment.after statement = environment := by
  unfold after
  rw [none]

/-- No name is entered into the global scope. -/
theorem after_nil (statement : Statement) : after [] statement = [] := by
  unfold after
  split <;> rfl

end Environment

/-! ### Inheritance -/

/-- A class inherits from itself, and from what its superclass inherits from. -/
inductive Heap.Inherits (heap : Heap) : ClassId → ClassId → Prop
  | refl (id : ClassId) : heap.Inherits id id
  | step {id parent ancestor : ClassId} {object : ClassObject} :
    heap.classes[id]? = some object → object.superclass = some parent →
      heap.Inherits parent ancestor → heap.Inherits id ancestor

namespace Heap

variable {before after heap : Heap}

theorem Inherits.grow {id ancestor : ClassId} (inherits : before.Inherits id ancestor)
    (precedes : before.Precedes after) : after.Inherits id ancestor := by
  induction inherits with
  | refl id => exact .refl id
  | step found parent _ inductionHypothesis =>
    exact .step (precedes.classes found) parent inductionHypothesis

theorem Inherits.trans {id middle ancestor : ClassId} (near : heap.Inherits id middle)
    (far : heap.Inherits middle ancestor) : heap.Inherits id ancestor := by
  induction near with
  | refl id => exact far
  | step found parent _ inductionHypothesis =>
    exact .step found parent (inductionHypothesis far)

/-- An object is an instance of a class that inherits from another one. -/
def InstanceOf (heap : Heap) (object : InstanceId) (ancestor : ClassId) : Prop :=
  ∃ found, heap.instances[object]? = some found ∧ heap.Inherits found.classId ancestor

/-- An object stays an instance of its class. -/
theorem InstanceOf.grow {object : InstanceId} {ancestor : ClassId}
    (isInstance : before.InstanceOf object ancestor) (precedes : before.Precedes after) :
    after.InstanceOf object ancestor := by
  obtain ⟨found, isFound, inherits⟩ := isInstance
  obtain ⟨later, isLater, sameClass⟩ := precedes.instances isFound
  exact ⟨later, isLater, sameClass ▸ inherits.grow precedes⟩

theorem InstanceOf.trans {object : InstanceId} {near far : ClassId}
    (isInstance : heap.InstanceOf object near) (inherits : heap.Inherits near far) :
    heap.InstanceOf object far := by
  obtain ⟨found, isFound, toNear⟩ := isInstance
  exact ⟨found, isFound, toNear.trans inherits⟩

theorem classAt_of_some {id : ClassId} {object : ClassObject}
    (found : heap.classes[id]? = some object) : heap.classAt id = object := by
  unfold classAt
  rw [Array.getD_eq_getD_getElem?, found]
  rfl

theorem classAt_of_none {id : ClassId} (absent : heap.classes[id]? = none) :
    heap.classAt id = default := by
  unfold classAt
  rw [Array.getD_eq_getD_getElem?, absent]
  rfl

theorem function_of_some {id : FunctionId} {object : FunctionObject}
    (found : heap.functions[id]? = some object) : heap.function id = object := by
  unfold Heap.function
  rw [Array.getD_eq_getD_getElem?, found]
  rfl

theorem function_of_none {id : FunctionId} (absent : heap.functions[id]? = none) :
    heap.function id = default := by
  unfold Heap.function
  rw [Array.getD_eq_getD_getElem?, absent]
  rfl

theorem instanceAt_of_some {id : InstanceId} {object : InstanceObject}
    (found : heap.instances[id]? = some object) : heap.instanceAt id = object := by
  unfold instanceAt
  rw [Array.getD_eq_getD_getElem?, found]
  rfl

theorem instanceAt_of_none {id : InstanceId} (absent : heap.instances[id]? = none) :
    heap.instanceAt id = default := by
  unfold instanceAt
  rw [Array.getD_eq_getD_getElem?, absent]
  rfl

/-- A method is found: the class `declaring` is the first of a chain to have one of this name. -/
structure Finds (heap : Heap) (start : ClassId) (name : String) (declaring : ClassId)
    (method : FunctionId) : Prop where
  found : heap.method? start name = some method
  inherits : heap.Inherits start declaring
  own : (heap.classAt declaring).methods.get? name = some method

theorem searchMethod?_finds {name : String} {method : FunctionId} (steps : Nat) (start : ClassId)
    (found : heap.searchMethod? name steps start = some method) :
    ∃ declaring, heap.Inherits start declaring ∧
      (heap.classAt declaring).methods.get? name = some method := by
  induction steps generalizing start with
  | zero => exact nomatch found
  | succ steps inductionHypothesis =>
    unfold searchMethod? at found
    split at found
    · rename_i own
      cases found
      exact ⟨start, .refl start, own⟩
    · split at found
      · rename_i parent isParent
        obtain ⟨declaring, inherits, own⟩ := inductionHypothesis parent found
        refine ⟨declaring, ?_, own⟩
        cases known : heap.classes[start]? with
        | none =>
          -- where there is no class, there is no superclass either
          rw [classAt_of_none known] at isParent
          exact nomatch isParent
        | some object => exact .step known (classAt_of_some known ▸ isParent) inherits
      · exact nomatch found

/-- A method that is found is found in some class. -/
theorem finds_of_method? {start : ClassId} {name : String} {method : FunctionId}
    (found : heap.method? start name = some method) :
    ∃ declaring, heap.Finds start name declaring method := by
  obtain ⟨declaring, inherits, own⟩ := searchMethod?_finds _ start found
  exact ⟨declaring, found, inherits, own⟩

end Heap

/-! ### Environments that a heap bears out -/

/-- The innermost activation is that of the frame of a superclass. -/
def Environment.parent? : Environment → Option ClassId
  | ⟨.superclass parent, _, _⟩ :: _ => some parent
  | _ => none

/-- The activation of a superclass, some links out. -/
theorem Environment.parent?_drop {environment : Environment} {distance : Nat} {parent : ClassId}
    (isSuperclass : environment[distance]?.map Activation.owner = some (.superclass parent)) :
    Environment.parent? (environment.drop distance) = some parent := by
  obtain ⟨activation, isActivation, isOwner⟩ := Option.map_eq_some_iff.mp isSuperclass
  obtain ⟨within, isElement⟩ := List.getElem?_eq_some_iff.mp isActivation
  rw [List.drop_eq_getElem_cons within, isElement]
  obtain ⟨owner, names, frame⟩ := activation
  obtain rfl : owner = .superclass parent := isOwner
  rfl

/-- What the frame of an activation holds, by what it was made for. `outer` is what lies around: the
frame of a superclass lies around that of the receiver and around no other. -/
def Owner.Holds (heap : Heap) (outer : Environment) (names : Names) (frame : FrameId) :
    Owner → Prop
  | .block | .call _ =>
    outer.parent? = none ∧ ∀ word, ¬IsVariable word → names.contains word = false
  | .receiver declaring object =>
    names.contains "super" = false ∧
      heap.frames.read? frame "this" = some (.object object) ∧
      heap.InstanceOf object declaring ∧
      ∃ found, heap.classes[declaring]? = some found ∧ found.superclass = outer.parent?
  | .superclass parent =>
    outer.parent? = none ∧ names.contains "this" = false ∧ parent < heap.classes.size ∧
      heap.frames.read? frame "super" = some (.callable (.constructor parent))

/-- The chain of frames from one outward is that of the environment, every name that is defined is
bound, and every frame holds what it was made for. -/
def Environment.Aligned (heap : Heap) : Environment → FrameId → Prop
  | [], frame => frame = Heap.globalFrame
  | innermost :: outer, frame =>
    frame = innermost.frame ∧ frame ≠ Heap.globalFrame ∧
      (∀ name, innermost.names.get? name = some true → (heap.frames.read? frame name).isSome) ∧
      innermost.owner.Holds heap outer innermost.names frame ∧
      ∃ enclosing, heap.frames.enclosing? frame = some enclosing ∧
        Environment.Aligned heap outer enclosing

theorem Owner.Holds.grow {before after : Heap} {outer : Environment} {names : Names}
    {frame : FrameId} {owner : Owner} (holds : owner.Holds before outer names frame)
    (inner : frame ≠ Heap.globalFrame) (precedes : before.Precedes after) :
    owner.Holds after outer names frame := by
  cases owner with
  | block => exact holds
  | call function => exact holds
  | receiver declaring object =>
    obtain ⟨noSuper, isThis, isInstance, declared, isClass, parent⟩ := holds
    exact ⟨noSuper, precedes.word inner not_isVariable_this isThis, isInstance.grow precedes,
      declared, precedes.classes isClass, parent⟩
  | superclass parent =>
    obtain ⟨isOutermost, noThis, present, isSuper⟩ := holds
    refine ⟨isOutermost, noThis, ?_, precedes.word inner not_isVariable_super isSuper⟩
    exact (Array.getElem?_eq_some_iff.mp
      (precedes.classes (Array.getElem?_eq_getElem present))).1

/-- A heap that has grown bears out the same environments. -/
theorem Environment.Aligned.grow {before after : Heap} {environment : Environment}
    {frame : FrameId} (aligned : environment.Aligned before frame)
    (precedes : before.Precedes after) : environment.Aligned after frame := by
  induction environment generalizing frame with
  | nil => exact aligned
  | cons innermost outer inductionHypothesis =>
    obtain ⟨isFrame, inner, bound, holds, enclosing, enclosed, around⟩ := aligned
    exact ⟨isFrame, inner, fun name defined => precedes.bound (bound name defined),
      holds.grow inner precedes, enclosing, precedes.isEnclosed enclosed,
      inductionHypothesis around⟩

/-! ### Entering a name -/

theorem Environment.parent?_enter (name : String) (isDefined : Bool) (environment : Environment) :
    (environment.enter name isDefined).parent? = environment.parent? := by
  cases environment with
  | nil => rfl
  | cons innermost outer =>
    obtain ⟨owner, names, frame⟩ := innermost
    cases owner <;> rfl

theorem Environment.parent?_after (environment : Environment) (statement : Statement) :
    (environment.after statement).parent? = environment.parent? := by
  unfold Environment.after
  split
  · exact Environment.parent?_enter _ _ _
  · rfl

theorem Owner.Holds.enter {heap : Heap} {outer : Environment} {names : Names} {frame : FrameId}
    {owner : Owner} {name : String} (isVariable : IsVariable name) (isDefined : Bool)
    (holds : owner.Holds heap outer names frame) :
    owner.Holds heap outer (names.write name isDefined) frame := by
  have same {word : String} (isWord : ¬IsVariable word) (absent : names.contains word = false) :
      (names.write name isDefined).contains word = false := by
    have different : word ≠ name := fun same => isWord (same ▸ isVariable)
    rw [contains_write, absent]
    simp [different]
  cases owner with
  | block => exact ⟨holds.1, fun word isWord => same isWord (holds.2 word isWord)⟩
  | call function => exact ⟨holds.1, fun word isWord => same isWord (holds.2 word isWord)⟩
  | receiver declaring object => exact ⟨same not_isVariable_super holds.1, holds.2⟩
  | superclass parent => exact ⟨holds.1, same not_isVariable_this holds.2.1, holds.2.2⟩

/-- A name that is pending need not be bound, and one that is bound may be defined. -/
theorem Environment.Aligned.enter {heap : Heap} {environment : Environment} {frame : FrameId}
    {name : String} {isDefined : Bool} (aligned : environment.Aligned heap frame)
    (isVariable : IsVariable name)
    (bound : isDefined = true → (heap.frames.read? frame name).isSome) :
    (environment.enter name isDefined).Aligned heap frame := by
  cases environment with
  | nil => exact aligned
  | cons innermost outer =>
    obtain ⟨isFrame, inner, wereBound, holds, around⟩ := aligned
    refine ⟨isFrame, inner, fun other defined => ?_, holds.enter isVariable isDefined, around⟩
    rw [Bindings.get?_write] at defined
    split at defined
    · rename_i same
      subst same
      exact bound (Option.some.inj defined)
    · exact wereBound other defined

/-! ### Going outward -/

/-- The nearest scope with a name, in an environment. -/
theorem Environment.nearest {environment : Environment} {name : String} {distance : Nat}
    (nearest : distance? environment.scopes name = some distance) :
    ∃ activation, environment[distance]? = some activation ∧
      activation.names.contains name = true ∧
      ∀ nearer ∈ environment.take distance, nearer.names.contains name = false := by
  induction environment generalizing distance with
  | nil => exact nomatch nearest
  | cons innermost outer inductionHypothesis =>
    rw [scopes_cons, distance?_cons] at nearest
    split at nearest
    · rename_i found
      cases nearest
      exact ⟨innermost, rfl, found, fun _ member => absurd member List.not_mem_nil⟩
    · rename_i absent
      obtain ⟨further, isFurther, rfl⟩ := Option.map_eq_some_iff.mp nearest
      obtain ⟨activation, isActivation, found, nearer⟩ := inductionHypothesis isFurther
      refine ⟨activation, isActivation, found, ?_⟩
      intro other member
      rcases List.mem_cons.mp member with rfl | inOuter
      · exact Bool.eq_false_iff.mpr absent
      · exact nearer other inOuter

/-- A name that is in no scope, in an environment. -/
theorem Environment.nowhere {environment : Environment} {name : String}
    (nowhere : distance? environment.scopes name = none) :
    ∀ activation ∈ environment, activation.names.contains name = false := by
  induction environment with
  | nil => exact fun _ member => absurd member List.not_mem_nil
  | cons innermost outer inductionHypothesis =>
    rw [scopes_cons, distance?_cons] at nowhere
    split at nowhere
    · exact nomatch nowhere
    · rename_i absent
      intro other member
      rcases List.mem_cons.mp member with rfl | inOuter
      · exact Bool.eq_false_iff.mpr absent
      · exact inductionHypothesis (Option.map_eq_none_iff.mp nowhere) other inOuter

namespace Environment.Aligned

variable {heap : Heap} {environment : Environment} {frame : FrameId}

/-- Some links out, the rest of the environment is borne out. -/
theorem drop (aligned : environment.Aligned heap frame) {distance : Nat}
    (within : distance ≤ environment.length) :
    ∃ outer, heap.frames.ancestor? frame distance = some outer ∧
      Environment.Aligned heap (environment.drop distance) outer := by
  induction distance generalizing environment frame with
  | zero => exact ⟨frame, rfl, aligned⟩
  | succ distance inductionHypothesis =>
    cases environment with
    | nil => exact absurd within (Nat.not_succ_le_zero distance)
    | cons innermost outer =>
      obtain ⟨_, _, _, _, enclosing, enclosed, around⟩ := aligned
      obtain ⟨last, isLast, rest⟩ := inductionHypothesis around (Nat.le_of_succ_le_succ within)
      refine ⟨last, ?_, rest⟩
      rw [Frames.ancestor?, enclosed]
      exact isLast

/-- The frame of an activation is as many links out as there are activations before it. -/
theorem activation (aligned : environment.Aligned heap frame) {distance : Nat}
    {activation : Activation} (isActivation : environment[distance]? = some activation) :
    heap.frames.ancestor? frame distance = some activation.frame ∧
      Environment.Aligned heap (activation :: environment.drop (distance + 1))
        activation.frame := by
  obtain ⟨within, isElement⟩ := List.getElem?_eq_some_iff.mp isActivation
  obtain ⟨outer, isOuter, rest⟩ := aligned.drop (Nat.le_of_lt within)
  rw [List.drop_eq_getElem_cons within, isElement] at rest
  obtain rfl := rest.1
  exact ⟨isOuter, rest⟩

/-- Behind all activations is the global frame. -/
theorem outermost (aligned : environment.Aligned heap frame) :
    heap.frames.ancestor? frame environment.length = some Heap.globalFrame := by
  obtain ⟨outer, isOuter, rest⟩ := aligned.drop (Nat.le_refl _)
  rw [List.drop_length] at rest
  rw [isOuter, rest]

/-- Every frame of an activation is in the heap and is not the global one. -/
theorem frame_lt (aligned : environment.Aligned heap frame) :
    ∀ activation ∈ environment, activation.frame < heap.frames.size ∧
      activation.frame ≠ Heap.globalFrame := by
  intro activation member
  obtain ⟨distance, within, isActivation⟩ := List.getElem_of_mem member
  have here := (aligned.activation (List.getElem?_eq_some_iff.mpr ⟨within, isActivation⟩)).2
  obtain ⟨_, inner, _, _, _, enclosed, _⟩ := here
  exact ⟨Frames.lt_size_of_enclosing? enclosed, inner⟩

/-- The activation that holds `this` is that of a receiver. -/
theorem this {distance : Nat} (aligned : environment.Aligned heap frame)
    (nearest : distance? environment.scopes "this" = some distance) :
    ∃ activation declaring object, environment[distance]? = some activation ∧
      activation.owner = .receiver declaring object ∧
      heap.frames.ancestor? frame distance = some activation.frame ∧
      Owner.Holds heap (environment.drop (distance + 1)) activation.names activation.frame
        (.receiver declaring object) := by
  obtain ⟨activation, isActivation, contains, _⟩ := Environment.nearest nearest
  obtain ⟨isOuter, _, _, _, holds, _⟩ := aligned.activation isActivation
  cases owner : activation.owner with
  | block | call function =>
    rw [owner] at holds
    exact absurd (holds.2 "this" not_isVariable_this) (by simp [contains])
  | superclass parent =>
    rw [owner] at holds
    exact absurd holds.2.1 (by simp [contains])
  | receiver declaring object =>
    rw [owner] at holds
    exact ⟨activation, declaring, object, isActivation, owner, isOuter, holds⟩

/-- The activation that holds `super` is that of a superclass. -/
theorem super {distance : Nat} (aligned : environment.Aligned heap frame)
    (nearest : distance? environment.scopes "super" = some distance) :
    ∃ activation parent, environment[distance]? = some activation ∧
      activation.owner = .superclass parent ∧
      heap.frames.ancestor? frame distance = some activation.frame ∧
      Owner.Holds heap (environment.drop (distance + 1)) activation.names activation.frame
        (.superclass parent) := by
  obtain ⟨activation, isActivation, contains, _⟩ := Environment.nearest nearest
  obtain ⟨isOuter, _, _, _, holds, _⟩ := aligned.activation isActivation
  cases owner : activation.owner with
  | block | call function =>
    rw [owner] at holds
    exact absurd (holds.2 "super" not_isVariable_super) (by simp [contains])
  | receiver declaring object =>
    rw [owner] at holds
    exact absurd holds.1 (by simp [contains])
  | superclass parent =>
    rw [owner] at holds
    exact ⟨activation, parent, isActivation, owner, isOuter, holds⟩

end Environment.Aligned

end Lox
