/-
What the occurrences of names do: a variable is found in the frame that the environment tells,
`this` is the receiver of the nearest method around, and `super` the superclass of the class that
declares it. Functions and methods that are made from such values fit their environments.
-/

import Lox.Proofs.Run.Keeps

namespace Lox

open Scope

variable {watch : Watch} {machine : Machine} {environment : Environment}

/-! ### Frames -/

namespace Frames

variable {frames : Frames} {id holder : FrameId} {name : String} {value : Value} {line : Nat}

theorem search?_read? (steps : Nat) (id : FrameId)
    (found : frames.search? name steps id = some (holder, value)) :
    frames.read? holder name = some value := by
  induction steps generalizing id with
  | zero => exact nomatch found
  | succ steps inductionHypothesis =>
    unfold search? at found
    split at found
    · rename_i bound
      cases found
      exact bound
    · split at found
      · rename_i outer _
        exact inductionHypothesis outer found
      · exact nomatch found

theorem get_read? (found : frames.get id name line = .ok value) :
    ∃ holder, frames.read? holder name = some value := by
  unfold get at found
  split at found
  · rename_i holder _ nearest
    cases found
    exact ⟨holder, search?_read? _ _ nearest⟩
  · exact nomatch found

/-- A name that a frame binds is found there first. -/
theorem holder_of_bound (bound : (frames.read? id name).isSome) :
    frames.holder id name line = .ok id := by
  obtain ⟨value, bound⟩ := Option.isSome_iff_exists.mp bound
  unfold holder nearest? search?
  rw [bound]

/-- A name looked for in a frame that nothing encloses is found there or nowhere. -/
theorem holder_outermost (outermost : frames.enclosing? id = none)
    (found : frames.holder id name line = .ok holder) :
    holder = id ∧ (frames.read? id name).isSome := by
  unfold Frames.holder nearest? search? at found
  cases bound : frames.read? id name with
  | some value =>
    rw [bound] at found
    cases found
    exact ⟨rfl, rfl⟩
  | none =>
    rw [bound, outermost] at found
    exact nomatch found

theorem getAt_read? {distance : Nat} (found : frames.getAt id distance name line = .ok value) :
    ∃ holder, frames.read? holder name = some value := by
  unfold getAt at found
  split at found
  · rename_i bound
    cases found
    obtain ⟨holder, _, bound⟩ := Option.bind_eq_some_iff.mp bound
    exact ⟨holder, bound⟩
  · exact nomatch found

theorem getAt_of_ancestor? {distance : Nat} (ancestor : frames.ancestor? id distance = some holder)
    (bound : frames.read? holder name = some value) :
    frames.getAt id distance name line = .ok value := by
  unfold getAt
  rw [ancestor, Option.bind_some, bound]

end Frames

namespace Watch

/-! ### Variables -/

theorem lookUp_keeps (sound : watch.Sound machine) (reference : Reference) (name : Identifier) :
    watch.Keeps (Evaluator.lookUp reference name) (Evaluator.lookUp reference name) machine
      fun value after => watch.Good after value := by
  refine .get_bind ?_
  dsimp only
  split
  · refine .ofExcept sound fun value found => ?_
    obtain ⟨_, bound⟩ := Frames.getAt_read? found
    exact sound.values bound
  · refine .ofExcept sound fun value found => ?_
    obtain ⟨_, bound⟩ := Frames.get_read? found
    exact sound.values bound

/-- An assignment to a variable binds an allowed name, if it does so in the watched frame. -/
theorem holder_keeps {reference : Reference} {name : Identifier}
    (ready : watch.Ready environment machine)
    (known : machine.table watch.limit reference (distance? environment.scopes name.name)) :
    watch.Keeps (Evaluator.holder reference name) (Evaluator.holder reference name) machine
      fun frame _ => frame = watch.kept → watch.allowed name.name := by
  refine .get_bind ?_
  dsimp only
  split
  · rename_i distance isDistance
    refine .ofExcept ready.sound fun frame found isKept => ?_
    obtain ⟨activation, isActivation, contains, _⟩ :=
      Environment.nearest (known.2.symm.trans isDistance)
    have ancestor := (ready.aligned.activation isActivation).1
    unfold Frames.holderAt at found
    rw [ancestor] at found
    cases found
    exact ready.confined activation (List.mem_of_getElem? isActivation) isKept name.name contains
  · refine .ofExcept ready.sound fun frame found isKept => ?_
    have isGlobal := (Frames.holder_outermost ready.sound.outermost found).1
    exact ready.sound.everywhere (isKept.symm.trans isGlobal) name.name

theorem assign_keeps {reference : Reference} {name : Identifier} {value : Value}
    (ready : watch.Ready environment machine) (isVariable : IsVariable name.name)
    (known : machine.table watch.limit reference (distance? environment.scopes name.name))
    (good : watch.Good machine value) :
    watch.Keeps (Evaluator.assign reference name value) (Evaluator.assign reference name value)
      machine fun _ _ => True := by
  refine (holder_keeps ready known).bind fun frame after _ leads isAllowed => ?_
  have precedes : after.heap.Precedes (after.heap.define frame name.name value) :=
    (Heap.Precedes.refl _).define frame name.name value (.inl isVariable)
  refine .changeHeap (.ofHeap precedes (leads.sound.define ?_ isVariable isAllowed)) trivial
  exact (Carries.ofHeap watch precedes).good leads.sound (leads.good ready.sound good)

/-! ### Functions -/

/-- A function that is closed over the current frame fits the environment. -/
theorem Ready.close {declaration : FunctionDeclaration}
    (ready : watch.Ready environment machine)
    (placed : declaration.Placed (machine.table watch.limit) environment.scopes) :
    watch.Leads machine (machine.close declaration) ∧
      watch.Fits (machine.close declaration) environment machine.heap.functions.size := by
  have precedes := (Heap.Precedes.refl machine.heap).addFunction
    ⟨declaration, machine.current, false⟩
  refine ⟨.ofHeap precedes (ready.sound.addFunction _ fun reference member => ?_), ready.inside,
    ⟨declaration, machine.current, false⟩, Array.getElem?_push_size,
    ready.aligned.grow precedes, placed⟩
  obtain ⟨_, small, _⟩ := FunctionDeclaration.Placed.knows declaration placed reference member
  exact small

/-! ### Methods -/

/-- What a class inherits from is a class that there is. -/
theorem Sound.inherits_lt (sound : watch.Sound machine) {id ancestor : ClassId}
    (inherits : machine.heap.Inherits id ancestor) (present : id < machine.heap.classes.size) :
    ancestor < machine.heap.classes.size := by
  induction inherits with
  | refl id => exact present
  | step found isParent _ inductionHypothesis =>
    exact inductionHypothesis (sound.parents found isParent)

/-- A method is bound to an instance whose class inherits from the class that declares it. -/
theorem bindMethod_fits {declaring : ClassId} {method : FunctionId} {receiver : InstanceId}
    (sound : watch.Sound machine)
    (fits : watch.MethodFits machine environment declaring method)
    (isInstance : machine.heap.InstanceOf receiver declaring) :
    watch.Leads machine (machine.bindMethod method receiver) ∧
      watch.Fits (machine.bindMethod method receiver)
        (environment.bound machine declaring receiver) machine.heap.functions.size := by
  obtain ⟨⟨object, found, aligned, placed⟩, classFound, isClass, parent⟩ := fits
  have goodReceiver : watch.Good machine (.object receiver) := by
    obtain ⟨_, isFound, _⟩ := isInstance
    exact (Array.getElem?_eq_some_iff.mp isFound).1
  have opened := sound.openFrame object.closure [("this", .object receiver)]
    fun entry member => List.mem_singleton.mp member ▸ goodReceiver
  let bound : FunctionObject := { object with closure := machine.heap.frames.size }
  have same : machine.bindMethod method receiver =
      (machine.withHeap (machine.heap.openFrame object.closure [("this", .object receiver)])).withHeap
        ((machine.heap.openFrame object.closure [("this", .object receiver)]).addFunction bound).2 := by
    unfold Machine.bindMethod Heap.bindMethod
    rw [Heap.function_of_some found]
    rfl
  have grown : machine.heap.Precedes (machine.bindMethod method receiver).heap :=
    (Heap.Precedes.refl _).bindMethod method receiver
  have isThere : (machine.bindMethod method receiver).heap.functions[
      machine.heap.functions.size]? = some bound := by
    rw [same, ← Heap.openFrame_functions machine.heap object.closure [("this", .object receiver)]]
    exact Array.getElem?_push_size
  have isThis : (machine.bindMethod method receiver).heap.frames.read? machine.heap.frames.size
      "this" = some (.object receiver) := by
    rw [same]
    exact Heap.openFrame_read? machine.heap object.closure "this" (.object receiver)
  have isEnclosed : (machine.bindMethod method receiver).heap.frames.enclosing?
      machine.heap.frames.size = some object.closure := by
    rw [same]
    exact Heap.openFrame_enclosing? machine.heap object.closure [("this", .object receiver)]
  have small := sound.functions found
  have stillSound : watch.Sound (machine.bindMethod method receiver) :=
    same ▸ opened.addFunction bound small
  refine ⟨.ofHeap grown stillSound, rfl, bound, isThere, ⟨rfl,
    Nat.ne_of_gt (Nat.zero_lt_of_lt sound.room), ?_, ⟨rfl, isThis, isInstance.grow grown, classFound,
      grown.classes isClass, parent⟩, object.closure, isEnclosed, aligned.grow grown⟩, placed⟩
  intro name defined
  rw [show name = "this" from only_get? defined, isThis]
  rfl

/-- A bound method is closed over the environment of the method, with the receiver. -/
theorem bindMethod_closed {declaring : ClassId} {method : FunctionId} {receiver : InstanceId}
    (sound : watch.Sound machine)
    (happened : Happens watch.start (.binding declaring method receiver machine))
    (made : watch.Made machine declaring method)
    (isInstance : machine.heap.InstanceOf receiver declaring) :
    watch.Leads machine (machine.bindMethod method receiver) ∧
      watch.Closed (machine.bindMethod method receiver) machine.heap.functions.size := by
  obtain ⟨around, origin, wasMade, precedes, methodFits, confined⟩ := made
  have ⟨leads, fits⟩ := bindMethod_fits sound methodFits isInstance
  refine ⟨leads, _, _, .bound happened wasMade precedes, .refl _, fits, ?_⟩
  intro activation member isKept
  rcases List.mem_cons.mp member with rfl | outer
  · exact absurd isKept.symm (Nat.ne_of_lt sound.room)
  · exact confined activation outer isKept

/-- A bound method, as a value. -/
theorem bound_keeps {declaring : ClassId} {method : FunctionId} {receiver : InstanceId}
    (sound : watch.Sound machine)
    (happened : Happens watch.start (.binding declaring method receiver machine))
    (made : watch.Made machine declaring method)
    (isInstance : machine.heap.InstanceOf receiver declaring) :
    watch.Keeps (Evaluator.bound method receiver) (Evaluator.bound method receiver) machine
      fun value after => watch.Good after value := by
  have ⟨leads, closed⟩ := bindMethod_closed sound happened made isInstance
  let value : Value := .callable (.method machine.heap.functions.size)
  exact .begin (machine.bindMethod method receiver) (return value) (return value) rfl rfl leads
    (.pure leads.sound closed)

/-- A method that is found was made by the class that declares it. -/
theorem Sound.finds (sound : watch.Sound machine) {start declaring : ClassId} {name : String}
    {method : FunctionId} (present : start < machine.heap.classes.size)
    (finds : machine.heap.Finds start name declaring method) :
    watch.Made machine declaring method := by
  have found := sound.inherits_lt finds.inherits present
  have isClass := Array.getElem?_eq_getElem found
  have own := finds.own
  rw [Heap.classAt_of_some isClass] at own
  exact sound.methods isClass own

/-- The class of an instance that a value is. -/
theorem Sound.instance (sound : watch.Sound machine) {id : InstanceId}
    (good : watch.Good machine (.object id)) :
    ∃ found, machine.heap.instances[id]? = some found ∧
      found.classId = (machine.heap.instanceAt id).classId ∧
      found.classId < machine.heap.classes.size := by
  have isInstance := Array.getElem?_eq_getElem good
  refine ⟨_, isInstance, ?_, sound.instances isInstance⟩
  rw [Heap.instanceAt_of_some isInstance]

theorem property_keeps {object : Value} {name : Identifier} (sound : watch.Sound machine)
    (good : watch.Good machine object)
    (happened : ∀ {receiver declaring method}, object = .object receiver →
      (machine.heap.instanceAt receiver).fields.get? name.name = none →
      machine.heap.Finds (machine.heap.instanceAt receiver).classId name.name declaring method →
      Happens watch.start (.binding declaring method receiver machine)) :
    watch.Keeps (Evaluator.property object name) (Evaluator.property object name) machine
      fun value after => watch.Good after value := by
  unfold Evaluator.property
  split
  · rename_i receiver
    obtain ⟨found, isInstance, sameClass, present⟩ := sound.instance good
    refine .get_bind ?_
    dsimp only
    split
    · rename_i value isSet
      rw [Heap.instanceAt_of_some isInstance] at isSet
      exact .pure sound (sound.fields isInstance isSet)
    · rename_i noField
      split
      · rename_i method isMethod
        obtain ⟨declaring, finds⟩ := Heap.finds_of_method? isMethod
        rw [sameClass] at present
        refine bound_keeps sound (happened rfl noField finds) (sound.finds present finds)
          ⟨found, isInstance, ?_⟩
        rw [sameClass]
        exact finds.inherits
      · exact .throw sound
  · exact .throw sound

/-! ### The receiver and the superclass -/

/-- What `super` finds: the superclass of the class that declares the method around, and the
receiver of the method, which is an instance of a class that inherits from both. -/
theorem Ready.super {reference : Reference} {keyword method : Identifier}
    (ready : watch.Ready environment machine)
    (placed : (Expression.super reference keyword method).Placed (machine.table watch.limit)
      environment.scopes) :
    ∃ distance declaring parent receiver,
      distance? environment.scopes "this" = some distance ∧
      machine.distances[reference]? = some (distance + 1) ∧
      (environment[distance]?.map Activation.owner) = some (.receiver declaring receiver) ∧
      (environment[distance + 1]?.map Activation.owner) = some (.superclass parent) ∧
      machine.heap.frames.getAt machine.current (distance + 1) "super" keyword.line =
        .ok (.callable (.constructor parent)) ∧
      machine.heap.frames.getAt machine.current distance "this" keyword.line =
        .ok (.object receiver) ∧
      (machine.heap.classAt declaring).superclass = some parent ∧
      parent < machine.heap.classes.size ∧
      machine.heap.InstanceOf receiver declaring ∧ machine.heap.InstanceOf receiver parent := by
  obtain ⟨_, distance, nearest, further, known⟩ := placed
  obtain ⟨inner, declaring, receiver, isInner, isReceiver, innerFrame, _, isThis,
    isInstance, declared, isClass, isParent⟩ := ready.aligned.this nearest
  obtain ⟨outer, parent, isOuter, isSuperclass, outerFrame, _, _, present, isSuper⟩ :=
    ready.aligned.super further
  -- the activation of the superclass is the one right around that of the receiver
  have isOwner : environment[distance + 1]?.map Activation.owner = some (.superclass parent) := by
    rw [isOuter, Option.map_some, isSuperclass]
  have around := Environment.parent?_drop isOwner
  rw [around] at isParent
  refine ⟨distance, declaring, parent, receiver, nearest, known.2, ?_, isOwner,
    Frames.getAt_of_ancestor? outerFrame isSuper, Frames.getAt_of_ancestor? innerFrame isThis,
    ?_, present, isInstance, isInstance.trans (.step isClass isParent (.refl parent))⟩
  · rw [isInner, Option.map_some, isReceiver]
  · rw [Heap.classAt_of_some isClass, isParent]

/-- With the superclass and the receiver found, the method is looked for in the superclass. -/
theorem superMethod_eq {reference : Reference} {keyword : Identifier} (method : Identifier)
    {distance : Nat}
    {parent : ClassId} {receiver : InstanceId}
    (known : machine.distances[reference]? = some (distance + 1))
    (isSuper : machine.heap.frames.getAt machine.current (distance + 1) "super" keyword.line =
      .ok (.callable (.constructor parent)))
    (isThis : machine.heap.frames.getAt machine.current distance "this" keyword.line =
      .ok (.object receiver)) :
    Evaluator.superMethod reference keyword method machine =
      (match machine.heap.method? parent method.name with
        | some found => Evaluator.bound found receiver
        | none => Run.fail (.undefinedProperty method.name) method.line : Run Value) machine := by
  unfold Evaluator.superMethod
  rw [Run.get_bind, known]
  dsimp only
  rw [isSuper, Nat.add_sub_cancel, isThis]
  rfl

theorem superMethod_keeps {reference : Reference} {keyword method : Identifier}
    (ready : watch.Ready environment machine)
    (placed : (Expression.super reference keyword method).Placed (machine.table watch.limit)
      environment.scopes)
    (happened : Happens watch.start
      (.evaluation environment (.super reference keyword method) machine)) :
    watch.Keeps (Evaluator.superMethod reference keyword method)
      (Evaluator.superMethod reference keyword method) machine
      fun value after => watch.Good after value := by
  obtain ⟨distance, _, parent, receiver, _, known, _, _, isSuper, isThis, _, present, _,
    isInstance⟩ := ready.super placed
  have same := superMethod_eq method known isSuper isThis
  refine .begin machine _ _ same same (.refl ready.sound) ?_
  split
  · rename_i id isMethod
    obtain ⟨_, finds⟩ := Heap.finds_of_method? isMethod
    refine bound_keeps ready.sound (.super happened known isSuper ?_ finds)
      (ready.sound.finds present finds) (isInstance.trans finds.inherits)
    exact isThis
  · exact .throw ready.sound

end Watch

end Lox
