/-
A heap only grows: frames stay enclosed as they are, a name that is bound stays bound, and
functions, classes and the classes of instances never change. The two words `this` and `super` even
keep their values, since no program can assign to them. One step of a run makes one of the changes
below.
-/

import Lox.Proofs.Scope.Placed
import Lox.Machine.State

namespace Lox

open Scope

/-! ### Frames -/

namespace Frames

variable {frames : Frames} {id : FrameId} {name : String} {value : Value}

theorem lt_size_of_frame? {frame : Frame} (found : frames.frame? id = some frame) :
    id < frames.size :=
  (Array.getElem?_eq_some_iff.mp found).1

theorem lt_size_of_enclosing? {outer : FrameId} (enclosed : frames.enclosing? id = some outer) :
    id < frames.size := by
  obtain ⟨frame, found, _⟩ := Option.bind_eq_some_iff.mp enclosed
  exact lt_size_of_frame? found

theorem lt_size_of_read? (bound : frames.read? id name = some value) : id < frames.size := by
  obtain ⟨frame, found, _⟩ := Option.bind_eq_some_iff.mp bound
  exact lt_size_of_frame? found

theorem isSome_frame? (present : id < frames.size) : (frames.frame? id).isSome := by
  unfold frame?
  rw [Array.getElem?_eq_getElem present]
  rfl

theorem enclosing?_add (frames : Frames) (enclosing : Option FrameId) (id : FrameId) :
    (frames.add enclosing).enclosing? id =
      if id = frames.size then enclosing else frames.enclosing? id := by
  unfold enclosing?
  rw [frame?_add]
  split <;> rfl

theorem read?_size (frames : Frames) (name : String) : frames.read? frames.size name = none := by
  cases bound : frames.read? frames.size name with
  | none => rfl
  | some value => exact absurd (lt_size_of_read? bound) (Nat.lt_irrefl _)

/-- An added frame binds nothing. -/
theorem read?_add (frames : Frames) (enclosing : Option FrameId) (id : FrameId) (name : String) :
    (frames.add enclosing).read? id name = frames.read? id name := by
  by_cases added : id = frames.size
  · subst added
    rw [read?_size]
    unfold read?
    rw [frame?_add, if_pos rfl]
    rfl
  · unfold read?
    rw [frame?_add, if_neg added]

/-- A name that is written in a frame is bound there. -/
theorem read?_write_self (present : id < frames.size) :
    (frames.write id name value).read? id name = some value := by
  rw [read?_write, if_pos ⟨rfl, rfl, isSome_frame? present⟩]

/-- What is bound after writing was written or bound before. -/
theorem read?_write_cases {frame : FrameId} {wanted : String} {found : Value}
    (bound : (frames.write frame name value).read? id wanted = some found) :
    (id = frame ∧ wanted = name ∧ found = value) ∨ frames.read? id wanted = some found := by
  rw [read?_write] at bound
  split at bound
  · rename_i same
    exact .inl ⟨same.1.symm, same.2.1, (Option.some.inj bound).symm⟩
  · exact .inr bound

end Frames

/-! ### Heaps -/

/-- The heap has grown into another one. -/
structure Heap.Precedes (before after : Heap) : Prop where
  size : before.frames.size ≤ after.frames.size
  enclosing : ∀ {id}, id < before.frames.size →
    after.frames.enclosing? id = before.frames.enclosing? id
  bound : ∀ {id name}, (before.frames.read? id name).isSome → (after.frames.read? id name).isSome
  word : ∀ {id word value}, id ≠ globalFrame → ¬IsVariable word →
    before.frames.read? id word = some value → after.frames.read? id word = some value
  functions : ∀ {id : FunctionId} {object}, before.functions[id]? = some object →
    after.functions[id]? = some object
  classes : ∀ {id : ClassId} {object}, before.classes[id]? = some object →
    after.classes[id]? = some object
  instances : ∀ {id : InstanceId} {object}, before.instances[id]? = some object →
    ∃ later, after.instances[id]? = some later ∧ later.classId = object.classId

namespace Heap

theorem push_some {Object : Type} {objects : Array Object} {object new : Object} {id : Nat}
    (found : objects[id]? = some object) : (objects.push new)[id]? = some object := by
  rw [Array.getElem?_push, if_neg]
  · exact found
  · rintro rfl
    exact absurd (Array.getElem?_eq_some_iff.mp found).1 (Nat.lt_irrefl _)

/-- What stands among objects with a new one is the new one or stood there before. -/
theorem push_cases {Object : Type} {objects : Array Object} {object new : Object} {id : Nat}
    (found : (objects.push new)[id]? = some object) :
    (id = objects.size ∧ object = new) ∨ objects[id]? = some object := by
  rw [Array.getElem?_push] at found
  split at found
  · rename_i added
    exact .inl ⟨added, (Option.some.inj found).symm⟩
  · exact .inr found

namespace Precedes

variable {before middle after : Heap}

theorem refl (heap : Heap) : heap.Precedes heap where
  size := Nat.le_refl _
  enclosing _ := rfl
  bound isBound := isBound
  word _ _ bound := bound
  functions found := found
  classes found := found
  instances found := ⟨_, found, rfl⟩

theorem trans (early : before.Precedes middle) (late : middle.Precedes after) :
    before.Precedes after where
  size := Nat.le_trans early.size late.size
  enclosing present :=
    (late.enclosing (Nat.lt_of_lt_of_le present early.size)).trans (early.enclosing present)
  bound isBound := late.bound (early.bound isBound)
  word inner isWord bound := late.word inner isWord (early.word inner isWord bound)
  functions found := late.functions (early.functions found)
  classes found := late.classes (early.classes found)
  instances found := by
    obtain ⟨later, foundLater, same⟩ := early.instances found
    obtain ⟨last, foundLast, sameLast⟩ := late.instances foundLater
    exact ⟨last, foundLast, sameLast.trans same⟩

theorem isEnclosed (precedes : before.Precedes after) {id outer : FrameId}
    (enclosed : before.frames.enclosing? id = some outer) :
    after.frames.enclosing? id = some outer :=
  (precedes.enclosing (Frames.lt_size_of_enclosing? enclosed)).trans enclosed

/-! ### Single changes -/

theorem addFrame (precedes : before.Precedes after) (enclosing : FrameId) :
    before.Precedes (after.addFrame enclosing).2 where
  size := by
    show _ ≤ (after.frames.add _).size
    rw [Frames.size_add]
    exact Nat.le_succ_of_le precedes.size
  enclosing present := by
    show (after.frames.add _).enclosing? _ = _
    rw [Frames.enclosing?_add, if_neg, precedes.enclosing present]
    exact Nat.ne_of_lt (Nat.lt_of_lt_of_le present precedes.size)
  bound isBound := by
    show ((after.frames.add _).read? _ _).isSome
    rw [Frames.read?_add]
    exact precedes.bound isBound
  word inner isWord bound := by
    show (after.frames.add _).read? _ _ = _
    rw [Frames.read?_add]
    exact precedes.word inner isWord bound
  functions := precedes.functions
  classes := precedes.classes
  instances := precedes.instances

/-- A name is bound: a variable, or any name in the global frame or in a frame that is new. -/
theorem define (precedes : before.Precedes after) (frame : FrameId) (name : String)
    (value : Value)
    (allowed : IsVariable name ∨ frame = globalFrame ∨ before.frames.size ≤ frame) :
    before.Precedes (after.define frame name value) where
  size := by
    show _ ≤ (after.frames.write _ _ _).size
    rw [Frames.size_write]
    exact precedes.size
  enclosing present := by
    show (after.frames.write _ _ _).enclosing? _ = _
    rw [Frames.enclosing?_write, precedes.enclosing present]
  bound isBound := by
    show ((after.frames.write _ _ _).read? _ _).isSome
    rw [Frames.read?_write]
    split
    · rfl
    · exact precedes.bound isBound
  word {id word _} inner isWord bound := by
    show (after.frames.write _ _ _).read? _ _ = _
    rw [Frames.read?_write, if_neg]
    · exact precedes.word inner isWord bound
    · rintro ⟨rfl, rfl, _⟩
      rcases allowed with isVariable | isGlobal | isNew
      · exact isWord isVariable
      · exact inner isGlobal
      · exact Nat.not_lt.mpr isNew (Frames.lt_size_of_read? bound)
  functions := precedes.functions
  classes := precedes.classes
  instances := precedes.instances

theorem defineAll (precedes : before.Precedes after) {frame : FrameId}
    (entries : List (String × Value)) (isNew : before.frames.size ≤ frame) :
    before.Precedes (after.defineAll frame entries) := by
  induction entries generalizing after with
  | nil => exact precedes
  | cons entry others inductionHypothesis =>
    exact inductionHypothesis (precedes.define frame entry.1 entry.2 (.inr (.inr isNew)))

theorem addFunction (precedes : before.Precedes after) (object : FunctionObject) :
    before.Precedes (after.addFunction object).2 :=
  { precedes with functions := fun found => push_some (precedes.functions found) }

theorem addClass (precedes : before.Precedes after) (object : ClassObject) :
    before.Precedes (after.addClass object).2 :=
  { precedes with classes := fun found => push_some (precedes.classes found) }

theorem addInstance (precedes : before.Precedes after) (classId : ClassId) :
    before.Precedes (after.addInstance classId).2 :=
  { precedes with
    instances := fun found => by
      obtain ⟨later, foundLater, same⟩ := precedes.instances found
      exact ⟨later, push_some foundLater, same⟩ }

/-- Setting a field leaves every instance one of its class. -/
theorem setField_instance {heap : Heap} {id other : InstanceId} {object : InstanceObject}
    (name : String) (value : Value) (found : heap.instances[other]? = some object) :
    ∃ later, (heap.setField id name value).instances[other]? = some later ∧
      later.classId = object.classId := by
  unfold Heap.setField
  dsimp only
  rw [Array.getElem?_modify, found]
  split
  · exact ⟨_, rfl, rfl⟩
  · exact ⟨object, rfl, rfl⟩

theorem setField (precedes : before.Precedes after) (id : InstanceId) (name : String)
    (value : Value) : before.Precedes (after.setField id name value) :=
  { precedes with
    instances := fun found => by
      obtain ⟨later, foundLater, same⟩ := precedes.instances found
      obtain ⟨last, foundLast, sameLast⟩ := setField_instance name value foundLater
      exact ⟨last, foundLast, sameLast.trans same⟩ }

/-- A bound method is a function closed over a new frame that binds `this`. -/
theorem bindMethod (precedes : before.Precedes after) (method : FunctionId)
    (receiver : InstanceId) : before.Precedes (after.bindMethod method receiver).2 :=
  ((precedes.addFrame _).define _ _ _ (.inr (.inr precedes.size))).addFunction _

end Precedes

end Heap

end Lox
