/-
What holds of a heap in every state that programs of a dialect can reach: whatever refers to a place
refers to something that is there, links lead to what is older, and an initializer that can be
called has a receiver. A step makes one of a few changes; each leaves the heap standing and loses
nothing.
-/

import Lox.Proofs.Run.Changes
import Lox.Proofs.Tree.Parts

namespace Lox

variable {dialect : Dialect}

/-! ### Standing -/

/-- The function is closed over a frame that holds the receiver as `this`. The global frame, where
native functions may be given any name, is not such a frame. -/
def Heap.BoundTo (heap : Heap) (function : FunctionId) (receiver : InstanceId) : Prop :=
  ∃ object, heap.functions[function]? = some object ∧ object.closure ≠ Heap.globalFrame ∧
    heap.frames.read? object.closure "this" = some (.object receiver)

/-- The function is there, and marked as an initializer just when it is declared as one. -/
def Heap.IsMethod (heap : Heap) (function : FunctionId) : Prop :=
  ∃ object, heap.functions[function]? = some object ∧
    object.isInitializer = object.declaration.isInitializer

/-- A value refers to something that is there. A function that is no method is no initializer, and
a method has a receiver, unless the dialect has names that could hide it. -/
def Value.Stands (dialect : Dialect) (heap : Heap) : Value → Prop
  | .callable (.native id) => id < heap.natives.size
  | .callable (.function id) =>
    ∃ object, heap.functions[id]? = some object ∧ object.isInitializer = false
  | .callable (.method id) =>
    heap.IsMethod id ∧ (dialect.has (.binding "this") ∨
      ∃ receiver, receiver < heap.instances.size ∧ heap.BoundTo id receiver)
  | .callable (.constructor id) => id < heap.classes.size
  | .object id => id < heap.instances.size
  | _ => True

/-- Everything in a heap refers to something that is there, and links lead to what is older. -/
structure Heap.Stands (dialect : Dialect) (heap : Heap) : Prop where
  outermost : globalFrame < heap.frames.size
  enclosing : ∀ {id outer}, heap.frames.enclosing? id = some outer → outer < id
  bound : ∀ {id name value}, heap.frames.read? id name = some value → value.Stands dialect heap
  closure : ∀ {id : FunctionId} {object}, heap.functions[id]? = some object →
    object.closure < heap.frames.size
  declaration : ∀ {id : FunctionId} {object}, heap.functions[id]? = some object →
    dialect.has (.function object.declaration)
  superclass : ∀ {id : ClassId} {object parent}, heap.classes[id]? = some object →
    object.superclass = some parent → parent < id
  method : ∀ {id : ClassId} {object name method}, heap.classes[id]? = some object →
    object.methods.get? name = some method → heap.IsMethod method
  classOf : ∀ {id : InstanceId} {object}, heap.instances[id]? = some object →
    object.classId < heap.classes.size
  field : ∀ {id : InstanceId} {object name value}, heap.instances[id]? = some object →
    object.fields.get? name = some value → value.Stands dialect heap

/-! ### Changes -/

/-- A step changes a heap. A name is bound if the dialect has it, if it is global, or if the frame
does not bind it yet. -/
inductive Heap.Change (dialect : Dialect) : Heap → Heap → Prop
  | define {heap : Heap} {frame : FrameId} {name : String} {value : Value} :
    frame < heap.frames.size → value.Stands dialect heap →
    dialect.has (.binding name) ∨ frame = globalFrame ∨ heap.frames.read? frame name = none →
    Change dialect heap (heap.define frame name value)
  | addFrame {heap : Heap} {enclosing : FrameId} : enclosing < heap.frames.size →
    Change dialect heap (heap.addFrame enclosing).2
  | addFunction {heap : Heap} {object : FunctionObject} : object.closure < heap.frames.size →
    dialect.has (.function object.declaration) →
    Change dialect heap (heap.addFunction object).2
  | addClass {heap : Heap} {object : ClassObject} :
    (∀ parent ∈ object.superclass, parent < heap.classes.size) →
    (∀ name method, object.methods.get? name = some method → heap.IsMethod method) →
    Change dialect heap (heap.addClass object).2
  | addInstance {heap : Heap} {classId : ClassId} : classId < heap.classes.size →
    Change dialect heap (heap.addInstance classId).2
  | setField {heap : Heap} {id : InstanceId} {name : String} {value : Value} :
    value.Stands dialect heap → Change dialect heap (heap.setField id name value)
  | addNative {heap : Heap} (native : NativeFunction) :
    Change dialect heap { heap with natives := heap.natives.push native }

/-! ### What is kept -/

/-- The heap has grown into another one. Frames stay where they are in the chain, what is bound
stays bound, functions, classes and the classes of instances do not change, and outside the global
frame a word keeps its value that the dialect cannot bind. -/
structure Heap.Extends (dialect : Dialect) (before after : Heap) : Prop where
  frames : before.frames.size ≤ after.frames.size
  enclosing : ∀ {id}, id < before.frames.size →
    after.frames.enclosing? id = before.frames.enclosing? id
  bound : ∀ {id name}, (before.frames.read? id name).isSome → (after.frames.read? id name).isSome
  word : ∀ {id word value}, id ≠ globalFrame → ¬dialect.has (.binding word) →
    before.frames.read? id word = some value → after.frames.read? id word = some value
  functions : ∀ {id : FunctionId} {object}, before.functions[id]? = some object →
    after.functions[id]? = some object
  classes : ∀ {id : ClassId} {object}, before.classes[id]? = some object →
    after.classes[id]? = some object
  natives : ∀ {id : NativeId} {native}, before.natives[id]? = some native →
    after.natives[id]? = some native
  instances : ∀ {id : InstanceId} {object}, before.instances[id]? = some object →
    ∃ later, after.instances[id]? = some later ∧ later.classId = object.classId ∧
      ∀ name, (object.fields.get? name).isSome → (later.fields.get? name).isSome

namespace Heap.Extends

variable {before middle after : Heap}

theorem refl (heap : Heap) : heap.Extends dialect heap where
  frames := Nat.le_refl _
  enclosing _ := rfl
  bound isBound := isBound
  word _ _ bound := bound
  functions found := found
  classes found := found
  natives found := found
  instances found := ⟨_, found, rfl, fun _ isSet => isSet⟩

theorem trans (early : before.Extends dialect middle) (late : middle.Extends dialect after) :
    before.Extends dialect after where
  frames := Nat.le_trans early.frames late.frames
  enclosing present :=
    (late.enclosing (Nat.lt_of_lt_of_le present early.frames)).trans (early.enclosing present)
  bound isBound := late.bound (early.bound isBound)
  word inner isWord bound := late.word inner isWord (early.word inner isWord bound)
  functions found := late.functions (early.functions found)
  classes found := late.classes (early.classes found)
  natives found := late.natives (early.natives found)
  instances found := by
    obtain ⟨later, foundLater, same, fields⟩ := early.instances found
    obtain ⟨last, foundLast, sameLast, fieldsLast⟩ := late.instances foundLater
    exact ⟨last, foundLast, sameLast.trans same, fun name isSet =>
      fieldsLast name (fields name isSet)⟩

/-- Where every object has a successor in its place, there are no fewer. -/
theorem size_le {Object : Type} {old new : Array Object}
    (kept : ∀ {id : Nat} {object}, old[id]? = some object → ∃ later, new[id]? = some later) :
    old.size ≤ new.size := by
  by_contra fewer
  obtain ⟨later, found⟩ := kept (Array.getElem?_eq_getElem (Nat.not_le.mp fewer))
  exact absurd (Array.getElem?_eq_some_iff.mp found).1 (Nat.lt_irrefl _)

theorem classes_size (ext : before.Extends dialect after) :
    before.classes.size ≤ after.classes.size :=
  size_le fun found => ⟨_, ext.classes found⟩

theorem natives_size (ext : before.Extends dialect after) :
    before.natives.size ≤ after.natives.size :=
  size_le fun found => ⟨_, ext.natives found⟩

theorem instances_size (ext : before.Extends dialect after) :
    before.instances.size ≤ after.instances.size := by
  refine size_le fun found => ?_
  obtain ⟨later, foundLater, _⟩ := ext.instances found
  exact ⟨later, foundLater⟩

end Heap.Extends

theorem Heap.IsMethod.later {before after : Heap} {function : FunctionId}
    (isMethod : before.IsMethod function) (ext : before.Extends dialect after) :
    after.IsMethod function := by
  obtain ⟨object, found, isMarked⟩ := isMethod
  exact ⟨object, ext.functions found, isMarked⟩

theorem Heap.IsMethod.lt_size {heap : Heap} {function : FunctionId}
    (isMethod : heap.IsMethod function) : function < heap.functions.size := by
  obtain ⟨_, found, _⟩ := isMethod
  exact (Array.getElem?_eq_some_iff.mp found).1

/-- What a method is bound to stays in the frame, since the dialect has no other use for `this`. -/
theorem Heap.BoundTo.later {before after : Heap} {function : FunctionId} {receiver : InstanceId}
    (bound : before.BoundTo function receiver) (ext : before.Extends dialect after)
    (noThis : ¬dialect.has (.binding "this")) : after.BoundTo function receiver := by
  obtain ⟨object, found, inner, isThis⟩ := bound
  exact ⟨object, ext.functions found, inner, ext.word inner noThis isThis⟩

/-- A method has one receiver. -/
theorem Heap.BoundTo.unique {heap : Heap} {function : FunctionId} {receiver other : InstanceId}
    (bound : heap.BoundTo function receiver) (also : heap.BoundTo function other) :
    receiver = other := by
  obtain ⟨object, found, _, isThis⟩ := bound
  obtain ⟨_, foundAlso, _, isThisAlso⟩ := also
  cases found.symm.trans foundAlso
  exact Value.object.inj (Option.some.inj (isThis.symm.trans isThisAlso))

/-- Values go on to refer to something. -/
theorem Value.Stands.later {value : Value} {before after : Heap}
    (stands : value.Stands dialect before) (ext : before.Extends dialect after) :
    value.Stands dialect after := by
  match value, stands with
  | .callable (.native _), present => exact Nat.lt_of_lt_of_le present ext.natives_size
  | .callable (.function _), ⟨_, found, isFunction⟩ =>
    exact ⟨_, ext.functions found, isFunction⟩
  | .callable (.method _), ⟨present, bound⟩ =>
    refine ⟨present.later ext, ?_⟩
    by_cases hasThis : dialect.has (.binding "this")
    · exact .inl hasThis
    · obtain ⟨receiver, isThere, isBound⟩ := bound.resolve_left hasThis
      exact .inr ⟨receiver, Nat.lt_of_lt_of_le isThere ext.instances_size,
        isBound.later ext hasThis⟩
  | .callable (.constructor _), present => exact Nat.lt_of_lt_of_le present ext.classes_size
  | .object _, present => exact Nat.lt_of_lt_of_le present ext.instances_size
  | .nil, _ | .boolean _, _ | .number _, _ | .string _, _ => trivial

/-! ### Each change -/

namespace Heap

theorem define_extends {heap : Heap} {frame : FrameId} {name : String} (value : Value)
    (free : dialect.has (.binding name) ∨ frame = globalFrame ∨
      heap.frames.read? frame name = none) :
    heap.Extends dialect (heap.define frame name value) :=
  { (Extends.refl heap : heap.Extends dialect heap) with
    frames := Nat.le_of_eq (Frames.size_write _ _ _ _).symm
    enclosing := fun _ => Frames.enclosing?_write _ _ _ _ _
    bound := fun isBound => by
      unfold define
      rw [Frames.read?_write]
      split
      · rfl
      · exact isBound
    word := fun {id word _} inner isWord isBound => by
      unfold define
      rw [Frames.read?_write, if_neg]
      · exact isBound
      · rintro ⟨rfl, rfl, _⟩
        rcases free with isName | isGlobal | unbound
        · exact isWord isName
        · exact inner isGlobal
        · exact nomatch unbound.symm.trans isBound }

theorem addFrame_extends (heap : Heap) (enclosing : FrameId) :
    heap.Extends dialect (heap.addFrame enclosing).2 :=
  { (Extends.refl heap : heap.Extends dialect heap) with
    frames := Nat.le_of_lt (Nat.lt_of_lt_of_eq (Nat.lt_succ_self _) (Frames.size_add _ _).symm)
    enclosing := fun present => by
      unfold addFrame
      rw [Frames.enclosing?_add, if_neg (Nat.ne_of_lt present)]
    bound := fun isBound => (Frames.read?_add _ _ _ _).symm ▸ isBound
    word := fun _ _ isBound => (Frames.read?_add _ _ _ _).trans isBound }

/-- A field that is set is one more of its instance. -/
theorem setField_extends (heap : Heap) (id : InstanceId) (name : String) (value : Value) :
    heap.Extends dialect (heap.setField id name value) :=
  { (Extends.refl heap : heap.Extends dialect heap) with
    instances := fun {other object} found => by
      unfold setField
      dsimp only
      rw [Array.getElem?_modify, found]
      split
      · refine ⟨_, rfl, rfl, fun wanted isSet => ?_⟩
        rw [Bindings.get?_write]
        split
        · rfl
        · exact isSet
      · exact ⟨object, rfl, rfl, fun _ isSet => isSet⟩ }

/-- A change loses nothing. -/
theorem Change.extends {before after : Heap} (change : before.Change dialect after) :
    before.Extends dialect after := by
  cases change with
  | define _ _ free => exact define_extends _ free
  | addFrame _ => exact addFrame_extends _ _
  | addFunction _ _ => exact { Extends.refl before with functions := push_some }
  | addClass _ _ => exact { Extends.refl before with classes := push_some }
  | addInstance _ =>
    exact { Extends.refl before with
      instances := fun found => ⟨_, push_some found, rfl, fun _ isSet => isSet⟩ }
  | setField _ => exact setField_extends _ _ _ _
  | addNative _ => exact { Extends.refl before with natives := push_some }

/-- A heap stands if what is new in it stands. -/
theorem Stands.carry {before after : Heap} (stands : before.Stands dialect)
    (ext : before.Extends dialect after)
    (enclosing : ∀ {id outer}, after.frames.enclosing? id = some outer →
      before.frames.enclosing? id = some outer ∨ outer < id)
    (bound : ∀ {id name value}, after.frames.read? id name = some value →
      before.frames.read? id name = some value ∨ value.Stands dialect after)
    (functions : ∀ {id : FunctionId} {object}, after.functions[id]? = some object →
      before.functions[id]? = some object ∨
        (object.closure < before.frames.size ∧ dialect.has (.function object.declaration)))
    (classes : ∀ {id : ClassId} {object}, after.classes[id]? = some object →
      before.classes[id]? = some object ∨ ((∀ parent ∈ object.superclass, parent < id) ∧
        ∀ name method, object.methods.get? name = some method → before.IsMethod method))
    (instances : ∀ {id : InstanceId} {object}, after.instances[id]? = some object →
      object.classId < before.classes.size ∧
        ∀ name value, object.fields.get? name = some value → value.Stands dialect before) :
    after.Stands dialect where
  outermost := Nat.lt_of_lt_of_le stands.outermost ext.frames
  enclosing enclosed := (enclosing enclosed).elim stands.enclosing id
  bound isBound := (bound isBound).elim (fun wasBound => (stands.bound wasBound).later ext) id
  closure found := by
    refine Nat.lt_of_lt_of_le ?_ ext.frames
    exact (functions found).elim stands.closure And.left
  declaration found := (functions found).elim stands.declaration And.right
  superclass found isParent :=
    (classes found).elim (fun wasThere => stands.superclass wasThere isParent)
      fun added => added.1 _ isParent
  method found own := by
    refine IsMethod.later ?_ ext
    exact (classes found).elim (fun wasThere => stands.method wasThere own)
      fun added => added.2 _ _ own
  classOf found := Nat.lt_of_lt_of_le (instances found).1 ext.classes_size
  field found isSet := ((instances found).2 _ _ isSet).later ext

/-- A change leaves the heap standing. -/
theorem Change.stands {before after : Heap} (change : before.Change dialect after)
    (stands : before.Stands dialect) : after.Stands dialect := by
  have ext := change.extends
  have instances {id : InstanceId} {object : InstanceObject}
      (found : before.instances[id]? = some object) :
      object.classId < before.classes.size ∧
        ∀ name value, object.fields.get? name = some value → value.Stands dialect before :=
    ⟨stands.classOf found, fun _ _ isSet => stands.field found isSet⟩
  cases change with
  | define present isThere free =>
    refine stands.carry ext ?_ ?_ .inl .inl instances
    · exact fun enclosed => .inl ((Frames.enclosing?_write _ _ _ _ _).symm.trans enclosed)
    · intro id name value isBound
      rcases Frames.read?_write_cases isBound with ⟨_, _, rfl⟩ | wasBound
      · exact .inr (isThere.later ext)
      · exact .inl wasBound
  | @addFrame enclosing present =>
    refine stands.carry ext ?_ ?_ .inl .inl instances
    · intro id outer enclosed
      change (before.frames.add (some enclosing)).enclosing? id = some outer at enclosed
      rw [Frames.enclosing?_add] at enclosed
      split at enclosed
      · rename_i added
        cases enclosed
        exact .inr (added ▸ present)
      · exact .inl enclosed
    · exact fun isBound => .inl ((Frames.read?_add _ _ _ _).symm.trans isBound)
  | addFunction present isTree =>
    refine stands.carry ext .inl .inl ?_ .inl instances
    intro id object found
    rcases push_cases found with ⟨_, rfl⟩ | wasThere
    · exact .inr ⟨present, isTree⟩
    · exact .inl wasThere
  | addClass older methods =>
    refine stands.carry ext .inl .inl .inl ?_ instances
    intro id object found
    rcases push_cases found with ⟨rfl, rfl⟩ | wasThere
    · exact .inr ⟨older, methods⟩
    · exact .inl wasThere
  | addInstance present =>
    refine stands.carry ext .inl .inl .inl .inl ?_
    intro id object found
    rcases push_cases found with ⟨_, rfl⟩ | wasThere
    · exact ⟨present, fun _ _ isSet => nomatch isSet⟩
    · exact instances wasThere
  | @setField place name value isThere =>
    refine stands.carry ext .inl .inl .inl .inl ?_
    intro id object found
    obtain ⟨earlier, wasThere, rfl | rfl⟩ := setField_cases found
    · exact instances wasThere
    · refine ⟨(instances wasThere).1, fun other set isSet => ?_⟩
      rw [Bindings.get?_write] at isSet
      split at isSet
      · cases isSet
        exact isThere
      · exact (instances wasThere).2 other set isSet
  | addNative native => exact stands.carry ext .inl .inl .inl .inl instances

end Heap

end Lox
