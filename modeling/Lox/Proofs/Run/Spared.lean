/-
Expressions without effects call, assign and set nothing, but for what the bodies of their functions
may do later. What such an expression adds to a heap are functions that it closes and methods that
it binds, and each stands where nothing was before. A heap that only such things were added to is
read as it was, and shows the same of everything that refers to something in it.
-/

import Lox.Proofs.Run.Counterparts
import Lox.Proofs.Run.Proceeds

namespace Lox

/-- Outside the bodies of functions, the expression has no call and gives nothing a value. -/
def Expression.isEffectless : Expression → Bool
  | .literal _ | .read _ _ | .function _ | .this _ _ | .super _ _ _ => true
  | .grouping inner => inner.isEffectless
  | .unary _ _ operand => operand.isEffectless
  | .binary _ _ left right | .logical _ left right => left.isEffectless && right.isEffectless
  | .get object _ => object.isEffectless
  | .assign _ _ _ | .call _ _ _ | .set _ _ _ => false

/-! ### Heaps that are spared -/

/-- All that there was in a heap is in the other one, and is the same there. Only frames and
functions may have been added. -/
structure Heap.Spares (before after : Heap) : Prop where
  frames_size : before.frames.size ≤ after.frames.size
  frame : ∀ {id}, id < before.frames.size → after.frames.frame? id = before.frames.frame? id
  functions : ∀ {id : FunctionId} {object}, before.functions[id]? = some object →
    after.functions[id]? = some object
  classes : after.classes = before.classes
  instances : after.instances = before.instances
  natives : after.natives = before.natives

namespace Heap

variable {heap before middle after : Heap}

namespace Spares

theorem refl (heap : Heap) : heap.Spares heap :=
  ⟨Nat.le_refl _, fun _ => rfl, id, rfl, rfl, rfl⟩

theorem trans (early : before.Spares middle) (late : middle.Spares after) :
    before.Spares after where
  frames_size := Nat.le_trans early.frames_size late.frames_size
  frame present :=
    (late.frame (Nat.lt_of_lt_of_le present early.frames_size)).trans (early.frame present)
  functions found := late.functions (early.functions found)
  classes := late.classes.trans early.classes
  instances := late.instances.trans early.instances
  natives := late.natives.trans early.natives

theorem functions_size (spares : before.Spares after) :
    before.functions.size ≤ after.functions.size :=
  Extends.size_le fun found => ⟨_, spares.functions found⟩

/-! ### What is added -/

theorem addFunction (heap : Heap) (object : FunctionObject) :
    heap.Spares (heap.addFunction object).2 :=
  { refl heap with functions := push_some }

theorem addFrame (heap : Heap) (enclosing : FrameId) :
    heap.Spares (heap.addFrame enclosing).2 :=
  { refl heap with
    frames_size := (Frames.Grows.add _ _).size
    frame := fun present => by
      unfold Heap.addFrame
      rw [Frames.frame?_add, if_neg (Nat.ne_of_lt present)] }

/-- A name may be bound in a frame that was not there. -/
theorem define (spares : before.Spares after) {frame : FrameId} (isNew : before.frames.size ≤ frame)
    (name : String) (value : Value) : before.Spares (after.define frame name value) :=
  { spares with
    frames_size := Nat.le_trans spares.frames_size (Frames.Grows.write _ _ _ _).size
    frame := fun present => by
      unfold Heap.define
      rw [Frames.frame?_write, if_neg (Nat.ne_of_gt (Nat.lt_of_lt_of_le present isNew))]
      exact spares.frame present }

/-- A method is bound in a new frame. -/
theorem bindMethod (heap : Heap) (method : FunctionId) (receiver : InstanceId) :
    heap.Spares (heap.bindMethod method receiver).2 :=
  ((addFrame heap _).define (Nat.le_refl _) _ _).trans (addFunction _ _)

/-! ### What is read -/

theorem read? (spares : before.Spares after) {id : FrameId} (present : id < before.frames.size)
    (name : String) : after.frames.read? id name = before.frames.read? id name := by
  unfold Frames.read?
  rw [spares.frame present]

theorem grows (spares : before.Spares after) : before.frames.Grows after.frames where
  size := spares.frames_size
  enclosing present := by
    unfold Frames.enclosing?
    rw [spares.frame present]

theorem getAt (spares : before.Spares after) {id : FrameId} (chained : before.frames.Chained id)
    (distance : Nat) (name : String) (line : Nat) :
    after.frames.getAt id distance name line = before.frames.getAt id distance name line := by
  unfold Frames.getAt
  rw [chained.ancestor? spares.grows]
  cases isOuter : before.frames.ancestor? id distance with
  | none => rfl
  | some outer => rw [Option.bind_some, Option.bind_some, spares.read? (chained _ _ isOuter)]

theorem getGlobal (spares : before.Spares after) (present : globalFrame < before.frames.size)
    (name : String) (line : Nat) :
    after.frames.get globalFrame name line = before.frames.get globalFrame name line := by
  unfold Frames.get
  rw [Pair.nearest?_globalFrame, Pair.nearest?_globalFrame, spares.read? present]

theorem method? (spares : before.Spares after) (id : ClassId) (name : String) :
    after.method? id name = before.method? id name :=
  method?_congr spares.classes id name

theorem classAt (spares : before.Spares after) (id : ClassId) :
    after.classAt id = before.classAt id := by
  unfold Heap.classAt
  rw [spares.classes]

theorem instanceAt (spares : before.Spares after) (id : InstanceId) :
    after.instanceAt id = before.instanceAt id := by
  unfold Heap.instanceAt
  rw [spares.instances]

theorem function (spares : before.Spares after) {id : FunctionId}
    (present : id < before.functions.size) : after.function id = before.function id := by
  have found := Array.getElem?_eq_getElem present
  rw [function_of_some found, function_of_some (spares.functions found)]

/-- What refers to something that was there is written as before. -/
theorem text {dialect : Dialect} (spares : before.Spares after) {value : Value}
    (stands : value.Stands dialect before) : after.text value = before.text value := by
  match value, stands with
  | .callable (.native id), _ =>
    show "<native fn " ++ (after.natives.getD id default).name ++ ">" = _
    rw [spares.natives]
    rfl
  | .callable (.function id), ⟨_, found, _⟩ =>
    exact congrArg functionText (spares.function (Array.getElem?_eq_some_iff.mp found).1)
  | .callable (.method id), ⟨isMethod, _⟩ =>
    exact congrArg functionText (spares.function isMethod.lt_size)
  | .callable (.constructor id), _ => exact congrArg classText (spares.classAt id)
  | .object id, _ =>
    show classText (after.classAt (after.instanceAt id).classId) ++ " instance" = _
    rw [spares.instanceAt, spares.classAt]
    rfl
  | .boolean value, _ => cases value <;> rfl
  | .nil, _ | .number _, _ | .string _, _ => rfl

end Spares

/-- Every frame on the way outward from one that is there is there. -/
theorem Stands.chained {dialect : Dialect} (stands : heap.Stands dialect) {id : FrameId}
    (present : id < heap.frames.size) : heap.frames.Chained id := fun distance outer isOuter =>
  Nat.lt_of_le_of_lt (Nat.le_trans (Nat.le_add_right outer distance) (stands.ancestor_le isOuter))
    present

end Heap

end Lox
