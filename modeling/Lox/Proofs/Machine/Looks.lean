/-
What a heap shows of its objects: which method a class finds, how many arguments a callable value
takes, and how values are written. Heaps whose functions resemble each other and whose other objects
are the same show the same.
-/

import Lox.Machine.Heap

namespace Lox

/-! ### What is the same -/

/-- The functions look the same from outside. -/
structure FunctionObject.Resembles (object other : FunctionObject) : Prop where
  name : object.declaration.name.map Identifier.name = other.declaration.name.map Identifier.name
  arity : object.declaration.arity = other.declaration.arity
  isInitializer : object.isInitializer = other.isInitializer

namespace Heap

/-- The functions at each place resemble each other, and all other objects are the same. -/
structure Resembles (heap other : Heap) : Prop where
  functions : ∀ id, (heap.function id).Resembles (other.function id)
  classes : other.classes = heap.classes
  instances : other.instances = heap.instances
  natives : other.natives = heap.natives

/-! ### What is shown -/

/-- Where a method is looked for is up to the classes alone. -/
theorem method?_congr {heap other : Heap} (same : other.classes = heap.classes) (id : ClassId)
    (name : String) : other.method? id name = heap.method? id name := by
  have search (steps : Nat) (id : ClassId) :
      other.searchMethod? name steps id = heap.searchMethod? name steps id := by
    induction steps generalizing id with
    | zero => rfl
    | succ steps inductionHypothesis =>
      simp only [searchMethod?, classAt, same, inductionHypothesis]
  exact search (id + 1) id

/-- A function is written by its name alone. -/
theorem functionText_eq_of_name {object other : FunctionObject}
    (same : object.declaration.name.map Identifier.name =
      other.declaration.name.map Identifier.name) :
    functionText other = functionText object := by
  have byName (object : FunctionObject) : functionText object =
      ((object.declaration.name.map Identifier.name).map (fun name => "<fn " ++ name ++ ">")).getD
        "<fn anonymous>" := by
    unfold functionText
    cases object.declaration.name <;> rfl
  rw [byName, byName, same]

namespace Resembles

variable {heap other : Heap}

theorem method? (resembles : heap.Resembles other) (id : ClassId) (name : String) :
    other.method? id name = heap.method? id name :=
  method?_congr resembles.classes id name

theorem classAt (resembles : heap.Resembles other) (id : ClassId) :
    other.classAt id = heap.classAt id := by
  unfold Heap.classAt
  rw [resembles.classes]

theorem instanceAt (resembles : heap.Resembles other) (id : InstanceId) :
    other.instanceAt id = heap.instanceAt id := by
  unfold Heap.instanceAt
  rw [resembles.instances]

theorem native (resembles : heap.Resembles other) (id : NativeId) :
    other.native id = heap.native id := by
  unfold Heap.native
  rw [resembles.natives]

theorem arity (resembles : heap.Resembles other) (callable : Callable) :
    other.arity callable = heap.arity callable := by
  cases callable with
  | native id => exact congrArg NativeFunction.arity (resembles.native id)
  | function id => exact (resembles.functions id).arity.symm
  | method id => exact (resembles.functions id).arity.symm
  | constructor id =>
    unfold Heap.arity
    dsimp only
    rw [resembles.method?]
    cases heap.method? id initializerName with
    | none => rfl
    | some initializer => exact (resembles.functions initializer).arity.symm

theorem callableText (resembles : heap.Resembles other) (callable : Callable) :
    other.callableText callable = heap.callableText callable := by
  cases callable with
  | native id =>
    show "<native fn " ++ (other.native id).name ++ ">" = _
    rw [resembles.native]
    rfl
  | function id => exact functionText_eq_of_name (resembles.functions id).name
  | method id => exact functionText_eq_of_name (resembles.functions id).name
  | constructor id => exact congrArg classText (resembles.classAt id)

/-- Values are written alike. -/
theorem text (resembles : heap.Resembles other) : other.text = heap.text := by
  funext value
  unfold Heap.text
  split
  · rfl
  · rfl
  · rfl
  · rfl
  · rfl
  · exact resembles.callableText _
  · rw [resembles.instanceAt, resembles.classAt]

/-- The host is shown the same. -/
theorem view (resembles : heap.Resembles other) : other.view = heap.view := by
  unfold Heap.view
  congr 1
  · exact resembles.text
  · exact funext resembles.arity
  · exact funext fun id => funext fun name => by rw [resembles.instanceAt]
  · exact funext fun id => congrArg InstanceObject.classId (resembles.instanceAt id)
  · exact funext fun id => congrArg ClassObject.superclass (resembles.classAt id)
  · exact funext fun id => funext (resembles.method? id)

end Resembles

end Heap

end Lox
